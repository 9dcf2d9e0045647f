import Vsomeip.Configuration.ClientPort
import Vsomeip.Configuration.MessageSizes
import Vsomeip.E2E.Crc
import Vsomeip.E2E.CrcBitwise
import Vsomeip.E2E.Profile01
import Vsomeip.E2E.Profile01Bounds
import Vsomeip.E2E.ProfileCustom
import Vsomeip.Endpoints.Buffer
import Vsomeip.Endpoints.ClaimedSize
import Vsomeip.Endpoints.ClientEndpoint
import Vsomeip.Endpoints.ClientQueue
import Vsomeip.Endpoints.Local
import Vsomeip.Endpoints.LocalFraming
import Vsomeip.Endpoints.PacketizerOrder
import Vsomeip.Endpoints.ResponseTarget
import Vsomeip.Endpoints.SendQueue
import Vsomeip.Endpoints.ServerEndpoint
import Vsomeip.Endpoints.Tcp
import Vsomeip.Endpoints.TcpFraming
import Vsomeip.Endpoints.TcpLink
import Vsomeip.Endpoints.TcpResync
import Vsomeip.Endpoints.TcpRoom
import Vsomeip.Endpoints.Udp
import Vsomeip.Endpoints.UdpLink
import Vsomeip.Lib.BitwiseCrc
import Vsomeip.Lib.Channel
import Vsomeip.Lib.Checked
import Vsomeip.Lib.Framing
import Vsomeip.Lib.History
import Vsomeip.Lib.Loop
import Vsomeip.Lib.Packing
import Vsomeip.Lib.Parse
import Vsomeip.Lib.Relay
import Vsomeip.Lib.Runs
import Vsomeip.Lib.TableCrc
import Vsomeip.Message.Byteorder
import Vsomeip.Message.Deserializer
import Vsomeip.Message.DeserializerCursor
import Vsomeip.Message.Header
import Vsomeip.Message.MessageImpl
import Vsomeip.Message.Serializer
import Vsomeip.Routing.AcknowledgedLifetime
import Vsomeip.Routing.CommandCodec
import Vsomeip.Routing.CommandSafety
import Vsomeip.Routing.Convergence
import Vsomeip.Routing.CrcVerdict
import Vsomeip.Routing.DebounceFilter
import Vsomeip.Routing.DebouncedRequests
import Vsomeip.Routing.EarlySubscriptions
import Vsomeip.Routing.EventConsistency
import Vsomeip.Routing.EventRegistry
import Vsomeip.Routing.EventgroupInfo
import Vsomeip.Routing.FirstNotification
import Vsomeip.Routing.ForbiddenOffer
import Vsomeip.Routing.ForeignStop
import Vsomeip.Routing.HeaderReads
import Vsomeip.Routing.InitialEvents
import Vsomeip.Routing.InsertSubscription
import Vsomeip.Routing.LocalCommand
import Vsomeip.Routing.LocalConnection
import Vsomeip.Routing.MessageArrival
import Vsomeip.Routing.MessageForwarding
import Vsomeip.Routing.MessagePolicy
import Vsomeip.Routing.MulticastEndpoints
import Vsomeip.Routing.NotifyOne
import Vsomeip.Routing.OfferBalance
import Vsomeip.Routing.OfferExpiry
import Vsomeip.Routing.OfferService
import Vsomeip.Routing.PendingQueue
import Vsomeip.Routing.PingSupervision
import Vsomeip.Routing.ProtectedMessages
import Vsomeip.Routing.ProxyCount
import Vsomeip.Routing.RemoteClients
import Vsomeip.Routing.RemoteConsistency
import Vsomeip.Routing.RemoteSubscription
import Vsomeip.Routing.RequestTable
import Vsomeip.Routing.RoutingHost
import Vsomeip.Routing.RoutingInfo
import Vsomeip.Routing.RoutingInfoCodec
import Vsomeip.Routing.RoutingView
import Vsomeip.Routing.SelectiveRelease
import Vsomeip.Routing.ServiceRequests
import Vsomeip.Routing.SharedSerializer
import Vsomeip.Routing.SubscriptionAgreement
import Vsomeip.Routing.Takeover
import Vsomeip.Runtime.Availability
import Vsomeip.Runtime.Available
import Vsomeip.Runtime.CachedValues
import Vsomeip.Runtime.Dispatch
import Vsomeip.Runtime.MessageHandlers
import Vsomeip.Runtime.NotificationGate
import Vsomeip.ServiceDiscovery.Bounds
import Vsomeip.ServiceDiscovery.ConfigurationOption
import Vsomeip.ServiceDiscovery.EndpointConnected
import Vsomeip.ServiceDiscovery.Entry
import Vsomeip.ServiceDiscovery.EntryCodec
import Vsomeip.ServiceDiscovery.FindPaging
import Vsomeip.ServiceDiscovery.FindPhase
import Vsomeip.ServiceDiscovery.InsertOption
import Vsomeip.ServiceDiscovery.LengthField
import Vsomeip.ServiceDiscovery.Message
import Vsomeip.ServiceDiscovery.OfferExchange
import Vsomeip.ServiceDiscovery.OfferPaging
import Vsomeip.ServiceDiscovery.OfferPhase
import Vsomeip.ServiceDiscovery.OnMessage
import Vsomeip.ServiceDiscovery.Option
import Vsomeip.ServiceDiscovery.OptionBounds
import Vsomeip.ServiceDiscovery.OptionFraming
import Vsomeip.ServiceDiscovery.OptionRuns
import Vsomeip.ServiceDiscovery.Reboot
import Vsomeip.ServiceDiscovery.RemoteOffers
import Vsomeip.ServiceDiscovery.Resubscribe
import Vsomeip.ServiceDiscovery.RoundTrip
import Vsomeip.ServiceDiscovery.Session
import Vsomeip.ServiceDiscovery.StopSubscribe
import Vsomeip.ServiceDiscovery.StopSubscribeMatch
import Vsomeip.ServiceDiscovery.SubscribeAccount
import Vsomeip.ServiceDiscovery.SubscribeAnswer
import Vsomeip.ServiceDiscovery.Subscription
import Vsomeip.Utility.ClientId
import Vsomeip.Utility.ClientIdComplete
import Vsomeip.Utility.ClientIdRecovery
import Vsomeip.Utility.ClientIdUnique
