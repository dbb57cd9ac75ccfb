import SsP2p.Lib.Runs
import SsP2p.Lib.RecencyList
import SsP2p.Lib.RecencyHistory
import SsP2p.Lib.KeyedList
import SsP2p.Lib.Fallible
import SsP2p.Lib.Plurality
import SsP2p.Lib.Supply
import SsP2p.Lib.UpperBound
import SsP2p.Lib.QuotaScan
import SsP2p.Lib.Agreement
import SsP2p.Lib.BitOrder
import SsP2p.Lib.DeadlineTimer
import SsP2p.Lib.LittleEndian
import SsP2p.Lib.Reader
import SsP2p.Core.Endpoint
import SsP2p.Core.Json
import SsP2p.Core.JsonTree
import SsP2p.Core.FieldRead
import SsP2p.Core.Utils
import SsP2p.Core.HostPlatform
import SsP2p.Core.EndpointText
import SsP2p.Core.EndpointParser
import SsP2p.Core.DualStack
import SsP2p.Core.Message
import SsP2p.Core.Bson
import SsP2p.Core.BsonWriter
import SsP2p.Core.BsonReader
import SsP2p.Core.BsonRoundTrip
import SsP2p.Core.BsonAccepted
import SsP2p.Core.MessageCodec
import SsP2p.Core.Observer
import SsP2p.Core.IoContext
import SsP2p.Core.EncodableParts
import SsP2p.Core.OrderedReads
import SsP2p.Kademlia.NodeId
import SsP2p.Kademlia.KBucket
import SsP2p.Kademlia.KRoutingTable
import SsP2p.Kademlia.LocatedDht
import SsP2p.Kademlia.TableInvariant
import SsP2p.Kademlia.SwapNode
import SsP2p.Kademlia.XorMetric
import SsP2p.Kademlia.Subtrees
import SsP2p.Kademlia.CollectNode
import SsP2p.Kademlia.CollectDistinct
import SsP2p.Kademlia.BucketHistory
import SsP2p.Kademlia.NearestFirst
import SsP2p.Kademlia.BucketIterator
import SsP2p.Kademlia.IteratorCoherence
import SsP2p.Kademlia.DirectRoutingTableController
import SsP2p.Kademlia.KMessage
import SsP2p.Kademlia.KObserver
import SsP2p.Kademlia.RpcManager
import SsP2p.Kademlia.DhtManager
import SsP2p.Kademlia.DhtReads
import SsP2p.Kademlia.Dispatch
import SsP2p.Kademlia.DhtLoop
import SsP2p.Kademlia.SelfId
import SsP2p.Kademlia.CallbackSafety
import SsP2p.Kademlia.RequestOutcome
import SsP2p.Kademlia.FindNodeExchange
import SsP2p.Kademlia.SoundMessages
import SsP2p.Kademlia.MessageFields
import SsP2p.Kademlia.ConnectionMaintainer
import SsP2p.Kademlia.MaintenanceLoop
import SsP2p.Kademlia.DhtGrowth
import SsP2p.Kademlia.FindNodeDelivery
import SsP2p.Kademlia.TableProvenance
import SsP2p.Kademlia.SoundExchange
import SsP2p.Kademlia.RefreshRound
import SsP2p.Net.UdpServer
import SsP2p.Ice.GlobalEpConsensus
import SsP2p.Ice.IceMessage
import SsP2p.Ice.IceObserver
import SsP2p.Ice.SignalingServer
import SsP2p.Ice.StunServer
import SsP2p.Ice.ElectedEndpoint
import SsP2p.Ice.ElectionOutcome
import SsP2p.Ice.IceAgent
import SsP2p.Ice.IceReads
import SsP2p.Ice.IceInert
import SsP2p.Ice.SignalingNetwork
import SsP2p.Ice.SignalingTtl
import SsP2p.Ice.SignalingEcho
import SsP2p.Ice.IceLoop
import SsP2p.Ice.IceGrowth
import SsP2p.Ice.BindingOutcome
import SsP2p.Ice.SrState
import SsP2p.Ice.SyncGet
import SsP2p.Ice.TraversalOnce
import SsP2p.Ice.RequestAbsorbed
import SsP2p.Ice.RelayChain
import SsP2p.Ice.SoundIceMessages
import SsP2p.Ice.SoundIceExchange
import SsP2p.Ice.EndpointLists
import SsP2p.Net.MessagePool
import SsP2p.Net.PopVariants
import SsP2p.Net.BufferUsage
import SsP2p.Net.Peer
import SsP2p.Net.PeerDelivery
import SsP2p.Net.ReceiveSafety
import SsP2p.Net.MessageHub
import SsP2p.Net.PoolRefresh
import SsP2p.Net.PoolTimer
import SsP2p.Net.MulticastManager
import SsP2p.Net.NodeController
import SsP2p.Net.ReceiveTotality
import SsP2p.Net.NodeLoop
import SsP2p.Net.NodeGrowth
import SsP2p.Net.NodeSoundness
import SsP2p.Net.Cluster
import SsP2p.Net.ClusterSafety
import SsP2p.Net.ClusterProvenance
import SsP2p.Net.ClusterLocation
import SsP2p.Net.NodeInbox
import SsP2p.Net.ClusterDelivery
