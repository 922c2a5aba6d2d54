import VDataplane.ChannelFifo
import VDataplane.RingRegistry
import VDataplane.LookupOwnership
import VDataplane.EngineIngress
import VDataplane.MbufInvariant
import VDataplane.RoutingTable
import VDataplane.PacketiserClients
import VDataplane.Forwarding
import VDataplane.ClientIsolation
import VDataplane.FreeBulk
import VDataplane.PortSend
import VDataplane.BulkEnqueue
import VDataplane.BurstReceive
import VDataplane.Egress
import VDataplane.EngineCollect
import VDataplane.Collection
import VDataplane.BufferCapacity
import VDataplane.Interleaving
import VDataplane.TwoPartCalls
import VDataplane.ConcurrentRouting
import VDataplane.ByteWindow
import VDataplane.PacketBytes
import VDataplane.SliceAccess
import VDataplane.FromBytes
import VDataplane.BulkAlloc
import VDataplane.IdReuse
import VDataplane.ClientRemoval
import VDataplane.Custody
import VDataplane.InFlight
import VDataplane.CollectionFairness
import VDataplane.IcmpChecksum
import VDataplane.PortConfigure
import VDataplane.Toeplitz
import VDataplane.FlowHash
import VDataplane.QueuePairing
import VDataplane.WireFormat
import VDataplane.PacketFrame
import VDataplane.TransportHeaders
import VDataplane.HeaderBounds
import VDataplane.ArpResponse
import VDataplane.ArpDetection
import VDataplane.Stdio
import VDataplane.AddressText
import VDataplane.DeviceTokens
import VDataplane.AddressConversions
import VDataplane.Dataplane
import VDataplane.DataplaneExhaustion
import VDataplane.PacketEdits
import VDataplane.PacketiserContents
import VDataplane.Disconnection
import VDataplane.ClientSwitchboard
import VDataplane.Lifetime
