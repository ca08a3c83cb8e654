import Netd.Policy.Leftovers
import Netd.Policy.EndToEnd
import Netd.Resolv.PrivateDnsValidation
import Netd.Resolv.DnsTlsTransport
import Netd.Resolv.SocketQueries
import Netd.Resolv.SocketResponses
import Netd.Resolv.DnsTlsDispatcher
import Netd.Server.OnlyDefault
import Netd.Server.Downcasts
import Netd.Resolv.CacheBound
import Netd.Resolv.CacheRoundTrip
import Netd.Resolv.ResQuery
import Netd.Resolv.AnswerRcode
import Netd.Resolv.CacheKeys
import Netd.Resolv.PendingRequests
import Netd.Resolv.ServerRecords
import Netd.Resolv.ThreadState
import Netd.Server.IptablesRestoreController
import Netd.Server.TetherDeletion
import Netd.Server.TetherDnsmasq
import Netd.Server.StrictController
import Netd.Server.FirewallController
import Netd.Server.BandwidthQuotas
import Netd.Bpf.GroupStats
import Netd.Server.TcpSocketMonitor
import Netd.Server.MDnsSdMonitor
import Netd.Resolv.ClientReferences
import Netd.Resolv.DnsEvents
import Netd.Server.ParsePrefix
import Netd.Server.SockDiag
import Netd.Server.XfrmController
import Netd.Utils.BackoffSequence
import Netd.Server.InterfaceNames
import Netd.Resolv.CommonPrefix
import Netd.Utils.InternetAddresses
import Netd.Utils.Netlink
