import NomadP2P.Lib.Machine
import NomadP2P.Lib.Expiry
import NomadP2P.Lib.Bytes
import NomadP2P.Common
import NomadP2P.Ipv4
import NomadP2P.Protocol
import NomadP2P.Replay
import NomadP2P.Stun
import NomadP2P.Bpf
import NomadP2P.Api
import NomadP2P.IpUnique
import NomadP2P.Ebpf
import NomadP2P.Tc
import NomadP2P.Vip
import NomadP2P.Lib.Dedup
import NomadP2P.Route
import NomadP2P.Keys
import NomadP2P.VipRace
import NomadP2P.VipHealth
import NomadP2P.Lib.Text
import NomadP2P.Http
import NomadP2P.Cni
import NomadP2P.CniOps
import NomadP2P.Stores
import NomadP2P.LocalKeys
import NomadP2P.Recovery
import NomadP2P.Codec
import NomadP2P.NatDetect
import NomadP2P.Endpoint
import NomadP2P.VipBalance
import NomadP2P.Ipsec
import NomadP2P.VipFair
import NomadP2P.Pending
import NomadP2P.Discover
import NomadP2P.Allocator
import NomadP2P.StunBounds
import NomadP2P.Links
import NomadP2P.IpsecPair
import NomadP2P.Relay
import NomadP2P.Lib.RwLock
import NomadP2P.CfgLock
import NomadP2P.StunWalk
import NomadP2P.Xfrm
import NomadP2P.HttpFraming
import NomadP2P.RecvLoop
import NomadP2P.Delivery
import NomadP2P.Lib.LockOrder
import NomadP2P.AgentLocks
import NomadP2P.Misses
import NomadP2P.StunServers
import NomadP2P.Config
import NomadP2P.Reload
import NomadP2P.Messages
import NomadP2P.Seeds
import NomadP2P.XfrmRuns
import NomadP2P.CniPlugin
import NomadP2P.CniRefine
import NomadP2P.CniKernel
import NomadP2P.CniNet
import NomadP2P.CniFleet
import NomadP2P.DataPlane
import NomadP2P.DefaultLink
import NomadP2P.Restarts
