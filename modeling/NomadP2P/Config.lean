import NomadP2P.Discover
import NomadP2P.Vip

/-!
# The configuration (`AgentConfig` of `agent/src/lib.rs`)

`AgentConfig` with the structs in it and its `Default`, and what of it the discovery of the
public endpoint reads.  The deserializer is derived; where a configuration is read from
a file it is a parameter.
-/

namespace NomadP2P

structure SeedAddr where
  addr : String
deriving DecidableEq

structure PortRule where
  sourceIp : String
  port : UInt16
  protocol : String
  allow : Bool
deriving DecidableEq

structure AgentConfig where
  nodeOverlayIp : String
  nodeSubnet : String
  seeds : List SeedAddr
  tunnelVni : UInt32
  tunnelDevice : String
  psk : String
  stunServers : List String
  listenPort : UInt16
  p2pPort : UInt16
  stunRefreshInterval : UInt64
  lazyDiscovery : Bool
  routeMissMaxPending : UInt64
  ipsecEnabled : Bool
  ipsecSpi : UInt32
  ipsecKey : String
  cniBinPath : String
  mtu : UInt16
  vipEnabled : Bool
  vipWatchList : List String
  vipBackends : List VipBackendCfg
  firewallEnabled : Bool
  defaultPolicy : String
  allowedSources : List String
  allowedPorts : List PortRule
  metricsPort : UInt16
deriving DecidableEq

/-- `AgentConfig::default`. -/
def AgentConfig.default : AgentConfig where
  nodeOverlayIp := "10.244.0.1"
  nodeSubnet := "10.244.1.0/24"
  seeds := []
  tunnelVni := 100
  tunnelDevice := "gnv0"
  psk := ""
  stunServers := ["stun.l.google.com:19302"]
  listenPort := 9527
  p2pPort := 0
  stunRefreshInterval := 120
  lazyDiscovery := true
  routeMissMaxPending := 256
  ipsecEnabled := false
  ipsecSpi := 4096
  ipsecKey := ""
  cniBinPath := "/opt/cni/bin/nomad-p2p-cni"
  mtu := 1420
  vipEnabled := false
  vipWatchList := []
  vipBackends := []
  firewallEnabled := false
  defaultPolicy := "allow"
  allowedSources := []
  allowedPorts := []
  metricsPort := 9090

/-- What `discover` and `AgentState::new` read of it. -/
def AgentConfig.stun (cfg : AgentConfig) : Stun.AgentConfig where
  nodeOverlayIp := cfg.nodeOverlayIp
  stunServers := cfg.stunServers
  listenPort := cfg.listenPort

end NomadP2P
