import Mathlib.Data.Vector.Defs

/-!
# Shared constants and map values (`common/src/lib.rs`)

What the agent, the CNI plugin and the kernel programs agree on: the frame
sizes of the UDP protocol, and the plain-data values stored in the BPF maps.
Padding bytes are left out; nothing reads them.
-/

namespace NomadP2P

def hmacSize : Nat := 32
def headerSize : Nat := 16
def minMessageSize : Nat := headerSize + hmacSize
def replayWindowSecs : Nat := 300

/-- Value of `NODE_DYNAMIC_MAP`. -/
structure PeerEndpoint where
  publicIp : UInt32
  port : UInt16
  natType : UInt8
deriving DecidableEq, Repr

structure VipBackend where
  ip : UInt32 := 0
  port : UInt16 := 0
  weight : UInt8 := 0
deriving DecidableEq, Repr

/-- Value of `VIP_MAP`: at most sixteen backends, of which `count` are in use. -/
structure VipInfo where
  backends : Vector VipBackend 16 := Vector.replicate 16 {}
  count : UInt8 := 0
  nextIdx : UInt8 := 0
deriving DecidableEq, Repr

/-- Value of `TUNNEL_CFG_MAP`. -/
structure TunnelCfg where
  tunnelId : UInt32
deriving DecidableEq, Repr

/-- Value of `ACL_MAP`. -/
structure AclRule where
  srcIp : UInt32
  dstPort : UInt16
  protocol : UInt8
  action : UInt8
deriving DecidableEq, Repr

inductive NatType
  | unknown
  | easy
  | symmetric
deriving DecidableEq, Repr

inductive AclAction
  | allow
  | deny
deriving DecidableEq, Repr

/-- The discriminants of `#[repr(u8)] enum AclAction`. -/
def AclAction.code : AclAction → UInt8
  | .allow => 1
  | .deny => 2

end NomadP2P
