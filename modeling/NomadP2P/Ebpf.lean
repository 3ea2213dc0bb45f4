import NomadP2P.Bpf
import NomadP2P.Lib.Bytes

/-!
# The kernel programs (`ebpf/src/main.rs`)

The two traffic-control classifiers and the `connect4` hook, over the contents of
the maps they read.  A load from the packet is a raw copy of its bytes into
an integer of the host, so the byte order `e` of the target is an argument (the
shipped object is `bpfel`, little-endian).  Failing loads and lookups are `Except`
errors, as in the `Result` of the source, and every error ends in `TC_ACT_PIPE`.
-/

namespace NomadP2P.Ebpf

open Bytes

/-! ## Packets -/

def tcActPipe : Int := 2
def tcActShot : Int := 3

/-- The four or two bytes at an offset. -/
def bytesAt (frame : List UInt8) (off w : Nat) : List UInt8 := (frame.drop off).take w

/-- `TcContext`: the frame from its Ethernet header on, and how much of it is in the
linear part (`data_end - data`). -/
structure TcContext where
  frame : List UInt8
  linear : Nat
  linear_le : linear ≤ frame.length

namespace TcContext

/-- `bpf_skb_load_bytes`: `-EFAULT` outside the packet. -/
def load (ctx : TcContext) (e : ByteOrder) (off w : Nat) : Except Int Nat :=
  if off + w ≤ ctx.frame.length then .ok (e.load (bytesAt ctx.frame off w)) else .error (-14)

/-- `ctx.load::<u16>(off)`. -/
def loadU16 (ctx : TcContext) (e : ByteOrder) (off : Nat) : Except Int UInt16 :=
  (ctx.load e off 2).map UInt16.ofNat

/-- `ctx.load::<u32>(off)`. -/
def loadU32 (ctx : TcContext) (e : ByteOrder) (off : Nat) : Except Int UInt32 :=
  (ctx.load e off 4).map UInt32.ofNat

/-- `ctx.len()`. -/
def len (ctx : TcContext) : Nat := ctx.frame.length

end TcContext

/-! ## Ingress firewall -/

/-- `try_firewall`, on the contents of `ACL_MAP` and `DEFAULT_POLICY`. -/
def tryFirewall (e : ByteOrder) (acl : KernelMap AclRule) (policy : KernelMap UInt8)
    (ctx : TcContext) : Except Int Int := do
  let proto ← ctx.loadU16 e 12
  if proto ≠ 0x0800 then .ok tcActPipe
  else if ctx.len < 42 then .ok tcActPipe
  else
    let srcIp ← ctx.loadU32 e 26
    let _protocol := (← ctx.loadU16 e 23) >>> 8
    let dflt := (policy 0).getD 1
    match acl srcIp with
    | some rule => if rule.action = 2 then .ok tcActShot else .ok tcActPipe
    | none => if dflt = 2 then .ok tcActShot else .ok tcActPipe

/-- `tc_ingress_firewall`. -/
def tcIngressFirewall (e : ByteOrder) (acl : KernelMap AclRule) (policy : KernelMap UInt8)
    (ctx : TcContext) : Int :=
  match tryFirewall e acl policy ctx with
  | .ok ret => ret
  | .error _ => tcActPipe

/-! ## Egress -/

/-- What the egress program reads besides the packet: the two maps, whether the
ring buffer has room, and the result of `bpf_redirect`. -/
structure EgressEnv where
  geneveIfindex : KernelMap UInt32
  nodeDynamic : KernelMap PeerEndpoint
  reserve : Bool
  redirect : UInt32 → Int

/-- What a run of the egress program did. -/
structure Egress where
  verdict : Int
  frame : List UInt8
  /-- The key looked up in `NODE_DYNAMIC_MAP`. -/
  lookedUp : Option UInt32 := none
  /-- The item submitted to `ROUTE_MISS_RINGBUF`. -/
  miss : Option UInt32 := none
  /-- Whether the frame was written to. -/
  wrote : Bool := false
deriving DecidableEq, Repr

/-- `try_egress`. -/
def tryEgress (e : ByteOrder) (env : EgressEnv) (ctx : TcContext) : Except Int Egress := do
  let proto ← ctx.loadU16 e 12
  if proto ≠ 0x0800 then .ok { verdict := tcActPipe, frame := ctx.frame }
  else if ctx.len < 42 then .ok { verdict := tcActPipe, frame := ctx.frame }
  else
    let destIp ← ctx.loadU32 e 16
    match env.geneveIfindex 0 with
    | none => .error 0
    | some ifindex =>
      if ifindex = 0 then .ok { verdict := tcActPipe, frame := ctx.frame }
      else
        match env.nodeDynamic destIp with
        | none =>
          .ok { verdict := tcActPipe, frame := ctx.frame, lookedUp := some destIp
                miss := if env.reserve then some destIp else none }
        | some ep =>
          if ctx.linear < 42 then
            .ok { verdict := tcActPipe, frame := ctx.frame, lookedUp := some destIp }
          else
            let ret := env.redirect ifindex
            .ok { verdict := if 0 ≤ ret then ret else tcActPipe
                  frame := overwrite ctx.frame 16 (e.store 4 ep.publicIp.toNat)
                  lookedUp := some destIp, wrote := true }

/-- `egress_p2p_mesh`. -/
def egressP2pMesh (e : ByteOrder) (env : EgressEnv) (ctx : TcContext) : Egress :=
  match tryEgress e env ctx with
  | .ok r => r
  | .error _ => { verdict := tcActPipe, frame := ctx.frame }

/-! ## VIP balancing at `connect` -/

/-- The destination of a `connect`, as `CgroupConnect4Context` exposes it. -/
structure Connect where
  userIp : UInt32
  userPort : UInt16
deriving DecidableEq, Repr

/-- What `try_vip` makes of the entry it read: the backend to send the connection to,
and the entry it writes back. -/
structure VipChoice where
  backend : VipBackend
  writeBack : Option VipInfo
deriving DecidableEq, Repr

/-- The body of `try_vip` behind the map read.  `none` is the panic of an index outside
the array; an entry without backends makes no choice. -/
def vipChoose (info : VipInfo) : Option (Option VipChoice) :=
  if 0 < info.count then do
    let idx := info.nextIdx.toNat % info.count.toNat
    let backend ← info.backends[idx]?
    let next := UInt8.ofNat ((idx + 1) % info.count.toNat)
    some (some ⟨backend, if next ≠ info.nextIdx then some { info with nextIdx := next } else none⟩)
  else some none

/-- `u16::from_be`. -/
def fromBe16 (e : ByteOrder) (x : UInt16) : UInt16 :=
  UInt16.ofNat (ByteOrder.big.load (e.store 2 x.toNat))

/-- `set_user_ip` and `set_user_port`. -/
def Connect.sendTo (e : ByteOrder) (b : VipBackend) : Connect := ⟨b.ip, fromBe16 e b.port⟩

/-- The insert at the end of `try_vip`. -/
def vipWriteBack (vips : KernelMap VipInfo) (userIp : UInt32) (c : VipChoice) (ok : Bool) :
    KernelMap VipInfo :=
  match c.writeBack with
  | some info => if ok then Function.update vips userIp (some info) else vips
  | none => vips

/-- `try_vip`, run without interruption: the map and the destination afterwards. -/
def tryVip (e : ByteOrder) (vips : KernelMap VipInfo) (ctx : Connect) (ok : Bool) :
    Option (KernelMap VipInfo × Connect) :=
  match vips ctx.userIp with
  | none => some (vips, ctx)
  | some info => do
    match ← vipChoose info with
    | none => some (vips, ctx)
    | some c => some (vipWriteBack vips ctx.userIp c ok, .sendTo e c.backend)

/-- `vip_load_balance`: whatever `try_vip` does, it returns `Ok(0)`. -/
def vipLoadBalance (e : ByteOrder) (vips : KernelMap VipInfo) (ctx : Connect) (ok : Bool) :
    Option (KernelMap VipInfo × Connect × Int) :=
  (tryVip e vips ctx ok).map fun r => (r.1, r.2, 0)

/-! ## Lemmas -/

/-- The entry `try_vip` inserts when it has read `info`, if it inserts one. -/
def entryWritten (info : VipInfo) : Option VipInfo :=
  match vipChoose info with
  | some (some c) => c.writeBack
  | _ => none

/-- What an uninterrupted `try_vip` does to the map. -/
theorem tryVip_map (e : ByteOrder) (vips vips' : KernelMap VipInfo) (ctx ctx' : Connect) (ok : Bool)
    (h : tryVip e vips ctx ok = some (vips', ctx')) :
    vips' = ((vips ctx.userIp).bind entryWritten).elim vips fun w =>
      if ok then Function.update vips ctx.userIp (some w) else vips := by
  unfold tryVip at h
  cases hinfo : vips ctx.userIp with
  | none =>
    simp only [hinfo, Option.some.injEq, Prod.mk.injEq] at h
    exact h.1.symm
  | some info =>
    simp only [hinfo] at h
    rw [Option.bind_some]
    unfold entryWritten
    cases hc : vipChoose info with
    | none => simp [hc] at h
    | some c =>
      simp only [hc, Option.bind_eq_bind, Option.bind_some] at h
      cases c with
      | none =>
        simp only [Option.some.injEq, Prod.mk.injEq] at h
        exact h.1.symm
      | some c =>
        simp only [Option.some.injEq, Prod.mk.injEq] at h
        rw [← h.1]
        unfold vipWriteBack
        cases hw : c.writeBack with
        | none => simp [hw]
        | some w => simp [hw]

end NomadP2P.Ebpf
