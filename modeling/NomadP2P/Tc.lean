import NomadP2P.Ebpf
import NomadP2P.Ipv4

/-!
# What the traffic-control programs do to IPv4 frames

Firewall.  On a frame with EtherType bytes `08 00` the classifier compares the
number it loads from them with `0x0800`.  A big-endian host loads `0x0800`, a
little-endian one `0x0008`, and then everything passes:

    e = big:     SHOT exactly when a Deny applies            (firewall_ok_iff)
    e = little:  always PIPE; right exactly when none does   (firewall_little_ok_iff)

Egress.  The program looks up, and overwrites, frame bytes 16..19.  Counted from
the Ethernet header these are the IPv4 total length and identification; the
destination address is in bytes 30..33:

    EgressOk ↔ whenever it writes, bytes 16..19 = bytes 30..33 = what it writes
                                                                  (egress_ok_iff)
-/

namespace NomadP2P.Ebpf

open Bytes

/-! ## Loads -/

/-- The key a program gets by loading the four bytes of `addr` as they stand. -/
def rawKey (e : ByteOrder) (addr : Ipv4Addr) : UInt32 := UInt32.ofNat (e.load addr.octets)

theorem length_bytesAt (frame : List UInt8) (off w : Nat) (h : off + w ≤ frame.length) :
    (bytesAt frame off w).length = w := by
  unfold bytesAt
  rw [List.length_take, List.length_drop]
  omega

theorem loadU16_eq (ctx : TcContext) (e : ByteOrder) (off : Nat) (h : off + 2 ≤ ctx.frame.length) :
    ctx.loadU16 e off = .ok (UInt16.ofNat (e.load (bytesAt ctx.frame off 2))) := by
  unfold TcContext.loadU16 TcContext.load
  rw [if_pos h]
  rfl

theorem loadU32_eq (ctx : TcContext) (e : ByteOrder) (off : Nat) (h : off + 4 ≤ ctx.frame.length) :
    ctx.loadU32 e off = .ok (UInt32.ofNat (e.load (bytesAt ctx.frame off 4))) := by
  unfold TcContext.loadU32 TcContext.load
  rw [if_pos h]
  rfl

/-- Equal keys come from equal bytes. -/
theorem key_inj (e : ByteOrder) (bs cs : List UInt8) (hb : bs.length = 4) (hc : cs.length = 4)
    (h : UInt32.ofNat (e.load bs) = UInt32.ofNat (e.load cs)) : bs = cs := by
  have hlb := e.load_lt bs
  have hlc := e.load_lt cs
  rw [hb] at hlb
  rw [hc] at hlc
  apply e.load_inj bs cs (by omega)
  have hn := congrArg UInt32.toNat h
  rw [UInt32.toNat_ofNat', UInt32.toNat_ofNat'] at hn
  omega

/-! ## Firewall -/

/-- The rule for `key` is a Deny, or there is none and the default policy is. -/
def Denies (acl : KernelMap AclRule) (policy : KernelMap UInt8) (key : UInt32) : Prop :=
  (∃ rule, acl key = some rule ∧ rule.action = AclAction.deny.code) ∨
    (acl key = none ∧ policy 0 = some AclAction.deny.code)

/-- The verdict the maps ask for on a frame from `src`. -/
def FirewallOk (e : ByteOrder) (acl : KernelMap AclRule) (policy : KernelMap UInt8)
    (ctx : TcContext) (src : Ipv4Addr) : Prop :=
  (Denies acl policy (rawKey e src) → tcIngressFirewall e acl policy ctx = tcActShot) ∧
    (¬ Denies acl policy (rawKey e src) → tcIngressFirewall e acl policy ctx = tcActPipe)

/-- A frame that does not look like IPv4 to the target passes. -/
theorem firewall_of_other (e : ByteOrder) (acl : KernelMap AclRule) (policy : KernelMap UInt8)
    (ctx : TcContext) (hlen : 42 ≤ ctx.frame.length)
    (hproto : UInt16.ofNat (e.load (bytesAt ctx.frame 12 2)) ≠ 0x0800) :
    tcIngressFirewall e acl policy ctx = tcActPipe := by
  have h : tryFirewall e acl policy ctx = .ok tcActPipe := by
    unfold tryFirewall
    rw [loadU16_eq ctx e 12 (by omega)]
    exact if_pos hproto
  unfold tcIngressFirewall
  rw [h]

/-- On a frame it takes for IPv4, the program follows the maps. -/
theorem firewall_of_ipv4 (e : ByteOrder) (acl : KernelMap AclRule) (policy : KernelMap UInt8)
    (ctx : TcContext) (src : Ipv4Addr) (hlen : 42 ≤ ctx.frame.length)
    (hproto : UInt16.ofNat (e.load (bytesAt ctx.frame 12 2)) = 0x0800)
    (hsrc : bytesAt ctx.frame 26 4 = src.octets) : FirewallOk e acl policy ctx src := by
  have hlen' : ¬ ctx.len < 42 := by
    show ¬ ctx.frame.length < 42
    omega
  unfold FirewallOk tcIngressFirewall tryFirewall Denies
  rw [loadU16_eq ctx e 12 (by omega), loadU32_eq ctx e 26 (by omega),
    loadU16_eq ctx e 23 (by omega), hsrc]
  simp only [hproto, bind, Except.bind, ne_eq, not_true_eq_false, if_false, hlen']
  rw [show UInt32.ofNat (e.load src.octets) = rawKey e src from rfl]
  cases hrule : acl (rawKey e src) with
  | some rule =>
    by_cases hact : rule.action = 2
    · simp [hact, AclAction.code]
    · simp [hact, AclAction.code]
  | none =>
    cases hpol : policy 0 with
    | none => simp
    | some p =>
      by_cases hp : p = 2
      · simp [hp, AclAction.code]
      · simp [hp, AclAction.code]

theorem pipe_ne_shot : tcActPipe ≠ tcActShot := by decide

/-- On frames with EtherType bytes `08 00`, the verdict is right on a big-endian target,
and elsewhere only where nothing is denied. -/
theorem firewall_ok_iff (e : ByteOrder) (acl : KernelMap AclRule) (policy : KernelMap UInt8)
    (ctx : TcContext) (src : Ipv4Addr) (hlen : 42 ≤ ctx.frame.length)
    (htype : bytesAt ctx.frame 12 2 = [0x08, 0x00])
    (hsrc : bytesAt ctx.frame 26 4 = src.octets) :
    FirewallOk e acl policy ctx src ↔ e = .big ∨ ¬ Denies acl policy (rawKey e src) := by
  cases e with
  | big =>
    have hproto : UInt16.ofNat (ByteOrder.big.load (bytesAt ctx.frame 12 2)) = 0x0800 := by
      rw [htype]; decide
    simp [firewall_of_ipv4 .big acl policy ctx src hlen hproto hsrc]
  | little =>
    have hproto : UInt16.ofNat (ByteOrder.little.load (bytesAt ctx.frame 12 2)) ≠ 0x0800 := by
      rw [htype]; decide
    have hpass := firewall_of_other .little acl policy ctx hlen hproto
    unfold FirewallOk
    rw [hpass]
    constructor
    · rintro ⟨hdeny, _⟩
      right
      intro h
      exact pipe_ne_shot (hdeny h)
    · rintro (h | h)
      · cases h
      · exact ⟨fun hd => absurd hd h, fun _ => rfl⟩

/-- **Verdict of the shipped firewall.**  On IPv4 frames of at least 42 bytes, the
little-endian program returns the verdict the maps ask for exactly when they ask
for `TC_ACT_PIPE`: no Deny is ever enforced. -/
theorem firewall_little_ok_iff (acl : KernelMap AclRule) (policy : KernelMap UInt8)
    (ctx : TcContext) (src : Ipv4Addr) (hlen : 42 ≤ ctx.frame.length)
    (htype : bytesAt ctx.frame 12 2 = [0x08, 0x00])
    (hsrc : bytesAt ctx.frame 26 4 = src.octets) :
    FirewallOk .little acl policy ctx src ↔ ¬ Denies acl policy (rawKey .little src) := by
  rw [firewall_ok_iff .little acl policy ctx src hlen htype hsrc]
  simp

/-- An IPv4/UDP frame from 10.0.0.9 to 10.0.0.5, with the EtherType bytes as given. -/
def udpFrame (type : List UInt8) : List UInt8 :=
  [0x02, 0, 0, 0, 0, 0x05, 0x02, 0, 0, 0, 0, 0x09] ++ type ++
    [0x45, 0, 0, 28, 0x12, 0x34, 0, 0, 64, 17, 0x54, 0x96, 10, 0, 0, 9, 10, 0, 0, 5] ++
    [0x30, 0x39, 0, 53, 0, 8, 0, 0]

def udpContext (type : List UInt8) : TcContext := ⟨udpFrame type, (udpFrame type).length, le_refl _⟩

/-- An `ACL_MAP` with one rule, for 10.0.0.9. -/
def oneRule (action : AclAction) : KernelMap AclRule := fun key =>
  if key = rawKey .little ⟨10, 0, 0, 9⟩ then
    some ⟨rawKey .little ⟨10, 0, 0, 9⟩, 0, 0, action.code⟩
  else none

/-- A frame that a rule allows passes. -/
theorem firewall_allows : FirewallOk .little (oneRule .allow) (fun _ => none)
    (udpContext [0x08, 0x00]) ⟨10, 0, 0, 9⟩ := by
  apply (firewall_little_ok_iff (oneRule .allow) (fun _ => none) (udpContext [0x08, 0x00])
    ⟨10, 0, 0, 9⟩ (by decide) (by decide) (by decide)).mpr
  rintro (⟨rule, hr, ha⟩ | ⟨_, hp⟩)
  · have hr' : oneRule .allow (rawKey .little ⟨10, 0, 0, 9⟩) =
        some ⟨rawKey .little ⟨10, 0, 0, 9⟩, 0, 0, AclAction.allow.code⟩ := rfl
    rw [hr', Option.some.injEq] at hr
    rw [← hr] at ha
    exact absurd ha (by decide)
  · cases hp

/-- A frame from an address with a Deny rule passes. -/
theorem firewall_passes_denied :
    42 ≤ (udpFrame [0x08, 0x00]).length ∧ bytesAt (udpFrame [0x08, 0x00]) 12 2 = [0x08, 0x00] ∧
    bytesAt (udpFrame [0x08, 0x00]) 26 4 = (⟨10, 0, 0, 9⟩ : Ipv4Addr).octets ∧
    Denies (oneRule .deny) (fun _ => none) (rawKey .little ⟨10, 0, 0, 9⟩) ∧
    tcIngressFirewall .little (oneRule .deny) (fun _ => none) (udpContext [0x08, 0x00]) =
      tcActPipe := by
  refine ⟨by decide, by decide, by decide, Or.inl ⟨_, rfl, rfl⟩, by decide⟩

/-! ## Egress -/

/-- Every test of the egress program on the way to the write passes, with device
`ifindex` and peer `ep`. -/
structure Rewrites (e : ByteOrder) (env : EgressEnv) (ctx : TcContext) (ifindex : UInt32)
    (ep : PeerEndpoint) : Prop where
  proto : UInt16.ofNat (e.load (bytesAt ctx.frame 12 2)) = 0x0800
  linear : 42 ≤ ctx.linear
  geneve : env.geneveIfindex 0 = some ifindex
  up : ifindex ≠ 0
  peer : env.nodeDynamic (UInt32.ofNat (e.load (bytesAt ctx.frame 16 4))) = some ep

/-- Whenever the program writes to the frame, the key it looked up is made of the
destination bytes, and only these and the header checksum may have changed. -/
def EgressOk (e : ByteOrder) (env : EgressEnv) (ctx : TcContext) : Prop :=
  (egressP2pMesh e env ctx).wrote = true →
    (egressP2pMesh e env ctx).lookedUp = some (UInt32.ofNat (e.load (bytesAt ctx.frame 30 4))) ∧
    (egressP2pMesh e env ctx).frame.length = ctx.frame.length ∧
    ∀ i, (egressP2pMesh e env ctx).frame[i]? ≠ ctx.frame[i]? →
      30 ≤ i ∧ i ≤ 33 ∨ 24 ≤ i ∧ i ≤ 25

/-- What the program does when all its tests pass. -/
theorem egress_of_rewrites (e : ByteOrder) (env : EgressEnv) (ctx : TcContext) (ifindex : UInt32)
    (ep : PeerEndpoint) (h : Rewrites e env ctx ifindex ep) :
    egressP2pMesh e env ctx =
      { verdict := if 0 ≤ env.redirect ifindex then env.redirect ifindex else tcActPipe
        frame := overwrite ctx.frame 16 (e.store 4 ep.publicIp.toNat)
        lookedUp := some (UInt32.ofNat (e.load (bytesAt ctx.frame 16 4))), wrote := true } := by
  obtain ⟨hproto, hlin, hgen, hup, hpeer⟩ := h
  have hlen : 42 ≤ ctx.frame.length := le_trans hlin ctx.linear_le
  unfold egressP2pMesh tryEgress
  rw [loadU16_eq ctx e 12 (by omega), loadU32_eq ctx e 16 (by omega)]
  simp only [bind, Except.bind, hproto, ne_eq, not_true_eq_false, if_false, hgen, hup, hpeer,
    TcContext.len, show ¬ ctx.frame.length < 42 by omega, show ¬ ctx.linear < 42 by omega]

/-- Otherwise it leaves the frame alone, and at most reports the key it looked up. -/
theorem egress_cases (e : ByteOrder) (env : EgressEnv) (ctx : TcContext) :
    (∃ ifindex ep, Rewrites e env ctx ifindex ep) ∨
      (egressP2pMesh e env ctx).wrote = false ∧ (egressP2pMesh e env ctx).frame = ctx.frame ∧
      (∀ k, (egressP2pMesh e env ctx).lookedUp = some k →
        UInt32.ofNat (e.load (bytesAt ctx.frame 16 4)) = k) ∧
      (∀ k, (egressP2pMesh e env ctx).miss = some k →
        UInt32.ofNat (e.load (bytesAt ctx.frame 16 4)) = k) := by
  unfold egressP2pMesh tryEgress
  by_cases hshort : ctx.frame.length < 14
  · right
    simp [TcContext.loadU16, TcContext.load, show ¬ 12 + 2 ≤ ctx.frame.length by omega, bind,
      Except.bind, Except.map]
  rw [loadU16_eq ctx e 12 (by omega)]
  by_cases hproto : UInt16.ofNat (e.load (bytesAt ctx.frame 12 2)) = 0x0800
  swap
  · right; simp [hproto, bind, Except.bind]
  by_cases hlen : ctx.frame.length < 42
  · right; simp [hproto, hlen, TcContext.len, bind, Except.bind]
  rw [loadU32_eq ctx e 16 (by omega)]
  simp only [bind, Except.bind, hproto, ne_eq, not_true_eq_false, if_false, TcContext.len, hlen]
  cases hgen : env.geneveIfindex 0 with
  | none => right; simp
  | some ifindex =>
    by_cases hup : ifindex = 0
    · right; simp [hup]
    cases hpeer : env.nodeDynamic (UInt32.ofNat (e.load (bytesAt ctx.frame 16 4))) with
    | none =>
      right
      cases hres : env.reserve <;> simp [hup]
    | some ep =>
      by_cases hlin : ctx.linear < 42
      · right; simp [hup, hlin]
      left
      exact ⟨ifindex, ep, hproto, by omega, hgen, hup, hpeer⟩

/-- The program never changes the length of the frame, nor a byte outside 16..19. -/
theorem egress_frame (e : ByteOrder) (env : EgressEnv) (ctx : TcContext) :
    (egressP2pMesh e env ctx).frame.length = ctx.frame.length ∧
      ∀ i, i < 16 ∨ 20 ≤ i → (egressP2pMesh e env ctx).frame[i]? = ctx.frame[i]? := by
  rcases egress_cases e env ctx with ⟨ifindex, ep, hrw⟩ | ⟨_, hsame, _⟩
  · have hlen : 42 ≤ ctx.frame.length := le_trans hrw.linear ctx.linear_le
    have hstore := e.length_store 4 ep.publicIp.toNat
    rw [egress_of_rewrites e env ctx ifindex ep hrw]
    refine ⟨length_overwrite _ _ _ (by omega), fun i hi => ?_⟩
    exact overwrite_get_of_outside _ _ _ i (by omega) (by omega)
  · rw [hsame]
    exact ⟨rfl, fun _ _ => rfl⟩

/-- The only key the program looks up or reports is the one loaded from bytes 16..19. -/
theorem egress_key (e : ByteOrder) (env : EgressEnv) (ctx : TcContext) (k : UInt32)
    (h : (egressP2pMesh e env ctx).lookedUp = some k ∨ (egressP2pMesh e env ctx).miss = some k) :
    k = UInt32.ofNat (e.load (bytesAt ctx.frame 16 4)) := by
  rcases egress_cases e env ctx with ⟨ifindex, ep, hrw⟩ | ⟨_, _, hlook, hmiss⟩
  · rw [egress_of_rewrites e env ctx ifindex ep hrw] at h
    rcases h with h | h
    · exact (Option.some.inj h).symm
    · cases h
  · rcases h with h | h
    · exact (hlook k h).symm
    · exact (hmiss k h).symm

/-- A right rewrite writes back the bytes it finds, and these are a copy of the
destination. -/
theorem idle_of_egress_ok (e : ByteOrder) (env : EgressEnv) (ctx : TcContext) (ifindex : UInt32)
    (ep : PeerEndpoint) (hrw : Rewrites e env ctx ifindex ep) (hok : EgressOk e env ctx) :
    bytesAt ctx.frame 16 4 = bytesAt ctx.frame 30 4 ∧
      e.store 4 ep.publicIp.toNat = bytesAt ctx.frame 16 4 := by
  have hlen : 42 ≤ ctx.frame.length := le_trans hrw.linear ctx.linear_le
  have hstore := e.length_store 4 ep.publicIp.toNat
  unfold EgressOk at hok
  rw [egress_of_rewrites e env ctx ifindex ep hrw] at hok
  obtain ⟨hkey, _, hdiff⟩ := hok rfl
  rw [Option.some.injEq] at hkey
  refine ⟨key_inj e _ _ (length_bytesAt _ _ _ (by omega)) (length_bytesAt _ _ _ (by omega)) hkey, ?_⟩
  have hsame : ∀ i, i < (e.store 4 ep.publicIp.toNat).length →
      (overwrite ctx.frame 16 (e.store 4 ep.publicIp.toNat))[16 + i]? = ctx.frame[16 + i]? := by
    intro i hi
    by_contra hne
    rcases hdiff (16 + i) hne with h | h <;> omega
  have heq := eq_of_overwrite_same ctx.frame 16 _ (by omega) hsame
  rwa [hstore] at heq

/-- Writing bytes 16..19 as they are is no change. -/
theorem overwrite_idle (ctx : TcContext) (bs : List UInt8) (hlen : 42 ≤ ctx.frame.length)
    (h : bs = bytesAt ctx.frame 16 4) : overwrite ctx.frame 16 bs = ctx.frame := by
  rw [h]
  exact overwrite_self ctx.frame 16 4 (by omega)

/-- So a frame that really changes is changed in the wrong place. -/
theorem not_egress_ok_of_changed (e : ByteOrder) (env : EgressEnv) (ctx : TcContext)
    (hne : (egressP2pMesh e env ctx).frame ≠ ctx.frame) : ¬ EgressOk e env ctx := by
  intro hok
  rcases egress_cases e env ctx with ⟨ifindex, ep, hrw⟩ | ⟨_, hsame, _⟩
  · have hlen : 42 ≤ ctx.frame.length := le_trans hrw.linear ctx.linear_le
    apply hne
    rw [egress_of_rewrites e env ctx ifindex ep hrw]
    exact overwrite_idle ctx _ hlen (idle_of_egress_ok e env ctx ifindex ep hrw hok).2
  · exact hne hsame

/-- **Egress rewrite.**  The rewrite is right exactly when, on every way to the write, the
bytes at 16..19 are a copy of the destination bytes and the write leaves them alone. -/
theorem egress_ok_iff (e : ByteOrder) (env : EgressEnv) (ctx : TcContext) :
    EgressOk e env ctx ↔
      ∀ ifindex ep, Rewrites e env ctx ifindex ep →
        bytesAt ctx.frame 16 4 = bytesAt ctx.frame 30 4 ∧
        e.store 4 ep.publicIp.toNat = bytesAt ctx.frame 16 4 := by
  constructor
  · intro hok ifindex ep hrw
    exact idle_of_egress_ok e env ctx ifindex ep hrw hok
  · intro hcond hwrote
    rcases egress_cases e env ctx with ⟨ifindex, ep, hrw⟩ | ⟨hnot, _⟩
    · have hlen : 42 ≤ ctx.frame.length := le_trans hrw.linear ctx.linear_le
      obtain ⟨hcopy, hstore⟩ := hcond ifindex ep hrw
      rw [egress_of_rewrites e env ctx ifindex ep hrw]
      simp only [overwrite_idle ctx _ hlen hstore, hcopy, true_and]
      intro i hi
      exact absurd rfl hi
    · rw [hnot] at hwrote
      cases hwrote

/-- A mesh with one peer: packets whose bytes 16..19 are `00 1c 12 34` go to 198.51.100.7. -/
def onePeer (e : ByteOrder) : EgressEnv where
  geneveIfindex := fun key => if key = 0 then some 7 else none
  nodeDynamic := fun key =>
    if key = UInt32.ofNat (e.load [0, 28, 0x12, 0x34]) then
      some ⟨UInt32.ofNat (e.load [198, 51, 100, 7]), 51820, 1⟩
    else none
  reserve := true
  redirect := fun _ => 7

/-- On either byte order some frame gets its total length and identification
overwritten. -/
theorem egress_corrupts_header :
    ¬ EgressOk .big (onePeer .big) (udpContext [0x08, 0x00]) ∧
    bytesAt (egressP2pMesh .big (onePeer .big) (udpContext [0x08, 0x00])).frame 16 4 =
      [198, 51, 100, 7] ∧
    ¬ EgressOk .little (onePeer .little) (udpContext [0x00, 0x08]) ∧
    bytesAt (egressP2pMesh .little (onePeer .little) (udpContext [0x00, 0x08])).frame 16 4 =
      [198, 51, 100, 7] := by
  refine ⟨not_egress_ok_of_changed _ _ _ ?_, ?_, not_egress_ok_of_changed _ _ _ ?_, ?_⟩ <;> decide

end NomadP2P.Ebpf
