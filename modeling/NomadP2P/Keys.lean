import NomadP2P.Route
import NomadP2P.Tc
import NomadP2P.Vip

/-!
# One address, two keys

The agent and the kernel programs meet in maps keyed by `u32`.  The agent makes the
key of an address with `u32::from(Ipv4Addr)`, whatever the host: the first octet
is the most significant.  The kernel programs load the four bytes as they stand.
Here every path of either side is collected,

    AgentKey A k      some API request or VIP update about A changes its map at k
    KernelKey e A k   some kernel path for A, ring buffer and discovery included, uses k

and each side turns out to use one key (`agentKey_iff`, `kernelKey_iff`).  On a
little-endian host they are the same for palindromic addresses only:

    KeysAgree .little A ↔ A.a = A.d ∧ A.b = A.c            (keys_agree_iff_palindrome)
-/

namespace NomadP2P

open Bytes Ebpf ContainerManager

/-! ## Paths -/

/-- `CONTAINER_ROUTE_MAP` is different at `k` after the step. -/
def RouteChanged (before after : Agent) (k : UInt32) : Prop :=
  ∃ m m', before.bpf.containerRoute = some m ∧ after.bpf.containerRoute = some m' ∧ m' k ≠ m k

/-- The agent uses key `k` for the address `A`. -/
inductive AgentKey (A : Ipv4Addr) (k : UInt32) : Prop
  | allocate (checks : Bool) (agent : Agent) (id : String) (ok : Bool)
      (answer : (allocate checks agent id ok).2 = some A.toText)
      (changed : RouteChanged agent
        (handleContainerCmd checks agent (.ok (allocateRequest id)) ok).1 k)
  | add (checks : Bool) (agent : Agent) (id iface : String) (ok : Bool)
      (changed : RouteChanged agent
        (handleContainerCmd checks agent (.ok (notifyRequest "add" id A.toText iface)) ok).1 k)
  | del (checks : Bool) (agent : Agent) (id iface : String) (ok : Bool)
      (changed : RouteChanged agent
        (handleContainerCmd checks agent (.ok (notifyRequest "del" id A.toText iface)) ok).1 k)
  | vip (bpf : BpfManager) (backends : List Ipv4Addr) (ok : Bool) (m m' : KernelMap VipInfo)
      (before : bpf.vipMap = some m) (after : (updateBpfVip bpf A backends ok).1.vipMap = some m')
      (changed : m' k ≠ m k)

/-- The kernel side uses key `k` for the address `A`, on a host of byte order `e`: the
egress program for a packet with `A` where it looks for the destination, the agent
for the miss that program reports, and the `connect4` hook for a connection to `A`
(`user_ip` holds the four bytes as they stand). -/
inductive KernelKey (e : ByteOrder) (A : Ipv4Addr) (k : UInt32) : Prop
  | egress (env : EgressEnv) (ctx : TcContext) (dest : bytesAt ctx.frame 16 4 = A.octets)
      (lookup : (egressP2pMesh e env ctx).lookedUp = some k)
  | discovery (env : EgressEnv) (ctx : TcContext) (dest : bytesAt ctx.frame 16 4 = A.octets)
      (item ip : UInt32) (miss : (egressP2pMesh e env ctx).miss = some item)
      (received : decodeMiss e (e.store 4 item.toNat) = some ip) (agent agent' : Agent) (kad : Bool)
      (now : Nat) (ok : UInt32 → Bool)
      (entered : (discoveryIteration (RouteManager.new.submitMiss ip) agent kad now ok).agent =
        some agent')
      (changed : RouteChanged agent agent' k)
  | connect (vips vips' : KernelMap VipInfo) (ctx ctx' : Connect) (ok : Bool)
      (user : ctx.userIp = UInt32.ofNat (e.load A.octets))
      (run : tryVip e vips ctx ok = some (vips', ctx')) (changed : vips' k ≠ vips k)

/-- Both sides use the same key for `A`. -/
def KeysAgree (e : ByteOrder) (A : Ipv4Addr) : Prop :=
  ∀ k k', AgentKey A k → KernelKey e A k' → k = k'

/-! ## The agent's key -/

theorem eq_of_insertIn {V : Type} (m m' : KernelMap V) (key k : UInt32) (v : V) (ok : Bool)
    (h : (BpfManager.insertIn (some m) key v ok).1 = some m') (hk : m' k ≠ m k) : k = key := by
  by_contra hne
  unfold BpfManager.insertIn at h
  cases ok with
  | true =>
    simp only [if_true, Option.some.injEq] at h
    apply hk
    rw [← h, Function.update_of_ne hne]
  | false =>
    simp only [Bool.false_eq_true, if_false, Option.some.injEq] at h
    exact hk (by rw [h])

theorem eq_of_removeContainerRoute (b : BpfManager) (m m' : KernelMap UInt32) (key k : UInt32)
    (ok : Bool) (hb : b.containerRoute = some m)
    (h : (b.removeContainerRoute key ok).1.containerRoute = some m') (hk : m' k ≠ m k) : k = key := by
  by_contra hne
  unfold BpfManager.removeContainerRoute at h
  simp only [hb] at h
  apply hk
  split at h
  · simp only [Option.some.injEq] at h
    rw [← h, Function.update_of_ne hne]
  · rw [hb, Option.some.injEq] at h
    rw [h]

/-- Where the mutex section of `add` and `del` ends up. -/
theorem routeChanged_withRoute {agent agent' : Agent} {A : Ipv4Addr}
    {op : BpfManager → UInt32 → BpfManager × Bool} {k : UInt32}
    (h : RouteChanged agent (withRoute agent' A.toText op) k) (hbpf : agent'.bpf = agent.bpf) :
    RouteChanged agent { agent with bpf := (op agent.bpf A.toU32).1 } k := by
  obtain ⟨m, m', hm, hm', hk⟩ := h
  unfold withRoute at hm'
  simp only [Ipv4Addr.parse_toText] at hm'
  split at hm'
  · rw [hbpf, hm, Option.some.injEq] at hm'
    exact absurd (by rw [hm']) hk
  · rw [hbpf] at hm'
    exact ⟨m, m', hm, hm', hk⟩

theorem eq_of_updateContainerRoute (agent : Agent) (key vni k : UInt32) (ok : Bool)
    (h : RouteChanged agent { agent with bpf := (agent.bpf.updateContainerRoute key vni ok).1 } k) :
    k = key := by
  obtain ⟨m, m', hm, hm', hk⟩ := h
  have hins : (BpfManager.insertIn agent.bpf.containerRoute key vni ok).1 = some m' := hm'
  rw [hm] at hins
  exact eq_of_insertIn m m' key k vni ok hins hk

theorem eq_of_agentKey (A : Ipv4Addr) (k : UInt32) (h : AgentKey A k) : k = A.toU32 := by
  cases h with
  | allocate checks agent id ok answer changed =>
    rw [handle_allocate _ _ _ _ rfl] at changed
    replace changed : RouteChanged agent (allocate checks agent id ok).1 k := changed
    rw [allocate_eq] at answer changed
    split at answer
    · cases answer
    next hpois =>
    rw [if_neg hpois] at changed
    split at answer
    · cases answer
    next hover =>
    rw [if_neg hover] at changed
    have hA : hostAddr (slot (lowByte id)) = A :=
      Ipv4Addr.toText_inj _ _ (Option.some.inj answer)
    rw [← hA]
    exact eq_of_updateContainerRoute agent _ 1 k ok changed
  | add checks agent id iface ok changed =>
    rw [handle_add _ _ _ _ rfl] at changed
    exact eq_of_updateContainerRoute agent _ 1 k ok (routeChanged_withRoute changed rfl)
  | del checks agent id iface ok changed =>
    rw [handle_del _ _ _ _ rfl] at changed
    obtain ⟨m, m', hm, hm', hk⟩ := routeChanged_withRoute changed rfl
    exact eq_of_removeContainerRoute agent.bpf m m' _ k ok hm hm' hk
  | vip bpf backends ok m m' before after changed =>
    have hins : (BpfManager.insertIn bpf.vipMap A.toU32 (vipEntry backends) ok).1 = some m' := after
    rw [before] at hins
    exact eq_of_insertIn m m' _ k _ ok hins changed

/-- The agent has one key for an address, the number `u32::from` makes of it. -/
theorem agentKey_iff (A : Ipv4Addr) (k : UInt32) : AgentKey A k ↔ k = A.toU32 := by
  refine ⟨eq_of_agentKey A k, ?_⟩
  rintro rfl
  -- an `add` on an empty map enters `A`
  refine .add false .loaded "" "" true ?_
  rw [handle_add _ _ _ _ rfl]
  show RouteChanged .loaded (withRoute _ A.toText _) _
  unfold withRoute
  rw [Ipv4Addr.parse_toText]
  refine ⟨fun _ => none, _, rfl, rfl, ?_⟩
  rw [Function.update_self]
  simp

/-! ## The kernel's key -/

/-- The consumer reads back the number the kernel submitted. -/
theorem decodeMiss_store (e : ByteOrder) (item : UInt32) :
    decodeMiss e (e.store 4 item.toNat) = some item := by
  have hlen := e.length_store 4 item.toNat
  have hlt := item.toNat_lt
  unfold decodeMiss
  rw [if_pos (by omega), List.take_of_length_le (by omega), e.load_store,
    Nat.mod_eq_of_lt (by omega), UInt32.ofNat_toNat]

/-- One miss, drained and entered. -/
theorem eq_of_discovery (ip k : UInt32) (agent agent' : Agent) (kad : Bool) (now : Nat)
    (ok : UInt32 → Bool)
    (h : (discoveryIteration (RouteManager.new.submitMiss ip) agent kad now ok).agent = some agent')
    (hk : RouteChanged agent agent' k) : k = ip := by
  have hrun : (discoveryIteration (RouteManager.new.submitMiss ip) agent kad now ok).agent =
      discoverAll ok [ip] agent := rfl
  rw [hrun] at h
  unfold discoverAll at h
  split at h
  · cases h
  · simp only [discoverAll, Option.some.injEq] at h
    obtain ⟨m, m', hm, hm', hne⟩ := hk
    rw [← h] at hm'
    simp only [hm] at hm'
    exact eq_of_insertIn m m' ip k 1 (ok ip) hm' hne

/-- `try_vip` writes only under the address it was called with. -/
theorem eq_of_tryVip (e : ByteOrder) (vips vips' : KernelMap VipInfo) (ctx ctx' : Connect) (ok : Bool)
    (k : UInt32) (h : tryVip e vips ctx ok = some (vips', ctx')) (hk : vips' k ≠ vips k) :
    k = ctx.userIp := by
  by_contra hne
  apply hk
  rw [tryVip_map e vips vips' ctx ctx' ok h]
  cases (vips ctx.userIp).bind entryWritten with
  | none => rfl
  | some w =>
    cases ok with
    | true => exact Function.update_of_ne hne _ _
    | false => rfl

theorem eq_of_kernelKey (e : ByteOrder) (A : Ipv4Addr) (k : UInt32) (h : KernelKey e A k) :
    k = rawKey e A := by
  unfold rawKey
  cases h with
  | egress env ctx dest lookup =>
    rw [← dest]
    exact egress_key e env ctx k (Or.inl lookup)
  | discovery env ctx dest item ip miss received agent agent' kad now ok entered changed =>
    rw [decodeMiss_store, Option.some.injEq] at received
    rw [eq_of_discovery ip k agent agent' kad now ok entered changed, ← received, ← dest]
    exact egress_key e env ctx item (Or.inr miss)
  | connect vips vips' ctx ctx' ok user run changed =>
    rw [← user]
    exact eq_of_tryVip e vips vips' ctx ctx' ok k run changed

/-- A VIP entry that a `connect` advances. -/
def twoBackends : VipInfo := { count := 2 }

/-- The kernel side has one key for an address, its bytes loaded as they stand. -/
theorem kernelKey_iff (e : ByteOrder) (A : Ipv4Addr) (k : UInt32) :
    KernelKey e A k ↔ k = rawKey e A := by
  refine ⟨eq_of_kernelKey e A k, ?_⟩
  rintro rfl
  have hrun : tryVip e (Function.update (fun _ => none) (rawKey e A) (some twoBackends))
      ⟨rawKey e A, 0⟩ true =
      some (Function.update (Function.update (fun _ => none) (rawKey e A) (some twoBackends))
        (rawKey e A) (some { twoBackends with nextIdx := 1 }), .sendTo e {}) := by
    unfold tryVip
    simp only [Function.update_self]
    rfl
  refine .connect _ _ ⟨rawKey e A, 0⟩ _ true rfl hrun ?_
  rw [Function.update_self, Function.update_self]
  decide

/-! ## Agreement -/

/-- Loading the bytes of an address as they stand gives `u32::from` of it on a big-endian
host; on a little-endian one only when the bytes read the same backwards. -/
theorem toU32_eq_rawKey_iff (e : ByteOrder) (A : Ipv4Addr) :
    A.toU32 = rawKey e A ↔ e = .big ∨ A.a = A.d ∧ A.b = A.c := by
  cases e with
  | big =>
    have h : A.toU32 = rawKey .big A := rfl
    simp [h]
  | little =>
    have hrev : A.toU32 = UInt32.ofNat (ByteOrder.little.load A.octets.reverse) := rfl
    constructor
    · intro h
      rw [hrev] at h
      have hbytes : A.octets.reverse = A.octets := key_inj .little _ _ rfl rfl h
      have hcons : [A.d, A.c, A.b, A.a] = [A.a, A.b, A.c, A.d] := hbytes
      simp only [List.cons.injEq, and_true] at hcons
      exact Or.inr ⟨hcons.1.symm, hcons.2.1.symm⟩
    · rintro (h | ⟨had, hbc⟩)
      · cases h
      · have hbytes : A.octets.reverse = A.octets := by
          show [A.d, A.c, A.b, A.a] = [A.a, A.b, A.c, A.d]
          rw [had, hbc]
        rw [hrev, hbytes]
        rfl

/-- **Keys of the agent and of the kernel.**  On a little-endian host they agree exactly
for the addresses that read the same backwards. -/
theorem keys_agree_iff_palindrome (A : Ipv4Addr) :
    KeysAgree .little A ↔ A.a = A.d ∧ A.b = A.c := by
  have hsame : KeysAgree .little A ↔ A.toU32 = rawKey .little A := by
    constructor
    · intro h
      exact h _ _ ((agentKey_iff A _).mpr rfl) ((kernelKey_iff .little A _).mpr rfl)
    · intro h k k' hk hk'
      rw [(agentKey_iff A k).mp hk, (kernelKey_iff .little A k').mp hk', h]
  rw [hsame, toU32_eq_rawKey_iff]
  simp

/-- 10.0.0.5 is `0x0A000005` to the agent and `0x0500000A` to the kernel. -/
theorem keys_differ : AgentKey ⟨10, 0, 0, 5⟩ 0x0A000005 ∧
    KernelKey .little ⟨10, 0, 0, 5⟩ 0x0500000A ∧ ¬ KeysAgree .little ⟨10, 0, 0, 5⟩ := by
  have hagent : AgentKey ⟨10, 0, 0, 5⟩ 0x0A000005 := (agentKey_iff _ _).mpr (by decide)
  have hkernel : KernelKey .little ⟨10, 0, 0, 5⟩ 0x0500000A := (kernelKey_iff _ _ _).mpr (by decide)
  refine ⟨hagent, hkernel, fun h => ?_⟩
  exact absurd (h _ _ hagent hkernel) (by decide)

end NomadP2P
