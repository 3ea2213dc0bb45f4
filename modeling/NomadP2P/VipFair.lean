import Mathlib.Data.Int.CardIntervalMod
import NomadP2P.VipBalance
import NomadP2P.VipRace

/-!
# Round robin over the backends of a VIP

`try_vip` takes the backend at `next_idx % count` and writes back the next index.
Behind an update with `L` addresses the `k`-th connect uses index `k % c`, with
`c = min(L, 16)`, so over `n` connects every index is used `⌊n/c⌋` or `⌈n/c⌉` times
(`round_robin_fair`).

The index is reduced when it is used, so it is in bounds also for an entry whose
`next_idx` is not below its `count`:

    1 ≤ count ≤ 16 → the backend taken is one of the first `count`     (vipChoose_inBounds)
-/

namespace NomadP2P

open Ebpf Bytes

/-! ## Algorithm -/

/-- The index a connect to `key` uses, if it finds an entry with backends. -/
def indexUsed (vips : KernelMap VipInfo) (key : UInt32) : Option Nat :=
  (vips key).bind fun info =>
    if 0 < info.count then some (info.nextIdx.toNat % info.count.toNat) else none

/-- An entry with at least one backend, and not more than the array holds. -/
structure VipInfo.InBounds (info : VipInfo) : Prop where
  pos : 1 ≤ info.count.toNat
  le : info.count.toNat ≤ 16

/-- If the step is an update, its list is not empty. -/
def BalanceOp.Nonempty : BalanceOp → Prop
  | .connect _ _ => True
  | .update _ backends _ => backends ≠ []

/-! ## Lemmas -/

theorem VipInfo.InBounds.count_pos {info : VipInfo} (h : info.InBounds) : 0 < info.count := by
  rw [UInt8.lt_iff_toNat_lt]
  exact h.pos

/-- The index an entry in bounds is used at is below its count. -/
theorem indexUsed_eq (vips : KernelMap VipInfo) (key : UInt32) (info : VipInfo)
    (hentry : vips key = some info) (h : info.InBounds) :
    indexUsed vips key = some (info.nextIdx.toNat % info.count.toNat) ∧
      info.nextIdx.toNat % info.count.toNat < info.count.toNat := by
  unfold indexUsed
  rw [hentry, Option.bind_some, if_pos h.count_pos]
  exact ⟨rfl, Nat.mod_lt _ h.pos⟩

/-- The backend taken is the one at that index. -/
theorem vipChoose_inBounds (info : VipInfo) (h : info.InBounds) :
    ∃ c, vipChoose info = some (some c) ∧
      info.backends[info.nextIdx.toNat % info.count.toNat]? = some c.backend := by
  have hlt : info.nextIdx.toNat % info.count.toNat < 16 := by
    have := Nat.mod_lt info.nextIdx.toNat h.pos
    have := h.le
    omega
  have hget : info.backends[info.nextIdx.toNat % info.count.toNat]? =
      some info.backends[info.nextIdx.toNat % info.count.toNat] := Vector.getElem?_eq_getElem hlt
  unfold vipChoose
  rw [if_pos h.count_pos]
  simp only [hget, Option.bind_eq_bind, Option.bind_some]
  exact ⟨_, rfl, rfl⟩

theorem out_connect_inBounds (e : ByteOrder) (vips : KernelMap VipInfo) (ctx : Connect) (ok : Bool)
    (info : VipInfo) (hentry : vips ctx.userIp = some info) (h : info.InBounds) :
    ∃ b, info.backends[info.nextIdx.toNat % info.count.toNat]? = some b ∧
      (balanceMachine e).out vips (.connect ctx ok) = some (.sendTo e b) := by
  obtain ⟨c, hc, hget⟩ := vipChoose_inBounds info h
  refine ⟨c.backend, hget, ?_⟩
  show (balanceStep e vips (.connect ctx ok)).2 = _
  unfold balanceStep tryVip
  simp only [hentry, hc, Option.bind_eq_bind, Option.bind_some]

theorem inBounds_vipEntry (ips : List Ipv4Addr) (h : ips ≠ []) : (vipEntry ips).InBounds := by
  have hlen := List.length_pos_iff.mpr h
  refine ⟨?_, ?_⟩
  · rw [count_vipEntry]
    omega
  · rw [count_vipEntry]
    omega

/-- A write-back keeps the count. -/
theorem inBounds_entryWritten (info w : VipInfo) (h : info.InBounds) (hw : entryWritten info = some w) :
    w.InBounds := by
  have hcount : w.count = info.count := congrArg Prod.fst (content_entryWritten info w hw)
  refine ⟨?_, ?_⟩
  · rw [hcount]
    exact h.pos
  · rw [hcount]
    exact h.le

theorem inBounds_next (e : ByteOrder) (vips : KernelMap VipInfo) (op : BalanceOp) (hop : op.Nonempty)
    (key : UInt32) (h : ∃ info, vips key = some info ∧ info.InBounds) :
    ∃ info, (balanceMachine e).next vips op key = some info ∧ info.InBounds := by
  obtain ⟨info, hentry, hin⟩ := h
  cases op with
  | connect ctx ok =>
    show ∃ info, (balanceStep e vips (.connect ctx ok)).1 key = some info ∧ _
    cases htry : tryVip e vips ctx ok with
    | none =>
      simp only [balanceStep, htry]
      exact ⟨info, hentry, hin⟩
    | some r =>
      simp only [balanceStep, htry]
      by_cases hkey : key = ctx.userIp
      · subst hkey
        rw [tryVip_map e vips r.1 ctx r.2 ok htry, hentry, Option.bind_some]
        cases hw : entryWritten info with
        | none => exact ⟨info, hentry, hin⟩
        | some w =>
          rw [Option.elim_some]
          cases ok with
          | false => exact ⟨info, hentry, hin⟩
          | true => exact ⟨w, Function.update_self _ _ _, inBounds_entryWritten info w hin hw⟩
      · rw [tryVip_other e vips r.1 ctx r.2 ok key hkey htry]
        exact ⟨info, hentry, hin⟩
  | update A backends ok =>
    show ∃ info, (if ok then Function.update vips A.toU32 (some (vipEntry backends)) else vips) key =
      some info ∧ _
    cases ok with
    | false => exact ⟨info, hentry, hin⟩
    | true =>
      rw [if_pos rfl]
      by_cases hkey : key = A.toU32
      · exact ⟨_, by rw [hkey, Function.update_self], inBounds_vipEntry backends hop⟩
      · rw [Function.update_of_ne hkey]
        exact ⟨info, hentry, hin⟩

/-! ### Fairness -/

/-- Below `n`, a residue occurs `⌊n/c⌋` or `⌈n/c⌉` times. -/
theorem count_residue (c n i : Nat) (hi : i < c) :
    Nat.count (fun k => k % c = i) n = n / c ∨ Nat.count (fun k => k % c = i) n = (n + c - 1) / c := by
  have hcount : Nat.count (fun k => k % c = i) n = n / c + if i < n % c then 1 else 0 := by
    have h := Nat.count_modEq_card n (show 0 < c by omega) i
    rw [Nat.mod_eq_of_lt hi] at h
    rw [← h, Nat.count_eq_card_filter_range, Nat.count_eq_card_filter_range]
    congr 1
    apply Finset.filter_congr
    intro k _
    show k % c = i ↔ k % c = i % c
    rw [Nat.mod_eq_of_lt hi]
  rw [hcount]
  by_cases hlt : i < n % c
  · right
    have hmod := Nat.mod_lt n (show 0 < c by omega)
    have hdiv : (n % c - 1) / c = 0 := Nat.div_eq_of_lt (by omega)
    have hsum : n + c - 1 = (n % c - 1) + c * (n / c + 1) := by
      have := Nat.mod_add_div n c
      rw [Nat.mul_add, Nat.mul_one]
      omega
    rw [if_pos hlt, hsum, Nat.add_mul_div_left _ _ (by omega), hdiv, Nat.zero_add]
  · left
    rw [if_neg hlt, Nat.add_zero]

theorem min_length_pos {ips : List Ipv4Addr} (h : ips ≠ []) : 0 < min ips.length 16 := by
  have := List.length_pos_iff.mpr h
  omega

theorem connects_take (A : Ipv4Addr) (ports : List UInt16) (k : Nat) :
    (connects A ports).take k = connects A (ports.take k) := by
  unfold connects
  rw [List.map_take]

/-- The first `k` of the connects use up `k` turns. -/
theorem after_connects_take (e : ByteOrder) (A : Ipv4Addr) (ips : List Ipv4Addr)
    (vips : KernelMap VipInfo) (hentry : vips A.toU32 = some (vipEntry ips)) (hne : ips ≠ [])
    (ports : List UInt16) (k : Nat) (hk : k ≤ ports.length) :
    (balanceMachine e).after vips ((connects A ports).take k) A.toU32 =
      some (vipEntryAt ips (k % min ips.length 16)) := by
  have hat := after_connects e A ips vips hentry (min_length_pos hne) (ports.take k)
  rw [List.length_take, Nat.min_eq_left hk] at hat
  rw [connects_take]
  exact hat

/-- Behind `k` connects, the next one uses index `k % c`. -/
theorem indexUsed_connects (e : ByteOrder) (A : Ipv4Addr) (ips : List Ipv4Addr)
    (vips : KernelMap VipInfo) (hentry : vips A.toU32 = some (vipEntry ips)) (hne : ips ≠ [])
    (ports : List UInt16) (k : Nat) (hk : k ≤ ports.length) :
    indexUsed ((balanceMachine e).after vips ((connects A ports).take k)) A.toU32 =
      some (k % min ips.length 16) := by
  have hlt := Nat.mod_lt k (min_length_pos hne)
  have hat := after_connects_take e A ips vips hentry hne ports k hk
  have hin : (vipEntryAt ips (k % min ips.length 16)).InBounds :=
    ⟨(inBounds_vipEntry ips hne).pos, (inBounds_vipEntry ips hne).le⟩
  rw [(indexUsed_eq _ _ _ hat hin).1]
  have hcount : (vipEntryAt ips (k % min ips.length 16)).count.toNat = min ips.length 16 :=
    count_vipEntry ips
  have hidx : (vipEntryAt ips (k % min ips.length 16)).nextIdx.toNat = k % min ips.length 16 := by
    show (UInt8.ofNat _).toNat = _
    rw [UInt8.toNat_ofNat']
    omega
  rw [hcount, hidx, Nat.mod_mod]

/-- The `k`-th connect goes to the address at `k % c`. -/
theorem outputs_connects (e : ByteOrder) (A : Ipv4Addr) (ips : List Ipv4Addr)
    (vips : KernelMap VipInfo) (hentry : vips A.toU32 = some (vipEntry ips)) (hne : ips ≠ [])
    (ports : List UInt16) (k : Nat) (hk : k < ports.length) :
    ∃ ip, ips[k % min ips.length 16]? = some ip ∧
      ((balanceMachine e).outputs vips (connects A ports))[k]? = some (some ⟨ip.toU32, 0⟩) := by
  have hlt := Nat.mod_lt k (min_length_pos hne)
  have hat := after_connects_take e A ips vips hentry hne ports k hk.le
  have hip : ips[k % min ips.length 16]? = some ips[k % min ips.length 16] :=
    List.getElem?_eq_getElem (by omega)
  refine ⟨_, hip, ?_⟩
  have hop : (connects A ports)[k]? = some (.connect ⟨A.toU32, ports[k]⟩ true) := by
    unfold connects
    rw [List.getElem?_map, List.getElem?_eq_getElem hk, Option.map_some]
  rw [Machine.outputs_get, hop, Option.map_some,
    out_connect e _ A ips _ _ _ true hat hlt hip]

/-! ### Main theorem -/

/-- **Round robin.**  Behind an update with a list of addresses, the `k`-th connect goes to
the address at `k % c`, and of `n` connects each of the `c` indices gets `⌊n/c⌋` or
`⌈n/c⌉`.  From any entry with a count of one to sixteen, whatever the updates,
the connects and their inserts: the backend taken is one of the first `count`. -/
theorem round_robin_fair (e : ByteOrder) (vips : KernelMap VipInfo) :
    (∀ (bpf : BpfManager) (A : Ipv4Addr) (ips : List Ipv4Addr), ips ≠ [] →
      (updateBpfVip bpf A ips true).1.vipMap = some vips → ∀ ports : List UInt16,
        (∀ k, k < ports.length → ∃ ip, ips[k % min ips.length 16]? = some ip ∧
          ((balanceMachine e).outputs vips (connects A ports))[k]? = some (some ⟨ip.toU32, 0⟩)) ∧
        ∀ i, i < min ips.length 16 →
          let uses := Nat.count (fun k => indexUsed
            ((balanceMachine e).after vips ((connects A ports).take k)) A.toU32 = some i) ports.length
          uses = ports.length / min ips.length 16 ∨
            uses = (ports.length + min ips.length 16 - 1) / min ips.length 16) ∧
    ∀ (key : UInt32) (info : VipInfo), vips key = some info → info.InBounds →
      ∀ ops : List BalanceOp, (∀ op ∈ ops, op.Nonempty) → ∀ (port : UInt16) (ok : Bool),
        ∃ now i b, (balanceMachine e).after vips ops key = some now ∧
          indexUsed ((balanceMachine e).after vips ops) key = some i ∧ i < now.count.toNat ∧ i < 16 ∧
          now.backends[i]? = some b ∧
          (balanceMachine e).out ((balanceMachine e).after vips ops) (.connect ⟨key, port⟩ ok) =
            some (.sendTo e b) := by
  refine ⟨?_, ?_⟩
  · intro bpf A ips hne hwrite ports
    have hentry := entry_of_update bpf A ips vips hwrite
    refine ⟨outputs_connects e A ips vips hentry hne ports, ?_⟩
    intro i hi
    have hcount : Nat.count (fun k => indexUsed
          ((balanceMachine e).after vips ((connects A ports).take k)) A.toU32 = some i) ports.length =
        Nat.count (fun k => k % min ips.length 16 = i) ports.length := by
      rw [Nat.count_eq_card_filter_range, Nat.count_eq_card_filter_range]
      congr 1
      apply Finset.filter_congr
      intro k hk
      have hk' := Finset.mem_range.mp hk
      rw [indexUsed_connects e A ips vips hentry hne ports k (by omega), Option.some.injEq]
    show Nat.count _ _ = _ ∨ Nat.count _ _ = _
    rw [hcount]
    exact count_residue (min ips.length 16) ports.length i hi
  · intro key info hentry hin ops hops port ok
    obtain ⟨now, hnow, hin'⟩ := (balanceMachine e).inv_after
      (fun vips => ∃ info, vips key = some info ∧ info.InBounds) ops
      (fun s op hop h => inBounds_next e s op (hops op hop) key h) vips ⟨info, hentry, hin⟩
    obtain ⟨hidx, hlt⟩ := indexUsed_eq _ key now hnow hin'
    obtain ⟨b, hb, hout⟩ := out_connect_inBounds e _ ⟨key, port⟩ ok now hnow hin'
    have hle := hin'.le
    exact ⟨now, _, b, hnow, hidx, hlt, by omega, hb, hout⟩

/-- `VIP_MAP` with one VIP of two backends. -/
def twoBackendVips : KernelMap VipInfo :=
  Function.update (fun _ => none) (⟨10, 96, 0, 10⟩ : Ipv4Addr).toU32
    (some (vipEntry [⟨10, 0, 0, 1⟩, ⟨10, 0, 0, 2⟩]))

/-- Of three connects the third is back at the first backend, and an update with one
backend in between brings no index out of bounds. -/
theorem round_robin_three :
    ((balanceMachine .little).outputs twoBackendVips
      (connects ⟨10, 96, 0, 10⟩ [80, 80, 80]))[2]? = some (some ⟨0x0A000001, 0⟩) ∧
    ∃ i, i < 16 ∧ indexUsed ((balanceMachine .little).after twoBackendVips
      [.connect ⟨0x0A60000A, 80⟩ true, .update ⟨10, 96, 0, 10⟩ [⟨10, 0, 0, 3⟩] true]) 0x0A60000A =
        some i := by
  obtain ⟨hfair, hin⟩ := round_robin_fair .little twoBackendVips
  refine ⟨?_, ?_⟩
  · obtain ⟨hout, -⟩ := hfair emptyVips.bpf ⟨10, 96, 0, 10⟩ [⟨10, 0, 0, 1⟩, ⟨10, 0, 0, 2⟩]
      (by decide) (updateBpfVip_some _ _ rfl _ _) [80, 80, 80]
    obtain ⟨ip, hip, hsent⟩ := hout 2 (by decide)
    obtain rfl : ⟨10, 0, 0, 1⟩ = ip := Option.some.inj hip
    exact hsent
  · obtain ⟨now, i, b, -, hidx, -, hlt, -⟩ := hin 0x0A60000A
      (vipEntry [⟨10, 0, 0, 1⟩, ⟨10, 0, 0, 2⟩]) (Function.update_self _ _ _)
      (inBounds_vipEntry _ (by decide))
      [.connect ⟨0x0A60000A, 80⟩ true, .update ⟨10, 96, 0, 10⟩ [⟨10, 0, 0, 3⟩] true]
      (by simp [BalanceOp.Nonempty]) 80 true
    exact ⟨i, hlt, hidx⟩

end NomadP2P
