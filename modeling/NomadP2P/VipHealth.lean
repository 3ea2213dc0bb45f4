import NomadP2P.Vip
import NomadP2P.Lib.Machine

/-!
# The backend list after each probe iteration

Runs of `probe_loop` from a configuration: any number of iterations, any probe
outcomes, `VIP_MAP` present and inserts succeeding.  The loop compares each probe with
an `alive` flag that stays `true`, so it writes a VIP in the iterations in which
some probe of it fails, and what it writes is the whole configured list:

    entryAt (after rounds) A = some (vipEntry all)   once a probe has failed     (entryAt_after)

The list is therefore the healthy one exactly when leaving out the failed backends
does not change its first sixteen addresses:

    HealthOk ↔ (… → first sixteen configured = first sixteen healthy)        (health_ok_iff)
-/

namespace NomadP2P

/-! ## Runs -/

/-- Iterations of `probe_loop` with the monitor `m`. -/
def probeMachine (m : VipMonitor) : Machine Agent ProbeRound Unit where
  step agent round := (probeIteration m agent round, ())

/-- The keys of the monitor in some order, and inserts succeed. -/
structure ProbeRound.Valid (m : VipMonitor) (round : ProbeRound) : Prop where
  nodup : round.order.Nodup
  keys : ∀ vip, vip ∈ round.order ↔ m vip ≠ none
  ok : round.ok = true

/-- The mutex is not poisoned and the map is there. -/
structure Agent.Ready (agent : Agent) : Prop where
  unpoisoned : agent.poisoned = false
  present : agent.bpf.vipMap ≠ none

/-- The entry of `VIP_MAP` for `A`. -/
def entryAt (agent : Agent) (A : Ipv4Addr) : Option VipInfo := agent.bpf.vipMap.bind fun m => m A.toU32

/-- The addresses of `backends[0..count]`. -/
def listed (info : VipInfo) : List UInt32 :=
  (info.backends.toList.take info.count.toNat).map (·.ip)

/-- The addresses of the backends whose probe succeeded, in configured order. -/
def healthy (bs : List BackendHealth) (alive : Nat → Bool) : List Ipv4Addr :=
  (bs.zipIdx.filter fun b => alive b.2).map (·.1.ip)

/-- Some probe of the `n` backends of `vip` failed in the iteration. -/
def ProbeRound.Failed (round : ProbeRound) (vip : String) (n : Nat) : Prop :=
  ∃ i, i < n ∧ round.alive vip i = false

/-- At the end of the iteration `last` behind `rounds`: if some last probe of the VIP `A`
succeeded and some backend's liveness has changed since start-up, its list is made of
the backends whose last probe succeeded. -/
def HealthOk (m : VipMonitor) (agent : Agent) (rounds : List ProbeRound) (last : ProbeRound)
    (vip : String) (A : Ipv4Addr) (bs : List BackendHealth) : Prop :=
  (∃ i, i < bs.length ∧ last.alive vip i = true) →
  (∃ r ∈ rounds ++ [last], r.Failed vip bs.length) →
    (entryAt ((probeMachine m).after agent (rounds ++ [last])) A).map listed =
      some (((healthy bs (last.alive vip)).take 16).map Ipv4Addr.toU32)

/-! ## Lemmas -/

theorem listed_vipEntry (ips : List Ipv4Addr) :
    listed (vipEntry ips) = (ips.take 16).map Ipv4Addr.toU32 := by
  unfold listed
  rw [count_vipEntry]
  apply List.ext_getElem?
  intro i
  rw [List.getElem?_map, List.getElem?_map]
  by_cases hi : i < min ips.length 16
  · have h16 : i < 16 := by omega
    rw [List.getElem?_take_of_lt hi, List.getElem?_take_of_lt h16]
    have hip : ips[i]? = some ips[i] := List.getElem?_eq_getElem (by omega)
    rw [Vector.getElem?_toList, backends_vipEntry ips i _ h16 hip, hip]
    rfl
  · rw [List.getElem?_eq_none (by rw [List.length_take]; omega),
      List.getElem?_eq_none (by rw [List.length_take]; omega)]
    rfl

theorem entryAt_eq (agent : Agent) (vips : KernelMap VipInfo) (h : agent.bpf.vipMap = some vips)
    (A : Ipv4Addr) : entryAt agent A = vips A.toU32 := by
  unfold entryAt
  rw [h]
  rfl

/-- An address has one text, so two VIPs that are addresses have two keys. -/
theorem vip_key_ne (vip v : String) (A B : Ipv4Addr) (hA : Ipv4Addr.parse vip = some A)
    (hB : Ipv4Addr.parse v = some B) (hne : v ≠ vip) : A.toU32 ≠ B.toU32 := by
  intro h
  apply hne
  rw [Ipv4Addr.eq_toText_of_parse v B hB, Ipv4Addr.eq_toText_of_parse vip A hA,
    Ipv4Addr.toU32_inj A B h]

/-- A VIP no probe of which fails is left alone. -/
theorem probeVip_idle (m : VipMonitor) (round : ProbeRound) (agent : Agent) (v : String)
    (b : List BackendHealth) (hv : m v = some b) (halive : ∀ x ∈ b, x.alive = true)
    (hok : ¬ round.Failed v b.length) : probeVip m round agent v = agent := by
  have hch : ¬ probeChanged m round v = true := by
    rw [probeChanged_iff m round v b hv halive]
    exact hok
  unfold probeVip
  rw [if_neg hch]

/-- A VIP with a failed probe gets all its backends. -/
theorem probeVip_failed (m : VipMonitor) (round : ProbeRound) (agent : Agent) (v : String)
    (b : List BackendHealth) (hv : m v = some b) (halive : ∀ x ∈ b, x.alive = true)
    (hfail : round.Failed v b.length) (vips : KernelMap VipInfo)
    (hvips : agent.bpf.vipMap = some vips) (hpois : agent.poisoned = false) (hok : round.ok = true)
    (vipIp : Ipv4Addr) (hip : Ipv4Addr.parse v = some vipIp) :
    (probeVip m round agent v).poisoned = false ∧
      (probeVip m round agent v).bpf.vipMap =
        some (Function.update vips vipIp.toU32 (some (vipEntry (b.map (·.ip))))) := by
  have hch : probeChanged m round v = true := (probeChanged_iff m round v b hv halive).mpr hfail
  have hne : (b.map (·.ip)).isEmpty = false := by
    obtain ⟨i, hi, _⟩ := hfail
    cases b with
    | nil => exact absurd hi (Nat.not_lt_zero i)
    | cons x b => rfl
  unfold probeVip
  simp only [if_pos hch, getAlive_eq m v b hv halive, hne, hip, hpois, hok, Bool.false_eq_true,
    if_false, updateBpfVip_some agent.bpf vips hvips, and_self]

section Run

variable {m : VipMonitor} {vip : String} {A : Ipv4Addr} {bs : List BackendHealth}

/-- One VIP of one iteration: only the turn of `vip` itself touches the entry of `A`, and
only if a probe of it failed. -/
theorem probeVip_spec (hm : ∀ v b, m v = some b → ∀ x ∈ b, x.alive = true) (hvip : m vip = some bs)
    (hA : Ipv4Addr.parse vip = some A) (round : ProbeRound) (hok : round.ok = true) (agent : Agent)
    (hr : agent.Ready) (v : String) (hv : m v ≠ none) :
    (probeVip m round agent v).Ready ∧
      (v = vip → round.Failed vip bs.length →
        entryAt (probeVip m round agent v) A = some (vipEntry (bs.map (·.ip)))) ∧
      (v ≠ vip ∨ ¬ round.Failed vip bs.length →
        entryAt (probeVip m round agent v) A = entryAt agent A) := by
  obtain ⟨b, hb⟩ := Option.ne_none_iff_exists'.mp hv
  obtain ⟨vips, hvips⟩ := Option.ne_none_iff_exists'.mp hr.present
  have hsame : v = vip → b = bs := by
    rintro rfl
    rw [hvip, Option.some.injEq] at hb
    exact hb.symm
  by_cases hfail : round.Failed v b.length
  · cases hip : Ipv4Addr.parse v with
    | none =>
      -- not the text of an address, so not `vip`
      have hidle : probeVip m round agent v = agent := by
        unfold probeVip
        simp only [hip]
        split
        · split <;> rfl
        · rfl
      rw [hidle]
      refine ⟨hr, ?_, fun _ => rfl⟩
      rintro rfl
      rw [hA] at hip
      cases hip
    | some vipIp =>
      obtain ⟨hp', hv'⟩ := probeVip_failed m round agent v b hb (hm v b hb) hfail vips hvips
        hr.unpoisoned hok vipIp hip
      refine ⟨⟨hp', by rw [hv']; simp⟩, ?_, ?_⟩
      · rintro rfl _
        rw [hA, Option.some.injEq] at hip
        rw [entryAt_eq _ _ hv' A, ← hip, Function.update_self, hsame rfl]
      · intro hother
        have hne : v ≠ vip := by
          rintro rfl
          rcases hother with h | h
          · exact h rfl
          · rw [← hsame rfl] at h
            exact h hfail
        rw [entryAt_eq _ _ hv' A, Function.update_of_ne (vip_key_ne vip v A vipIp hA hip hne),
          entryAt_eq agent vips hvips A]
  · rw [probeVip_idle m round agent v b hb (hm v b hb) hfail]
    refine ⟨hr, ?_, fun _ => rfl⟩
    rintro rfl hf
    rw [← hsame rfl] at hf
    exact absurd hf hfail

/-- One iteration, over any part of the key order. -/
theorem foldl_probeVip_spec (hm : ∀ v b, m v = some b → ∀ x ∈ b, x.alive = true)
    (hvip : m vip = some bs) (hA : Ipv4Addr.parse vip = some A) (round : ProbeRound)
    (hok : round.ok = true) (order : List String) :
    ∀ agent : Agent, agent.Ready → (∀ v ∈ order, m v ≠ none) →
      (order.foldl (probeVip m round) agent).Ready ∧
      (vip ∈ order → round.Failed vip bs.length →
        entryAt (order.foldl (probeVip m round) agent) A = some (vipEntry (bs.map (·.ip)))) ∧
      (vip ∉ order ∨ ¬ round.Failed vip bs.length →
        entryAt (order.foldl (probeVip m round) agent) A = entryAt agent A) := by
  induction order with
  | nil =>
    intro agent hr _
    refine ⟨hr, fun h => ?_, fun _ => rfl⟩
    cases h
  | cons v order ih =>
    intro agent hr hkeys
    obtain ⟨hr1, hset1, hkeep1⟩ :=
      probeVip_spec hm hvip hA round hok agent hr v (hkeys v List.mem_cons_self)
    obtain ⟨hr2, hset2, hkeep2⟩ := ih _ hr1 fun w hw => hkeys w (List.mem_cons_of_mem _ hw)
    rw [List.foldl_cons]
    refine ⟨hr2, fun hmem hfail => ?_, fun hnot => ?_⟩
    · by_cases hrest : vip ∈ order
      · exact hset2 hrest hfail
      · rw [hkeep2 (Or.inl hrest)]
        rcases List.mem_cons.mp hmem with h | h
        · exact hset1 h.symm hfail
        · exact absurd h hrest
    · rcases hnot with h | h
      · rw [List.mem_cons, not_or] at h
        rw [hkeep2 (Or.inl h.2), hkeep1 (Or.inl fun hv => h.1 hv.symm)]
      · rw [hkeep2 (Or.inr h), hkeep1 (Or.inr h)]

/-- One iteration. -/
theorem probeIteration_spec (hm : ∀ v b, m v = some b → ∀ x ∈ b, x.alive = true)
    (hvip : m vip = some bs) (hA : Ipv4Addr.parse vip = some A) (round : ProbeRound)
    (hround : round.Valid m) (agent : Agent) (hr : agent.Ready) :
    (probeIteration m agent round).Ready ∧
      (round.Failed vip bs.length →
        entryAt (probeIteration m agent round) A = some (vipEntry (bs.map (·.ip)))) ∧
      (¬ round.Failed vip bs.length →
        entryAt (probeIteration m agent round) A = entryAt agent A) := by
  have hmem : vip ∈ round.order := (hround.keys vip).mpr (by rw [hvip]; simp)
  obtain ⟨hready, hset, hkeep⟩ := foldl_probeVip_spec hm hvip hA round hround.ok round.order agent hr
    fun v hv => (hround.keys v).mp hv
  exact ⟨hready, hset hmem, fun h => hkeep (Or.inr h)⟩

/-- A whole run: once a probe of `vip` has failed, its entry is the full list. -/
theorem entryAt_after (hm : ∀ v b, m v = some b → ∀ x ∈ b, x.alive = true) (hvip : m vip = some bs)
    (hA : Ipv4Addr.parse vip = some A) (rounds : List ProbeRound) (agent : Agent)
    (hready : agent.Ready) (hvalid : ∀ r ∈ rounds, r.Valid m)
    (hfailed : ∃ r ∈ rounds, r.Failed vip bs.length) :
    entryAt ((probeMachine m).after agent rounds) A = some (vipEntry (bs.map (·.ip))) := by
  obtain ⟨r, hr, hfail⟩ := hfailed
  obtain ⟨pre, post, rfl⟩ := List.append_of_mem hr
  have hpre : ((probeMachine m).after agent pre).Ready := by
    refine (probeMachine m).inv_after Agent.Ready pre (fun s x hx hs => ?_) agent hready
    exact (probeIteration_spec hm hvip hA x (hvalid x (List.mem_append_left _ hx)) s hs).1
  obtain ⟨hready', hset, _⟩ := probeIteration_spec hm hvip hA r (hvalid r hr) _ hpre
  rw [Machine.after_append, Machine.after_cons]
  -- the full list stays: a later iteration either writes it again or nothing
  refine ((probeMachine m).inv_after
    (fun s => s.Ready ∧ entryAt s A = some (vipEntry (bs.map (·.ip)))) post (fun s x hx hs => ?_)
    _ ⟨hready', hset hfail⟩).2
  have hx' : x.Valid m := hvalid x (List.mem_append_right _ (List.mem_cons_of_mem _ hx))
  obtain ⟨hnext, hwrites, hkeeps⟩ := probeIteration_spec hm hvip hA x hx' s hs.1
  refine ⟨hnext, ?_⟩
  by_cases hf : x.Failed vip bs.length
  · exact hwrites hf
  · exact (hkeeps hf).trans hs.2

end Run

/-- **VIP health.**  At the end of each iteration, the list of a VIP is the healthy one
exactly when, if it has to be, the healthy backends have the same first sixteen addresses as
the configured ones. -/
theorem health_ok_iff (cfg : List VipBackendCfg) (agent : Agent) (hready : agent.Ready)
    (rounds : List ProbeRound) (last : ProbeRound)
    (hvalid : ∀ r ∈ rounds ++ [last], r.Valid (initMonitor cfg)) (vip : String) (A : Ipv4Addr)
    (hA : Ipv4Addr.parse vip = some A) (bs : List BackendHealth)
    (hvip : initMonitor cfg vip = some bs) :
    HealthOk (initMonitor cfg) agent rounds last vip A bs ↔
      ((∃ i, i < bs.length ∧ last.alive vip i = true) →
        (∃ r ∈ rounds ++ [last], r.Failed vip bs.length) →
        (bs.map (·.ip)).take 16 = (healthy bs (last.alive vip)).take 16) := by
  have hentry : (∃ r ∈ rounds ++ [last], r.Failed vip bs.length) →
      (entryAt ((probeMachine (initMonitor cfg)).after agent (rounds ++ [last])) A).map listed =
        some (((bs.map (·.ip)).take 16).map Ipv4Addr.toU32) := by
    intro hfail
    rw [entryAt_after (initMonitor_alive cfg) hvip hA (rounds ++ [last]) agent hready hvalid hfail,
      Option.map_some, listed_vipEntry]
  constructor
  · intro hok hup hfail
    have hlist := hok hup hfail
    rw [hentry hfail, Option.some.injEq] at hlist
    exact List.map_injective_iff.mpr (fun x y h => Ipv4Addr.toU32_inj x y h) hlist
  · intro hcond hup hfail
    rw [hentry hfail, hcond hup hfail]

/-- One VIP with two backends. -/
def twoBackendCfg : List VipBackendCfg := [⟨"10.96.0.10", ["10.0.0.1:80", "10.0.0.2:80"]⟩]

/-- An iteration over it, in which the probe of the second backend ends as given. -/
def secondProbe (up : Bool) : ProbeRound :=
  ⟨["10.96.0.10"], fun _ i => if i = 1 then up else true, true⟩

theorem secondProbe_valid (up : Bool) : (secondProbe up).Valid (initMonitor twoBackendCfg) := by
  refine ⟨List.nodup_singleton _, fun vip => ?_, rfl⟩
  show vip ∈ ["10.96.0.10"] ↔ Function.update VipMonitor.new "10.96.0.10" _ vip ≠ none
  by_cases hv : vip = "10.96.0.10"
  · subst hv
    simp
  · simp [hv, VipMonitor.new]

/-- An agent with an empty `VIP_MAP`. -/
def emptyVips : Agent :=
  { containers _ := none
    bpf := { containerRoute := none, vipMap := some fun _ => none }
    poisoned := false }

/-- The second backend fails and comes back: both are listed, rightly. -/
theorem list_right_after_recovery :
    (entryAt ((probeMachine (initMonitor twoBackendCfg)).after emptyVips
      [secondProbe false, secondProbe true]) ⟨10, 96, 0, 10⟩).map listed =
        some [0x0A000001, 0x0A000002] := by
  have hok := (health_ok_iff twoBackendCfg emptyVips ⟨rfl, by simp [emptyVips]⟩ [secondProbe false]
    (secondProbe true) (by simp [secondProbe_valid]) "10.96.0.10" ⟨10, 96, 0, 10⟩ (by decide)
    [⟨⟨10, 0, 0, 1⟩, 80, true⟩, ⟨⟨10, 0, 0, 2⟩, 80, true⟩] (by decide)).mpr (fun _ _ => by decide)
  refine (hok ⟨0, by decide, rfl⟩ ⟨secondProbe false, by simp, 1, by decide, rfl⟩).trans ?_
  decide

/-- The second backend fails, and both are listed. -/
theorem dead_backend_listed :
    ¬ HealthOk (initMonitor twoBackendCfg) emptyVips [] (secondProbe false) "10.96.0.10"
      ⟨10, 96, 0, 10⟩ [⟨⟨10, 0, 0, 1⟩, 80, true⟩, ⟨⟨10, 0, 0, 2⟩, 80, true⟩] ∧
    initMonitor twoBackendCfg "10.96.0.10" =
      some [⟨⟨10, 0, 0, 1⟩, 80, true⟩, ⟨⟨10, 0, 0, 2⟩, 80, true⟩] ∧
    (secondProbe false).Valid (initMonitor twoBackendCfg) ∧
    (entryAt ((probeMachine (initMonitor twoBackendCfg)).after emptyVips [secondProbe false])
      ⟨10, 96, 0, 10⟩).map listed = some [0x0A000001, 0x0A000002] := by
  have hlist : (entryAt ((probeMachine (initMonitor twoBackendCfg)).after emptyVips
      [secondProbe false]) ⟨10, 96, 0, 10⟩).map listed = some [0x0A000001, 0x0A000002] := by
    decide +kernel
  refine ⟨fun hok => ?_, by decide, secondProbe_valid false, hlist⟩
  have h := hok ⟨0, by decide, rfl⟩ ⟨secondProbe false, by simp, 1, by decide, rfl⟩
  rw [List.nil_append, hlist] at h
  exact absurd h (by decide)

end NomadP2P
