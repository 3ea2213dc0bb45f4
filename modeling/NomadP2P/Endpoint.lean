import NomadP2P.Stun
import NomadP2P.Common
import NomadP2P.Lib.Machine

/-!
# The published endpoint (`discover` against `SeedClient::register`)

`AgentState` keeps the public address, the public port and the NAT type under three
locks.  A call of `discover` writes them one after another, a call of `register` reads
them in the same order and sends what it has read.  The steps here are the lock
sections, of any number of calls in any order; every STUN query succeeds, and no
`register` starts before a first `discover` has finished.

Each cell remembers which call wrote it.  What is sent is the result of one query when
both halves are from one call:

    every send has both halves from one call → every pair sent is one query's
                                                          (whole_of_one_writer)

and where the calls of the run get distinct answers, only then.
-/

namespace NomadP2P.Endpoint

open Stun

/-! ## Algorithm -/

/-- A value under a lock, and the call of `discover` it is from; `none` is the value of
`AgentState::new`. -/
structure Cell (α : Type) where
  value : α
  writer : Option Nat

/-- A call of `register`: how many of its sections are over, and what it has read. -/
structure Register where
  pc : Nat
  publicIp : Cell Ipv4Addr
  publicPort : Cell UInt16
  natType : Cell NatType

/-- The part of `NodeRegistration` that is read from the three cells. -/
structure NodeRegistration where
  publicIp : Ipv4Addr
  publicPort : UInt16
  natType : NatType
deriving DecidableEq, Repr

structure EndpointState where
  publicIp : Cell Ipv4Addr
  publicPort : Cell UInt16
  natType : Cell NatType
  /-- how many sections of each call of `discover` are over -/
  calls : Nat → Nat
  /-- a first `discover` has finished -/
  discovered : Bool
  registers : Nat → Register
  sent : List NodeRegistration

/-- `AgentState::new`, with no call running. -/
def EndpointState.new (listenPort : UInt16) : EndpointState where
  publicIp := ⟨⟨0, 0, 0, 0⟩, none⟩
  publicPort := ⟨listenPort, none⟩
  natType := ⟨.unknown, none⟩
  calls _ := 0
  discovered := false
  registers _ := ⟨0, ⟨⟨0, 0, 0, 0⟩, none⟩, ⟨0, none⟩, ⟨.unknown, none⟩⟩
  sent := []

/-- What the STUN server and the NAT detection answer to each call of `discover`. -/
structure Answers where
  query : Nat → StunResult
  nat : Nat → NatType

/-- The next section of call `k` of `discover`, behind a successful query. -/
def discoverSection (ans : Answers) (s : EndpointState) (k : Nat) : EndpointState :=
  match s.calls k with
  | 0 => { s with publicIp := ⟨(ans.query k).publicIp, some k⟩
                  calls := Function.update s.calls k 1 }
  | 1 => { s with publicPort := ⟨(ans.query k).publicPort, some k⟩
                  calls := Function.update s.calls k 2 }
  | 2 => { s with natType := ⟨ans.nat k, some k⟩
                  calls := Function.update s.calls k 3
                  discovered := true }
  | _ => s

/-- The next section of call `r` of `register`. -/
def registerSection (s : EndpointState) (r : Nat) : EndpointState :=
  let reg := s.registers r
  match reg.pc with
  | 0 =>
    -- no `register` before the `discover` of `run_agent`
    if s.discovered then
      { s with registers := Function.update s.registers r { reg with pc := 1, publicIp := s.publicIp } }
    else s
  | 1 =>
    { s with registers := Function.update s.registers r { reg with pc := 2, publicPort := s.publicPort } }
  | 2 =>
    { s with registers := Function.update s.registers r { reg with pc := 3, natType := s.natType } }
  | 3 =>
    { s with
      registers := Function.update s.registers r { reg with pc := 4 }
      sent := s.sent ++ [⟨reg.publicIp.value, reg.publicPort.value, reg.natType.value⟩] }
  | _ => s

inductive EndpointOp
  | discover (k : Nat)
  | register (r : Nat)
deriving DecidableEq

def endpointMachine (ans : Answers) : Machine EndpointState EndpointOp Unit where
  step s
    | .discover k => (discoverSection ans s k, ())
    | .register r => (registerSection s r, ())

/-- The pair is what one query has returned. -/
def Whole (ans : Answers) (s : EndpointState) (m : NodeRegistration) : Prop :=
  ∃ k, s.calls k ≠ 0 ∧ ans.query k = ⟨m.publicIp, m.publicPort⟩

/-- Nothing torn has been sent. -/
def AllWhole (ans : Answers) (s : EndpointState) : Prop := ∀ m ∈ s.sent, Whole ans s m

/-- If the step is a send, the address and the port that were read are from one call. -/
def oneWriter (s : EndpointState) (op : EndpointOp) : Prop :=
  ∀ r, op = .register r → (s.registers r).pc = 3 →
    (s.registers r).publicIp.writer = (s.registers r).publicPort.writer

instance instDecidableOneWriter (s : EndpointState) : ∀ op, Decidable (oneWriter s op)
  | .discover _ => isTrue fun _ h => by cases h
  | .register r =>
    decidable_of_iff ((s.registers r).pc = 3 →
        (s.registers r).publicIp.writer = (s.registers r).publicPort.writer)
      ⟨fun h _ hr => by cases hr; exact h, fun h => h r rfl⟩

/-- No two calls of `discover` in `ops` get the same address or the same port. -/
def Distinct (ans : Answers) (ops : List EndpointOp) : Prop :=
  ∀ j k, .discover j ∈ ops → .discover k ∈ ops → j ≠ k →
    (ans.query j).publicIp ≠ (ans.query k).publicIp ∧
      (ans.query j).publicPort ≠ (ans.query k).publicPort

/-! ## Lemmas -/

/-- If the value is from a call, the call has begun to write, and `proj` is what its
query returned. -/
def TracedBy {α : Type} (calls : Nat → Nat) (proj : Nat → α) (c : Cell α) : Prop :=
  ∀ k, c.writer = some k → calls k ≠ 0 ∧ c.value = proj k

theorem TracedBy.mono {α : Type} {calls calls' : Nat → Nat} {proj : Nat → α} {c : Cell α}
    (h : TracedBy calls proj c) (hle : ∀ k, calls k ≠ 0 → calls' k ≠ 0) : TracedBy calls' proj c :=
  fun k hk => ⟨hle k (h k hk).1, (h k hk).2⟩

/-- What holds of a register whatever the order: its copies are traced, and behind its
first section they are from a call of `discover`. -/
structure Register.Ok (ans : Answers) (s : EndpointState) (reg : Register) : Prop where
  ip : TracedBy s.calls (fun k => (ans.query k).publicIp) reg.publicIp
  port : TracedBy s.calls (fun k => (ans.query k).publicPort) reg.publicPort
  started : 1 ≤ reg.pc → s.discovered = true
  readIp : 1 ≤ reg.pc → reg.publicIp.writer ≠ none
  readPort : 2 ≤ reg.pc → reg.publicPort.writer ≠ none

/-- The same of the cells and of all registers. -/
structure Traced (ans : Answers) (s : EndpointState) : Prop where
  ip : TracedBy s.calls (fun k => (ans.query k).publicIp) s.publicIp
  port : TracedBy s.calls (fun k => (ans.query k).publicPort) s.publicPort
  wroteIp : ∀ k, 1 ≤ s.calls k → s.publicIp.writer ≠ none
  wrotePort : ∀ k, 2 ≤ s.calls k → s.publicPort.writer ≠ none
  ready : s.discovered = true → s.publicIp.writer ≠ none ∧ s.publicPort.writer ≠ none
  registers : ∀ r, (s.registers r).Ok ans s

theorem update_ne_zero (calls : Nat → Nat) (k n : Nat) (hn : n ≠ 0) (j : Nat) (h : calls j ≠ 0) :
    Function.update calls k n j ≠ 0 := by
  by_cases hj : j = k
  · rw [hj, Function.update_self]
    exact hn
  · rwa [Function.update_of_ne hj]

/-- A cell that call `k` has just written. -/
theorem tracedBy_self {α : Type} (calls : Nat → Nat) (proj : Nat → α) (k n : Nat) (hn : n ≠ 0) :
    TracedBy (Function.update calls k n) proj ⟨proj k, some k⟩ := by
  intro j hj
  obtain rfl := Option.some.inj hj
  rw [Function.update_self]
  exact ⟨hn, rfl⟩

/-- A call that moves on to section `n` had to be past `m` before, or is past it now. -/
theorem le_update (calls : Nat → Nat) (k n m j : Nat) (h : m ≤ Function.update calls k n j) :
    (j = k ∧ m ≤ n) ∨ m ≤ calls j := by
  by_cases hj : j = k
  · rw [hj, Function.update_self] at h
    exact .inl ⟨hj, h⟩
  · rw [Function.update_of_ne hj] at h
    exact .inr h

theorem Register.Ok.mono {ans : Answers} {s s' : EndpointState} {reg : Register} (h : reg.Ok ans s)
    (hle : ∀ k, s.calls k ≠ 0 → s'.calls k ≠ 0)
    (hdisc : s.discovered = true → s'.discovered = true) : reg.Ok ans s' :=
  ⟨h.ip.mono hle, h.port.mono hle, fun hpc => hdisc (h.started hpc), h.readIp, h.readPort⟩

theorem traced_discover (ans : Answers) (s : EndpointState) (k : Nat) (h : Traced ans s) :
    Traced ans (discoverSection ans s k) := by
  unfold discoverSection
  split
  · have hle : ∀ j, s.calls j ≠ 0 → Function.update s.calls k 1 j ≠ 0 :=
      update_ne_zero s.calls k 1 (by omega)
    refine ⟨tracedBy_self s.calls _ k 1 (by omega), h.port.mono hle, fun j _ => Option.some_ne_none k,
      fun j hj => ?_, fun hd => ⟨Option.some_ne_none k, (h.ready hd).2⟩,
      fun r => (h.registers r).mono hle fun hd => hd⟩
    rcases le_update s.calls k 1 2 j hj with ⟨-, hlt⟩ | hold
    · omega
    · exact h.wrotePort j hold
  · next hk =>
    have hle : ∀ j, s.calls j ≠ 0 → Function.update s.calls k 2 j ≠ 0 :=
      update_ne_zero s.calls k 2 (by omega)
    refine ⟨h.ip.mono hle, tracedBy_self s.calls _ k 2 (by omega), fun j hj => ?_,
      fun j _ => Option.some_ne_none k, fun hd => ⟨(h.ready hd).1, Option.some_ne_none k⟩,
      fun r => (h.registers r).mono hle fun hd => hd⟩
    rcases le_update s.calls k 2 1 j hj with ⟨rfl, -⟩ | hold
    · exact h.wroteIp j (by omega)
    · exact h.wroteIp j hold
  · next hk =>
    have hle : ∀ j, s.calls j ≠ 0 → Function.update s.calls k 3 j ≠ 0 :=
      update_ne_zero s.calls k 3 (by omega)
    -- the call that finishes has written both cells
    have hip := h.wroteIp k (by omega)
    have hport := h.wrotePort k (by omega)
    exact ⟨h.ip.mono hle, h.port.mono hle, fun _ _ => hip, fun _ _ => hport, fun _ => ⟨hip, hport⟩,
      fun r => (h.registers r).mono hle fun _ => rfl⟩
  · exact h

/-- A section of `register` moves one register and leaves the cells. -/
theorem traced_update (ans : Answers) (s : EndpointState) (r : Nat) (reg : Register)
    (sent : List NodeRegistration) (h : Traced ans s) (hreg : reg.Ok ans s) :
    Traced ans { s with registers := Function.update s.registers r reg, sent := sent } := by
  refine ⟨h.ip, h.port, h.wroteIp, h.wrotePort, h.ready, fun r' => ?_⟩
  show Register.Ok ans _ (Function.update s.registers r reg r')
  by_cases hr : r' = r
  · rw [hr, Function.update_self]
    exact hreg.mono (fun _ hk => hk) fun hd => hd
  · rw [Function.update_of_ne hr]
    exact (h.registers r').mono (fun _ hk => hk) fun hd => hd

theorem traced_register (ans : Answers) (s : EndpointState) (r : Nat) (h : Traced ans s) :
    Traced ans (registerSection s r) := by
  have hreg := h.registers r
  unfold registerSection
  simp only
  split
  · split
    · next hd =>
      refine traced_update ans s r _ _ h ⟨h.ip, hreg.port, fun _ => hd, fun _ => (h.ready hd).1, ?_⟩
      intro hpc
      replace hpc : 2 ≤ 1 := hpc
      omega
    · exact h
  · next hpc =>
    have hd := hreg.started (by omega)
    exact traced_update ans s r _ _ h
      ⟨hreg.ip, h.port, fun _ => hd, fun _ => hreg.readIp (by omega), fun _ => (h.ready hd).2⟩
  · next hpc =>
    exact traced_update ans s r _ _ h ⟨hreg.ip, hreg.port, fun _ => hreg.started (by omega),
      fun _ => hreg.readIp (by omega), fun _ => hreg.readPort (by omega)⟩
  · next hpc =>
    exact traced_update ans s r _ _ h ⟨hreg.ip, hreg.port, fun _ => hreg.started (by omega),
      fun _ => hreg.readIp (by omega), fun _ => hreg.readPort (by omega)⟩
  · exact h

theorem traced_next (ans : Answers) (s : EndpointState) (op : EndpointOp) (h : Traced ans s) :
    Traced ans ((endpointMachine ans).next s op) := by
  cases op with
  | discover k => exact traced_discover ans s k h
  | register r => exact traced_register ans s r h

/-! ### What is sent -/

/-- What a register puts in its message. -/
def message (reg : Register) : NodeRegistration :=
  ⟨reg.publicIp.value, reg.publicPort.value, reg.natType.value⟩

/-- A call that has begun had begun before, or is the one that takes the step. -/
theorem calls_of_next (ans : Answers) (s : EndpointState) (op : EndpointOp) (k : Nat)
    (h : ((endpointMachine ans).next s op).calls k ≠ 0) : s.calls k ≠ 0 ∨ op = .discover k := by
  cases op with
  | discover j =>
    by_cases hk : k = j
    · exact .inr (by rw [hk])
    · refine .inl ?_
      replace h : (discoverSection ans s j).calls k ≠ 0 := h
      unfold discoverSection at h
      split at h
      all_goals first | exact h | exact (Function.update_of_ne hk _ s.calls) ▸ h
  | register r =>
    refine .inl ?_
    replace h : (registerSection s r).calls k ≠ 0 := h
    unfold registerSection at h
    simp only at h
    split at h
    · split at h <;> exact h
    all_goals exact h

theorem calls_next (ans : Answers) (s : EndpointState) (op : EndpointOp) (k : Nat)
    (h : s.calls k ≠ 0) : ((endpointMachine ans).next s op).calls k ≠ 0 := by
  cases op with
  | discover j =>
    show (discoverSection ans s j).calls k ≠ 0
    unfold discoverSection
    split
    · exact update_ne_zero s.calls j 1 (by omega) k h
    · exact update_ne_zero s.calls j 2 (by omega) k h
    · exact update_ne_zero s.calls j 3 (by omega) k h
    · exact h
  | register r =>
    show (registerSection s r).calls k ≠ 0
    unfold registerSection
    simp only
    split
    · split <;> exact h
    all_goals exact h

/-- A step sends nothing, or the message of a register that has read all three cells. -/
theorem sent_next (ans : Answers) (s : EndpointState) (op : EndpointOp) :
    ((endpointMachine ans).next s op).sent = s.sent ∧
        (∀ r, op = .register r → (s.registers r).pc ≠ 3) ∨
      ∃ r, op = .register r ∧ (s.registers r).pc = 3 ∧
        ((endpointMachine ans).next s op).sent = s.sent ++ [message (s.registers r)] := by
  cases op with
  | discover k =>
    refine .inl ⟨?_, fun r hr => by cases hr⟩
    show (discoverSection ans s k).sent = s.sent
    unfold discoverSection
    split <;> rfl
  | register r =>
    by_cases hpc : (s.registers r).pc = 3
    · refine .inr ⟨r, rfl, hpc, ?_⟩
      show (registerSection s r).sent = _
      simp only [registerSection, hpc]
      rfl
    · refine .inl ⟨?_, fun r' hr => by cases hr; exact hpc⟩
      show (registerSection s r).sent = s.sent
      unfold registerSection
      simp only
      split
      · split <;> rfl
      · rfl
      · rfl
      · next h3 => exact absurd h3 hpc
      · rfl

/-- A register that has read both cells has read them from calls of `discover`. -/
theorem writers_of_sending (ans : Answers) (s : EndpointState) (r : Nat) (h : Traced ans s)
    (hpc : (s.registers r).pc = 3) :
    ∃ j k, (s.registers r).publicIp.writer = some j ∧ (s.registers r).publicPort.writer = some k ∧
      s.calls j ≠ 0 ∧ s.calls k ≠ 0 ∧ (s.registers r).publicIp.value = (ans.query j).publicIp ∧
      (s.registers r).publicPort.value = (ans.query k).publicPort := by
  have hreg := h.registers r
  obtain ⟨j, hj⟩ := Option.ne_none_iff_exists'.mp (hreg.readIp (by omega))
  obtain ⟨k, hk⟩ := Option.ne_none_iff_exists'.mp (hreg.readPort (by omega))
  exact ⟨j, k, hj, hk, (hreg.ip j hj).1, (hreg.port k hk).1, (hreg.ip j hj).2, (hreg.port k hk).2⟩

theorem allWhole_next (ans : Answers) (s : EndpointState) (op : EndpointOp) (h : Traced ans s)
    (hw : AllWhole ans s) (hg : oneWriter s op) : AllWhole ans ((endpointMachine ans).next s op) := by
  have hold : ∀ m ∈ s.sent, Whole ans ((endpointMachine ans).next s op) m := by
    intro m hm
    obtain ⟨k, hk, hq⟩ := hw m hm
    exact ⟨k, calls_next ans s op k hk, hq⟩
  intro m hm
  rcases sent_next ans s op with ⟨hsent, -⟩ | ⟨r, hop, hpc, hsent⟩
  · rw [hsent] at hm
    exact hold m hm
  · rw [hsent] at hm
    rcases List.mem_append.mp hm with hm | hm
    · exact hold m hm
    · obtain rfl := List.mem_singleton.mp hm
      obtain ⟨j, k, hj, hk, hcall, -, hip, hport⟩ := writers_of_sending ans s r h hpc
      have hjk : j = k := by
        have := hg r hop hpc
        rw [hj, hk] at this
        exact Option.some.inj this
      subst hjk
      refine ⟨j, calls_next ans s op j hcall, ?_⟩
      show ans.query j = ⟨(s.registers r).publicIp.value, (s.registers r).publicPort.value⟩
      rw [hip, hport]

/-- The calls that have begun are calls of `ops`. -/
def BegunIn (ops : List EndpointOp) (s : EndpointState) : Prop :=
  ∀ k, s.calls k ≠ 0 → .discover k ∈ ops

theorem begunIn_next (ans : Answers) (ops : List EndpointOp) (s : EndpointState) (op : EndpointOp)
    (hop : op ∈ ops) (h : BegunIn ops s) : BegunIn ops ((endpointMachine ans).next s op) := by
  intro k hk
  rcases calls_of_next ans s op k hk with hold | rfl
  · exact h k hold
  · exact hop

/-- With distinct answers, halves from two calls are the answer of no query. -/
theorem not_allWhole_next (ans : Answers) (ops : List EndpointOp) (hd : Distinct ans ops)
    (s : EndpointState) (op : EndpointOp) (hmem : op ∈ ops) (h : Traced ans s) (hb : BegunIn ops s)
    (hg : ¬ oneWriter s op) : ¬ AllWhole ans ((endpointMachine ans).next s op) := by
  intro hw
  apply hg
  intro r hop hpc
  obtain ⟨j, k, hj, hk, hcj, hck, hip, hport⟩ := writers_of_sending ans s r h hpc
  rcases sent_next ans s op with ⟨-, hno⟩ | ⟨r', hop', -, hsent⟩
  · exact absurd hpc (hno r hop)
  · obtain rfl : r = r' := EndpointOp.register.inj (hop.symm.trans hop')
    obtain ⟨i, hci, hi⟩ := hw (message (s.registers r)) (by
      rw [hsent]
      exact List.mem_append_right _ (List.mem_singleton_self _))
    have himem := begunIn_next ans ops s op hmem hb i hci
    have hii : (ans.query i).publicIp = (ans.query j).publicIp := by rw [hi]; exact hip
    have hip' : i = j := by
      apply Classical.byContradiction
      intro hne
      exact (hd i j himem (hb j hcj) hne).1 hii
    have hiport : (ans.query i).publicPort = (ans.query k).publicPort := by rw [hi]; exact hport
    have hport' : i = k := by
      apply Classical.byContradiction
      intro hne
      exact (hd i k himem (hb k hck) hne).2 hiport
    rw [hj, hk, ← hip', ← hport']

theorem traced_new (ans : Answers) (listenPort : UInt16) : Traced ans (.new listenPort) := by
  have hnone : ∀ {α : Type} (proj : Nat → α) (v : α), TracedBy (fun _ => 0) proj ⟨v, none⟩ := by
    intro α proj v k hk
    cases hk
  have hzero : ∀ n, 1 ≤ n → ¬ n ≤ (0 : Nat) := fun n hn h => by omega
  refine ⟨hnone _ _, hnone _ _, fun k hk => absurd hk (hzero 1 (by omega)),
    fun k hk => absurd hk (hzero 2 (by omega)), fun hd => Bool.noConfusion hd, fun r => ?_⟩
  exact ⟨hnone _ _, hnone _ _, fun hpc => absurd hpc (hzero 1 (by omega)),
    fun hpc => absurd hpc (hzero 1 (by omega)), fun hpc => absurd hpc (hzero 2 (by omega))⟩

/-! ### Main theorem -/

/-- A run whose sends all have both halves from one call of `discover` sends only pairs
that one query has returned.  Where the calls of the run get distinct addresses and ports,
these are the only runs that do. -/
theorem whole_of_one_writer (ans : Answers) (listenPort : UInt16) (ops : List EndpointOp) :
    ((endpointMachine ans).Guarded oneWriter (.new listenPort) ops →
        ∀ pre, pre <+: ops → AllWhole ans ((endpointMachine ans).after (.new listenPort) pre)) ∧
      (Distinct ans ops →
        (∀ pre, pre <+: ops → AllWhole ans ((endpointMachine ans).after (.new listenPort) pre)) →
        (endpointMachine ans).Guarded oneWriter (.new listenPort) ops) := by
  refine ⟨fun hrun pre hpre => ?_, fun hd hall => ?_⟩
  · have hkeep : ∀ s op, Traced ans s ∧ AllWhole ans s → oneWriter s op →
        Traced ans ((endpointMachine ans).next s op) ∧
          AllWhole ans ((endpointMachine ans).next s op) :=
      fun s op h hg => ⟨traced_next ans s op h.1, allWhole_next ans s op h.1 h.2 hg⟩
    have hnew : Traced ans (.new listenPort) ∧ AllWhole ans (.new listenPort) :=
      ⟨traced_new ans listenPort, fun m hm => by cases hm⟩
    exact ((endpointMachine ans).inv_of_guarded oneWriter _ hkeep ops _ hnew hrun pre hpre).2
  · refine (endpointMachine ans).guarded_of_always oneWriter
      (fun s => Traced ans s ∧ BegunIn ops s) (AllWhole ans) ops
      (fun s op hop h _ => ⟨traced_next ans s op h.1, begunIn_next ans ops s op hop h.2⟩)
      (fun s op hop h hg => not_allWhole_next ans ops hd s op hop h.1 h.2 hg) _ ⟨?_, ?_⟩ hall
    · exact traced_new ans listenPort
    · exact fun k hk => absurd rfl hk

/-- The network changes after the first query. -/
def twoNetworks : Answers where
  query k := if k = 0 then ⟨⟨203, 0, 113, 5⟩, 40000⟩ else ⟨⟨198, 51, 100, 7⟩, 50000⟩
  nat _ := .easy

/-- The heartbeat reads behind the second refresh, or when that has written the address
only. -/
def afterRefresh : List EndpointOp :=
  [.discover 0, .discover 0, .discover 0, .discover 1, .discover 1, .discover 1,
    .register 0, .register 0, .register 0, .register 0]

def amidRefresh : List EndpointOp :=
  [.discover 0, .discover 0, .discover 0, .discover 1,
    .register 0, .register 0, .register 0, .register 0]

theorem distinct_amidRefresh : Distinct twoNetworks amidRefresh := by
  have hcall : ∀ k, EndpointOp.discover k ∈ amidRefresh → k = 0 ∨ k = 1 := by
    intro k hk
    simpa [amidRefresh] using hk
  intro j k hj hk hne
  rcases hcall j hj with rfl | rfl <;> rcases hcall k hk with rfl | rfl
  · exact absurd rfl hne
  · decide
  · decide
  · exact absurd rfl hne

/-- Behind the refresh the new pair is sent, and every pair sent is whole; amid the refresh,
where the answers are distinct and the halves from two calls, some pair sent is not. -/
theorem whole_after_refresh :
    ((endpointMachine twoNetworks).after (.new 51820) afterRefresh).sent =
        [⟨⟨198, 51, 100, 7⟩, 50000, .easy⟩] ∧
      (∀ pre, pre <+: afterRefresh →
        AllWhole twoNetworks ((endpointMachine twoNetworks).after (.new 51820) pre)) ∧
      ¬ ∀ pre, pre <+: amidRefresh →
        AllWhole twoNetworks ((endpointMachine twoNetworks).after (.new 51820) pre) := by
  refine ⟨by decide +kernel, ?_, fun hall => ?_⟩
  · exact (whole_of_one_writer twoNetworks 51820 afterRefresh).1 (by decide +kernel)
  · have hguarded := (whole_of_one_writer twoNetworks 51820 amidRefresh).2 distinct_amidRefresh hall
    exact absurd hguarded (by decide +kernel)

/-- Amid the refresh the new address is published with the old port. -/
theorem new_address_with_old_port :
    ((endpointMachine twoNetworks).after (.new 51820) amidRefresh).sent =
      [⟨⟨198, 51, 100, 7⟩, 40000, .easy⟩] ∧
    ¬ AllWhole twoNetworks ((endpointMachine twoNetworks).after (.new 51820) amidRefresh) := by
  have hsent : ((endpointMachine twoNetworks).after (.new 51820) amidRefresh).sent =
      [⟨⟨198, 51, 100, 7⟩, 40000, .easy⟩] := by decide +kernel
  refine ⟨hsent, fun hw => ?_⟩
  obtain ⟨k, -, hk⟩ := hw ⟨⟨198, 51, 100, 7⟩, 40000, .easy⟩ (by rw [hsent]; exact List.mem_cons_self)
  by_cases h0 : k = 0
  · rw [h0] at hk
    exact absurd hk (by decide)
  · rw [show twoNetworks.query k = ⟨⟨198, 51, 100, 7⟩, 50000⟩ from if_neg h0] at hk
    exact absurd hk (by decide)

end NomadP2P.Endpoint
