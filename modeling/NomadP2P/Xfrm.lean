import Mathlib.Data.Finset.Basic
import NomadP2P.Ipsec

/-!
# Installing SAs and policies (`add_state` and `add_policy` of `agent/src/ipsec.rs`)

Each of the two functions runs two `ip xfrm … add` commands, one a direction, and returns
at the first that fails; what the first has installed stays.  The kernel keeps
SAs and policies as sets and refuses an entry if it has one that it identifies
with it; by what it identifies entries is a parameter.

So a call leaves both entries or none exactly when the second command is accepted
whenever the first is (`all_or_nothing_iff`).  A half that is left behind stays:
every later call for the same pair fails at its first command
(`half_stays`).
-/

namespace NomadP2P.Ipsec.Xfrm

/-! ## Algorithm -/

/-- What happens to a command before the kernel is asked. -/
inductive Attempt
  /-- `status().await?` returns early -/
  | ioError (e : String)
  /-- `ip` exits with a failure of its own -/
  | fails
  | runs
deriving DecidableEq

section
variable {E κ : Type} [DecidableEq E] [DecidableEq κ] (ident : E → κ)

/-- `ip xfrm … add`: the entries behind the command, and whether it succeeded. -/
def xfrmAdd (table : Finset E) (entry : E) : Attempt → Finset E × Except String Bool
  | .ioError e => (table, .error e)
  | .fails => (table, .ok false)
  | .runs =>
    if ∃ x ∈ table, ident x = ident entry then (table, .ok false) else (insert entry table, .ok true)

/-- The command with the test of its exit status. -/
def addOrBail (table : Finset E) (entry : E) (msg : String) (attempt : Attempt) :
    Finset E × Except String Unit :=
  match xfrmAdd ident table entry attempt with
  | (table, .error e) => (table, .error e)
  | (table, .ok success) => (table, if success then .ok () else .error msg)

/-- Two commands, each an entry and its error message; the second runs if the first has
succeeded. -/
def addBoth (table : Finset E) (first second : E × String) (attempts : Attempt × Attempt) :
    Finset E × Except String Unit :=
  match addOrBail ident table first.1 first.2 attempts.1 with
  | (table, .error e) => (table, .error e)
  | (table, .ok ()) => addOrBail ident table second.1 second.2 attempts.2

/-- `Err` leaves the entries as they were, and `Ok` leaves both there. -/
def AllOrNothing (table : Finset E) (first second : E) (result : Finset E × Except String Unit) : Prop :=
  (∀ e, result.2 = .error e → result.1 = table) ∧
    (result.2 = .ok () → first ∈ result.1 ∧ second ∈ result.1)

/-- The command runs, and the kernel has no entry that it identifies with this one. -/
def Accepted (table : Finset E) (entry : E) (attempt : Attempt) : Prop :=
  attempt = .runs ∧ ∀ x ∈ table, ident x ≠ ident entry

instance (table : Finset E) (entry : E) (attempt : Attempt) :
    Decidable (Accepted ident table entry attempt) := inferInstanceAs (Decidable (_ ∧ _))

end

inductive Direction
  | inward
  | outward
deriving DecidableEq

/-- A policy as the arguments of `ip xfrm policy add` describe it. -/
structure Policy where
  src : String
  dst : String
  dir : Direction
  tmplSrc : String
  tmplDst : String
  reqid : UInt32
deriving DecidableEq

section
variable {κ : Type} [DecidableEq κ]

/-- `add_state`. -/
def addState (X : Hex) (saId : Sa → κ) (m : IpsecManager) (states : Finset Sa) (src dst : String)
    (attempts : Attempt × Attempt) : Finset Sa × Except String Unit :=
  addBoth saId states
    (m.sa X src dst, "ip xfrm state add (in) failed for " ++ src ++ " -> " ++ dst)
    (m.sa X dst src, "ip xfrm state add (out) failed for " ++ src ++ " -> " ++ dst) attempts

/-- The policy for packets that leave through the tunnel. -/
def outPolicy (m : IpsecManager) (srcSubnet dstSubnet tunnelSrc tunnelDst : String) : Policy :=
  ⟨srcSubnet, dstSubnet, .outward, tunnelSrc, tunnelDst, m.spi⟩

/-- The policy for packets that come through the tunnel. -/
def inPolicy (m : IpsecManager) (srcSubnet dstSubnet tunnelSrc tunnelDst : String) : Policy :=
  ⟨dstSubnet, srcSubnet, .inward, tunnelDst, tunnelSrc, m.spi⟩

/-- `add_policy`. -/
def addPolicy (policyId : Policy → κ) (m : IpsecManager) (policies : Finset Policy)
    (srcSubnet dstSubnet tunnelSrc tunnelDst : String) (attempts : Attempt × Attempt) :
    Finset Policy × Except String Unit :=
  addBoth policyId policies
    (outPolicy m srcSubnet dstSubnet tunnelSrc tunnelDst,
      "ip xfrm policy add (out) failed for " ++ srcSubnet ++ " -> " ++ dstSubnet)
    (inPolicy m srcSubnet dstSubnet tunnelSrc tunnelDst,
      "ip xfrm policy add (in) failed for " ++ dstSubnet ++ " -> " ++ srcSubnet) attempts

end

/-! ## Lemmas -/

section
variable {E κ : Type} [DecidableEq E] [DecidableEq κ] (ident : E → κ)

/-- A command that is accepted installs its entry, and any other changes nothing and is an
error. -/
theorem addOrBail_cases (table : Finset E) (entry : E) (msg : String) (attempt : Attempt) :
    (Accepted ident table entry attempt ∧
      addOrBail ident table entry msg attempt = (insert entry table, .ok ())) ∨
    (¬ Accepted ident table entry attempt ∧
      ∃ e, addOrBail ident table entry msg attempt = (table, .error e)) := by
  cases attempt with
  | ioError e => exact Or.inr ⟨fun h => (by cases h.1), e, rfl⟩
  | fails => exact Or.inr ⟨fun h => (by cases h.1), msg, rfl⟩
  | runs =>
    unfold addOrBail xfrmAdd
    by_cases hex : ∃ x ∈ table, ident x = ident entry
    · right
      simp only [if_pos hex]
      obtain ⟨x, hx, hsame⟩ := hex
      exact ⟨fun h => h.2 x hx hsame, msg, rfl⟩
    · left
      simp only [if_neg hex]
      exact ⟨⟨rfl, fun x hx hsame => hex ⟨x, hx, hsame⟩⟩, rfl⟩

omit [DecidableEq E] [DecidableEq κ] in
theorem Accepted.not_mem {table : Finset E} {entry : E} {attempt : Attempt}
    (h : Accepted ident table entry attempt) : entry ∉ table := fun hmem => h.2 entry hmem rfl

/-- The ways two commands can go: nothing, both, or the first alone. -/
theorem addBoth_cases (table : Finset E) (first second : E × String) (attempts : Attempt × Attempt) :
    (¬ Accepted ident table first.1 attempts.1 ∧
      ∃ e, addBoth ident table first second attempts = (table, .error e)) ∨
    (Accepted ident table first.1 attempts.1 ∧
      ((Accepted ident (insert first.1 table) second.1 attempts.2 ∧
          addBoth ident table first second attempts =
            (insert second.1 (insert first.1 table), .ok ())) ∨
        (¬ Accepted ident (insert first.1 table) second.1 attempts.2 ∧
          ∃ e, addBoth ident table first second attempts = (insert first.1 table, .error e)))) := by
  unfold addBoth
  rcases addOrBail_cases ident table first.1 first.2 attempts.1 with ⟨hfirst, heq⟩ | ⟨hfirst, e, heq⟩
  · rw [heq]
    exact Or.inr ⟨hfirst, addOrBail_cases ident (insert first.1 table) second.1 second.2 attempts.2⟩
  · rw [heq]
    exact Or.inl ⟨hfirst, e, rfl⟩

/-- Both or none, exactly when the second command is accepted whenever the first is. -/
theorem allOrNothing_addBoth_iff (table : Finset E) (first second : E × String)
    (attempts : Attempt × Attempt) :
    AllOrNothing table first.1 second.1 (addBoth ident table first second attempts) ↔
      (Accepted ident table first.1 attempts.1 →
        Accepted ident (insert first.1 table) second.1 attempts.2) := by
  rcases addBoth_cases ident table first second attempts with
    ⟨hfirst, e, heq⟩ | ⟨hfirst, ⟨hsecond, heq⟩ | ⟨hsecond, e, heq⟩⟩
  · rw [heq]
    refine iff_of_true ⟨fun _ _ => rfl, fun h => by cases h⟩ fun h => absurd h hfirst
  · rw [heq]
    refine iff_of_true ⟨fun e h => (by cases h), fun _ => ⟨?_, Finset.mem_insert_self _ _⟩⟩
      fun _ => hsecond
    exact Finset.mem_insert_of_mem (Finset.mem_insert_self _ _)
  · rw [heq]
    refine iff_of_false (fun h => ?_) fun h => hsecond (h hfirst)
    have hsame : insert first.1 table = table := h.1 e rfl
    exact hfirst.not_mem ident (hsame ▸ Finset.mem_insert_self _ _)

end

section
variable {κ : Type} [DecidableEq κ]

theorem addState_cases (X : Hex) (saId : Sa → κ) (m : IpsecManager) (states : Finset Sa)
    (src dst : String) (attempts : Attempt × Attempt) :
    (¬ Accepted saId states (m.sa X src dst) attempts.1 ∧
      ∃ e, addState X saId m states src dst attempts = (states, .error e)) ∨
    (Accepted saId states (m.sa X src dst) attempts.1 ∧
      ((Accepted saId (insert (m.sa X src dst) states) (m.sa X dst src) attempts.2 ∧
          addState X saId m states src dst attempts =
            (insert (m.sa X dst src) (insert (m.sa X src dst) states), .ok ())) ∨
        (¬ Accepted saId (insert (m.sa X src dst) states) (m.sa X dst src) attempts.2 ∧
          ∃ e, addState X saId m states src dst attempts = (insert (m.sa X src dst) states, .error e)))) :=
  addBoth_cases saId states (m.sa X src dst, _) (m.sa X dst src, _) attempts

theorem allOrNothing_addState_iff (X : Hex) (saId : Sa → κ) (m : IpsecManager) (states : Finset Sa)
    (src dst : String) (attempts : Attempt × Attempt) :
    AllOrNothing states (m.sa X src dst) (m.sa X dst src) (addState X saId m states src dst attempts) ↔
      (Accepted saId states (m.sa X src dst) attempts.1 →
        Accepted saId (insert (m.sa X src dst) states) (m.sa X dst src) attempts.2) :=
  allOrNothing_addBoth_iff saId states _ _ attempts

theorem allOrNothing_addPolicy_iff (policyId : Policy → κ) (m : IpsecManager)
    (policies : Finset Policy) (srcSubnet dstSubnet tunnelSrc tunnelDst : String)
    (attempts : Attempt × Attempt) :
    AllOrNothing policies (outPolicy m srcSubnet dstSubnet tunnelSrc tunnelDst)
        (inPolicy m srcSubnet dstSubnet tunnelSrc tunnelDst)
        (addPolicy policyId m policies srcSubnet dstSubnet tunnelSrc tunnelDst attempts) ↔
      (Accepted policyId policies (outPolicy m srcSubnet dstSubnet tunnelSrc tunnelDst) attempts.1 →
        Accepted policyId (insert (outPolicy m srcSubnet dstSubnet tunnelSrc tunnelDst) policies)
          (inPolicy m srcSubnet dstSubnet tunnelSrc tunnelDst) attempts.2) :=
  allOrNothing_addBoth_iff policyId policies _ _ attempts

end

/-! ### Calls again and again -/

section
variable {κ : Type} [DecidableEq κ] (X : Hex) (saId : Sa → κ)

/-- `add_state` for one pair, again and again. -/
def retryMachine (m : IpsecManager) (src dst : String) :
    Machine (Finset Sa) (Attempt × Attempt) (Except String Unit) where
  step states attempts := addState X saId m states src dst attempts

/-- A call that has left a half behind is not repaired: no later call for the pair with the
same SPI and key changes anything. -/
theorem half_stays (m : IpsecManager) (states : Finset Sa) (src dst : String)
    (attempts : Attempt × Attempt)
    (hhalf : ¬ AllOrNothing states (m.sa X src dst) (m.sa X dst src)
      (addState X saId m states src dst attempts)) (calls : List (Attempt × Attempt)) :
    (retryMachine X saId m src dst).after (addState X saId m states src dst attempts).1 calls =
        insert (m.sa X src dst) states := by
  have hleft : (addState X saId m states src dst attempts).1 = insert (m.sa X src dst) states := by
    rw [allOrNothing_addState_iff] at hhalf
    rcases addState_cases X saId m states src dst attempts with
      ⟨hfirst, -⟩ | ⟨-, ⟨hsecond, -⟩ | ⟨-, e, heq⟩⟩
    · exact absurd (fun h => absurd h hfirst) hhalf
    · exact absurd (fun _ => hsecond) hhalf
    · rw [heq]
  rw [hleft]
  refine (retryMachine X saId m src dst).inv_after (fun s => s = insert (m.sa X src dst) states) calls
    ?_ _ rfl
  -- the SA of the first command is there, so the kernel refuses it
  rintro s call - rfl
  rcases addState_cases X saId m (insert (m.sa X src dst) states) src dst call with
    ⟨-, e, heq⟩ | ⟨hfirst, -⟩
  · exact congrArg Prod.fst heq
  · exact absurd (Finset.mem_insert_self _ _) (hfirst.not_mem saId)

end

/-! ### The model without the kernel -/

/-- With the commands that are accepted as those that succeed, this is `addState` of the
rotation model. -/
theorem addState_eq {κ : Type} [DecidableEq κ] (X : Hex) (saId : Sa → κ) (m : IpsecManager)
    (sadb : List Sa) (src dst : String) (attempts : Attempt × Attempt) :
    let ok := (decide (Accepted saId sadb.toFinset (m.sa X src dst) attempts.1),
      decide (Accepted saId (insert (m.sa X src dst) sadb.toFinset) (m.sa X dst src) attempts.2))
    (addState X saId m sadb.toFinset src dst attempts).1 = (m.addState X sadb src dst ok).1.toFinset ∧
      ((addState X saId m sadb.toFinset src dst attempts).2 = .ok () ↔
        (m.addState X sadb src dst ok).2 = true) := by
  rcases addState_cases X saId m sadb.toFinset src dst attempts with
    ⟨hfirst, e, heq⟩ | ⟨hfirst, ⟨hsecond, heq⟩ | ⟨hsecond, e, heq⟩⟩
  · simp only [heq, hfirst, decide_false]
    exact ⟨rfl, by simp [IpsecManager.addState, xfrmStateAdd]⟩
  · simp only [heq, hfirst, hsecond, decide_true]
    simp [IpsecManager.addState, xfrmStateAdd]
  · simp only [heq, hfirst, hsecond, decide_true, decide_false]
    simp [IpsecManager.addState, xfrmStateAdd]

/-! ### Main theorem -/

/-- **All or nothing.**  For every manager, every set of SAs and policies in the kernel,
whatever it identifies them by, and every way the commands can go: `add_state` leaves the
SAs as they were or both installed, according to its result, exactly if its second command is
accepted whenever its first is; and so does `add_policy` with the policies. -/
theorem all_or_nothing_iff {κ κ' : Type} [DecidableEq κ] [DecidableEq κ'] (X : Hex)
    (saId : Sa → κ) (policyId : Policy → κ') (m : IpsecManager) (states : Finset Sa)
    (policies : Finset Policy) (attempts : Attempt × Attempt) :
    (∀ src dst,
      AllOrNothing states (m.sa X src dst) (m.sa X dst src) (addState X saId m states src dst attempts) ↔
        (Accepted saId states (m.sa X src dst) attempts.1 →
          Accepted saId (insert (m.sa X src dst) states) (m.sa X dst src) attempts.2)) ∧
    ∀ srcSubnet dstSubnet tunnelSrc tunnelDst,
      AllOrNothing policies (outPolicy m srcSubnet dstSubnet tunnelSrc tunnelDst)
          (inPolicy m srcSubnet dstSubnet tunnelSrc tunnelDst)
          (addPolicy policyId m policies srcSubnet dstSubnet tunnelSrc tunnelDst attempts) ↔
        (Accepted policyId policies (outPolicy m srcSubnet dstSubnet tunnelSrc tunnelDst) attempts.1 →
          Accepted policyId (insert (outPolicy m srcSubnet dstSubnet tunnelSrc tunnelDst) policies)
            (inPolicy m srcSubnet dstSubnet tunnelSrc tunnelDst) attempts.2) :=
  ⟨fun src dst => allOrNothing_addState_iff X saId m states src dst attempts,
    fun srcSubnet dstSubnet tunnelSrc tunnelDst =>
      allOrNothing_addPolicy_iff policyId m policies srcSubnet dstSubnet tunnelSrc tunnelDst attempts⟩

/-- The kernel finds an SA by destination and SPI, and a policy by its selector and
direction. -/
def kernelSaId (sa : Sa) : String × UInt32 := (sa.dst, sa.spi)

def kernelPolicyId (p : Policy) : String × String × Direction := (p.src, p.dst, p.dir)

/-- A manager with the default SPI. -/
def someManager : IpsecManager := .new plainHex 4096 "00ff" []

/-- The first command runs and the second fails: both functions return an error and leave one
direction installed.  The same happens without a failing command where the SA of
the other direction is there already. -/
theorem one_direction_left :
    addState plainHex kernelSaId someManager ∅ "192.0.2.1" "192.0.2.2" (.runs, .fails) =
        ({someManager.sa plainHex "192.0.2.1" "192.0.2.2"},
          .error "ip xfrm state add (out) failed for 192.0.2.1 -> 192.0.2.2") ∧
      ¬ AllOrNothing ∅ (someManager.sa plainHex "192.0.2.1" "192.0.2.2")
          (someManager.sa plainHex "192.0.2.2" "192.0.2.1")
          (addState plainHex kernelSaId someManager ∅ "192.0.2.1" "192.0.2.2" (.runs, .fails)) ∧
      ¬ AllOrNothing {someManager.sa plainHex "192.0.2.2" "192.0.2.1"}
          (someManager.sa plainHex "192.0.2.1" "192.0.2.2")
          (someManager.sa plainHex "192.0.2.2" "192.0.2.1")
          (addState plainHex kernelSaId someManager {someManager.sa plainHex "192.0.2.2" "192.0.2.1"}
            "192.0.2.1" "192.0.2.2" (.runs, .runs)) ∧
      ¬ AllOrNothing ∅ (outPolicy someManager "10.1.0.0/24" "10.2.0.0/24" "192.0.2.1" "192.0.2.2")
          (inPolicy someManager "10.1.0.0/24" "10.2.0.0/24" "192.0.2.1" "192.0.2.2")
          (addPolicy kernelPolicyId someManager ∅ "10.1.0.0/24" "10.2.0.0/24" "192.0.2.1" "192.0.2.2"
            (.runs, .fails)) := by
  refine ⟨by decide +kernel, ?_, ?_, ?_⟩
  · rw [allOrNothing_addState_iff]
    decide +kernel
  · rw [allOrNothing_addState_iff]
    decide +kernel
  · rw [allOrNothing_addPolicy_iff]
    decide +kernel

end NomadP2P.Ipsec.Xfrm
