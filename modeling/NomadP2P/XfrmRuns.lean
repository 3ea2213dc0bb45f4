import NomadP2P.Xfrm

/-!
# SAs and policies over whole runs (`agent/src/ipsec.rs`)

All operations of `IpsecManager`: `add_state`, `add_policy`, `delete_state`, `delete_policy`,
`add_peer`, `rotate_key`, and the tick of `ipsec_loop`, in any order.  The agent itself only starts
`ipsec_loop`; the other operations have no caller outside the file.

An operation is a sequence of `ip xfrm` commands.  What runs them is a parameter, with a state of
any type and any outcome of a command, and what a result needs of it is a hypothesis about one
command (`KeepsSas`, `PolicyLaws`).  Which commands an operation runs is said once
(`commands_of_step`), and the rest follows from it.

`delete_state` names the SPI of the manager, which a rotation has changed:

    an SA of an earlier SPI stays, whatever is deleted        (stale_sa_stays)

A policy asks for SAs with its `reqid`, and that is the SPI at the time it was added:

    a policy from before a rotation cannot be replaced by adding it again, and selects
      SAs of the old key only                                (policy_keeps_old_sa)

The statements hold for fewer than 2³² rotations; then the SPI is back.
-/

namespace NomadP2P.Ipsec.Xfrm

/-! ## Algorithm -/

/-- The `ip xfrm` commands of the file. -/
inductive Command
  | stateAdd (sa : Sa)
  | stateDel (src dst : String) (spi : UInt32)
  | policyAdd (p : Policy)
  | policyDel (srcSubnet dstSubnet dir : String)

/-- What runs the commands: the state behind one and how `status().await` ends, with an error
or with whether the command succeeded.  `states` and `policies` are what is installed. -/
structure Kernel (σ : Type) where
  exec : σ → Command → σ × Except String Bool
  states : σ → Set Sa
  policies : σ → Set Policy

section
variable {σ : Type} (X : Hex) (K : Kernel σ)

/-- A command with the test of its exit status. -/
def runOrBail (k : σ) (cmd : Command) (msg : String) : σ × Except String Unit :=
  match K.exec k cmd with
  | (k, .error e) => (k, .error e)
  | (k, .ok success) => (k, if success then .ok () else .error msg)

/-- Two commands, each with its error message; the second runs if the first has succeeded. -/
def runBoth (k : σ) (first second : Command × String) : σ × Except String Unit :=
  match runOrBail K k first.1 first.2 with
  | (k, .error e) => (k, .error e)
  | (k, .ok ()) => runOrBail K k second.1 second.2

/-- `add_state`. -/
def runAddState (m : IpsecManager) (k : σ) (src dst : String) : σ × Except String Unit :=
  runBoth K k
    (.stateAdd (m.sa X src dst), "ip xfrm state add (in) failed for " ++ src ++ " -> " ++ dst)
    (.stateAdd (m.sa X dst src), "ip xfrm state add (out) failed for " ++ src ++ " -> " ++ dst)

/-- `add_policy`. -/
def runAddPolicy (m : IpsecManager) (k : σ) (srcSubnet dstSubnet tunnelSrc tunnelDst : String) :
    σ × Except String Unit :=
  runBoth K k
    (.policyAdd (outPolicy m srcSubnet dstSubnet tunnelSrc tunnelDst),
      "ip xfrm policy add (out) failed for " ++ srcSubnet ++ " -> " ++ dstSubnet)
    (.policyAdd (inPolicy m srcSubnet dstSubnet tunnelSrc tunnelDst),
      "ip xfrm policy add (in) failed for " ++ dstSubnet ++ " -> " ++ srcSubnet)

/-- `delete_state`; how the commands end is not looked at. -/
def runDeleteState (m : IpsecManager) (k : σ) (src dst : String) : σ :=
  (K.exec (K.exec k (.stateDel src dst m.spi)).1 (.stateDel dst src m.spi)).1

/-- The loop of `rotate_key`; a failed `add_state` is logged. -/
def reapply (m : IpsecManager) (k : σ) : σ :=
  m.peers.foldl (fun k p => (runAddState X K m k p.1 p.2).1) k

/-- The manager and what its commands run on. -/
structure XfrmState (σ : Type) where
  mgr : IpsecManager
  kernel : σ

inductive XfrmOp
  | addPeer (src dst : String)
  | addState (src dst : String)
  | addPolicy (srcSubnet dstSubnet tunnelSrc tunnelDst : String)
  | deleteState (src dst : String)
  | deletePolicy (srcSubnet dstSubnet dir : String)
  | rotateKey (generated : List UInt8)
  | tick (generated : List UInt8)

def xfrmStep (s : XfrmState σ) : XfrmOp → XfrmState σ
  | .addPeer src dst => { s with mgr := s.mgr.addPeer src dst }
  | .addState src dst => { s with kernel := (runAddState X K s.mgr s.kernel src dst).1 }
  | .addPolicy srcSubnet dstSubnet tunnelSrc tunnelDst =>
    { s with kernel := (runAddPolicy K s.mgr s.kernel srcSubnet dstSubnet tunnelSrc tunnelDst).1 }
  | .deleteState src dst => { s with kernel := runDeleteState K s.mgr s.kernel src dst }
  | .deletePolicy srcSubnet dstSubnet dir =>
    { s with kernel := (K.exec s.kernel (.policyDel srcSubnet dstSubnet dir)).1 }
  | .rotateKey generated =>
    ⟨s.mgr.renew generated, reapply X K (s.mgr.renew generated) s.kernel⟩
  | .tick generated => { s with mgr := s.mgr.renew generated }

def xfrmMachine : Machine (XfrmState σ) XfrmOp Unit where
  step s op := (xfrmStep X K s op, ())

end

def XfrmOp.rotates : XfrmOp → Bool
  | .rotateKey _ => true
  | .tick _ => true
  | _ => false

def rotations (ops : List XfrmOp) : Nat := ops.countP XfrmOp.rotates

/-! ## Laws -/

section
variable {σ : Type} (K : Kernel σ)

/-- An SA goes only by a `state del` with its SPI. -/
def KeepsSas : Prop :=
  ∀ k cmd, ∀ sa ∈ K.states k, (∀ src dst, cmd ≠ .stateDel src dst sa.spi) → sa ∈ K.states (K.exec k cmd).1

/-- What a policy rests on.  `policyId` is what policies are told apart by, `names` says which
policies a `policy del` means, and `selects` which SAs a policy takes; a `reqid` of 0 asks for
none in particular. -/
structure PolicyLaws {κ : Type} (policyId : Policy → κ) (names : String → String → String → Policy → Prop)
    (selects : Policy → Sa → Prop) : Prop where
  sa_added : ∀ k cmd, ∀ sa ∈ K.states (K.exec k cmd).1, sa ∈ K.states k ∨ cmd = .stateAdd sa
  policy_added : ∀ k cmd, ∀ p ∈ K.policies (K.exec k cmd).1, p ∈ K.policies k ∨
    cmd = .policyAdd p ∧ ∀ q ∈ K.policies k, policyId q ≠ policyId p
  policy_kept : ∀ k cmd, ∀ p ∈ K.policies k,
    (∀ srcSubnet dstSubnet dir, names srcSubnet dstSubnet dir p →
      cmd ≠ .policyDel srcSubnet dstSubnet dir) → p ∈ K.policies (K.exec k cmd).1
  selects_reqid : ∀ p sa, p.reqid ≠ 0 → selects p sa → sa.reqid = p.reqid

end

/-! ## Lemmas -/

/-! ### The commands of an operation -/

section
variable {σ : Type} (X : Hex) (K : Kernel σ)

/-- Commands, one after the other. -/
def Kernel.machine : Machine σ Command (Except String Bool) where
  step := K.exec

theorem runOrBail_fst (k : σ) (cmd : Command) (msg : String) :
    (runOrBail K k cmd msg).1 = (K.exec k cmd).1 := by
  unfold runOrBail
  split <;> next heq => rw [heq]

theorem runBoth_commands (k : σ) (first second : Command × String) :
    ∃ cmds, (∀ cmd ∈ cmds, cmd = first.1 ∨ cmd = second.1) ∧
      (runBoth K k first second).1 = K.machine.after k cmds := by
  have hfirst := runOrBail_fst K k first.1 first.2
  unfold runBoth
  split
  · next heq =>
    refine ⟨[first.1], fun cmd hcmd => .inl (List.mem_singleton.mp hcmd), ?_⟩
    rw [heq] at hfirst
    exact hfirst
  · next heq =>
    refine ⟨[first.1, second.1], fun cmd hcmd => by simpa using hcmd, ?_⟩
    rw [heq] at hfirst
    rw [runOrBail_fst]
    exact congrArg (fun k => (K.exec k second.1).1) hfirst

/-- A command that an operation runs, with the SPI of the manager behind it. -/
def Command.From (spi : UInt32) (op : XfrmOp) : Command → Prop
  | .stateAdd sa => sa.spi = spi ∧ sa.reqid = spi
  | .stateDel _ _ named => named = spi ∧ op.rotates = false
  | .policyAdd p => p.reqid = spi
  | .policyDel srcSubnet dstSubnet dir => op = .deletePolicy srcSubnet dstSubnet dir

theorem addState_commands (op : XfrmOp) (m : IpsecManager) (k : σ) (src dst : String) :
    ∃ cmds, (∀ cmd ∈ cmds, cmd.From m.spi op) ∧
      (runAddState X K m k src dst).1 = K.machine.after k cmds := by
  obtain ⟨cmds, hcmds, hafter⟩ := runBoth_commands K k (.stateAdd (m.sa X src dst), _)
    (.stateAdd (m.sa X dst src), _)
  refine ⟨cmds, fun cmd hcmd => ?_, hafter⟩
  rcases hcmds cmd hcmd with rfl | rfl
  · exact ⟨rfl, rfl⟩
  · exact ⟨rfl, rfl⟩

theorem reapply_commands (op : XfrmOp) (m : IpsecManager) (k : σ) :
    ∃ cmds, (∀ cmd ∈ cmds, cmd.From m.spi op) ∧ reapply X K m k = K.machine.after k cmds := by
  unfold reapply
  generalize m.peers = peers
  induction peers generalizing k with
  | nil => exact ⟨[], fun cmd hcmd => absurd hcmd List.not_mem_nil, rfl⟩
  | cons p peers ih =>
    obtain ⟨first, hfirst, hk⟩ := addState_commands X K op m k p.1 p.2
    obtain ⟨rest, hrest, hafter⟩ := ih (runAddState X K m k p.1 p.2).1
    refine ⟨first ++ rest, fun cmd hcmd => ?_, ?_⟩
    · exact (List.mem_append.mp hcmd).elim (hfirst cmd) (hrest cmd)
    · rw [List.foldl_cons, hafter, hk, Machine.after_append]

theorem spi_addPeer (m : IpsecManager) (src dst : String) : (m.addPeer src dst).spi = m.spi := by
  unfold IpsecManager.addPeer
  split
  · rfl
  · rfl

/-- **What an operation does to the kernel.** -/
theorem commands_of_step (s : XfrmState σ) (op : XfrmOp) :
    ∃ cmds, (∀ cmd ∈ cmds, cmd.From (xfrmStep X K s op).mgr.spi op) ∧
      (xfrmStep X K s op).kernel = K.machine.after s.kernel cmds := by
  cases op with
  | addPeer src dst => exact ⟨[], fun cmd hcmd => absurd hcmd List.not_mem_nil, rfl⟩
  | addState src dst => exact addState_commands X K _ s.mgr s.kernel src dst
  | addPolicy srcSubnet dstSubnet tunnelSrc tunnelDst =>
    obtain ⟨cmds, hcmds, hafter⟩ := runBoth_commands K s.kernel
      (.policyAdd (outPolicy s.mgr srcSubnet dstSubnet tunnelSrc tunnelDst), _)
      (.policyAdd (inPolicy s.mgr srcSubnet dstSubnet tunnelSrc tunnelDst), _)
    refine ⟨cmds, fun cmd hcmd => ?_, hafter⟩
    rcases hcmds cmd hcmd with rfl | rfl
    · exact rfl
    · exact rfl
  | deleteState src dst =>
    refine ⟨[.stateDel src dst s.mgr.spi, .stateDel dst src s.mgr.spi], fun cmd hcmd => ?_, rfl⟩
    rcases List.mem_pair.mp hcmd with rfl | rfl
    · exact ⟨rfl, rfl⟩
    · exact ⟨rfl, rfl⟩
  | deletePolicy srcSubnet dstSubnet dir =>
    refine ⟨[.policyDel srcSubnet dstSubnet dir], fun cmd hcmd => ?_, rfl⟩
    obtain rfl := List.mem_singleton.mp hcmd
    exact rfl
  | rotateKey generated => exact reapply_commands X K _ (s.mgr.renew generated) s.kernel
  | tick generated => exact ⟨[], fun cmd hcmd => absurd hcmd List.not_mem_nil, rfl⟩

/-! ### The SPI -/

/-- The SPI counts the rotations. -/
theorem spi_step (s : XfrmState σ) (op : XfrmOp) :
    (xfrmStep X K s op).mgr.spi = s.mgr.spi + if op.rotates then 1 else 0 := by
  cases op with
  | addPeer src dst => exact (spi_addPeer s.mgr src dst).trans (UInt32.add_zero _).symm
  | addState src dst => exact (UInt32.add_zero _).symm
  | addPolicy srcSubnet dstSubnet tunnelSrc tunnelDst => exact (UInt32.add_zero _).symm
  | deleteState src dst => exact (UInt32.add_zero _).symm
  | deletePolicy srcSubnet dstSubnet dir => exact (UInt32.add_zero _).symm
  | rotateKey generated => rfl
  | tick generated => rfl

theorem rotations_cons (op : XfrmOp) (ops : List XfrmOp) :
    rotations (op :: ops) = (if op.rotates then 1 else 0) + rotations ops :=
  List.countP_cons.trans (Nat.add_comm _ _)

theorem spi_after (ops : List XfrmOp) :
    ∀ s : XfrmState σ, ((xfrmMachine X K).after s ops).mgr.spi =
      s.mgr.spi + UInt32.ofNat (rotations ops) := by
  induction ops with
  | nil => intro s; exact (UInt32.add_zero _).symm
  | cons op ops ih =>
    intro s
    rw [Machine.after_cons, ih, rotations_cons]
    show (xfrmStep X K s op).mgr.spi + _ = _
    rw [spi_step, UInt32.ofNat_add, UInt32.add_assoc]
    cases op.rotates with
    | true => rfl
    | false => rfl

/-- Between one rotation and the 2³²-th the SPI is another one. -/
theorem spi_ne_of_rotations (spi : UInt32) (n : Nat) (h0 : 0 < n) (h : n < 2 ^ 32) :
    spi + UInt32.ofNat n ≠ spi := by
  intro heq
  have hval := congrArg UInt32.toNat heq
  rw [UInt32.toNat_add, UInt32.toNat_ofNat_of_lt' h] at hval
  have hlt := spi.toNat_lt
  omega

/-! ### SAs -/

/-- An SA of another SPI survives an operation, and a rotation deletes none. -/
theorem sa_kept_step (hK : KeepsSas K) (s : XfrmState σ) (op : XfrmOp) (sa : Sa)
    (hsa : sa ∈ K.states s.kernel) (h : sa.spi ≠ s.mgr.spi ∨ op.rotates = true) :
    sa ∈ K.states (xfrmStep X K s op).kernel := by
  obtain ⟨cmds, hcmds, hafter⟩ := commands_of_step X K s op
  rw [hafter]
  refine K.machine.inv_after (fun k => sa ∈ K.states k) cmds (fun k cmd hcmd hk => ?_) s.kernel hsa
  refine hK k cmd sa hk ?_
  rintro src dst rfl
  obtain ⟨hspi, hop⟩ := hcmds _ hcmd
  rw [spi_step, hop] at hspi
  rcases h with h | h
  · exact h (hspi.trans (UInt32.add_zero _))
  · rw [hop] at h
    cases h

/-- An SA whose SPI the manager had some rotations ago. -/
theorem sa_stays (hK : KeepsSas K) (ops : List XfrmOp) :
    ∀ (s : XfrmState σ) (sa : Sa) (n : Nat), sa ∈ K.states s.kernel →
      s.mgr.spi = sa.spi + UInt32.ofNat n → 0 < n → n + rotations ops < 2 ^ 32 →
      sa ∈ K.states ((xfrmMachine X K).after s ops).kernel := by
  induction ops with
  | nil => intro s sa n hsa _ _ _; exact hsa
  | cons op ops ih =>
    intro s sa n hsa hspi h0 hlt
    rw [rotations_cons] at hlt
    have hne : sa.spi ≠ s.mgr.spi := by
      rw [hspi]
      exact (spi_ne_of_rotations sa.spi n h0 (by omega)).symm
    rw [Machine.after_cons]
    refine ih _ sa (n + if op.rotates then 1 else 0) (sa_kept_step X K hK s op sa hsa (.inl hne)) ?_
      (by omega) (by omega)
    show (xfrmStep X K s op).mgr.spi = _
    rw [spi_step, hspi, UInt32.ofNat_add, UInt32.add_assoc]
    cases op.rotates with
    | true => rfl
    | false => rfl

/-! ### Policies -/

variable {κ : Type} {policyId : Policy → κ} {names : String → String → String → Policy → Prop}
  {selects : Policy → Sa → Prop}

/-- SAs carry their SPI as `reqid`, and what policies are told apart by has one policy. -/
structure Sound (policyId : Policy → κ) (k : σ) : Prop where
  reqid : ∀ sa ∈ K.states k, sa.reqid = sa.spi
  policies : ∀ p ∈ K.policies k, ∀ q ∈ K.policies k, policyId p = policyId q → p = q

theorem sound_exec (L : PolicyLaws K policyId names selects) (spi : UInt32) (op : XfrmOp) (k : σ)
    (cmd : Command) (hcmd : cmd.From spi op) (h : Sound K policyId k) :
    Sound K policyId (K.exec k cmd).1 where
  reqid sa hsa := by
    rcases L.sa_added k cmd sa hsa with hsa | rfl
    · exact h.reqid sa hsa
    · rw [hcmd.2, hcmd.1]
  policies p hp q hq hsame := by
    rcases L.policy_added k cmd p hp with hp | ⟨hadd, hnew⟩
    · rcases L.policy_added k cmd q hq with hq | ⟨-, hnew⟩
      · exact h.policies p hp q hq hsame
      · exact absurd hsame (hnew p hp)
    · rcases L.policy_added k cmd q hq with hq | ⟨hadd', -⟩
      · exact absurd hsame.symm (hnew q hq)
      · rw [hadd] at hadd'
        exact Command.policyAdd.inj hadd'

theorem sound_after (L : PolicyLaws K policyId names selects) (s : XfrmState σ) (ops : List XfrmOp)
    (h : Sound K policyId s.kernel) : Sound K policyId ((xfrmMachine X K).after s ops).kernel := by
  refine (xfrmMachine X K).inv_after (fun s => Sound K policyId s.kernel) ops (fun s op _ hs => ?_) s h
  obtain ⟨cmds, hcmds, hafter⟩ := commands_of_step X K s op
  show Sound K policyId (xfrmStep X K s op).kernel
  rw [hafter]
  exact K.machine.inv_after (Sound K policyId) cmds
    (fun k cmd hcmd hk => sound_exec K L _ op k cmd (hcmds cmd hcmd) hk) s.kernel hs

/-- The operation asks to delete this policy. -/
def XfrmOp.deletes (names : String → String → String → Policy → Prop) (p : Policy) : XfrmOp → Prop
  | .deletePolicy srcSubnet dstSubnet dir => names srcSubnet dstSubnet dir p
  | _ => False

/-- A policy stays until it is deleted. -/
theorem policy_stays (L : PolicyLaws K policyId names selects) (p : Policy) (s : XfrmState σ)
    (ops : List XfrmOp) (hp : p ∈ K.policies s.kernel) (hkeep : ∀ op ∈ ops, ¬ op.deletes names p) :
    p ∈ K.policies ((xfrmMachine X K).after s ops).kernel := by
  refine (xfrmMachine X K).inv_after (fun s => p ∈ K.policies s.kernel) ops (fun s op hop hs => ?_) s hp
  obtain ⟨cmds, hcmds, hafter⟩ := commands_of_step X K s op
  show p ∈ K.policies (xfrmStep X K s op).kernel
  rw [hafter]
  refine K.machine.inv_after (fun k => p ∈ K.policies k) cmds (fun k cmd hcmd hk => ?_) s.kernel hs
  refine L.policy_kept k cmd p hk ?_
  rintro srcSubnet dstSubnet dir hnames rfl
  have hdel : op = .deletePolicy srcSubnet dstSubnet dir := hcmds _ hcmd
  subst hdel
  exact hkeep _ hop hnames

/-! ## Main theorems -/

/-- **Old SAs stay.**  An SA with the manager's SPI, in any state: once the manager has rotated,
nothing that is done removes it, `delete_state` for its pair included, in fewer than 2³²
rotations. -/
theorem stale_sa_stays (hK : KeepsSas K) (s : XfrmState σ) (sa : Sa) (hsa : sa ∈ K.states s.kernel)
    (hspi : sa.spi = s.mgr.spi) (op : XfrmOp) (hop : op.rotates = true) (ops : List XfrmOp)
    (hlt : rotations (op :: ops) < 2 ^ 32) :
    sa ∈ K.states ((xfrmMachine X K).after s (op :: ops)).kernel := by
  rw [rotations_cons, if_pos hop] at hlt
  rw [Machine.after_cons]
  refine sa_stays X K hK ops _ sa 1 (sa_kept_step X K hK s op sa hsa (.inr hop)) ?_ (by decide) hlt
  show (xfrmStep X K s op).mgr.spi = _
  rw [spi_step, if_pos hop, hspi]
  rfl

/-- **A policy keeps the old SAs.**  A policy that the manager's SPI is in and not 0, in any run
from an empty kernel: behind a rotation and whatever follows but its own deletion, in fewer than 2³²
rotations, it is still there and the only one of its id, and no SA it selects has the manager's
SPI. -/
theorem policy_keeps_old_sa (L : PolicyLaws K policyId names selects) (s : XfrmState σ)
    (hstates : K.states s.kernel = ∅) (hpolicies : K.policies s.kernel = ∅) (pre : List XfrmOp)
    (p : Policy) (hp : p ∈ K.policies ((xfrmMachine X K).after s pre).kernel)
    (hspi : p.reqid = ((xfrmMachine X K).after s pre).mgr.spi) (hzero : p.reqid ≠ 0) (op : XfrmOp)
    (hop : op.rotates = true) (ops : List XfrmOp) (hlt : rotations (op :: ops) < 2 ^ 32)
    (hkeep : ∀ o ∈ op :: ops, ¬ o.deletes names p) :
    let t := (xfrmMachine X K).after s (pre ++ op :: ops)
    p ∈ K.policies t.kernel ∧ (∀ q ∈ K.policies t.kernel, policyId q = policyId p → q = p) ∧
      ∀ sa ∈ K.states t.kernel, selects p sa → sa.spi = p.reqid ∧ sa.spi ≠ t.mgr.spi := by
  intro t
  have hempty : Sound K policyId s.kernel := by
    refine ⟨fun sa hsa => ?_, fun q hq => ?_⟩
    · rw [hstates] at hsa
      exact absurd hsa (Set.notMem_empty sa)
    · rw [hpolicies] at hq
      exact absurd hq (Set.notMem_empty q)
  have ht : t = (xfrmMachine X K).after ((xfrmMachine X K).after s pre) (op :: ops) :=
    (xfrmMachine X K).after_append s pre (op :: ops)
  have hsound : Sound K policyId t.kernel := sound_after X K L s (pre ++ op :: ops) hempty
  have hmem : p ∈ K.policies t.kernel := by
    rw [ht]
    exact policy_stays X K L p _ (op :: ops) hp hkeep
  have hspi' : t.mgr.spi = p.reqid + UInt32.ofNat (rotations (op :: ops)) := by
    rw [ht, spi_after, hspi]
  have hpos : 0 < rotations (op :: ops) := List.countP_pos_iff.mpr ⟨op, List.mem_cons_self, hop⟩
  refine ⟨hmem, fun q hq hsame => hsound.policies q hq p hmem hsame, fun sa hsa hsel => ?_⟩
  have hreqid : sa.spi = p.reqid := by
    rw [← hsound.reqid sa hsa]
    exact L.selects_reqid p sa hzero hsel
  refine ⟨hreqid, ?_⟩
  rw [hreqid, hspi']
  exact (spi_ne_of_rotations p.reqid _ hpos hlt).symm

end

/-! ### Tables -/

/-- The kernel of `add_state` and `add_policy` as sets, with what becomes of the next commands; the
rest run. -/
structure Tables where
  states : Finset Sa
  policies : Finset Policy
  attempts : List Attempt := []

/-- `ip xfrm … del`: what is found is taken out. -/
def xfrmDel {E : Type} (table : Finset E) (found : E → Bool) : Attempt → Finset E × Except String Bool
  | .ioError e => (table, .error e)
  | .fails => (table, .ok false)
  | .runs => (table.filter fun x => found x = false, .ok true)

def Direction.text : Direction → String
  | .inward => "in"
  | .outward => "out"

/-- The texts of a `policy del` are those of the policy. -/
def namesPolicy (srcSubnet dstSubnet dir : String) (p : Policy) : Bool :=
  p.src = srcSubnet && p.dst = dstSubnet && p.dir.text = dir

def tableExec (t : Tables) (cmd : Command) : Tables × Except String Bool :=
  let attempt := t.attempts.headD .runs
  let rest := t.attempts.tail
  match cmd with
  | .stateAdd sa =>
    let r := xfrmAdd kernelSaId t.states sa attempt
    (⟨r.1, t.policies, rest⟩, r.2)
  | .stateDel _ dst spi =>
    let r := xfrmDel t.states (fun sa => kernelSaId sa = (dst, spi)) attempt
    (⟨r.1, t.policies, rest⟩, r.2)
  | .policyAdd p =>
    let r := xfrmAdd kernelPolicyId t.policies p attempt
    (⟨t.states, r.1, rest⟩, r.2)
  | .policyDel srcSubnet dstSubnet dir =>
    let r := xfrmDel t.policies (namesPolicy srcSubnet dstSubnet dir) attempt
    (⟨t.states, r.1, rest⟩, r.2)

def tableKernel : Kernel Tables where
  exec := tableExec
  states t := t.states
  policies t := t.policies

/-- A policy takes SAs with the addresses and the `reqid` of its template, or on the way in with any
for 0. -/
def Policy.Selects (p : Policy) (sa : Sa) : Prop :=
  sa.src = p.tmplSrc ∧ sa.dst = p.tmplDst ∧ (sa.reqid = p.reqid ∨ p.dir = .inward ∧ p.reqid = 0)

theorem runOrBail_stateAdd (states : Finset Sa) (policies : Finset Policy) (attempt : Attempt)
    (rest : List Attempt) (sa : Sa) (msg : String) :
    runOrBail tableKernel ⟨states, policies, attempt :: rest⟩ (.stateAdd sa) msg =
      (⟨(addOrBail kernelSaId states sa msg attempt).1, policies, rest⟩,
        (addOrBail kernelSaId states sa msg attempt).2) := by
  have hexec : tableKernel.exec ⟨states, policies, attempt :: rest⟩ (.stateAdd sa) =
      (⟨(xfrmAdd kernelSaId states sa attempt).1, policies, rest⟩,
        (xfrmAdd kernelSaId states sa attempt).2) := rfl
  unfold runOrBail addOrBail
  rw [hexec]
  cases xfrmAdd kernelSaId states sa attempt with
  | mk states' result => cases result <;> rfl

/-- On tables `add_state` is the one on sets. -/
theorem runAddState_tables (X : Hex) (m : IpsecManager) (t : Tables) (src dst : String)
    (first second : Attempt) (rest : List Attempt) (ht : t.attempts = first :: second :: rest) :
    ((runAddState X tableKernel m t src dst).1.states,
        (runAddState X tableKernel m t src dst).2) =
      addState X kernelSaId m t.states src dst (first, second) := by
  obtain ⟨states, policies, attempts⟩ := t
  subst ht
  unfold runAddState runBoth addState addBoth
  rw [runOrBail_stateAdd]
  cases addOrBail kernelSaId states (m.sa X src dst) _ first with
  | mk states' result =>
    cases result with
    | error e => rfl
    | ok _ =>
      simp only
      rw [runOrBail_stateAdd]

/-- The entries behind `ip xfrm … add` are those before and perhaps the new one. -/
theorem mem_xfrmAdd {E κ : Type} [DecidableEq E] [DecidableEq κ] (ident : E → κ) (table : Finset E)
    (entry : E) (attempt : Attempt) :
    table ⊆ (xfrmAdd ident table entry attempt).1 ∧
      ∀ x ∈ (xfrmAdd ident table entry attempt).1, x ∈ table ∨
        x = entry ∧ ∀ y ∈ table, ident y ≠ ident entry := by
  have hsame : table ⊆ table ∧ ∀ x ∈ table, x ∈ table ∨ x = entry ∧ ∀ y ∈ table, ident y ≠ ident entry :=
    ⟨Finset.Subset.refl _, fun x hx => .inl hx⟩
  cases attempt with
  | ioError e => exact hsame
  | fails => exact hsame
  | runs =>
    unfold xfrmAdd
    simp only
    split
    · exact hsame
    · next hnew =>
      refine ⟨Finset.subset_insert _ _, fun x hx => ?_⟩
      rcases Finset.mem_insert.mp hx with hx | hx
      · exact .inr ⟨hx, fun y hy h => hnew ⟨y, hy, h⟩⟩
      · exact .inl hx

theorem mem_xfrmDel {E : Type} (table : Finset E) (found : E → Bool) (attempt : Attempt) :
    (xfrmDel table found attempt).1 ⊆ table ∧
      ∀ x ∈ table, found x = false → x ∈ (xfrmDel table found attempt).1 := by
  cases attempt with
  | ioError e => exact ⟨Finset.Subset.refl _, fun x hx _ => hx⟩
  | fails => exact ⟨Finset.Subset.refl _, fun x hx _ => hx⟩
  | runs => exact ⟨Finset.filter_subset _ _, fun x hx hx' => Finset.mem_filter.mpr ⟨hx, hx'⟩⟩

theorem keepsSas_tableKernel : KeepsSas tableKernel := by
  intro t cmd sa hsa hcmd
  cases cmd with
  | stateAdd sa' => exact (mem_xfrmAdd kernelSaId t.states sa' _).1 hsa
  | stateDel src dst spi =>
    refine (mem_xfrmDel t.states _ _).2 sa hsa (decide_eq_false fun hid => ?_)
    exact hcmd src dst (congrArg (Command.stateDel src dst) (congrArg Prod.snd hid).symm)
  | policyAdd p => exact hsa
  | policyDel srcSubnet dstSubnet dir => exact hsa

theorem policyLaws_tableKernel :
    PolicyLaws tableKernel kernelPolicyId (fun src dst dir p => namesPolicy src dst dir p = true)
      Policy.Selects where
  sa_added t cmd sa hsa := by
    cases cmd with
    | stateAdd sa' =>
      rcases (mem_xfrmAdd kernelSaId t.states sa' _).2 sa hsa with hsa | ⟨rfl, -⟩
      · exact .inl hsa
      · exact .inr rfl
    | stateDel src dst spi => exact .inl ((mem_xfrmDel t.states _ _).1 hsa)
    | policyAdd p => exact .inl hsa
    | policyDel srcSubnet dstSubnet dir => exact .inl hsa
  policy_added t cmd p hp := by
    cases cmd with
    | stateAdd sa => exact .inl hp
    | stateDel src dst spi => exact .inl hp
    | policyAdd q =>
      rcases (mem_xfrmAdd kernelPolicyId t.policies q _).2 p hp with hp | ⟨rfl, hnew⟩
      · exact .inl hp
      · exact .inr ⟨rfl, hnew⟩
    | policyDel srcSubnet dstSubnet dir => exact .inl ((mem_xfrmDel t.policies _ _).1 hp)
  policy_kept t cmd p hp hcmd := by
    cases cmd with
    | stateAdd sa => exact hp
    | stateDel src dst spi => exact hp
    | policyAdd q => exact (mem_xfrmAdd kernelPolicyId t.policies q _).1 hp
    | policyDel srcSubnet dstSubnet dir =>
      refine (mem_xfrmDel t.policies _ _).2 p hp (Bool.eq_false_iff.mpr fun hnames => ?_)
      exact hcmd srcSubnet dstSubnet dir hnames rfl
  selects_reqid _ _ hzero h := h.2.2.resolve_right fun hany => hzero hany.2

/-! ### A tunnel and a rotation -/

/-- A peer with its SAs and policies. -/
def tunnelUp : List XfrmOp :=
  [.addPeer "192.0.2.1" "192.0.2.2", .addState "192.0.2.1" "192.0.2.2",
    .addPolicy "10.1.0.0/24" "10.2.0.0/24" "192.0.2.1" "192.0.2.2"]

/-- An attempt to take the old SAs away and to bring the policies up anew. -/
def deleteAndRenew : List XfrmOp :=
  [.deleteState "192.0.2.1" "192.0.2.2", .addPolicy "10.1.0.0/24" "10.2.0.0/24" "192.0.2.1" "192.0.2.2"]

def hourly : XfrmOp := .rotateKey (List.replicate 32 7)

def noTunnel : XfrmState Tables := ⟨someManager, ∅, ∅, []⟩

/-- The tunnel before the rotation. -/
def upState : XfrmState Tables := (xfrmMachine plainHex tableKernel).after noTunnel tunnelUp

theorem upState_sa : someManager.sa plainHex "192.0.2.1" "192.0.2.2" ∈ upState.kernel.states := by
  decide +kernel

theorem upState_policy :
    outPolicy someManager "10.1.0.0/24" "10.2.0.0/24" "192.0.2.1" "192.0.2.2" ∈
      upState.kernel.policies := by
  decide +kernel

/-- The SA from before the rotation outlives it and its `delete_state`. -/
theorem rotated_sa_stays :
    someManager.sa plainHex "192.0.2.1" "192.0.2.2" ∈
      ((xfrmMachine plainHex tableKernel).after upState (hourly :: deleteAndRenew)).kernel.states :=
  stale_sa_stays plainHex tableKernel keepsSas_tableKernel upState _ upState_sa (by decide +kernel) hourly
    rfl deleteAndRenew (by decide)

/-- The policy from before the rotation is there, alone, and selects nothing new. -/
theorem rotated_policy_stays :
    let p := outPolicy someManager "10.1.0.0/24" "10.2.0.0/24" "192.0.2.1" "192.0.2.2"
    let t := (xfrmMachine plainHex tableKernel).after noTunnel (tunnelUp ++ hourly :: deleteAndRenew)
    p ∈ t.kernel.policies ∧ (∀ q ∈ t.kernel.policies, kernelPolicyId q = kernelPolicyId p → q = p) ∧
      ∀ sa ∈ t.kernel.states, p.Selects sa → sa.spi = p.reqid ∧ sa.spi ≠ t.mgr.spi := by
  refine policy_keeps_old_sa plainHex tableKernel policyLaws_tableKernel noTunnel Finset.coe_empty
    Finset.coe_empty tunnelUp _ upState_policy (by decide +kernel) (by decide +kernel) hourly rfl
    deleteAndRenew (by decide) ?_
  intro o ho
  simp only [deleteAndRenew, List.mem_cons, List.not_mem_nil, or_false] at ho
  rcases ho with rfl | rfl | rfl
  · exact fun h => h
  · exact fun h => h
  · exact fun h => h

end NomadP2P.Ipsec.Xfrm
