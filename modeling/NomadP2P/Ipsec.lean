import NomadP2P.Lib.Bytes
import NomadP2P.Lib.Text
import NomadP2P.Lib.Machine

/-!
# IPsec key rotation (`agent/src/ipsec.rs`)

The manager's SPI, key and peers, next to the security associations (SAs) that its
`ip xfrm` commands have installed.  Whether a command succeeds is an input.  Both ways
to rotate take the next SPI and a new key: `rotate_key` then installs new SAs for
all peers, a tick of `ipsec_loop` installs none.  Neither removes an SA, so

    each peer has one SA a direction, with the current SPI and key, after every operation
      ↔ every rotation is made without a peer                          (inStep_iff_idle)
-/

namespace NomadP2P.Ipsec

open Bytes Text

/-! ## Algorithm -/

/-- The crate `hex`. -/
structure Hex where
  encode : List UInt8 → String
  decode : String → Option (List UInt8)
  encode_inj : ∀ bs cs, encode bs = encode cs → bs = cs

structure IpsecManager where
  spi : UInt32
  key : List UInt8
  peers : List (String × String)

/-- An SA as the arguments of `ip xfrm state add` describe it. -/
structure Sa where
  src : String
  dst : String
  spi : UInt32
  reqid : UInt32
  auth : String
  enc : String
deriving DecidableEq, Repr

/-- `ip xfrm state add`. -/
def xfrmStateAdd (sadb : List Sa) (sa : Sa) (ok : Bool) : List Sa × Bool :=
  if ok then (sa :: sadb, true) else (sadb, false)

section
variable (X : Hex)

namespace IpsecManager

/-- `IpsecManager::new`; `generated` is what `generate_key` returns. -/
def new (spi : UInt32) (key : String) (generated : List UInt8) : IpsecManager where
  spi := spi
  key :=
    if key.isEmpty then generated
    else match X.decode key with
      | some decoded => decoded
      | none => utf8 key.toList
  peers := []

/-- The SA `add_state` asks for. -/
def sa (m : IpsecManager) (src dst : String) : Sa :=
  ⟨src, dst, m.spi, m.spi, X.encode m.key, X.encode m.key⟩

/-- `add_state`: the SAs and whether the result is `Ok`.  The second command runs only if
the first has succeeded. -/
def addState (m : IpsecManager) (sadb : List Sa) (src dst : String) (ok : Bool × Bool) :
    List Sa × Bool :=
  let r := xfrmStateAdd sadb (m.sa X src dst) ok.1
  if r.2 then xfrmStateAdd r.1 (m.sa X dst src) ok.2 else r

/-- `add_peer`. -/
def addPeer (m : IpsecManager) (src dst : String) : IpsecManager :=
  if m.peers.contains (src, dst) then m else { m with peers := m.peers ++ [(src, dst)] }

/-- The new SPI and key of a rotation: all of a tick of `ipsec_loop`. -/
def renew (m : IpsecManager) (generated : List UInt8) : IpsecManager :=
  { m with spi := m.spi + 1, key := generated }

/-- `rotate_key`.  A failed `add_state` is logged, and the loop goes on. -/
def rotateKey (m : IpsecManager) (sadb : List Sa) (generated : List UInt8)
    (ok : Nat → Bool × Bool) : IpsecManager × List Sa :=
  let m := m.renew generated
  (m, m.peers.zipIdx.foldl (fun sadb p => (m.addState X sadb p.1.1 p.1.2 (ok p.2)).1) sadb)

end IpsecManager

/-! ## Runs -/

/-- The manager and the kernel. -/
structure IpsecState where
  mgr : IpsecManager
  sadb : List Sa

inductive IpsecOp
  | addPeer (src dst : String)
  | rotateKey (generated : List UInt8)
  | tick (generated : List UInt8)
deriving DecidableEq, Repr

/-- `add_peer` with `add_state`, `rotate_key`, and a tick of `ipsec_loop`; all commands
succeed. -/
def ipsecStep (s : IpsecState) : IpsecOp → IpsecState
  | .addPeer src dst =>
    let m := s.mgr.addPeer src dst
    ⟨m, (m.addState X s.sadb src dst (true, true)).1⟩
  | .rotateKey generated =>
    let r := s.mgr.rotateKey X s.sadb generated fun _ => (true, true)
    ⟨r.1, r.2⟩
  | .tick generated => { s with mgr := s.mgr.renew generated }

def ipsecMachine : Machine IpsecState IpsecOp Unit where
  step s op := (ipsecStep X s op, ())

/-- The SAs from `src` to `dst` are one, with the manager's SPI and key. -/
def OneSa (s : IpsecState) (src dst : String) : Prop :=
  ∀ sa, (sa ∈ s.sadb ∧ sa.src = src ∧ sa.dst = dst) ↔ sa = s.mgr.sa X src dst

/-- Each peer pair has one SA in each direction. -/
def InStep (s : IpsecState) : Prop := ∀ p ∈ s.mgr.peers, OneSa X s p.1 p.2 ∧ OneSa X s p.2 p.1

/-- If the step is a rotation, there is no peer yet. -/
def idleRotation (s : IpsecState) : IpsecOp → Prop
  | .addPeer _ _ => True
  | .rotateKey _ => s.mgr.peers = []
  | .tick _ => s.mgr.peers = []

/-! ## Lemmas -/

theorem mem_addPeer (m : IpsecManager) (src dst : String) (p : String × String) :
    p ∈ (m.addPeer src dst).peers ↔ p ∈ m.peers ∨ p = (src, dst) := by
  unfold IpsecManager.addPeer
  by_cases h : m.peers.contains (src, dst) = true
  · rw [if_pos h]
    constructor
    · exact .inl
    · rintro (hp | rfl)
      · exact hp
      · simpa using h
  · rw [if_neg h]
    simp

theorem sa_addPeer (m : IpsecManager) (src dst a b : String) :
    (m.addPeer src dst).sa X a b = m.sa X a b := by
  unfold IpsecManager.addPeer
  split <;> rfl

/-- Two successful commands install the SAs of the two directions. -/
theorem mem_addState (m : IpsecManager) (sadb : List Sa) (src dst : String) (sa : Sa) :
    sa ∈ (m.addState X sadb src dst (true, true)).1 ↔
      sa = m.sa X dst src ∨ sa = m.sa X src dst ∨ sa ∈ sadb := by
  show sa ∈ m.sa X dst src :: m.sa X src dst :: sadb ↔ _
  rw [List.mem_cons, List.mem_cons]

/-- No outcome of the commands removes an SA. -/
theorem mem_addState_of_mem (m : IpsecManager) (sadb : List Sa) (src dst : String) (ok : Bool × Bool)
    (sa : Sa) (h : sa ∈ sadb) : sa ∈ (m.addState X sadb src dst ok).1 := by
  obtain ⟨ok1, ok2⟩ := ok
  cases ok1 with
  | false => exact h
  | true =>
    cases ok2 with
    | false => exact List.mem_cons_of_mem _ h
    | true => exact List.mem_cons_of_mem _ (List.mem_cons_of_mem _ h)

theorem mem_rotateKey_of_mem (m : IpsecManager) (sadb : List Sa) (generated : List UInt8)
    (ok : Nat → Bool × Bool) (sa : Sa) (h : sa ∈ sadb) : sa ∈ (m.rotateKey X sadb generated ok).2 := by
  show sa ∈ List.foldl _ sadb (m.renew generated).peers.zipIdx
  generalize (m.renew generated).peers.zipIdx = ps
  induction ps generalizing sadb with
  | nil => exact h
  | cons p ps ih =>
    rw [List.foldl_cons]
    exact ih _ (mem_addState_of_mem X _ sadb p.1.1 p.1.2 (ok p.2) sa h)

theorem spi_renew_ne (m : IpsecManager) (generated : List UInt8) : m.spi ≠ (m.renew generated).spi := by
  intro h
  have hlt := m.spi.toNat_lt
  have hnat : m.spi.toNat = (m.spi.toNat + 1) % 2 ^ 32 := congrArg UInt32.toNat h
  omega

/-! ### Invariant -/

/-- What holds while no rotation has met a peer: the peers have their SAs, and no other
SA is there. -/
structure Fresh (s : IpsecState) : Prop where
  installed : ∀ p ∈ s.mgr.peers, s.mgr.sa X p.1 p.2 ∈ s.sadb ∧ s.mgr.sa X p.2 p.1 ∈ s.sadb
  current : ∀ sa ∈ s.sadb, sa = s.mgr.sa X sa.src sa.dst
  empty : s.mgr.peers = [] → s.sadb = []

theorem Fresh.oneSa {s : IpsecState} (h : Fresh X s) (src dst : String)
    (hmem : s.mgr.sa X src dst ∈ s.sadb) : OneSa X s src dst := by
  intro sa
  constructor
  · rintro ⟨hsa, rfl, rfl⟩
    exact h.current sa hsa
  · rintro rfl
    exact ⟨hmem, rfl, rfl⟩

theorem Fresh.inStep {s : IpsecState} (h : Fresh X s) : InStep X s :=
  fun p hp => ⟨h.oneSa X p.1 p.2 (h.installed p hp).1, h.oneSa X p.2 p.1 (h.installed p hp).2⟩

/-- Without peers there is nothing to keep. -/
theorem fresh_of_no_peers (m : IpsecManager) (h : m.peers = []) : Fresh X ⟨m, []⟩ := by
  refine ⟨fun p hp => ?_, fun sa hsa => ?_, fun _ => rfl⟩
  · rw [h] at hp
    cases hp
  · cases hsa

theorem fresh_addPeer (s : IpsecState) (src dst : String) (h : Fresh X s) :
    Fresh X (ipsecStep X s (.addPeer src dst)) := by
  refine ⟨fun p hp => ?_, fun sa hsa => ?_, fun hnil => ?_⟩
  · show (s.mgr.addPeer src dst).sa X p.1 p.2 ∈ _ ∧ (s.mgr.addPeer src dst).sa X p.2 p.1 ∈ _
    rcases (mem_addPeer s.mgr src dst p).mp hp with hold | rfl
    · rw [sa_addPeer, sa_addPeer]
      exact ⟨mem_addState_of_mem X _ _ _ _ _ _ (h.installed p hold).1,
        mem_addState_of_mem X _ _ _ _ _ _ (h.installed p hold).2⟩
    · exact ⟨(mem_addState X _ _ _ _ _).mpr (.inr (.inl rfl)), (mem_addState X _ _ _ _ _).mpr (.inl rfl)⟩
  · show sa = (s.mgr.addPeer src dst).sa X sa.src sa.dst
    rcases (mem_addState X _ _ _ _ _).mp hsa with rfl | rfl | hold
    · rfl
    · rfl
    · rw [sa_addPeer]
      exact h.current sa hold
  · have hmem : (src, dst) ∈ (s.mgr.addPeer src dst).peers :=
      (mem_addPeer s.mgr src dst _).mpr (.inr rfl)
    rw [show (s.mgr.addPeer src dst).peers = [] from hnil] at hmem
    cases hmem

theorem fresh_next (s : IpsecState) (op : IpsecOp) (h : Fresh X s) (hg : idleRotation s op) :
    Fresh X ((ipsecMachine X).next s op) := by
  show Fresh X (ipsecStep X s op)
  cases op with
  | addPeer src dst => exact fresh_addPeer X s src dst h
  | rotateKey generated =>
    have hpeers : (s.mgr.renew generated).peers = [] := hg
    have hstep : ipsecStep X s (.rotateKey generated) = ⟨s.mgr.renew generated, []⟩ := by
      simp only [ipsecStep, IpsecManager.rotateKey, hpeers, h.empty hg, List.zipIdx_nil, List.foldl_nil]
    rw [hstep]
    exact fresh_of_no_peers X _ hpeers
  | tick generated =>
    have hstep : ipsecStep X s (.tick generated) = ⟨s.mgr.renew generated, []⟩ := by
      simp only [ipsecStep, h.empty hg]
    rw [hstep]
    exact fresh_of_no_peers X _ hg

/-- An SA that stays behind with the old SPI is not the one the manager knows. -/
theorem not_inStep_of_stale (s : IpsecState) (generated : List UInt8) (sadb : List Sa) (h : Fresh X s)
    (hpeers : s.mgr.peers ≠ []) (hkept : ∀ sa ∈ s.sadb, sa ∈ sadb) :
    ¬ InStep X ⟨s.mgr.renew generated, sadb⟩ := by
  intro hin
  obtain ⟨p, hp⟩ := List.exists_mem_of_ne_nil _ hpeers
  have hold := hkept _ (h.installed p hp).1
  have hsa := ((hin p hp).1 (s.mgr.sa X p.1 p.2)).mp ⟨hold, rfl, rfl⟩
  exact spi_renew_ne s.mgr generated (congrArg Sa.spi hsa)

theorem not_inStep_next (s : IpsecState) (op : IpsecOp) (h : Fresh X s) (hg : ¬ idleRotation s op) :
    ¬ InStep X ((ipsecMachine X).next s op) := by
  cases op with
  | addPeer src dst => exact absurd trivial hg
  | rotateKey generated =>
    exact not_inStep_of_stale X s generated _ h hg fun sa hsa => mem_rotateKey_of_mem X _ _ _ _ sa hsa
  | tick generated => exact not_inStep_of_stale X s generated _ h hg fun sa hsa => hsa

/-! ### Main theorem -/

/-- **Rotation, exactly.**  Each peer has one SA a direction, with the manager's SPI and
key, after every operation of a run if and only if the run rotates only while
there is no peer. -/
theorem inStep_iff_idle (spi : UInt32) (key : String) (generated : List UInt8) (ops : List IpsecOp) :
    (∀ pre, pre <+: ops → InStep X ((ipsecMachine X).after ⟨.new X spi key generated, []⟩ pre)) ↔
      (ipsecMachine X).Guarded idleRotation ⟨.new X spi key generated, []⟩ ops :=
  (ipsecMachine X).always_iff_guarded idleRotation (Fresh X) (InStep X) (fun _ h => h.inStep X)
    (fresh_next X) (not_inStep_next X) ops _ (fresh_of_no_peers X _ rfl)

end

/-- The value of a digit. -/
def hexNibble (b : UInt8) : Option UInt8 :=
  if 48 ≤ b ∧ b ≤ 57 then some (b - 48)
  else if 65 ≤ b ∧ b ≤ 70 then some (b - 55)
  else if 97 ≤ b ∧ b ≤ 102 then some (b - 87)
  else none

/-- Pairs of digits of either case. -/
def hexDecode : List UInt8 → Option (List UInt8)
  | [] => some []
  | [_] => none
  | hi :: lo :: rest => do
    let h ← hexNibble hi
    let l ← hexNibble lo
    let bytes ← hexDecode rest
    some ((h * 16 + l) :: bytes)

/-- The crate: lower case out, either case in. -/
def plainHex : Hex where
  encode := hex
  decode text := hexDecode (utf8 text.toList)
  encode_inj := hex_inj

/-- A manager with the default SPI and one peer. -/
def onePeer (op : IpsecOp) : IpsecState :=
  (ipsecMachine plainHex).after ⟨.new plainHex 4096 "00ff" [], []⟩
    [.addPeer "192.0.2.1" "192.0.2.2", op]

/-- `rotate_key` leaves the old SA beside the new one, and a tick leaves the old one only. -/
theorem old_sa_stays :
    ((onePeer (.rotateKey [7])).sadb.filter fun sa => sa.src = "192.0.2.1").map (·.spi) = [4097, 4096] ∧
    ((onePeer (.tick [7])).sadb.filter fun sa => sa.src = "192.0.2.1").map (·.spi) = [4096] ∧
    (onePeer (.tick [7])).mgr.spi = 4097 ∧
    ¬ InStep plainHex (onePeer (.rotateKey [7])) ∧ ¬ InStep plainHex (onePeer (.tick [7])) := by
  have hpeer : ∀ op, op = .rotateKey [7] ∨ op = .tick [7] →
      ("192.0.2.1", "192.0.2.2") ∈ (onePeer op).mgr.peers ∧
      ⟨"192.0.2.1", "192.0.2.2", 4096, 4096, "00ff", "00ff"⟩ ∈ (onePeer op).sadb ∧
      (onePeer op).mgr.spi = 4097 := by
    rintro op (rfl | rfl)
    · decide
    · decide
  have hnot : ∀ op, op = .rotateKey [7] ∨ op = .tick [7] → ¬ InStep plainHex (onePeer op) := by
    intro op hop hin
    obtain ⟨hp, hold, hspi⟩ := hpeer op hop
    have hsa := ((hin _ hp).1 _).mp ⟨hold, rfl, rfl⟩
    have : (4096 : UInt32) = (onePeer op).mgr.spi := congrArg Sa.spi hsa
    rw [hspi] at this
    exact absurd this (by decide)
  exact ⟨by decide, by decide, by decide, hnot _ (.inl rfl), hnot _ (.inr rfl)⟩

end NomadP2P.Ipsec
