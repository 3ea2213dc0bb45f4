import NomadP2P.Ipsec

/-!
# Keys of two nodes under rotation (`rotate_key` on both ends)

Two nodes with the same configured key and SPI, each with its own peers, rotate in any
order and any number of times.  A rotation takes the next SPI on both ends alike, but
the key from the node's own `generate_key`, and no SA is ever removed.  So the
SAs of a node are those of its generations,

    generation 0: the configured key      generation i: SPI + i and the i-th generated key

as far as the `ip xfrm` commands succeeded (`mem_sadb_after`).  Two nodes agree on the
keys of their SAs exactly when generations of the same number, installed on both
ends, have the same key (`agree_iff`).
-/

namespace NomadP2P.Ipsec

open Bytes Text

/-! ## Algorithm -/

section
variable (X : Hex)

/-- The loop of `rotate_key` over the peers. -/
def IpsecManager.installAll (m : IpsecManager) (sadb : List Sa) (ok : Nat → Bool × Bool) : List Sa :=
  m.peers.zipIdx.foldl (fun sadb p => (m.addState X sadb p.1.1 p.1.2 (ok p.2)).1) sadb

/-- A key, and which of the commands that install it succeed. -/
structure Generation where
  key : List UInt8
  ok : Nat → Bool × Bool

/-- A node with these peers, after `add_state` for each of them. -/
def IpsecState.start (spi : UInt32) (key : String) (generated : List UInt8)
    (peers : List (String × String)) (ok : Nat → Bool × Bool) : IpsecState :=
  let m := { IpsecManager.new X spi key generated with peers := peers }
  ⟨m, m.installAll X [] ok⟩

/-- `rotate_key`, where `generate_key` returns the key of `g`. -/
def IpsecState.rotate (s : IpsecState) (g : Generation) : IpsecState :=
  let r := s.mgr.rotateKey X s.sadb g.key g.ok
  ⟨r.1, r.2⟩

inductive Node
  | a
  | b
deriving DecidableEq

/-- Rotations on the two nodes, in any order. -/
def pairMachine : Machine (Node → IpsecState) (Node × Generation) Unit where
  step s op := (Function.update s op.1 ((s op.1).rotate X op.2), ())

/-- What the two nodes are started with. -/
structure PairConfig where
  spi : UInt32
  key : String
  addr : Node → String
  peers : Node → List (String × String)
  /-- what `generate_key` returns if no key is configured -/
  generated : Node → List UInt8
  /-- which of the first commands succeed -/
  ok : Node → Nat → Bool × Bool

def PairConfig.start (c : PairConfig) (n : Node) : IpsecState :=
  .start X c.spi c.key (c.generated n) (c.peers n) (c.ok n)

/-- The endpoints of the pair, in either direction. -/
def PairConfig.Ends (c : PairConfig) (src dst : String) : Prop :=
  (src = c.addr .a ∧ dst = c.addr .b) ∨ (src = c.addr .b ∧ dst = c.addr .a)

/-- SAs for the pair that the nodes have under the same SPI carry the same key. -/
def Agree (c : PairConfig) (s : Node → IpsecState) : Prop :=
  ∀ x ∈ (s .a).sadb, ∀ y ∈ (s .b).sadb, c.Ends x.src x.dst → c.Ends y.src y.dst → x.spi = y.spi →
    x.auth = y.auth ∧ x.enc = y.enc

/-- The key bytes of a configured key. -/
def configuredKey (key : String) : List UInt8 := (X.decode key).getD (utf8 key.toList)

/-- The generations of a node in a run: the configured key, and one for each rotation. -/
def PairConfig.generations (c : PairConfig) (ops : List (Node × Generation)) (n : Node) :
    List Generation :=
  ⟨configuredKey X c.key, c.ok n⟩ :: (ops.filter fun op => op.1 = n).map Prod.snd

/-- In this generation the node has installed an SA for the pair. -/
def PairConfig.Installed (c : PairConfig) (n : Node) (g : Generation) : Prop :=
  ∃ p ∈ (c.peers n).zipIdx, c.Ends p.1.1 p.1.2 ∧ (g.ok p.2).1 = true

/-! ## Lemmas -/

theorem rotate_eq (s : IpsecState) (g : Generation) :
    s.rotate X g = ⟨s.mgr.renew g.key, (s.mgr.renew g.key).installAll X s.sadb g.ok⟩ := rfl

/-- The SAs `add_state` leaves, for any outcome of its commands. -/
theorem mem_addState_iff (m : IpsecManager) (sadb : List Sa) (src dst : String) (ok : Bool × Bool)
    (sa : Sa) :
    sa ∈ (m.addState X sadb src dst ok).1 ↔
      sa ∈ sadb ∨ ok.1 = true ∧ (sa = m.sa X src dst ∨ ok.2 = true ∧ sa = m.sa X dst src) := by
  obtain ⟨ok1, ok2⟩ := ok
  cases ok1 with
  | false => exact ⟨.inl, fun h => h.resolve_right (by simp)⟩
  | true =>
    cases ok2 with
    | false =>
      show sa ∈ m.sa X src dst :: sadb ↔ _
      rw [List.mem_cons]
      simp [or_comm]
    | true =>
      rw [mem_addState]
      simp only [true_and]
      tauto

/-- The SA is one that the loop over the peers installs. -/
def InstalledBy (m : IpsecManager) (ok : Nat → Bool × Bool) (sa : Sa) : Prop :=
  ∃ p ∈ m.peers.zipIdx, (ok p.2).1 = true ∧
    (sa = m.sa X p.1.1 p.1.2 ∨ (ok p.2).2 = true ∧ sa = m.sa X p.1.2 p.1.1)

theorem mem_installAll (m : IpsecManager) (sadb : List Sa) (ok : Nat → Bool × Bool) (sa : Sa) :
    sa ∈ m.installAll X sadb ok ↔ sa ∈ sadb ∨ InstalledBy X m ok sa := by
  unfold IpsecManager.installAll InstalledBy
  generalize m.peers.zipIdx = ps
  induction ps generalizing sadb with
  | nil => simp
  | cons p ps ih =>
    rw [List.foldl_cons, ih, mem_addState_iff]
    simp only [List.mem_cons, exists_eq_or_imp]
    rw [or_assoc]

/-- The manager of a generation. -/
def managerOf (spi : UInt32) (peers : List (String × String)) (i : Nat) (g : Generation) :
    IpsecManager := ⟨spi + UInt32.ofNat i, g.key, peers⟩

/-- An index into a list with one more element is an old one or that of the element. -/
theorem exists_getElem?_snoc {α : Type} (xs : List α) (y : α) (P : Nat → α → Prop) :
    (∃ i x, (xs ++ [y])[i]? = some x ∧ P i x) ↔
      (∃ i x, xs[i]? = some x ∧ P i x) ∨ P xs.length y := by
  constructor
  · rintro ⟨i, x, hi, hx⟩
    rcases Nat.lt_trichotomy i xs.length with hlt | rfl | hgt
    · rw [List.getElem?_append_left hlt] at hi
      exact .inl ⟨i, x, hi, hx⟩
    · rw [List.getElem?_concat_length] at hi
      exact .inr (Option.some.inj hi ▸ hx)
    · rw [List.getElem?_eq_none (by rw [List.length_append, List.length_singleton]; omega)] at hi
      cases hi
  · rintro (⟨i, x, hi, hx⟩ | hy)
    · have hlt := (List.getElem?_eq_some_iff.mp hi).1
      exact ⟨i, x, by rw [List.getElem?_append_left hlt, hi], hx⟩
    · exact ⟨xs.length, y, List.getElem?_concat_length, hy⟩

/-- A node after some rotations: the manager is that of the last generation, the SAs are
those of all. -/
theorem after_rotations (s : IpsecState) (spi : UInt32) (g₀ : Generation)
    (hmgr : s.mgr = managerOf spi s.mgr.peers 0 g₀)
    (hsadb : ∀ sa, sa ∈ s.sadb ↔ InstalledBy X s.mgr g₀.ok sa) (gs : List Generation) :
    (∃ g, (gs.foldl (IpsecState.rotate X) s).mgr = managerOf spi s.mgr.peers gs.length g) ∧
    ∀ sa, sa ∈ (gs.foldl (IpsecState.rotate X) s).sadb ↔
      ∃ i g, (g₀ :: gs)[i]? = some g ∧ InstalledBy X (managerOf spi s.mgr.peers i g) g.ok sa := by
  induction gs using List.reverseRecOn with
  | nil =>
    refine ⟨⟨g₀, hmgr⟩, fun sa => ?_⟩
    rw [List.foldl_nil, hsadb, hmgr]
    constructor
    · intro h
      exact ⟨0, g₀, rfl, h⟩
    · rintro ⟨i, g, hi, h⟩
      cases i with
      | zero => obtain rfl := Option.some.inj hi; exact h
      | succ i => cases hi
  | append_singleton gs g ih =>
    obtain ⟨⟨last, hlast⟩, hmem⟩ := ih
    have hrenew : (gs.foldl (IpsecState.rotate X) s).mgr.renew g.key =
        managerOf spi s.mgr.peers (gs.length + 1) g := by
      rw [hlast]
      show IpsecManager.mk (spi + UInt32.ofNat gs.length + 1) g.key _ = _
      unfold managerOf
      rw [UInt32.add_assoc]
      congr 2
      simp
    rw [List.foldl_append, List.foldl_cons, List.foldl_nil, rotate_eq, hrenew]
    refine ⟨⟨g, by rw [List.length_append, List.length_singleton]⟩, fun sa => ?_⟩
    simp only
    rw [mem_installAll, hmem, ← List.cons_append,
      exists_getElem?_snoc _ g fun i g => InstalledBy X (managerOf spi s.mgr.peers i g) g.ok sa]
    rfl

/-- Each node takes the rotations that are made on it. -/
theorem after_pair (s : Node → IpsecState) (ops : List (Node × Generation)) (n : Node) :
    (pairMachine X).after s ops n =
      ((ops.filter fun op => op.1 = n).map Prod.snd).foldl (IpsecState.rotate X) (s n) := by
  induction ops generalizing s with
  | nil => rfl
  | cons op ops ih =>
    rw [Machine.after_cons, ih]
    show List.foldl _ (Function.update s op.1 ((s op.1).rotate X op.2) n) _ = _
    by_cases h : op.1 = n
    · rw [List.filter_cons_of_pos (by simpa using h), List.map_cons, List.foldl_cons, ← h,
        Function.update_self]
    · rw [List.filter_cons_of_neg (by simpa using h), Function.update_of_ne (Ne.symm h)]

theorem key_new (spi : UInt32) (key : String) (generated : List UInt8) (h : key.isEmpty = false) :
    (IpsecManager.new X spi key generated).key = configuredKey X key := by
  unfold IpsecManager.new configuredKey
  rw [h]
  cases X.decode key <;> rfl

/-- The SAs of a node in a run are those of its generations. -/
theorem mem_sadb_after (c : PairConfig) (hkey : c.key.isEmpty = false)
    (ops : List (Node × Generation)) (n : Node) (sa : Sa) :
    sa ∈ ((pairMachine X).after (c.start X) ops n).sadb ↔
      ∃ i g, (c.generations X ops n)[i]? = some g ∧
        InstalledBy X (managerOf c.spi (c.peers n) i g) g.ok sa := by
  rw [after_pair]
  have hmgr : (c.start X n).mgr = managerOf c.spi (c.peers n) 0 ⟨configuredKey X c.key, c.ok n⟩ := by
    show IpsecManager.mk c.spi (IpsecManager.new X c.spi c.key (c.generated n)).key (c.peers n) = _
    rw [key_new X _ _ _ hkey]
    unfold managerOf
    congr 1
    simp
  refine (after_rotations X (c.start X n) c.spi ⟨configuredKey X c.key, c.ok n⟩ hmgr
    (fun sa => ?_) _).2 sa
  show sa ∈ (c.start X n).mgr.installAll X [] (c.ok n) ↔ _
  rw [mem_installAll]
  simp

theorem Ends_symm (c : PairConfig) (src dst : String) : c.Ends src dst ↔ c.Ends dst src := by
  unfold PairConfig.Ends
  tauto

/-- An SA for the pair shows that its generation is installed; SPI and key are the
generation's. -/
theorem installed_of_mem (c : PairConfig) (n : Node) (i : Nat) (g : Generation) (sa : Sa)
    (h : InstalledBy X (managerOf c.spi (c.peers n) i g) g.ok sa) (hends : c.Ends sa.src sa.dst) :
    c.Installed n g ∧ sa.spi = c.spi + UInt32.ofNat i ∧ sa.auth = X.encode g.key ∧
      sa.enc = X.encode g.key := by
  obtain ⟨p, hp, hok, rfl | ⟨-, rfl⟩⟩ := h
  · exact ⟨⟨p, hp, hends, hok⟩, rfl, rfl, rfl⟩
  · exact ⟨⟨p, hp, (Ends_symm c _ _).mp hends, hok⟩, rfl, rfl, rfl⟩

/-! ### Main theorem -/

/-- **Agreement, exactly.**  Behind any interleaving of rotations on two nodes that were
started with the same configured key and SPI, the SAs they have for the pair under one SPI
carry the same key if and only if two generations whose numbers are equal modulo
2³², and of which each has got an SA for the pair installed on its node, have
the same key. -/
theorem agree_iff (c : PairConfig) (hkey : c.key.isEmpty = false) (ops : List (Node × Generation)) :
    Agree c ((pairMachine X).after (c.start X) ops) ↔
      ∀ i j g g', (c.generations X ops .a)[i]? = some g → (c.generations X ops .b)[j]? = some g' →
        UInt32.ofNat i = UInt32.ofNat j → c.Installed .a g → c.Installed .b g' → g.key = g'.key := by
  constructor
  · rintro h i j g g' hi hj hnum ⟨p, hp, hends, hok⟩ ⟨q, hq, hends', hok'⟩
    have hx := (mem_sadb_after X c hkey ops .a _).mpr ⟨i, g, hi, p, hp, hok, .inl rfl⟩
    have hy := (mem_sadb_after X c hkey ops .b _).mpr ⟨j, g', hj, q, hq, hok', .inl rfl⟩
    have hspi : c.spi + UInt32.ofNat i = c.spi + UInt32.ofNat j := by rw [hnum]
    exact X.encode_inj _ _ (h _ hx _ hy hends hends' hspi).1
  · intro h x hx y hy hends hends' hspi
    obtain ⟨i, g, hi, hg⟩ := (mem_sadb_after X c hkey ops .a x).mp hx
    obtain ⟨j, g', hj, hg'⟩ := (mem_sadb_after X c hkey ops .b y).mp hy
    obtain ⟨hinst, hxspi, hauth, henc⟩ := installed_of_mem X c .a i g x hg hends
    obtain ⟨hinst', hyspi, hauth', henc'⟩ := installed_of_mem X c .b j g' y hg' hends'
    rw [hxspi, hyspi] at hspi
    have hsame := h i j g g' hi hj ((UInt32.add_right_inj _).mp hspi) hinst hinst'
    rw [hauth, henc, hauth', henc', hsame]
    exact ⟨rfl, rfl⟩

end

/-- Two nodes with the default SPI, each the peer of the other. -/
def twoNodes : PairConfig where
  spi := 4096
  key := "00ff"
  addr
    | .a => "192.0.2.1"
    | .b => "192.0.2.2"
  peers
    | .a => [("192.0.2.1", "192.0.2.2")]
    | .b => [("192.0.2.2", "192.0.2.1")]
  generated _ := []
  ok _ _ := (true, true)

/-- A rotation to the key of 32 bytes `b`, all commands succeeding. -/
def rotateTo (n : Node) (b : UInt8) : Node × Generation := (n, ⟨List.replicate 32 b, fun _ => (true, true)⟩)

/-- A rotation on one node alone leaves no SPI that both have but the first. -/
theorem agree_one_rotation :
    twoNodes.key.isEmpty = false ∧
      Agree twoNodes ((pairMachine plainHex).after (twoNodes.start plainHex) [rotateTo .a 1]) := by
  refine ⟨by decide, (agree_iff plainHex twoNodes (by decide) _).mpr ?_⟩
  intro i j g g' hi hj hnum _ _
  obtain rfl : j = 0 := by
    have := (List.getElem?_eq_some_iff.mp hj).1
    simp [PairConfig.generations, rotateTo] at this
    exact this
  have hi2 := (List.getElem?_eq_some_iff.mp hi).1
  simp [PairConfig.generations, rotateTo] at hi2
  obtain rfl | rfl : i = 0 ∨ i = 1 := by omega
  · rw [← Option.some.inj hi, ← Option.some.inj hj]
  · exact absurd hnum (by decide)

/-- The two nodes after one rotation on each. -/
def bothRotated : Node → IpsecState :=
  (pairMachine plainHex).after (twoNodes.start plainHex) [rotateTo .a 1, rotateTo .b 2]

/-- Both have SPI 4097 for the pair, with two keys. -/
theorem rotated_keys_differ :
    ((bothRotated .a).sadb.filter fun sa => sa.src = "192.0.2.1" ∧ sa.spi = 4097).map (·.auth) =
        [hex (List.replicate 32 1)] ∧
      ((bothRotated .b).sadb.filter fun sa => sa.src = "192.0.2.1" ∧ sa.spi = 4097).map (·.auth) =
        [hex (List.replicate 32 2)] ∧
      ¬ Agree twoNodes bothRotated := by
  refine ⟨by decide, by decide, ?_⟩
  intro h
  have hkeys := h
    ⟨"192.0.2.1", "192.0.2.2", 4097, 4097, hex (List.replicate 32 1), hex (List.replicate 32 1)⟩
    (by decide)
    ⟨"192.0.2.1", "192.0.2.2", 4097, 4097, hex (List.replicate 32 2), hex (List.replicate 32 2)⟩
    (by decide) (.inl ⟨rfl, rfl⟩) (.inl ⟨rfl, rfl⟩) rfl
  exact absurd hkeys.1 (by decide)

end NomadP2P.Ipsec
