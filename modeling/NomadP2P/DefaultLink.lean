import NomadP2P.HttpFraming

/-!
# The link the programs are attached to (`find_default_ifindex` of `agent/src/bpf.rs`)

The number of the link of the default route is read from what `ip` prints: the word behind `dev`
in each line of `ip route show default`, and the number in front of the first colon of
`ip link show`.  On what `ip` prints for any default routes and any links:

    the number is that of the link of the first route whose link is there; a command that cannot
      be started ends the search; without one it is 1, as for `run_agent` in case of an error
                                                                  (default_link_first)
-/

namespace NomadP2P

open Text Http

/-! ## Algorithm -/

/-- `text.parse::<u32>().ok()`. -/
def parseU32 (text : List Char) : Option UInt32 :=
  (parseUsize text).bind fun n => if n < 2 ^ 32 then some (UInt32.ofNat n) else none

/-- What `ip route show default` and `ip link show <name>` print, or the error of starting them. -/
structure IpTool where
  routeShow : Except String (List Char)
  linkShow : List Char → Except String (List Char)

/-- The word behind the first `dev` of a line. -/
def routeDevice (line : List Char) : Option (List Char) :=
  let p := splitWhitespace line
  (p.findIdx? fun word => word == "dev".toList).bind fun pos => p[pos + 1]?

/-- The number in the first line for a link. -/
def linkIndex (out : List Char) : Option UInt32 :=
  (lines out).head?.bind fun line => (line.splitOn ':').head?.bind fun i => parseU32 (trim i)

/-- The loop over the lines. -/
def findLink (linkShow : List Char → Except String (List Char)) : List (List Char) → Except String UInt32
  | [] => .ok 1
  | line :: rest =>
    match routeDevice line with
    | none => findLink linkShow rest
    | some name =>
      match linkShow name with
      | .error e => .error e
      | .ok out =>
        match linkIndex out with
        | some idx => .ok idx
        | none => findLink linkShow rest

/-- `find_default_ifindex`. -/
def findDefaultIfindex (ip : IpTool) : Except String UInt32 :=
  match ip.routeShow with
  | .error e => .error e
  | .ok out => findLink ip.linkShow (lines out)

/-- The link of `attach_all` in `run_agent`. -/
def attachIfindex (ip : IpTool) : UInt32 :=
  match findDefaultIfindex ip with
  | .ok idx => idx
  | .error _ => 1

/-! ## What `ip` prints -/

structure Word where
  text : List Char
  ne : text ≠ []
  plain : ∀ c ∈ text, isWhitespace c = false

/-- A line for a default route or a hop of one, which is set in: the words in front of `dev`, and
the link with the words behind it if there is a `dev`. -/
structure RouteLine where
  hop : Bool
  front : List Word
  link : Option (Word × List Word)
  front_dev : ∀ w ∈ front, w.text ≠ "dev".toList

def RouteLine.words (r : RouteLine) : List (List Char) :=
  r.front.map Word.text ++ r.link.elim [] fun l => "dev".toList :: l.1.text :: l.2.map Word.text

def RouteLine.text (r : RouteLine) : List Char :=
  (if r.hop then ['\t'] else []) ++ r.words.flatMap fun word => word ++ [' ']

/-- The links by name with the number of each and what follows it; a command may not start. -/
structure LinkTable where
  fails : List Char → Option String
  index : List Char → Option UInt32
  rest : List Char → List Char

/-- `ip link show`: nothing on the standard output for a link that is not there. -/
def LinkTable.show (t : LinkTable) (name : List Char) : List Char :=
  (t.index name).elim [] fun idx => Nat.toDigits 10 idx.toNat ++ ':' :: t.rest name

def LinkTable.tool (t : LinkTable) (routes : List RouteLine) : IpTool where
  routeShow := .ok (routes.flatMap fun r => r.text ++ ['\n'])
  linkShow name := (t.fails name).elim (.ok (t.show name)) .error

/-- What ends the search at a link, if it does. -/
def LinkTable.answer (t : LinkTable) (name : List Char) : Option (Except String UInt32) :=
  (t.fails name).elim ((t.index name).map .ok) fun e => some (.error e)

/-- The links of the routes, in order. -/
def devices (routes : List RouteLine) : List (List Char) :=
  routes.filterMap fun r => r.link.map fun l => l.1.text

/-! ## Lemmas -/

theorem isDigit_toDigits (n : Nat) : ∀ c ∈ Nat.toDigits 10 n, c.isDigit = true :=
  fun _ hc => Nat.isDigit_of_mem_toDigits (by decide) (by decide) hc

theorem parseU32_toDigits (idx : UInt32) : parseU32 (Nat.toDigits 10 idx.toNat) = some idx := by
  have hval : Ipv4Addr.digitsVal (Nat.toDigits 10 idx.toNat) = idx.toNat :=
    Nat.ofDigitChars_toDigits (by decide) (by decide)
  have hlt := idx.toNat_lt
  unfold parseU32
  rw [parseUsize_digits _ Nat.toDigits_ne_nil (isDigit_toDigits _), hval, if_neg (by omega), Option.bind_some,
    if_pos (by omega), UInt32.ofNat_toNat]

/-- The number of a link is read back. -/
theorem linkIndex_show (t : LinkTable) (name : List Char) : linkIndex (t.show name) = t.index name := by
  unfold LinkTable.show
  cases t.index name with
  | none => rfl
  | some idx =>
    rw [Option.elim_some]
    have hdigit := isDigit_toDigits idx.toNat
    have hother : ∀ c : Char, c.isDigit = false → c ∉ Nat.toDigits 10 idx.toNat := by
      intro c hc hmem
      rw [hdigit c hmem] at hc
      cases hc
    obtain ⟨rest, hhead⟩ := lines_head (Nat.toDigits 10 idx.toNat) (t.rest name) ':'
      (hother '\n' (by decide)) (by decide) (by decide)
    have htrim : trim (Nat.toDigits 10 idx.toNat) = Nat.toDigits 10 idx.toNat := by
      have := trim_padded [] (Nat.toDigits 10 idx.toNat) [] (fun c hc => absurd hc List.not_mem_nil)
        (fun c hc => isWhitespace_digit c (hdigit c hc)) fun c hc => absurd hc List.not_mem_nil
      rwa [List.nil_append, List.append_nil] at this
    unfold linkIndex
    rw [hhead, Option.bind_some, splitOn_append_cons ':' _ rest (hother ':' (by decide)), List.head?_cons,
      Option.bind_some, htrim, parseU32_toDigits]

theorem dev_plain : "dev".toList ≠ [] ∧ ∀ c ∈ "dev".toList, isWhitespace c = false := by
  have hdev : "dev".toList = ['d', 'e', 'v'] := rfl
  rw [hdev]
  refine ⟨List.cons_ne_nil _ _, ?_⟩
  simp only [List.forall_mem_cons]
  exact ⟨rfl, rfl, rfl, fun c hc => absurd hc List.not_mem_nil⟩

theorem mem_words (r : RouteLine) :
    ∀ word ∈ r.words, word ≠ [] ∧ ∀ c ∈ word, isWhitespace c = false := by
  have hword : ∀ (ws : List Word) (word : List Char), word ∈ ws.map Word.text →
      word ≠ [] ∧ ∀ c ∈ word, isWhitespace c = false := by
    intro ws word hmem
    obtain ⟨w, -, rfl⟩ := List.mem_map.mp hmem
    exact ⟨w.ne, w.plain⟩
  intro word hmem
  unfold RouteLine.words at hmem
  rcases List.mem_append.mp hmem with hmem | hmem
  · exact hword r.front word hmem
  · cases hlink : r.link with
    | none =>
      rw [hlink] at hmem
      cases hmem
    | some l =>
      rw [hlink, Option.elim_some] at hmem
      rcases List.mem_cons.mp hmem with rfl | hmem
      · exact dev_plain
      · rcases List.mem_cons.mp hmem with rfl | hmem
        · exact ⟨l.1.ne, l.1.plain⟩
        · exact hword l.2 word hmem

theorem splitWhitespace_text (r : RouteLine) : splitWhitespace r.text = r.words := by
  unfold RouteLine.text
  cases r.hop with
  | true =>
    show splitWhitespace ('\t' :: r.words.flatMap fun word => word ++ [' ']) = _
    rw [splitWhitespace_space '\t' _ (by decide), splitWhitespace_words _ (mem_words r)]
  | false => exact splitWhitespace_words _ (mem_words r)

/-- The device of a line is read back. -/
theorem routeDevice_text (r : RouteLine) : routeDevice r.text = r.link.map fun l => l.1.text := by
  have hfront : ∀ word ∈ r.front.map Word.text, (word == "dev".toList) = false := by
    intro word hmem
    obtain ⟨w, hw, rfl⟩ := List.mem_map.mp hmem
    exact beq_false_of_ne (r.front_dev w hw)
  unfold routeDevice
  rw [splitWhitespace_text]
  unfold RouteLine.words
  dsimp only
  cases r.link with
  | none =>
    rw [Option.elim_none, List.append_nil, List.findIdx?_eq_none_iff.mpr hfront]
    rfl
  | some l =>
    have hpos : (r.front.map Word.text ++ "dev".toList :: l.1.text :: l.2.map Word.text).findIdx?
        (fun word => word == "dev".toList) = some (r.front.map Word.text).length := by
      rw [List.findIdx?_append, List.findIdx?_eq_none_iff.mpr hfront, List.findIdx?_cons,
        beq_self_eq_true]
      simp
    rw [Option.elim_some, hpos, Option.bind_some, List.getElem?_append_right (by omega)]
    simp

/-- The white space of a line is spaces and the tab in front. -/
theorem not_mem_text (r : RouteLine) (c : Char) (hc : isWhitespace c = true) (hspace : c ≠ ' ')
    (htab : c ≠ '\t') : c ∉ r.text := by
  intro hmem
  unfold RouteLine.text at hmem
  rcases List.mem_append.mp hmem with hmem | hmem
  · cases hhop : r.hop with
    | true =>
      rw [hhop] at hmem
      exact htab (List.mem_singleton.mp hmem)
    | false =>
      rw [hhop] at hmem
      cases hmem
  · obtain ⟨word, hword, hmem⟩ := List.mem_flatMap.mp hmem
    rcases List.mem_append.mp hmem with hmem | hmem
    · rw [(mem_words r word hword).2 c hmem] at hc
      cases hc
    · exact hspace (List.mem_singleton.mp hmem)

theorem stripCr_text (r : RouteLine) : stripCr r.text = r.text := by
  have hcr : '\r' ∉ r.text := not_mem_text r '\r' (by decide) (by decide) (by decide)
  unfold stripCr
  rw [if_neg fun hlast => hcr (List.mem_of_getLast? hlast)]

theorem lines_routes (routes : List RouteLine) :
    lines (routes.flatMap fun r => r.text ++ ['\n']) = routes.map RouteLine.text := by
  induction routes with
  | nil => rfl
  | cons r routes ih =>
    rw [List.flatMap_cons, List.append_assoc, List.singleton_append,
      lines_cons _ _ (not_mem_text r '\n' (by decide) (by decide) (by decide)), stripCr_text, ih,
      List.map_cons]

/-- What a link does to the search. -/
theorem findLink_cons (t : LinkTable) (rs : List RouteLine) (name line : List Char) (rest : List (List Char))
    (h : routeDevice line = some name) :
    findLink (t.tool rs).linkShow (line :: rest) =
      (t.answer name).getD (findLink (t.tool rs).linkShow rest) := by
  have hshow : (t.tool rs).linkShow name = (t.fails name).elim (.ok (t.show name)) .error := rfl
  rw [findLink]
  simp only [h, hshow]
  unfold LinkTable.answer
  cases t.fails name with
  | some e => rfl
  | none =>
    simp only [Option.elim_none, linkIndex_show]
    cases t.index name with
    | none => rfl
    | some idx => rfl

/-- The search over the lines is one over the links. -/
theorem findLink_routes (t : LinkTable) (rs routes : List RouteLine) :
    findLink (t.tool rs).linkShow (routes.map RouteLine.text) =
      ((devices routes).findSome? t.answer).getD (.ok 1) := by
  induction routes with
  | nil => rfl
  | cons r routes ih =>
    have hdevice := routeDevice_text r
    unfold devices at ih ⊢
    rw [List.map_cons, List.filterMap_cons]
    cases hlink : r.link with
    | none =>
      rw [hlink, Option.map_none] at hdevice
      rw [findLink, hdevice]
      exact ih
    | some l =>
      rw [hlink, Option.map_some] at hdevice
      rw [findLink_cons t rs l.1.text r.text _ hdevice, ih, Option.map_some]
      dsimp only
      rw [List.findSome?_cons]
      cases t.answer l.1.text with
      | none => rfl
      | some a => rfl

/-! ### Main theorem -/

/-- **The first default route.**  For any default routes and links, the number found is that of
the link of the first route whose link is there; the first link whose command cannot be
started ends the search with its error; and if there is none of either it is 1. -/
theorem default_link_first (t : LinkTable) (routes : List RouteLine) :
    findDefaultIfindex (t.tool routes) = ((devices routes).findSome? t.answer).getD (.ok 1) ∧
      attachIfindex (t.tool routes) = (((devices routes).findSome? t.answer).bind Except.toOption).getD 1 := by
  have hfind : findDefaultIfindex (t.tool routes) = ((devices routes).findSome? t.answer).getD (.ok 1) := by
    show findLink (t.tool routes).linkShow (lines (routes.flatMap fun r => r.text ++ ['\n'])) = _
    rw [lines_routes, findLink_routes]
  refine ⟨hfind, ?_⟩
  unfold attachIfindex
  rw [hfind]
  cases (devices routes).findSome? t.answer with
  | none => rfl
  | some a =>
    cases a with
    | ok idx => rfl
    | error e => rfl

end NomadP2P
