import NomadP2P.Http

/-!
# The CNI plugin and the agent (`cni/src/lib.rs`)

`allocate_ip` posts an `allocate` request to the agent and falls back to a hash of
the container id when anything goes wrong on the way.  The HTTP client is a
parameter with what is assumed of it: it frames a body of unknown length by
chunks and takes an answer only behind a status line.

The agent looks for a `Content-Length`, finds none, and parses an empty body; its
answer has no status line.  So the plugin never hears of an address the agent
chose:

    handleApiConnection … (u.post path payload) ok = (agent, some "400 …")   (handle_post)
    allocateIp … id = fallbackIp id                                          (allocateIp_eq_fallback)
-/

namespace NomadP2P

open Text Http

/-! ## Algorithm -/

/-- What the plugin uses of its HTTP client, for a request with a content type and a
body read from a reader. -/
structure Ureq where
  /-- the fields of the request head -/
  headers : List (String × String)
  /-- the body as it is sent -/
  encode : List UInt8 → List UInt8
  /-- the outcome of the call and of `into_string`, on all that is received -/
  response : List UInt8 → Option (Option String)
  name_token : ∀ f ∈ headers, f.1.toList ≠ [] ∧ ∀ c ∈ f.1.toList, c ≠ ':' ∧ isWhitespace c = false
  value_line : ∀ f ∈ headers, '\n' ∉ f.2.toList
  chunked : ("Transfer-Encoding", "chunked") ∈ headers
  no_length : ∀ f ∈ headers, f.1.toList.map Char.toLower ≠ "content-length".toList
  status_line : ∀ answer body, response answer = some body → utf8 "HTTP/".toList <+: answer

/-- A header line of the request, without its newline. -/
def headerLine (f : String × String) : List Char :=
  f.1.toList ++ ':' :: ' ' :: (f.2.toList ++ ['\r'])

/-- The request line of a `POST`, without its newline. -/
def postLine (path : String) : List Char :=
  "POST ".toList ++ path.toList ++ " HTTP/1.1\r".toList

/-- What `ureq::post(path)….send(payload)` writes on the connection. -/
def Ureq.post (u : Ureq) (path : String) (payload : List UInt8) : List UInt8 :=
  utf8 (postLine path ++ ['\n']) ++
    (utf8 ((u.headers.map headerLine).flatMap (· ++ ['\n'])) ++
      (utf8 (['\r'] ++ ['\n']) ++ u.encode payload))

/-- The body of the `allocate` request. -/
def allocatePayload (json : SerdeJson) (containerId : String) : List UInt8 :=
  utf8 (json.toText (allocateRequest containerId)).toList

/-- The address `allocate_ip` takes without the agent. -/
def fallbackIp (containerId : String) : Ipv4Addr :=
  ContainerManager.hostAddr (2 + (ContainerManager.hash containerId % 253).toUInt8)

/-- `allocate_ip`.  `connect` is the connection to the agent: the bytes received for
the bytes sent, or no connection. -/
def allocateIp (u : Ureq) (json : SerdeJson) (connect : List UInt8 → Option (List UInt8))
    (containerId : String) : Ipv4Addr :=
  let heard : Option Ipv4Addr := do
    let answer ← connect (u.post "/api/v1/container" (allocatePayload json containerId))
    let body ← (u.response answer).join
    let v ← (json.fromSlice (utf8 body.toList)).toOption
    let ip ← (v.field "ip").asStr
    Ipv4Addr.parse ip
  heard.getD (fallbackIp containerId)

/-- The connection to a running agent. -/
def agentConnection (json : SerdeJson) (checks : Bool) (agent : Agent) (ok : Bool)
    (sent : List UInt8) : Option (List UInt8) :=
  some (((handleApiConnection json checks agent sent ok).2.map fun text => utf8 text.toList).getD [])

/-- The agent answered the request for `id` with an address that it has recorded, and
that is the address the plugin takes. -/
def Agreed (u : Ureq) (json : SerdeJson) (checks : Bool) (agent : Agent) (id : String) (ok : Bool) :
    Prop :=
  ∃ ip : Ipv4Addr,
    (handleApiConnection json checks agent (u.post "/api/v1/container" (allocatePayload json id))
      ok).2 = some ("200 OK\r\n\r\n\x7b\"ip\":\"" ++ ip.toText ++ "\"\x7d") ∧
    (handleApiConnection json checks agent (u.post "/api/v1/container" (allocatePayload json id))
      ok).1.bpf.route ip.toU32 = some 1 ∧
    allocateIp u json (agentConnection json checks agent ok) id = ip

/-! ## Lemmas -/

theorem toLower_ne_colon (c : Char) (h : c ≠ ':') : c.toLower ≠ ':' := by
  intro hc
  unfold Char.toLower at hc
  split at hc
  · next hup =>
    have hval : c.val + ('a'.val - 'A'.val) = 58 := congrArg Char.val hc
    have hlow : 65 ≤ c.val.toNat := hup.1
    have hhigh : c.val.toNat ≤ 90 := hup.2
    have hsum : (c.val + ('a'.val - 'A'.val)).toNat = 58 := congrArg UInt32.toNat hval
    have h32 : ('a'.val - 'A'.val).toNat = 32 := by decide
    rw [UInt32.toNat_add, h32] at hsum
    omega
  · exact h hc

/-- The agent does not take a header line of the client for a length. -/
theorem headerLength_headerLine (u : Ureq) (f : String × String) (hf : f ∈ u.headers) (len : Nat) :
    headerLength len (headerLine f ++ ['\n']) = len := by
  unfold headerLength
  rw [if_neg]
  intro hpre
  obtain ⟨rest, hrest⟩ := List.isPrefixOf_iff_prefix.mp hpre
  refine u.no_length f hf ?_
  -- both sides are a name without a colon, a colon, and the rest
  have hcolon : ∀ c ∈ f.1.toList.map Char.toLower, decide (c ≠ ':') = true := by
    intro c hc
    obtain ⟨c', hc', rfl⟩ := List.mem_map.mp hc
    exact decide_eq_true (toLower_ne_colon c' ((u.name_token f hf).2 c' hc').1)
  have hline : (headerLine f ++ ['\n']).map Char.toLower =
      f.1.toList.map Char.toLower ++ ':' :: (' ' :: (f.2.toList ++ ['\r']) ++ ['\n']).map Char.toLower := by
    rw [headerLine, List.append_assoc, List.map_append]
    rfl
  have hname := congrArg (List.takeWhile fun c => decide (c ≠ ':')) (hrest.trans hline)
  rw [List.takeWhile_append_of_pos hcolon] at hname
  have hnil : ∀ l, List.takeWhile (fun c => decide (c ≠ ':')) (':' :: l) = [] := fun l => rfl
  rw [hnil, List.append_nil] at hname
  exact hname.symm

theorem headerLine_ok (u : Ureq) (line : List Char) (h : line ∈ u.headers.map headerLine) :
    '\n' ∉ line ∧ line.all isWhitespace = false := by
  obtain ⟨f, hf, rfl⟩ := List.mem_map.mp h
  obtain ⟨hne, htok⟩ := u.name_token f hf
  constructor
  · intro hmem
    rcases List.mem_append.mp hmem with hmem | hmem
    · have := (htok _ hmem).2
      revert this
      decide
    · have hval := u.value_line f hf
      simp only [List.mem_cons, List.mem_append, List.not_mem_nil, or_false, hval,
        Char.reduceEq] at hmem
  · rw [headerLine, List.all_append]
    cases hname : f.1.toList with
    | nil => exact absurd hname hne
    | cons c cs =>
      have hc := (htok c (by rw [hname]; exact List.mem_cons_self)).2
      rw [List.all_cons, hc]
      rfl

/-- The lines of the client leave the length at zero. -/
theorem foldl_headerLength (u : Ureq) :
    (u.headers.map headerLine).foldl (fun len line => headerLength len (line ++ ['\n'])) 0 = 0 := by
  rw [List.foldl_map]
  refine List.foldlRecOn (motive := fun len => len = 0) u.headers _ rfl fun len hlen f hf => ?_
  rw [headerLength_headerLine u f hf len, hlen]

/-- The agent reads no body from the client: the request is routed with an empty one. -/
theorem handle_post (u : Ureq) (json : SerdeJson) (checks : Bool) (agent : Agent) (payload : List UInt8)
    (ok : Bool) :
    handleApiConnection json checks agent (u.post "/api/v1/container" payload) ok =
      respond json checks agent "POST".toList "/api/v1/container".toList [] ok := by
  have hparts : splitWhitespace (postLine "/api/v1/container" ++ ['\n']) =
      ["POST".toList, "/api/v1/container".toList, "HTTP/1.1".toList] := by decide
  rw [Ureq.post, handleApiConnection_eq json checks agent ok _ _ ['\r'] _ (by decide)
    (by rw [hparts]; decide) (headerLine_ok u) (by decide) (by decide), foldl_headerLength, hparts]
  rfl

/-- An empty body is not JSON. -/
theorem respond_empty (json : SerdeJson) (checks : Bool) (agent : Agent) (ok : Bool) :
    ∃ text, respond json checks agent "POST".toList "/api/v1/container".toList [] ok =
      (agent, some text) ∧ text.toList.head? = some '4' := by
  obtain ⟨e, he⟩ := json.fromSlice_nil
  refine ⟨"400 Bad Request\r\n\r\n\x7b\"error\":\"json: " ++ e ++ "\"\x7d", ?_, ?_⟩
  · rw [respond, if_pos ⟨rfl, rfl⟩, he]
    rfl
  · exact head_append _ _ '4' (head_append _ _ '4' (by decide))

/-- The client takes none of the agent's answers. -/
theorem response_respond (u : Ureq) (json : SerdeJson) (checks : Bool) (agent : Agent)
    (method path : List Char) (body : List UInt8) (ok : Bool) (text : String)
    (h : (respond json checks agent method path body ok).2 = some text) :
    u.response (utf8 text.toList) = none := by
  cases hresp : u.response (utf8 text.toList) with
  | none => rfl
  | some heard =>
    have hhead := head_of_utf8_prefix 'H' "TTP/".toList text.toList (by decide)
      (u.status_line _ _ hresp)
    exact absurd hhead (respond_not_http json checks agent method path body ok text h)

/-- The plugin takes its own address. -/
theorem allocateIp_eq_fallback (u : Ureq) (json : SerdeJson) (checks : Bool) (agent : Agent) (id : String)
    (ok : Bool) : allocateIp u json (agentConnection json checks agent ok) id = fallbackIp id := by
  obtain ⟨text, hempty, -⟩ := respond_empty json checks agent ok
  have hnone := response_respond u json checks agent _ _ _ ok _ (congrArg Prod.snd hempty)
  unfold allocateIp agentConnection
  rw [handle_post, hempty, Option.map_some, Option.getD_some, Option.bind_eq_bind, Option.bind_some,
    hnone]
  rfl

/-- The answer is not that of an `allocate`. -/
theorem not_agreed (u : Ureq) (json : SerdeJson) (checks : Bool) (agent : Agent) (id : String) (ok : Bool) :
    ¬ Agreed u json checks agent id ok := by
  rintro ⟨ip, hanswer, -, -⟩
  obtain ⟨text, hempty, hhead⟩ := respond_empty json checks agent ok
  rw [handle_post, hempty] at hanswer
  have htwo : text.toList.head? = some '2' := by
    rw [Option.some.inj hanswer]
    exact head_append _ _ '2' (head_append _ _ '2' (by decide))
  rw [hhead] at htwo
  exact absurd (Option.some.inj htwo) (by decide)

/-! ## Agreement -/

/-- **The plugin and the agent never agree.**  Whatever the client's headers and
chunks, the agent's state and the container, the agent answers no address, and the
plugin takes the one it computes on its own. -/
theorem allocateIp_never_agreed (u : Ureq) (json : SerdeJson) (checks : Bool) (agent : Agent)
    (id : String) (ok : Bool) :
    ¬ Agreed u json checks agent id ok ∧
      allocateIp u json (agentConnection json checks agent ok) id = fallbackIp id :=
  ⟨not_agreed u json checks agent id ok, allocateIp_eq_fallback u json checks agent id ok⟩

/-- The fields the real client sends. -/
def plainHeaders : List (String × String) :=
  [("Host", "127.0.0.1:9091"), ("User-Agent", "ureq/2.9"), ("Accept", "*/*"),
    ("Content-Type", "application/json"), ("Transfer-Encoding", "chunked"),
    ("accept-encoding", "gzip")]

theorem plainHeaders_ok : (plainHeaders.all fun f =>
    !f.1.toList.isEmpty && (f.1.toList.all fun c => c != ':' && !isWhitespace c) &&
      !f.2.toList.contains '\n' && f.1.toList.map Char.toLower != "content-length".toList) = true := by
  decide +kernel

/-- A client that reads the body of an answer behind its head. -/
def plainUreq : Ureq where
  headers := plainHeaders
  encode payload := utf8 (Nat.toDigits 16 payload.length ++ "\r\n".toList) ++ payload ++
    utf8 "\r\n0\r\n\r\n".toList
  response answer :=
    if (utf8 "HTTP/".toList).isPrefixOf answer then
      some ((fromUtf8 (readHeaders 0 answer).2).map String.ofList)
    else none
  name_token := by
    intro f hf
    have hok := List.all_eq_true.mp plainHeaders_ok f hf
    simp only [Bool.and_eq_true, Bool.not_eq_true', List.all_eq_true, bne_iff_ne, ne_eq,
      List.isEmpty_eq_false_iff] at hok
    exact hok.1.1
  value_line := by
    intro f hf
    have hok := List.all_eq_true.mp plainHeaders_ok f hf
    simp only [Bool.and_eq_true, Bool.not_eq_true', List.contains_eq_mem,
      decide_eq_false_iff_not] at hok
    exact hok.1.2
  chunked := List.mem_of_getElem? (i := 4) rfl
  no_length := by
    intro f hf
    have hok := List.all_eq_true.mp plainHeaders_ok f hf
    simp only [Bool.and_eq_true, bne_iff_ne] at hok
    exact hok.2
  status_line := by
    intro answer body h
    split at h
    · next hpre => exact List.isPrefixOf_iff_prefix.mp hpre
    · cases h

/-- The parser and the printer on the request for `web`. -/
def plainJson : SerdeJson where
  fromSlice bytes :=
    if bytes = utf8 "\x7b\"action\":\"allocate\",\"container_id\":\"web\"\x7d".toList then
      .ok (allocateRequest "web")
    else if bytes = [] then .error "EOF while parsing a value at line 1 column 0"
    else .error "expected value at line 1 column 1"
  toText _ := "\x7b\"action\":\"allocate\",\"container_id\":\"web\"\x7d"
  fromSlice_nil := ⟨"EOF while parsing a value at line 1 column 0", rfl⟩

/-- A running agent with an empty map: `allocate` would give `web` another address than
the plugin takes, and it is not asked. -/
theorem web_not_agreed :
    ¬ Agreed plainUreq plainJson false Agent.loaded "web" true ∧
      allocateIp plainUreq plainJson (agentConnection plainJson false Agent.loaded true) "web" =
        ⟨10, 244, 0, 198⟩ ∧
      (allocate false Agent.loaded "web" true).2 = some "10.244.0.86" := by
  refine ⟨not_agreed _ _ _ _ _ _, ?_, by decide +kernel⟩
  rw [allocateIp_eq_fallback]
  decide +kernel

end NomadP2P
