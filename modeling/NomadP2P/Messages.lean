import NomadP2P.Delivery
import NomadP2P.Relay
import NomadP2P.Config

/-!
# Messages on the wire (`Message` of `agent/src/seed.rs`, the match of `recv_loop`)

An agent sends three kinds of messages, and `recv_loop` tells four apart by the field `type`.
`serde_json` is a parameter: a message goes through it as text, and what is asked of it is
that the text of a message that was sent is read as a value with the message's type.

Between the nodes of a key a registration and a query then reach their branches, a relay
query the one for unknown types, and the branch for announcements is reached by nothing
(`mesh_kinds`).
-/

namespace NomadP2P.Wire

open Relay Protocol

/-! ## Algorithm -/

/-- `ts` is an `i64`. -/
def InRange (ts : Int) : Prop := -2 ^ 63 ≤ ts ∧ ts < 2 ^ 63

abbrev WireMessage := { m : Message // InRange m.ts }

/-- The branches of the match in `recv_loop`. -/
inductive Kind
  | register
  | query
  | announce
  | unknown (msgType : String)
deriving DecidableEq

def Kind.of (msgType : String) : Kind :=
  if msgType = "register" then .register
  else if msgType = "query" then .query
  else if msgType = "announce" then .announce
  else .unknown msgType

/-- `serde_json`: `to_vec` at a message, and `from_slice` at a value. -/
structure JsonText where
  toVec : WireMessage → List UInt8
  fromSlice : List UInt8 → Option Json

/-- The branch for a payload: `none` when it is no JSON or has no text as `type`. -/
def JsonText.dispatch (T : JsonText) (payload : List UInt8) : Option Kind := do
  let msg ← T.fromSlice payload
  let msgType ← (msg.field "type").asStr
  some (.of msgType)

/-- The text of the message is read as a value with its type. -/
def JsonText.KeepsType (T : JsonText) (m : WireMessage) : Prop :=
  ∃ v, T.fromSlice (T.toVec m) = some v ∧ v.field "type" = .string m.1.msgType

/-! ### What is sent -/

/-- `nat_type as u8`. -/
def natCode : NatType → UInt8
  | .unknown => 0
  | .easy => 1
  | .symmetric => 2

/-- The message of `register`. -/
def registerMessage (cfg : AgentConfig) (state : Stun.AgentState) (r : QueryRandom) : Message where
  msgType := "register"
  qid := some (Bytes.hex (Bytes.beBytes 8 r.qid.toNat))
  ts := r.ts
  nonce := Bytes.hex (Bytes.beBytes 8 r.nonce.toNat)
  nodeInfo := some
    { overlayIp := cfg.nodeOverlayIp
      publicIp := state.publicIp.toText
      publicPort := state.publicPort
      subnet := cfg.nodeSubnet
      relayCapable := false
      natType := natCode state.natType }

/-- The message of `query_peer`. -/
def queryMessage (overlayIp : String) (r : QueryRandom) : Message where
  msgType := "query"
  qid := some (Bytes.hex (Bytes.beBytes 8 r.qid.toNat))
  ts := r.ts
  nonce := Bytes.hex (Bytes.beBytes 8 r.nonce.toNat)
  queryIp := some overlayIp

/-- The random numbers and the second of a message; `now_ts` is an `i64`. -/
abbrev Drawn := { r : QueryRandom // InRange r.ts }

/-- The calls of `send_to` in the agent. -/
inductive Outgoing
  | register (cfg : AgentConfig) (state : Stun.AgentState) (r : Drawn)
  | query (overlayIp : String) (r : Drawn)
  | relayQuery (targetIp : String) (r : Drawn)

def Outgoing.message : Outgoing → WireMessage
  | .register cfg state r => ⟨registerMessage cfg state r.1, r.2⟩
  | .query overlayIp r => ⟨queryMessage overlayIp r.1, r.2⟩
  | .relayQuery targetIp r => ⟨Relay.relayQuery targetIp r.1, r.2⟩

/-- The branch it comes to. -/
def Outgoing.kind : Outgoing → Kind
  | .register .. => .register
  | .query .. => .query
  | .relayQuery .. => .unknown "relay_query"

/-- The payload is the text of the call's message, and reading it keeps the type. -/
def Outgoing.Written (T : JsonText) (payload : List UInt8) (o : Outgoing) : Prop :=
  payload = T.toVec o.message ∧ T.KeepsType o.message

/-! ## Lemmas -/

/-- The branch for the text of a message is that of its type. -/
theorem dispatch_toVec (T : JsonText) (m : WireMessage) (hT : T.KeepsType m) :
    T.dispatch (T.toVec m) = some (.of m.1.msgType) := by
  obtain ⟨v, hv, htype⟩ := hT
  unfold JsonText.dispatch
  rw [hv]
  show ((v.field "type").asStr).bind (fun msgType => some (Kind.of msgType)) = _
  rw [htype]
  rfl

theorem of_msgType (o : Outgoing) : Kind.of o.message.1.msgType = o.kind := by
  cases o with
  | register cfg state r => rfl
  | query overlayIp r => rfl
  | relayQuery targetIp r =>
    show Kind.of "relay_query" = .unknown "relay_query"
    decide

theorem dispatch_written (T : JsonText) (payload : List UInt8) (o : Outgoing) (h : o.Written T payload) :
    T.dispatch payload = some o.kind := by
  rw [h.1, dispatch_toVec T o.message h.2, of_msgType]

/-! ### Main theorem -/

/-- **What nodes tell each other.**  Where no one but the holders of the key makes tags and all
that is sent are messages of agents, whatever a node dispatches is the text of such a message and
comes to the branch of its kind. -/
theorem mesh_kinds {ι : Type} [DecidableEq ι] (H : HmacSha256) (hH : H.Exact) (psk : String) (T : JsonText)
    (events : List (MeshEvent ι)) (hrun : (mesh H).Guarded (Unforged H psk) (startMesh psk) events)
    (hsent : ∀ f ∈ (meshAfter H psk events).sent, ∃ o : Outgoing, o.Written T f.payload)
    (i : ι) (n : Nat) (addr : SocketAddr) (buf : List UInt8)
    (hd : (n, addr, buf) ∈ ((meshAfter H psk events).node i).dispatches) :
    ∃ f ∈ (meshAfter H psk events).sent, ∃ o : Outgoing, f.payload = T.toVec o.message ∧
      recvLoopPayload buf n = some f.payload ∧ T.dispatch f.payload = some o.kind := by
  obtain ⟨f, hf, a, -, hpayload, -, -, -⟩ := sent_of_dispatch H hH psk events hrun i n addr buf hd
  obtain ⟨o, ho⟩ := hsent f hf
  exact ⟨f, hf, o, ho.1, hpayload, dispatch_written T f.payload o ho⟩

/-! ### A registration and a query -/

theorem inRange_1000 : InRange 1000 := ⟨by decide, by decide⟩

/-- A registration of the default configuration, and a query. -/
def someRegister : Outgoing :=
  .register .default ⟨.easy, ⟨198, 51, 100, 7⟩, 9527⟩ ⟨⟨1, 2, 1000, 1000, []⟩, inRange_1000⟩

def somePeerQuery : Outgoing :=
  .query "10.244.1.5" ⟨⟨3, 4, 1000, 1000, []⟩, inRange_1000⟩

/-- The values of the two texts. -/
def registerValue : Json := .object
  [("type", .string "register"), ("qid", .string "0000000000000001"), ("ts", .number "1000"),
    ("nonce", .string "0000000000000002"),
    ("node_info", .object [("overlay_ip", .string "10.244.0.1"), ("public_ip", .string "198.51.100.7"),
      ("public_port", .number "9527"), ("subnet", .string "10.244.1.0/24"),
      ("relay_capable", .bool false), ("nat_type", .number "1")])]

def queryValue : Json := .object
  [("type", .string "query"), ("qid", .string "0000000000000003"), ("ts", .number "1000"),
    ("nonce", .string "0000000000000004"), ("query_ip", .string "10.244.1.5")]

/-- `serde_json` at the two messages and their texts. -/
def twoTexts : JsonText where
  toVec m := if m = someRegister.message then registerText
    else if m = somePeerQuery.message then queryText else []
  fromSlice bytes := if bytes = registerText then some registerValue
    else if bytes = queryText then some queryValue else none

theorem toVec_twoTexts (m : WireMessage) :
    twoTexts.toVec m = if m = someRegister.message then registerText
      else if m = somePeerQuery.message then queryText else [] := rfl

theorem fromSlice_twoTexts (bytes : List UInt8) :
    twoTexts.fromSlice bytes = if bytes = registerText then some registerValue
      else if bytes = queryText then some queryValue else none := rfl

theorem queryText_ne : queryText ≠ registerText := by
  intro h
  exact absurd (congrArg List.length h) (by decide +kernel)

theorem register_written : someRegister.Written twoTexts registerText := by
  have hvec : twoTexts.toVec someRegister.message = registerText := by
    rw [toVec_twoTexts, if_pos rfl]
  refine ⟨hvec.symm, registerValue, ?_, rfl⟩
  rw [hvec, fromSlice_twoTexts, if_pos rfl]

theorem peerQuery_written : somePeerQuery.Written twoTexts queryText := by
  have hne : somePeerQuery.message ≠ someRegister.message := by
    intro h
    exact absurd (congrArg (fun m : WireMessage => m.1.msgType) h) (by decide)
  have hvec : twoTexts.toVec somePeerQuery.message = queryText := by
    rw [toVec_twoTexts, if_neg hne, if_pos rfl]
  refine ⟨hvec.symm, queryValue, ?_, rfl⟩
  rw [hvec, fromSlice_twoTexts, if_neg queryText_ne, if_pos rfl]

/-- The query behind the registration is parsed, and comes to the branch of its kind. -/
theorem query_kind :
    ∃ f ∈ (meshAfter exactMac "psk" twoFramesRun).sent, ∃ o : Outgoing,
      f.payload = twoTexts.toVec o.message ∧
        recvLoopPayload queryBuf (queryFrame.bytes exactMac "psk").length = some f.payload ∧
        twoTexts.dispatch f.payload = some o.kind := by
  refine mesh_kinds exactMac exactMac_exact "psk" twoTexts twoFramesRun twoFramesRun_unforged ?_ true _
    (copyAt queryFrame 1002).addr queryBuf query_in_dispatches
  have hsent : (meshAfter exactMac "psk" twoFramesRun).sent = [registerFrame, queryFrame] := rfl
  rw [hsent]
  simp only [List.mem_cons, List.not_mem_nil, or_false]
  rintro f (rfl | rfl)
  · exact ⟨someRegister, register_written⟩
  · exact ⟨somePeerQuery, peerQuery_written⟩

end NomadP2P.Wire
