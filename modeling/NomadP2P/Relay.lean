import NomadP2P.Lib.Text
import NomadP2P.Protocol

/-!
# Relay queries (`query_seed_for_relay` of `agent/src/relay.rs`)

The query goes out as a frame of `UdpProtocol::marshal`.  What comes back is read from a
socket of its own into 2048 zero bytes, and all 2048 are handed to the JSON parser: no
header and no tag are taken off, nothing is verified, and the bytes behind a
shorter datagram stay zero.  `serde_json` is a parameter; it accepts no byte but
white space and brackets at either end.

    querySeedForRelay … (datagram d) = some ep ↔ RawRelay J d ep         (result_iff)

So what is accepted are datagrams of at least 2048 bytes whose first 2048 are a bare JSON
message, from anyone, and no reply of a seed that `marshal` has framed is
(`relay_exact_iff`).
-/

namespace NomadP2P.Relay

open Bytes Text Protocol

/-! ## Algorithm -/

structure RelayInfo where
  relayIp : String
  relayPort : UInt16
deriving DecidableEq

structure NodeRegistration where
  overlayIp : String
  publicIp : String
  publicPort : UInt16
  subnet : String
  relayCapable : Bool
  natType : UInt8
deriving DecidableEq

structure Message where
  msgType : String
  qid : Option String := none
  ts : Int
  nonce : String
  nodeInfo : Option NodeRegistration := none
  queryIp : Option String := none
  nodes : Option (List NodeRegistration) := none
  relay : Option RelayInfo := none
deriving DecidableEq

/-- `serde_json` at the type `Message`. -/
structure SerdeJson where
  toVec : Message → List UInt8
  fromSlice : List UInt8 → Option Message

/-- White space of JSON. -/
def jsonSpace (b : UInt8) : Bool := b == 0x20 || b == 0x09 || b == 0x0A || b == 0x0D

/-- A text that is accepted begins with white space or an opening bracket and ends with
white space or a closing bracket. -/
structure SerdeJson.Strict (J : SerdeJson) : Prop where
  head : ∀ bytes m, J.fromSlice bytes = some m →
    ∃ b, bytes.head? = some b ∧ (jsonSpace b = true ∨ b = 0x7B ∨ b = 0x5B)
  last : ∀ bytes m, J.fromSlice bytes = some m →
    ∃ b, bytes.getLast? = some b ∧ (jsonSpace b = true ∨ b = 0x7D ∨ b = 0x5D)

/-- What the query draws and reads from the clock. -/
structure QueryRandom where
  qid : UInt64
  nonce : UInt64
  ts : Int
  now : Nat
  nonceBytes : List UInt8

/-- The message of a relay query. -/
def relayQuery (targetIp : String) (r : QueryRandom) : Message where
  msgType := "relay_query"
  qid := some (hex (beBytes 8 r.qid.toNat))
  ts := r.ts
  nonce := hex (beBytes 8 r.nonce.toNat)
  queryIp := some targetIp

/-- What the wait for a reply comes to. -/
inductive Reply
  | timeout
  | recvError
  | datagram (bytes : List UInt8)

/-- The endpoint a message names as relay. -/
def relayEndpoint (m : Message) : Option PeerEndpoint := do
  let relay ← m.relay
  let ip ← Ipv4Addr.parse relay.relayIp
  some ⟨ip.toU32, relay.relayPort, 0⟩

/-- `vec![0u8; 2048]`. -/
def replyBuf : List UInt8 := List.replicate 2048 0

/-- `query_seed_for_relay`: the datagram that is sent, if sending succeeds, and the
result.  A failed `recv` is not looked at, and the buffer is parsed as it is. -/
def querySeedForRelay (H : HmacSha256) (J : SerdeJson) (p : UdpProtocol) (targetIp : String)
    (r : QueryRandom) (sends binds : Bool) (reply : Reply) : Option (List UInt8) × Option PeerEndpoint :=
  if !sends then (none, none)
  else
    let sent := some (p.marshal H (J.toVec (relayQuery targetIp r)) r.now r.nonceBytes)
    if !binds then (sent, none)
    else
      match reply with
      | .timeout => (sent, none)
      | .recvError => (sent, (J.fromSlice replyBuf).bind relayEndpoint)
      | .datagram d => (sent, (J.fromSlice (recvFrom replyBuf d).1).bind relayEndpoint)

/-- The datagram is a frame of `marshal` under the key of `p`, for a message that names
`ep` as relay. -/
def FrameRelay (H : HmacSha256) (J : SerdeJson) (p : UdpProtocol) (d : List UInt8) (ep : PeerEndpoint) :
    Prop :=
  ∃ m now nonceBytes, now < 2 ^ 64 ∧ nonceBytes.length = 8 ∧
    d = p.marshal H (J.toVec m) now nonceBytes ∧ relayEndpoint m = some ep

/-- The first 2048 bytes of the datagram are the JSON text of such a message. -/
def RawRelay (J : SerdeJson) (d : List UInt8) (ep : PeerEndpoint) : Prop :=
  2048 ≤ d.length ∧ ∃ m, J.fromSlice (d.take 2048) = some m ∧ relayEndpoint m = some ep

/-! ## Lemmas -/

/-- A zero byte at either end is not accepted. -/
theorem fromSlice_zero_last (J : SerdeJson) (hJ : J.Strict) (bytes : List UInt8)
    (h : bytes.getLast? = some 0) : J.fromSlice bytes = none := by
  cases hm : J.fromSlice bytes with
  | none => rfl
  | some m =>
    obtain ⟨b, hb, hclose⟩ := hJ.last bytes m hm
    rw [h] at hb
    obtain rfl := Option.some.inj hb
    exact absurd hclose (by decide)

theorem fromSlice_zero_head (J : SerdeJson) (hJ : J.Strict) (bytes : List UInt8)
    (h : bytes.head? = some 0) : J.fromSlice bytes = none := by
  cases hm : J.fromSlice bytes with
  | none => rfl
  | some m =>
    obtain ⟨b, hb, hopen⟩ := hJ.head bytes m hm
    rw [h] at hb
    obtain rfl := Option.some.inj hb
    exact absurd hopen (by decide)

theorem length_replyBuf : replyBuf.length = 2048 := List.length_replicate

/-- The buffer behind a datagram: zeros after a shorter one, the first 2048 bytes of a
longer one. -/
theorem buffer_of_short (d : List UInt8) (h : d.length < 2048) :
    (recvFrom replyBuf d).1.getLast? = some 0 := by
  rw [recvFrom_of_le _ _ (by rw [length_replyBuf]; omega)]
  unfold replyBuf
  rw [List.drop_replicate, List.getLast?_append, List.getLast?_replicate, if_neg (by omega)]
  rfl

theorem buffer_of_long (d : List UInt8) (h : 2048 ≤ d.length) :
    (recvFrom replyBuf d).1 = d.take 2048 := by
  unfold recvFrom
  simp only [length_replyBuf, Nat.min_eq_right h]
  rw [List.drop_of_length_le (by rw [length_replyBuf]), List.append_nil]

/-- What the function returns for a datagram. -/
theorem result_iff (H : HmacSha256) (J : SerdeJson) (hJ : J.Strict) (p : UdpProtocol) (targetIp : String)
    (r : QueryRandom) (d : List UInt8) (ep : PeerEndpoint) :
    (querySeedForRelay H J p targetIp r true true (.datagram d)).2 = some ep ↔ RawRelay J d ep := by
  show (J.fromSlice (recvFrom replyBuf d).1).bind relayEndpoint = some ep ↔ _
  unfold RawRelay
  by_cases hshort : d.length < 2048
  · rw [fromSlice_zero_last J hJ _ (buffer_of_short d hshort)]
    exact iff_of_false (by simp) (by omega)
  · rw [buffer_of_long d (by omega), Option.bind_eq_some_iff]
    exact ⟨fun h => ⟨by omega, h⟩, fun h => h.2⟩

theorem rawRelay_unique (J : SerdeJson) (d : List UInt8) (ep ep' : PeerEndpoint) (h : RawRelay J d ep)
    (h' : RawRelay J d ep') : ep = ep' := by
  obtain ⟨-, m, hm, hep⟩ := h
  obtain ⟨-, m', hm', hep'⟩ := h'
  rw [hm] at hm'
  obtain rfl := Option.some.inj hm'
  rw [hep] at hep'
  exact Option.some.inj hep'

/-- The first byte of a frame is the top byte of the clock. -/
theorem head_marshal (H : HmacSha256) (p : UdpProtocol) (payload : List UInt8) (now : Nat)
    (nonceBytes : List UInt8) (hnow : now < 2 ^ 56) :
    (p.marshal H payload now nonceBytes).head? = some 0 := by
  show some (UInt8.ofNat (now / 256 / 256 / 256 / 256 / 256 / 256 / 256)) = some 0
  rw [show now / 256 / 256 / 256 / 256 / 256 / 256 / 256 = 0 by omega]
  rfl

/-- So a frame from before that second is not accepted. -/
theorem not_rawRelay_marshal (H : HmacSha256) (J : SerdeJson) (hJ : J.Strict) (p : UdpProtocol)
    (payload : List UInt8) (now : Nat) (nonceBytes : List UInt8) (hnow : now < 2 ^ 56)
    (ep : PeerEndpoint) : ¬ RawRelay J (p.marshal H payload now nonceBytes) ep := by
  rintro ⟨-, m, hm, -⟩
  have hhead : ((p.marshal H payload now nonceBytes).take 2048).head? = some 0 := by
    rw [List.head?_take, if_neg (by decide), head_marshal H p payload now nonceBytes hnow]
  rw [fromSlice_zero_head J hJ _ hhead] at hm
  cases hm

theorem result_marshal (H : HmacSha256) (J : SerdeJson) (hJ : J.Strict) (p : UdpProtocol)
    (targetIp : String) (r : QueryRandom) (payload : List UInt8) (now : Nat) (nonceBytes : List UInt8)
    (hnow : now < 2 ^ 56) :
    (querySeedForRelay H J p targetIp r true true
      (.datagram (p.marshal H payload now nonceBytes))).2 = none := by
  apply Option.eq_none_iff_forall_ne_some.mpr
  intro ep hep
  exact not_rawRelay_marshal H J hJ p payload now nonceBytes hnow ep
    ((result_iff H J hJ p targetIp r _ ep).mp hep)

/-! ### Main theorem -/

/-- **Relay replies.**  For every datagram on the socket, the function returns exactly the
endpoint of an authentic relay frame if and only if the datagram is neither such a frame
nor begins with 2048 bytes of a bare JSON message with a relay, or is both for one
endpoint.  A frame whose clock is below 2⁵⁶ seconds is never both: it is refused. -/
theorem relay_exact_iff (H : HmacSha256) (J : SerdeJson) (hJ : J.Strict) (p : UdpProtocol)
    (targetIp : String) (r : QueryRandom) (d : List UInt8) :
    ((∀ ep, (querySeedForRelay H J p targetIp r true true (.datagram d)).2 = some ep ↔
        FrameRelay H J p d ep) ↔
      ((∀ ep, ¬ FrameRelay H J p d ep) ∧ ∀ ep, ¬ RawRelay J d ep) ∨
      ((∃ ep, FrameRelay H J p d ep) ∧ (∃ ep, RawRelay J d ep) ∧
        ∀ ep ep', FrameRelay H J p d ep → RawRelay J d ep' → ep = ep')) ∧
    ∀ payload now nonceBytes, now < 2 ^ 56 → d = p.marshal H payload now nonceBytes →
      (querySeedForRelay H J p targetIp r true true (.datagram d)).2 = none := by
  refine ⟨?_, ?_⟩
  · simp only [result_iff H J hJ p targetIp r d]
    constructor
    · intro h
      by_cases hraw : ∃ ep, RawRelay J d ep
      · obtain ⟨ep, hep⟩ := hraw
        refine Or.inr ⟨⟨ep, (h ep).mp hep⟩, ⟨ep, hep⟩, fun e e' he he' => ?_⟩
        exact rawRelay_unique J d e e' ((h e).mpr he) he'
      · have hnone : ∀ ep, ¬ RawRelay J d ep := not_exists.mp hraw
        exact Or.inl ⟨fun ep hep => hnone ep ((h ep).mpr hep), hnone⟩
    · rintro (⟨hframe, hraw⟩ | ⟨⟨f, hf⟩, ⟨e, he⟩, hsame⟩) ep
      · exact iff_of_false (hraw ep) (hframe ep)
      · constructor
        · intro hep
          exact hsame f ep hf hep ▸ hf
        · intro hep
          exact hsame ep e hep he ▸ he
  · rintro payload now nonceBytes hnow rfl
    exact result_marshal H J hJ p targetIp r payload now nonceBytes hnow

/-! ### A reply and an attack -/

/-- A seed's reply that names 203.0.113.9:7000. -/
def relayReply : Message where
  msgType := "relay"
  ts := 0
  nonce := ""
  relay := some ⟨"203.0.113.9", 7000⟩

/-- Its JSON text. -/
def relayText : List UInt8 := utf8
  ("\x7b\"type\":\"relay\",\"ts\":0,\"nonce\":\"\"," ++
    "\"relay\":\x7b\"relay_ip\":\"203.0.113.9\",\"relay_port\":7000\x7d\x7d").toList

/-- The text with spaces behind it, up to 2048 bytes. -/
def paddedText : List UInt8 := relayText ++ List.replicate (2048 - 87) 0x20

/-- A query for a relay, and its text. -/
def someQuery : QueryRandom := ⟨1, 2, 1000, 1000, [1, 2, 3, 4, 5, 6, 7, 8]⟩

def relayQueryText : List UInt8 :=
  utf8 "\x7b\"type\":\"relay_query\",\"qid\":\"0000000000000001\",\"ts\":1000,".toList ++
  utf8 "\"nonce\":\"0000000000000002\",\"query_ip\":\"10.244.1.5\"\x7d".toList

/-- `serde_json` at these messages and texts. -/
def relayJson : SerdeJson where
  toVec m := if m = relayReply then relayText
    else if m = relayQuery "10.244.1.5" someQuery then relayQueryText else []
  fromSlice bytes := if bytes = relayText ∨ bytes = paddedText then some relayReply else none

/-- The tags of the reply and of the query under the key `psk`, sent in second 1000. -/
def relayTag : List UInt8 :=
  [197, 51, 206, 244, 208, 158, 7, 218, 218, 44, 9, 167, 155, 78, 64, 162,
   115, 189, 72, 151, 102, 219, 156, 46, 16, 140, 2, 78, 197, 23, 235, 249]

def relayQueryTag : List UInt8 :=
  [67, 145, 178, 16, 190, 134, 20, 17, 207, 196, 215, 46, 114, 117, 217, 246,
   47, 167, 233, 142, 116, 130, 192, 52, 61, 207, 19, 117, 24, 248, 70, 109]

/-- HMAC-SHA256 at the arguments of the two frames, with tags of 32 bytes. -/
def relayTags (key data : List UInt8) : List UInt8 :=
  if key = [112, 115, 107] ∧ data = beBytes 8 1000 ++ [1, 2, 3, 4, 5, 6, 7, 8] ++ relayText then relayTag
  else if key = [112, 115, 107] ∧ data = beBytes 8 1000 ++ [1, 2, 3, 4, 5, 6, 7, 8] ++ relayQueryText then
    relayQueryTag
  else List.replicate 32 0

def relayMac : HmacSha256 where
  finalize := relayTags
  verifySlice key data tag := decide (tag = relayTags key data)

theorem last_relayTags (key data : List UInt8) :
    ∃ b, (relayTags key data).getLast? = some b ∧ b ≠ 0x20 := by
  unfold relayTags
  split
  · exact ⟨249, rfl, by decide⟩
  · split
    · exact ⟨109, rfl, by decide⟩
    · exact ⟨0, rfl, by decide⟩

theorem last_paddedText : paddedText.getLast? = some 0x20 := by
  unfold paddedText
  rw [List.getLast?_append, List.getLast?_replicate, if_neg (by decide)]
  rfl

theorem toVec_relayReply : relayJson.toVec relayReply = relayText := by
  unfold relayJson
  dsimp only
  rw [if_pos rfl]

theorem fromSlice_relayJson (bytes : List UInt8) :
    relayJson.fromSlice bytes =
      if bytes = relayText ∨ bytes = paddedText then some relayReply else none := rfl

theorem accepted_relayJson (bytes : List UInt8) (m : Message) (h : relayJson.fromSlice bytes = some m) :
    bytes = relayText ∨ bytes = paddedText := by
  by_contra hn
  rw [fromSlice_relayJson, if_neg hn] at h
  cases h

theorem relayJson_strict : relayJson.Strict where
  head bytes m h := by
    refine ⟨0x7B, ?_, by decide⟩
    have htext : relayText.head? = some 0x7B := by decide +kernel
    rcases accepted_relayJson bytes m h with rfl | rfl
    · exact htext
    · unfold paddedText
      rw [List.head?_append, htext]
      rfl
  last bytes m h := by
    rcases accepted_relayJson bytes m h with rfl | rfl
    · exact ⟨0x7D, by decide +kernel, by decide⟩
    · exact ⟨0x20, last_paddedText, by decide⟩

/-- The last byte of a frame is that of a tag. -/
theorem not_frameRelay_of_space (d : List UInt8) (h : d.getLast? = some 0x20) (ep : PeerEndpoint) :
    ¬ FrameRelay relayMac relayJson (bind "psk") d ep := by
  rintro ⟨m, now, nonceBytes, -, -, hd, -⟩
  have hlast := congrArg List.getLast? hd
  simp only [UdpProtocol.marshal, UdpProtocol.sign, relayMac] at hlast
  obtain ⟨b, hb, hne⟩ := last_relayTags (bind "psk").psk (beBytes 8 now ++ nonceBytes ++ relayJson.toVec m)
  rw [h, List.getLast?_append, hb, Option.some_or, Option.some.injEq] at hlast
  exact hne hlast.symm

/-- The text with spaces behind it, one byte short of the buffer. -/
def cutText : List UInt8 := relayText ++ List.replicate (2047 - 87) 0x20

theorem length_cutText : cutText.length = 2047 := by
  unfold cutText
  rw [List.length_append, List.length_replicate]
  decide +kernel

theorem last_cutText : cutText.getLast? = some 0x20 := by
  unfold cutText
  rw [List.getLast?_append, List.getLast?_replicate, if_neg (by decide)]
  rfl

/-- The bare text of a relay in 2047 bytes: it is no frame, and the zero byte behind it makes
the parser refuse it, so the two sides agree; and a frame of the same text is refused. -/
theorem cut_text_refused :
    relayJson.Strict ∧
      (∀ ep, (querySeedForRelay relayMac relayJson (bind "psk") "10.244.1.5" someQuery true true
          (.datagram cutText)).2 = some ep ↔ FrameRelay relayMac relayJson (bind "psk") cutText ep) ∧
      (querySeedForRelay relayMac relayJson (bind "psk") "10.244.1.5" someQuery true true
        (.datagram ((bind "psk").marshal relayMac relayText 1000 [1, 2, 3, 4, 5, 6, 7, 8]))).2 = none := by
  refine ⟨relayJson_strict, ?_, ?_⟩
  · refine (relay_exact_iff relayMac relayJson relayJson_strict (bind "psk") "10.244.1.5" someQuery
      cutText).1.mpr (Or.inl ⟨not_frameRelay_of_space cutText last_cutText, ?_⟩)
    rintro ep ⟨hlen, -⟩
    rw [length_cutText] at hlen
    omega
  · exact (relay_exact_iff relayMac relayJson relayJson_strict (bind "psk") "10.244.1.5" someQuery
      _).2 relayText 1000 [1, 2, 3, 4, 5, 6, 7, 8] (by decide) rfl

theorem relayEndpoint_relayReply : relayEndpoint relayReply = some ⟨0xCB007109, 7000, 0⟩ := by
  decide +kernel

theorem rawRelay_paddedText : RawRelay relayJson paddedText ⟨0xCB007109, 7000, 0⟩ := by
  have hlen : paddedText.length = 2048 := by
    unfold paddedText
    rw [List.length_append, List.length_replicate]
    decide +kernel
  refine ⟨by omega, relayReply, ?_, relayEndpoint_relayReply⟩
  rw [List.take_of_length_le (by omega), fromSlice_relayJson, if_pos (Or.inr rfl)]

/-- The reply of a seed that shares the key, framed and tagged, is refused; the bare text
of the same message, padded to 2048 bytes and from anyone, is taken. -/
theorem frame_refused_bare_text_taken :
    FrameRelay relayMac relayJson (bind "psk")
        ((bind "psk").marshal relayMac relayText 1000 [1, 2, 3, 4, 5, 6, 7, 8])
        ⟨0xCB007109, 7000, 0⟩ ∧
      (querySeedForRelay relayMac relayJson (bind "psk") "10.244.1.5" someQuery true true
        (.datagram ((bind "psk").marshal relayMac relayText 1000 [1, 2, 3, 4, 5, 6, 7, 8]))).2 = none ∧
      (∀ ep, ¬ FrameRelay relayMac relayJson (bind "psk") paddedText ep) ∧
      (querySeedForRelay relayMac relayJson (bind "psk") "10.244.1.5" someQuery true true
        (.datagram paddedText)).2 = some ⟨0xCB007109, 7000, 0⟩ := by
  refine ⟨?_, ?_, ?_, ?_⟩
  · refine ⟨relayReply, 1000, [1, 2, 3, 4, 5, 6, 7, 8], by decide, rfl, ?_, relayEndpoint_relayReply⟩
    rw [toVec_relayReply]
  · exact result_marshal relayMac relayJson relayJson_strict _ _ _ _ 1000 _ (by decide)
  · exact not_frameRelay_of_space paddedText last_paddedText
  · exact (result_iff relayMac relayJson relayJson_strict _ _ _ _ _).mpr rawRelay_paddedText

end NomadP2P.Relay
