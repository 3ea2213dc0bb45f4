import NomadP2P.Lib.Text
import NomadP2P.Replay

/-!
# The frame codec: `marshal` against `recv` and `recv_loop`

Three places compute the borders of header, payload and tag: `marshal` writes them,
`recv` cuts the received bytes at them to verify, and `recv_loop` cuts the buffer
once more for the JSON parser.  Here they are put side by side, for a MAC whose
check is equality with the tag:

    recvPass … (marshal payload ts nonce) accepts, and the slice of the buffer is
      the payload                                                    (recvPass_marshal)
    recvPass … d accepts → d is the output of marshal for that slice (marshal_of_accepted)

A buffer of 65535 bytes holds anything behind the datagram, so nothing depends on
what earlier datagrams left there.
-/

namespace NomadP2P.Protocol

open Bytes Text

/-! ## Algorithm -/

/-- The payload `recv_loop` hands to the JSON parser, behind a `recv` of `n` bytes. -/
def recvLoopPayload (buf : List UInt8) (n : Nat) : Option (List UInt8) :=
  slice buf headerSize (n - hmacSize)

/-- The tag has 32 bytes, and `verify_slice` compares with it. -/
structure HmacSha256.Exact (H : HmacSha256) : Prop where
  length : ∀ key data, (H.finalize key data).length = hmacSize
  verify : ∀ key data tag, H.verifySlice key data tag = true ↔ tag = H.finalize key data

/-- No nonce of the cache that still counts is `nonceBytes`. -/
def UdpProtocol.FreshNonce (p : UdpProtocol) (now : Nat) (nonceBytes : List UInt8) : Prop :=
  ∀ e ∈ p.nonces, now - replayWindowSecs < e.2 → e.1 ≠ hex nonceBytes

/-! ## Lemmas -/

theorem length_marshal (H : HmacSha256) (hH : H.Exact) (p : UdpProtocol) (payload : List UInt8) (ts : Nat)
    (nonceBytes : List UInt8) (hn : nonceBytes.length = 8) :
    (p.marshal H payload ts nonceBytes).length = minMessageSize + payload.length := by
  simp only [UdpProtocol.marshal, UdpProtocol.sign, List.length_append, length_beBytes, hn, hH.length]
  unfold minMessageSize headerSize hmacSize
  omega

/-- The signed part of a frame is what stands before the tag. -/
theorem take_marshal (H : HmacSha256) (hH : H.Exact) (p : UdpProtocol) (payload : List UInt8) (ts : Nat)
    (nonceBytes : List UInt8) (hn : nonceBytes.length = 8) :
    (p.marshal H payload ts nonceBytes).take ((p.marshal H payload ts nonceBytes).length - hmacSize) =
        beBytes 8 ts ++ nonceBytes ++ payload ∧
      (p.marshal H payload ts nonceBytes).drop ((p.marshal H payload ts nonceBytes).length - hmacSize) =
        H.finalize p.psk (beBytes 8 ts ++ nonceBytes ++ payload) := by
  have hlen : (p.marshal H payload ts nonceBytes).length - hmacSize =
      (beBytes 8 ts ++ nonceBytes ++ payload).length := by
    rw [length_marshal H hH p payload ts nonceBytes hn]
    simp only [List.length_append, length_beBytes, hn]
    unfold minMessageSize headerSize hmacSize
    omega
  rw [hlen]
  exact ⟨List.take_left' rfl, List.drop_left' rfl⟩

theorem timestamp_marshal (H : HmacSha256) (p : UdpProtocol) (payload : List UInt8) (ts : Nat)
    (nonceBytes : List UInt8) (hts : ts < 2 ^ 64) :
    timestamp (p.marshal H payload ts nonceBytes) = ts := by
  have htake : (p.marshal H payload ts nonceBytes).take 8 = beBytes 8 ts := by
    unfold UdpProtocol.marshal
    simp only [List.append_assoc]
    exact List.take_left' (length_beBytes 8 ts)
  rw [timestamp, htake, beNat_beBytes, Nat.mod_eq_of_lt]
  omega

theorem nonce_marshal (H : HmacSha256) (p : UdpProtocol) (payload : List UInt8) (ts : Nat)
    (nonceBytes : List UInt8) (hn : nonceBytes.length = 8) :
    nonce (p.marshal H payload ts nonceBytes) = nonceBytes := by
  unfold nonce UdpProtocol.marshal
  simp only [List.append_assoc]
  rw [List.drop_left' (length_beBytes 8 ts)]
  exact List.take_left' hn

theorem authentic_iff (H : HmacSha256) (hH : H.Exact) (psk d : List UInt8) :
    authentic H psk d = true ↔ minMessageSize ≤ d.length ∧
      d.drop (d.length - hmacSize) = H.finalize psk (d.take (d.length - hmacSize)) := by
  unfold authentic
  rw [Bool.and_eq_true, decide_eq_true_eq, hH.verify]

theorem checkNonce_fresh (p : UdpProtocol) (d : List UInt8) (now : Nat)
    (hwindow : absDiff (timestamp d) now ≤ replayWindowSecs) (hfresh : p.FreshNonce now (nonce d)) :
    (p.checkNonce d now).2 = true := by
  unfold UdpProtocol.checkNonce
  simp only
  rw [if_neg (by omega), if_neg]
  intro hany
  obtain ⟨e, he, heq⟩ := List.any_eq_true.mp hany
  rw [List.mem_filter] at he
  exact hfresh e he.1 (of_decide_eq_true he.2) (beq_iff_eq.mp heq)

/-- The slice of the buffer behind a frame that fits. -/
theorem recvLoopPayload_eq (d tail : List UInt8) (h : minMessageSize ≤ d.length) :
    recvLoopPayload (d ++ tail) d.length =
      some ((d.drop headerSize).take (d.length - hmacSize - headerSize)) := by
  exact (slices_append d tail h).2.1

/-! ## Round trip -/

/-- A frame in the window with a fresh nonce is accepted, and the slice of the buffer is
its payload, whatever the buffer held. -/
theorem recvPass_marshal (H : HmacSha256) (hH : H.Exact) (sender p : UdpProtocol) (buf : List UInt8)
    (payload : List UInt8) (ts now : Nat) (nonceBytes : List UInt8) (hbuf : buf.length = 65535)
    (hpsk : p.psk = sender.psk) (hlen : minMessageSize + payload.length ≤ 65535) (hts : ts < 2 ^ 64)
    (hn : nonceBytes.length = 8) (hwindow : absDiff ts now ≤ replayWindowSecs)
    (hfresh : p.FreshNonce now nonceBytes) :
    ∃ p' buf', recvPass H p buf now (sender.marshal H payload ts nonceBytes) =
        some (p', buf', some (minMessageSize + payload.length)) ∧
      recvLoopPayload buf' (minMessageSize + payload.length) = some payload := by
  have hsize := length_marshal H hH sender payload ts nonceBytes hn
  obtain ⟨hsigned, htag⟩ := take_marshal H hH sender payload ts nonceBytes hn
  have hts' := timestamp_marshal H sender payload ts nonceBytes hts
  have hnonce := nonce_marshal H sender payload ts nonceBytes hn
  generalize sender.marshal H payload ts nonceBytes = d at hsize hsigned htag hts' hnonce ⊢
  have hauth : authentic H p.psk d = true := by
    refine (authentic_iff H hH p.psk d).mpr ⟨by omega, ?_⟩
    rw [htag, hsigned, hpsk]
  have haccept : (recvFrame H p now d).2 = some d.length := by
    have hfresh' := checkNonce_fresh p d now (by rw [hts']; exact hwindow) (by rw [hnonce]; exact hfresh)
    unfold recvFrame
    rw [if_pos hauth]
    show (if (p.checkNonce d now).2 then some d.length else none) = _
    rw [if_pos hfresh']
  refine ⟨(recvFrame H p now d).1, d ++ buf.drop d.length, ?_, ?_⟩
  · rw [recvPass_eq H p buf now d (by omega), haccept, hsize]
  · rw [← hsize, recvLoopPayload_eq d _ (by omega)]
    -- drop the header from the signed part
    have hpayload := congrArg (List.drop headerSize) hsigned
    rw [List.drop_take] at hpayload
    rw [hpayload]
    congr 1
    exact List.drop_left' (by rw [List.length_append, length_beBytes, hn]; rfl)

/-- A long enough datagram is timestamp, nonce, payload and tag. -/
theorem eq_parts (d : List UInt8) (h : minMessageSize ≤ d.length) :
    d.take (d.length - hmacSize) = beBytes 8 (timestamp d) ++ nonce d ++
      (d.drop headerSize).take (d.length - hmacSize - headerSize) := by
  unfold minMessageSize headerSize hmacSize at h
  have hts : beBytes 8 (timestamp d) = d.take 8 := by
    have hlen : (d.take 8).length = 8 := by rw [List.length_take]; omega
    have := beBytes_beNat (d.take 8)
    rwa [hlen] at this
  have hheader : d.take 8 ++ nonce d = d.take headerSize := by
    unfold nonce headerSize
    rw [← List.take_add]
  rw [hts, hheader, ← List.take_add]
  congr 1
  unfold headerSize hmacSize
  omega

/-- What a pass accepts is the output of the encoder for the payload it leaves in the
buffer. -/
theorem marshal_of_accepted (H : HmacSha256) (hH : H.Exact) (p p' : UdpProtocol) (buf buf' : List UInt8)
    (now : Nat) (d : List UInt8) (n : Nat) (hd : d.length ≤ buf.length)
    (h : recvPass H p buf now d = some (p', buf', some n)) :
    n = d.length ∧ ∃ payload, recvLoopPayload buf' n = some payload ∧
      d = p.marshal H payload (timestamp d) (nonce d) := by
  rw [recvPass_eq H p buf now d hd] at h
  simp only [Option.some.injEq, Prod.mk.injEq] at h
  obtain ⟨-, rfl, hn⟩ := h
  unfold recvFrame at hn
  by_cases hauth : authentic H p.psk d = true
  · rw [if_pos hauth] at hn
    replace hn : (if (p.checkNonce d now).2 then some d.length else none) = some n := hn
    split at hn
    · obtain ⟨hlen, htag⟩ := (authentic_iff H hH p.psk d).mp hauth
      obtain rfl := Option.some.inj hn
      refine ⟨rfl, _, recvLoopPayload_eq d _ hlen, ?_⟩
      show d = (beBytes 8 (timestamp d) ++ nonce d ++ _) ++
        H.finalize p.psk (beBytes 8 (timestamp d) ++ nonce d ++ _)
      rw [← eq_parts d hlen, ← htag, List.take_append_drop]
    · cases hn
  · rw [if_neg hauth] at hn
    cases hn

/-! ## Calls of `recv` -/

theorem recvFrame_psk (H : HmacSha256) (p : UdpProtocol) (now : Nat) (d : List UInt8) :
    (recvFrame H p now d).1.psk = p.psk := by
  unfold recvFrame UdpProtocol.checkNonce
  split
  · simp only
    split
    · rfl
    · split <;> rfl
  · rfl

/-- The encoder reads nothing of the protocol but the key. -/
theorem marshal_congr (H : HmacSha256) (p q : UdpProtocol) (h : p.psk = q.psk) (payload : List UInt8)
    (ts : Nat) (nonceBytes : List UInt8) :
    p.marshal H payload ts nonceBytes = q.marshal H payload ts nonceBytes := by
  unfold UdpProtocol.marshal UdpProtocol.sign
  rw [h]

/-- A call of `recv` does not panic, and what it returns is a frame of the encoder for the
payload `recv_loop` extracts. -/
theorem recv_exact (H : HmacSha256) (hH : H.Exact) (arrivals : List Arrival) :
    ∀ (p : UdpProtocol) (buf : List UInt8) (attempts : Nat), buf.length = 65535 →
      recv H p buf attempts arrivals ≠ .panicked ∧
      ∀ n addr p' buf' rest, recv H p buf attempts arrivals = .ok n addr p' buf' rest →
        ∃ a payload, a ∈ arrivals ∧ a.addr = addr ∧ recvLoopPayload buf' n = some payload ∧
          a.bytes = p.marshal H payload (timestamp a.bytes) (nonce a.bytes) := by
  induction arrivals with
  | nil =>
    intro p buf attempts _
    refine ⟨fun h => ?_, fun n addr p' buf' rest h => ?_⟩ <;> cases h
  | cons a arrivals ih =>
    intro p buf attempts hbuf
    have hfits := a.fits
    have hpass := recvPass_eq H p buf a.now a.bytes (by omega)
    unfold recv
    simp only [hpass]
    cases hout : (recvFrame H p a.now a.bytes).2 with
    | some m =>
      refine ⟨fun h => (by cases h), fun n addr p' buf' rest h => ?_⟩
      simp only [RecvResult.ok.injEq] at h
      obtain ⟨rfl, rfl, -, rfl, -⟩ := h
      rw [hout] at hpass
      obtain ⟨-, payload, hslice, hframe⟩ :=
        marshal_of_accepted H hH p _ buf _ a.now a.bytes m (by omega) hpass
      exact ⟨a, payload, List.mem_cons_self, rfl, hslice, hframe⟩
    | none =>
      -- skipped: the next pass has the same key and a buffer of the same length
      obtain ⟨hsafe, hok⟩ := ih (recvFrame H p a.now a.bytes).1
        (a.bytes ++ buf.drop a.bytes.length) _ (by
          rw [List.length_append, List.length_drop]
          omega)
      refine ⟨hsafe, fun n addr p' buf' rest h => ?_⟩
      obtain ⟨b, payload, hb, haddr, hslice, hframe⟩ := hok n addr p' buf' rest h
      refine ⟨b, payload, List.mem_cons_of_mem _ hb, haddr, hslice, ?_⟩
      exact hframe.trans (marshal_congr H _ p (recvFrame_psk H p a.now a.bytes) payload _ _)

theorem recv_of_recvPass (H : HmacSha256) (p p' : UdpProtocol) (buf buf' : List UInt8) (attempts n : Nat)
    (a : Arrival) (rest : List Arrival) (h : recvPass H p buf a.now a.bytes = some (p', buf', some n)) :
    recv H p buf attempts (a :: rest) = .ok n a.addr p' buf' rest := by
  unfold recv
  simp only [h]

/-- **The codec is exact.**  With a MAC of 32 bytes whose check is equality, and whatever
the 65535 bytes of the buffer: a frame of the encoder, in the window and with a fresh
nonce, is accepted with its own payload; no pass panics on any datagram that fits; and
what is accepted is a frame of the encoder for the payload `recv_loop` extracts. -/
theorem codec_exact (H : HmacSha256) (hH : H.Exact) (p : UdpProtocol) (buf : List UInt8)
    (hbuf : buf.length = 65535) :
    (∀ (sender : UdpProtocol) (payload : List UInt8) (ts now : Nat) (nonceBytes : List UInt8),
      p.psk = sender.psk → minMessageSize + payload.length ≤ 65535 → ts < 2 ^ 64 →
      nonceBytes.length = 8 → absDiff ts now ≤ replayWindowSecs → p.FreshNonce now nonceBytes →
      ∃ p' buf', recvPass H p buf now (sender.marshal H payload ts nonceBytes) =
          some (p', buf', some (minMessageSize + payload.length)) ∧
        recvLoopPayload buf' (minMessageSize + payload.length) = some payload ∧
        ∀ (a : Arrival) (attempts : Nat) (rest : List Arrival), a.now = now →
          a.bytes = sender.marshal H payload ts nonceBytes →
          recv H p buf attempts (a :: rest) =
            .ok (minMessageSize + payload.length) a.addr p' buf' rest) ∧
    (∀ (d : List UInt8) (now : Nat), d.length ≤ 65535 →
      ∃ p' buf' o, recvPass H p buf now d = some (p', buf', o) ∧ buf'.length = 65535 ∧
        ∀ n, o = some n → ∃ payload, recvLoopPayload buf' n = some payload ∧
          d = p.marshal H payload (timestamp d) (nonce d)) ∧
    ∀ (arrivals : List Arrival) (attempts : Nat),
      recv H p buf attempts arrivals ≠ .panicked ∧
      ∀ n addr p' buf' rest, recv H p buf attempts arrivals = .ok n addr p' buf' rest →
        ∃ a payload, a ∈ arrivals ∧ a.addr = addr ∧ recvLoopPayload buf' n = some payload ∧
          a.bytes = p.marshal H payload (timestamp a.bytes) (nonce a.bytes) := by
  refine ⟨?_, ?_, fun arrivals attempts => recv_exact H hH arrivals p buf attempts hbuf⟩
  · intro sender payload ts now nonceBytes hpsk hlen hts hn hwindow hfresh
    obtain ⟨p', buf', hpass, hslice⟩ := recvPass_marshal H hH sender p buf payload ts now nonceBytes hbuf
      hpsk hlen hts hn hwindow hfresh
    refine ⟨p', buf', hpass, hslice, fun a attempts rest hnow hbytes => ?_⟩
    exact recv_of_recvPass H p p' buf buf' attempts _ a rest (by rw [hnow, hbytes]; exact hpass)
  · intro d now hd
    have hpass := recvPass_eq H p buf now d (by omega)
    refine ⟨_, _, _, hpass, ?_, fun n hn => ?_⟩
    · rw [List.length_append, List.length_drop]
      omega
    · rw [hn] at hpass
      exact (marshal_of_accepted H hH p _ buf _ now d n (by omega) hpass).2

/-! ### Two frames -/

/-- HMAC-SHA256 under the key `psk` at the data of a table, with tags of 32 bytes. -/
def tableMac (table : List (List UInt8 × List UInt8)) : HmacSha256 where
  finalize key data :=
    if key = [112, 115, 107] then (table.lookup data).getD (List.replicate 32 0)
    else List.replicate 32 0
  verifySlice key data tag := decide
    (tag = if key = [112, 115, 107] then (table.lookup data).getD (List.replicate 32 0)
      else List.replicate 32 0)

theorem tableMac_exact (table : List (List UInt8 × List UInt8)) (h : ∀ e ∈ table, e.2.length = 32) :
    (tableMac table).Exact where
  length key data := by
    unfold tableMac
    dsimp only
    split
    · cases hl : table.lookup data with
      | none => rfl
      | some tag =>
        obtain ⟨pre, post, htable, -⟩ := List.lookup_eq_some_iff.mp hl
        exact h (data, tag) (by rw [htable]; exact List.mem_append_right _ List.mem_cons_self)
    · rfl
  verify key data tag := by
    unfold tableMac
    simp only [decide_eq_true_eq]

/-- The JSON text of a registration. -/
def registerText : List UInt8 :=
  utf8 "\x7b\"type\":\"register\",\"qid\":\"0000000000000001\",\"ts\":1000,".toList ++
  utf8 "\"nonce\":\"0000000000000002\",\"node_info\":\x7b\"overlay_ip\":\"10.244.0.1\",".toList ++
  utf8 "\"public_ip\":\"198.51.100.7\",\"public_port\":9527,\"subnet\":\"10.244.1.0/24\",".toList ++
  utf8 "\"relay_capable\":false,\"nat_type\":1\x7d\x7d".toList

/-- The JSON text of a query for a peer. -/
def queryText : List UInt8 :=
  utf8 "\x7b\"type\":\"query\",\"qid\":\"0000000000000003\",\"ts\":1000,".toList ++
  utf8 "\"nonce\":\"0000000000000004\",\"query_ip\":\"10.244.1.5\"\x7d".toList

def queryNonce : List UInt8 := [17, 18, 19, 20, 21, 22, 23, 24]

/-- The tags of the two frames in second 1000, the registration under the nonce 1, …, 8. -/
def registerTag : List UInt8 :=
  [83, 234, 161, 145, 196, 51, 245, 135, 229, 10, 55, 23, 220, 136, 102, 15,
   20, 196, 238, 92, 25, 13, 24, 85, 163, 35, 113, 243, 28, 54, 221, 63]

def queryTag : List UInt8 :=
  [137, 192, 199, 40, 46, 208, 228, 220, 203, 137, 183, 98, 12, 111, 214, 183,
   156, 76, 112, 219, 53, 34, 243, 8, 150, 30, 141, 136, 241, 41, 18, 163]

/-- HMAC-SHA256 at the frames of the two texts and at the empty frame. -/
def exactMac : HmacSha256 := tableMac
  [(frameHeader, frameTag), (frameHeader ++ registerText, registerTag),
    (beBytes 8 1000 ++ queryNonce ++ queryText, queryTag)]

theorem exactMac_exact : exactMac.Exact := by
  apply tableMac_exact
  intro e he
  simp only [List.mem_cons, List.not_mem_nil, or_false] at he
  rcases he with rfl | rfl | rfl <;> rfl

/-- A node that has accepted a nonce ten seconds ago, and its buffer. -/
def busyNode : UdpProtocol := ⟨(bind "psk").psk, [("0102030405060708", 990)]⟩

/-- The query arrives at that node, over old bytes: it is taken, and its text is cut out; and
so is the empty payload at a new node. -/
theorem codec_exact_query_frame :
    (∃ p' buf', recvPass exactMac busyNode (List.replicate 65535 255) 1000
        ((bind "psk").marshal exactMac queryText 1000 queryNonce) = some (p', buf', some 150) ∧
      recvLoopPayload buf' 150 = some queryText) ∧
    ∃ p' buf', recvPass exactMac (bind "psk") (List.replicate 65535 255) 1000
        ((bind "psk").marshal exactMac [] 1000 [1, 2, 3, 4, 5, 6, 7, 8]) = some (p', buf', some 48) ∧
      recvLoopPayload buf' 48 = some [] := by
  have hlen : minMessageSize + queryText.length = 150 := by decide +kernel
  have hfresh : busyNode.FreshNonce 1000 queryNonce := by
    intro e he _
    obtain rfl := List.mem_singleton.mp he
    decide +kernel
  constructor
  · obtain ⟨p', buf', hpass, hslice, -⟩ :=
      (codec_exact exactMac exactMac_exact busyNode (List.replicate 65535 255)
        List.length_replicate).1 (bind "psk") queryText 1000 1000 queryNonce rfl (by omega)
        (by decide) rfl (by decide) hfresh
    rw [hlen] at hpass hslice
    exact ⟨p', buf', hpass, hslice⟩
  · obtain ⟨p', buf', hpass, hslice, -⟩ :=
      (codec_exact exactMac exactMac_exact (bind "psk") (List.replicate 65535 255)
        List.length_replicate).1 (bind "psk") [] 1000 1000 [1, 2, 3, 4, 5, 6, 7, 8] rfl (by decide)
        (by decide) rfl (by decide) fun e he => by cases he
    exact ⟨p', buf', hpass, hslice⟩

end NomadP2P.Protocol
