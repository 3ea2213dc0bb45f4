import NomadP2P.Lib.Expiry
import NomadP2P.Protocol

/-!
# Replay: the nonce cache against the history of acceptances

`logMachine` is a receiver that forgets nothing: it keeps every accepted nonce with
its second and turns a datagram down if the same nonce was accepted in a second
later than `now - 300`.  The cache of `check_nonce` is pruned only on the calls
that reach it, yet gives the same answers on every run whose clock does not
go back (`outcomes_eq_log`), so an arrival is accepted exactly when it is
authentic, in the window and not accepted before in that window
(`recv_accepts_iff_history`).

A datagram stays in the window as long as its timestamp allows, up to 300 s
*after* the timestamp; its nonce is kept for less than 300 s after the
*acceptance*.  A copy of a datagram whose timestamp is not in the past can outlive
its nonce (`replay_after_300s`), and no other can (`replay_only_by_late_copy`).
-/

namespace NomadP2P.Protocol

open Bytes

/-! ## The receiver that forgets nothing -/

/-- A nonce accepted in second `t` blocks copies while `t > now - 300`. -/
def nonceExpiry : Expiry Nat Nat where
  live now t := now - replayWindowSecs < t
  live_anti := by
    intro now later t hle h
    omega

def inWindow (now : Nat) (d : List UInt8) : Bool :=
  decide (absDiff (timestamp d) now ≤ replayWindowSecs)

/-- The nonce of `d` was accepted in a second that still counts at `now`. -/
def seen (log : List (List UInt8 × Nat)) (now : Nat) (d : List UInt8) : Bool :=
  log.any fun e => e.1 == nonce d && decide (now - replayWindowSecs < e.2)

def admits (H : HmacSha256) (psk : List UInt8) (log : List (List UInt8 × Nat)) (now : Nat)
    (d : List UInt8) : Bool :=
  authentic H psk d && inWindow now d && !seen log now d

def logMachine (H : HmacSha256) (psk : List UInt8) :
    Machine (List (List UInt8 × Nat)) Arrival Outcome where
  step log a :=
    if admits H psk log a.now a.bytes then
      (log ++ [(nonce a.bytes, a.now)], .ok a.bytes.length)
    else (log, .skipped)

theorem logMachine_next (H : HmacSha256) (psk : List UInt8) (log : List (List UInt8 × Nat))
    (a : Arrival) : (logMachine H psk).next log a =
      if admits H psk log a.now a.bytes then log ++ [(nonce a.bytes, a.now)] else log := by
  simp only [Machine.next, logMachine]
  split <;> rfl

theorem logMachine_out (H : HmacSha256) (psk : List UInt8) (log : List (List UInt8 × Nat))
    (a : Arrival) : (logMachine H psk).out log a =
      if admits H psk log a.now a.bytes then .ok a.bytes.length else .skipped := by
  simp only [Machine.out, logMachine]
  split <;> rfl

/-- What happens to each arrival of a run that starts with an empty cache. -/
def outcomes (H : HmacSha256) (psk : String) (buf : List UInt8) (run : List Arrival) :
    List Outcome :=
  (recvMachine H).outputs (bind psk, buf) run

/-- `recv` returns `Ok` on the `i`-th arrival of the run. -/
def Accepted (H : HmacSha256) (psk : String) (buf : List UInt8) (run : List Arrival) (i : Nat) :
    Prop :=
  ∃ n, (outcomes H psk buf run)[i]? = some (.ok n)

/-! ## The cache has the same answers -/

/-- The cache, and the log in the cache's own terms. -/
def cacheSet (p : UdpProtocol) : Set (String × Nat) := {e | e ∈ p.nonces}

def logSet (log : List (List UInt8 × Nat)) : Set (String × Nat) :=
  {e | ∃ n, (n, e.2) ∈ log ∧ e.1 = hex n}

theorem logSet_append (log : List (List UInt8 × Nat)) (n : List UInt8) (t : Nat) :
    logSet (log ++ [(n, t)]) = insert (hex n, t) (logSet log) := by
  ext ⟨k, s⟩
  simp only [logSet, Set.mem_ofPred_eq, Set.mem_insert_iff, List.mem_append, List.mem_singleton,
    Prod.mk.injEq]
  constructor
  · rintro ⟨m, hm | ⟨rfl, rfl⟩, rfl⟩
    · exact Or.inr ⟨m, hm, rfl⟩
    · exact Or.inl ⟨rfl, rfl⟩
  · rintro (⟨rfl, rfl⟩ | ⟨m, hm, rfl⟩)
    · exact ⟨n, Or.inr ⟨rfl, rfl⟩, rfl⟩
    · exact ⟨m, Or.inl hm, rfl⟩

/-- The log blocks a nonce exactly when one of its live records has that nonce; the
rendering in hexadecimal loses nothing. -/
theorem seen_iff (log : List (List UInt8 × Nat)) (now : Nat) (d : List UInt8) :
    seen log now d = true ↔ ∃ t, (hex (nonce d), t) ∈ logSet log ∧ nonceExpiry.live now t := by
  unfold seen
  rw [List.any_eq_true]
  constructor
  · rintro ⟨⟨n, t⟩, hm, he⟩
    simp only [Bool.and_eq_true, beq_iff_eq, decide_eq_true_eq] at he
    exact ⟨t, ⟨n, hm, by rw [he.1]⟩, he.2⟩
  · rintro ⟨t, ⟨n, hm, hx⟩, hlive⟩
    refine ⟨(n, t), hm, ?_⟩
    simp only [Bool.and_eq_true, beq_iff_eq, decide_eq_true_eq]
    exact ⟨(hex_inj _ _ hx).symm, hlive⟩

/-- **One call of `check_nonce`.**  If the cache tracks the log at `now`, the answer
is the log's, and the cache goes on tracking the log. -/
theorem checkNonce_spec (p : UdpProtocol) (log : List (List UInt8 × Nat)) (now : Nat)
    (d : List UInt8) (h : Tracks (nonceExpiry.live now) (cacheSet p) (logSet log)) :
    (p.checkNonce d now).2 = (inWindow now d && !seen log now d) ∧
      (p.checkNonce d now).1.psk = p.psk ∧
      Tracks (nonceExpiry.live now) (cacheSet (p.checkNonce d now).1)
        (logSet (if inWindow now d && !seen log now d then log ++ [(nonce d, now)] else log)) := by
  unfold UdpProtocol.checkNonce
  simp only
  by_cases hw : absDiff (timestamp d) now > replayWindowSecs
  · have hin : inWindow now d = false := decide_eq_false (by omega)
    rw [if_pos hw, hin]
    exact ⟨rfl, rfl, h⟩
  · have hin : inWindow now d = true := decide_eq_true (by omega)
    rw [if_neg hw, hin, Bool.true_and]
    have hret : cacheSet { p with
        nonces := p.nonces.filter fun e => e.2 > now - replayWindowSecs } =
        {e | e ∈ cacheSet p ∧ nonceExpiry.live now e.2} := by
      ext e
      simp only [cacheSet, Set.mem_ofPred_eq, List.mem_filter, decide_eq_true_eq]
      rfl
    have htr := h.retain
    rw [← hret] at htr
    -- what is left in the cache is live, so the lookup needs no further test
    have hany : ((p.nonces.filter fun e => e.2 > now - replayWindowSecs).any
        fun e => e.1 == hex (nonce d)) = seen log now d := by
      rw [Bool.eq_iff_iff, seen_iff, ← h.holds_iff, List.any_eq_true]
      constructor
      · rintro ⟨⟨k, t⟩, hm, he⟩
        rw [List.mem_filter] at hm
        obtain rfl : k = hex (nonce d) := by simpa using he
        have ht : now - replayWindowSecs < t := of_decide_eq_true hm.2
        exact ⟨t, hm.1, ht⟩
      · rintro ⟨t, hm, hlive⟩
        have ht : now - replayWindowSecs < t := hlive
        exact ⟨(hex (nonce d), t), List.mem_filter.mpr ⟨hm, decide_eq_true ht⟩, by simp⟩
    rw [hany]
    cases hs : seen log now d with
    | true => exact ⟨rfl, rfl, htr⟩
    | false =>
      refine ⟨rfl, rfl, ?_⟩
      have hins : cacheSet { p with
          nonces := (p.nonces.filter fun e => e.2 > now - replayWindowSecs) ++
            [(hex (nonce d), now)] } = insert (hex (nonce d), now)
          (cacheSet { p with nonces := p.nonces.filter fun e => e.2 > now - replayWindowSecs }) := by
        ext e
        simp only [cacheSet, Set.mem_ofPred_eq, Set.mem_insert_iff, List.mem_append,
          List.mem_singleton]
        exact Or.comm
      simp only [Bool.not_false, Bool.false_eq_true, if_false, if_true]
      rw [hins, logSet_append]
      exact htr.record _

/-- Cache and log behind the same arrivals, with the arrivals `xs` still to come. -/
structure CacheOk (psk : List UInt8) (xs : List Arrival) (s : UdpProtocol × List UInt8)
    (log : List (List UInt8 × Nat)) : Prop where
  psk_eq : s.1.psk = psk
  buf : s.2.length = 65535
  clock : xs.Pairwise fun a b => a.now ≤ b.now
  tracks : ∀ a ∈ xs, Tracks (nonceExpiry.live a.now) (cacheSet s.1) (logSet log)

theorem recvFrame_spec (H : HmacSha256) (p : UdpProtocol) (log : List (List UInt8 × Nat)) (now : Nat)
    (d : List UInt8) (h : Tracks (nonceExpiry.live now) (cacheSet p) (logSet log)) :
    (recvFrame H p now d).2 = (if admits H p.psk log now d then some d.length else none) ∧
      (recvFrame H p now d).1.psk = p.psk ∧
      Tracks (nonceExpiry.live now) (cacheSet (recvFrame H p now d).1)
        (logSet (if admits H p.psk log now d then log ++ [(nonce d, now)] else log)) := by
  obtain ⟨h1, h2, h3⟩ := checkNonce_spec p log now d h
  unfold recvFrame admits
  cases ha : authentic H p.psk d with
  | false => exact ⟨rfl, rfl, h⟩
  | true =>
    simp only [if_true, Bool.true_and]
    exact ⟨by rw [h1], h2, h3⟩

theorem cacheOk_step (H : HmacSha256) (psk : List UInt8) (a : Arrival) (xs : List Arrival)
    (s : UdpProtocol × List UInt8) (log : List (List UInt8 × Nat))
    (h : CacheOk psk (a :: xs) s log) :
    (recvMachine H).out s a = (logMachine H psk).out log a ∧
      CacheOk psk xs ((recvMachine H).next s a) ((logMachine H psk).next log a) := by
  obtain ⟨p, buf⟩ := s
  obtain ⟨rfl, hbuf, hclock, htr⟩ := h
  have hfit : a.bytes.length ≤ buf.length := by have := a.fits; simp only at hbuf; omega
  have hstep := recvMachine_step H p buf a hfit
  obtain ⟨h1, h2, h3⟩ := recvFrame_spec H p log a.now a.bytes (htr a List.mem_cons_self)
  refine ⟨?_, ?_, ?_, (List.pairwise_cons.mp hclock).2, fun b hb => ?_⟩
  · rw [Machine.out, hstep, h1, logMachine_out]
    cases admits H p.psk log a.now a.bytes <;> rfl
  · rw [Machine.next, hstep]
    exact h2
  · rw [Machine.next, hstep, List.length_append, List.length_drop]
    simp only at hbuf
    omega
  · rw [logMachine_next, Machine.next, hstep]
    exact h3.later nonceExpiry ((List.pairwise_cons.mp hclock).1 b hb)

/-- **The pruned cache answers like the full log.** -/
theorem outcomes_eq_log (H : HmacSha256) (psk : String) (buf : List UInt8) (run : List Arrival)
    (hbuf : buf.length = 65535) (hclock : run.Pairwise fun a b => a.now ≤ b.now) :
    outcomes H psk buf run = (logMachine H (bind psk).psk).outputs [] run := by
  apply Machine.outputs_eq_of_sim _ _ (CacheOk (bind psk).psk) (fun a xs s log =>
    cacheOk_step H (bind psk).psk a xs s log)
  refine ⟨rfl, hbuf, hclock, fun a _ => ?_⟩
  have hempty : logSet [] = cacheSet (bind psk) := by
    ext e
    simp [logSet, cacheSet, bind]
  rw [hempty]
  exact Tracks.refl _

/-! ## One frame -/

/-- An empty frame under the key `psk`, stamped with second 1000: header and tag. -/
def frameHeader : List UInt8 := [0, 0, 0, 0, 0, 0, 3, 232, 1, 2, 3, 4, 5, 6, 7, 8]

def frameTag : List UInt8 :=
  [117, 246, 159, 116, 217, 171, 151, 57, 217, 245, 63, 250, 84, 135, 241, 188,
   74, 148, 112, 131, 17, 59, 64, 147, 63, 183, 23, 18, 220, 187, 181, 249]

/-- HMAC-SHA256 at the one argument the frame needs. -/
def frameMac : HmacSha256 where
  finalize key data := if key = [112, 115, 107] ∧ data = frameHeader then frameTag else []
  verifySlice key data tag := decide (key = [112, 115, 107] ∧ data = frameHeader ∧ tag = frameTag)

/-- The frame arriving in second `now`. -/
def frameAt (now : Nat) : Arrival := ⟨now, ⟨⟨10, 0, 0, 7⟩, 9527⟩, frameHeader ++ frameTag, by decide⟩

theorem recvBuf_length : recvBuf.length = 65535 := List.length_replicate

theorem frame_accepted (t u : Nat) (htu : t ≤ u) (i : Nat) (n : Nat)
    (h : ((logMachine frameMac (bind "psk").psk).outputs [] [frameAt t, frameAt u])[i]? =
      some (.ok n)) : Accepted frameMac "psk" recvBuf [frameAt t, frameAt u] i := by
  refine ⟨n, ?_⟩
  rw [outcomes_eq_log frameMac "psk" recvBuf _ recvBuf_length (by simpa [frameAt] using htu)]
  exact h

/-! ## The history of acceptances -/

theorem accepted_iff_out (H : HmacSha256) (psk : String) (buf : List UInt8) (run : List Arrival)
    (hbuf : buf.length = 65535) (hclock : run.Pairwise fun a b => a.now ≤ b.now) (i : Nat)
    (a : Arrival) (ha : run[i]? = some a) :
    Accepted H psk buf run i ↔
      admits H (bind psk).psk ((logMachine H (bind psk).psk).after [] (run.take i)) a.now a.bytes =
        true := by
  unfold Accepted
  rw [outcomes_eq_log H psk buf run hbuf hclock, Machine.outputs_get, ha, Option.map_some,
    logMachine_out]
  cases admits H (bind psk).psk ((logMachine H (bind psk).psk).after [] (run.take i)) a.now a.bytes
  · simp
  · simp

/-- The log behind the first `i` arrivals holds what was accepted among them. -/
theorem mem_log_iff (H : HmacSha256) (psk : String) (buf : List UInt8) (run : List Arrival)
    (hbuf : buf.length = 65535) (hclock : run.Pairwise fun a b => a.now ≤ b.now)
    (e : List UInt8 × Nat) :
    ∀ i, e ∈ (logMachine H (bind psk).psk).after [] (run.take i) ↔
      ∃ j b, j < i ∧ run[j]? = some b ∧ Accepted H psk buf run j ∧ e = (nonce b.bytes, b.now) := by
  intro i
  induction i with
  | zero => simp [Machine.after]
  | succ i ih =>
    -- the `i`-th arrival adds a record exactly if it is accepted
    have hstep : ∀ b, run[i]? = some b →
        (e ∈ (logMachine H (bind psk).psk).after [] (run.take (i + 1)) ↔
          e ∈ (logMachine H (bind psk).psk).after [] (run.take i) ∨
            (Accepted H psk buf run i ∧ e = (nonce b.bytes, b.now))) := by
      intro b hb
      rw [List.take_add_one, hb, Option.toList_some, Machine.after_snoc, logMachine_next,
        accepted_iff_out H psk buf run hbuf hclock i b hb]
      split <;> simp_all
    cases hi : run[i]? with
    | none =>
      rw [List.take_add_one, hi, Option.toList_none, List.append_nil, ih]
      constructor
      · rintro ⟨j, b, hj, h⟩
        exact ⟨j, b, by omega, h⟩
      · rintro ⟨j, b, hj, hb, h⟩
        refine ⟨j, b, ?_, hb, h⟩
        rcases Nat.lt_succ_iff_lt_or_eq.mp hj with hj | rfl
        · exact hj
        · rw [hi] at hb; cases hb
    | some b =>
      rw [hstep b hi, ih]
      constructor
      · rintro (⟨j, c, hj, h⟩ | ⟨h1, h2⟩)
        · exact ⟨j, c, by omega, h⟩
        · exact ⟨i, b, by omega, hi, h1, h2⟩
      · rintro ⟨j, c, hj, hc, h1, h2⟩
        rcases Nat.lt_succ_iff_lt_or_eq.mp hj with hj | rfl
        · exact Or.inl ⟨j, c, hj, hc, h1, h2⟩
        · rw [hi] at hc; cases hc
          exact Or.inr ⟨h1, h2⟩

/-- An arrival is accepted exactly when it is authentic, in the window, and its nonce
was not accepted earlier in a second that still counts. -/
theorem accepted_iff (H : HmacSha256) (psk : String) (buf : List UInt8) (run : List Arrival)
    (hbuf : buf.length = 65535) (hclock : run.Pairwise fun a b => a.now ≤ b.now) (i : Nat)
    (a : Arrival) (ha : run[i]? = some a) :
    Accepted H psk buf run i ↔
      authentic H (bind psk).psk a.bytes = true ∧ inWindow a.now a.bytes = true ∧
      ¬ ∃ j b, j < i ∧ run[j]? = some b ∧ Accepted H psk buf run j ∧
        a.now - replayWindowSecs < b.now ∧ nonce b.bytes = nonce a.bytes := by
  rw [accepted_iff_out H psk buf run hbuf hclock i a ha]
  unfold admits
  rw [Bool.and_eq_true, Bool.and_eq_true, and_assoc, Bool.not_eq_true', ← Bool.not_eq_true]
  refine and_congr_right fun _ => and_congr_right fun _ => not_congr ?_
  unfold seen
  rw [List.any_eq_true]
  constructor
  · rintro ⟨e, he, hb⟩
    obtain ⟨j, b, hj, hbj, hacc, rfl⟩ := (mem_log_iff H psk buf run hbuf hclock e i).mp he
    simp only [Bool.and_eq_true, beq_iff_eq, decide_eq_true_eq] at hb
    exact ⟨j, b, hj, hbj, hacc, hb.2, hb.1⟩
  · rintro ⟨j, b, hj, hbj, hacc, hlive, hn⟩
    refine ⟨(nonce b.bytes, b.now),
      (mem_log_iff H psk buf run hbuf hclock _ i).mpr ⟨j, b, hj, hbj, hacc, rfl⟩, ?_⟩
    simp only [Bool.and_eq_true, beq_iff_eq, decide_eq_true_eq]
    exact ⟨hn, hlive⟩

theorem log_inert (H : HmacSha256) (psk : List UInt8) (log : List (List UInt8 × Nat)) (a : Arrival)
    (h : (logMachine H psk).out log a = .skipped) : (logMachine H psk).next log a = log := by
  rw [logMachine_out] at h
  rw [logMachine_next]
  split at h
  · cases h
  · next hn => rw [if_neg hn]

/-- **Cache and history agree.**  In a run whose clock does not go back, an arrival
is accepted exactly when it has 48 bytes or more, its last 32 verify, its
timestamp is within 300 s of the clock, and no arrival accepted in a second
later than `now - 300` (truncated at 0) had the same nonce bytes; the nonces
are compared in hexadecimal, which tells them apart; and leaving out any of
the skipped arrivals changes nothing for the others. -/
theorem recv_accepts_iff_history (H : HmacSha256) (psk : String) (buf : List UInt8)
    (run : List Arrival) (hbuf : buf.length = 65535)
    (hclock : run.Pairwise fun a b => a.now ≤ b.now) :
    (∀ i a, run[i]? = some a →
      (Accepted H psk buf run i ↔
        48 ≤ a.bytes.length ∧
        H.verifySlice psk.toUTF8.data.toList (a.bytes.take (a.bytes.length - 32))
          (a.bytes.drop (a.bytes.length - 32)) = true ∧
        absDiff (timestamp a.bytes) a.now ≤ 300 ∧
        ¬ ∃ j b, j < i ∧ run[j]? = some b ∧ Accepted H psk buf run j ∧
          a.now - 300 < b.now ∧ nonce b.bytes = nonce a.bytes)) ∧
    (∀ m n : List UInt8, hex m = hex n ↔ m = n) ∧
    (∀ marked : List (Arrival × Bool), marked.map Prod.fst = run →
      (∀ e ∈ marked.zip (outcomes H psk buf run), e.1.2 = false → e.2 = .skipped) →
      outcomes H psk buf ((marked.filter Prod.snd).map Prod.fst) =
        ((marked.zip (outcomes H psk buf run)).filter fun e => e.1.2).map Prod.snd) := by
  refine ⟨fun i a ha => ?_, fun m n => ⟨hex_inj m n, fun h => by rw [h]⟩, ?_⟩
  · rw [accepted_iff H psk buf run hbuf hclock i a ha]
    unfold authentic inWindow
    rw [Bool.and_eq_true, decide_eq_true_eq, decide_eq_true_eq, and_assoc]
    rfl
  · rintro marked rfl hdrop
    have hkept : ((marked.filter Prod.snd).map Prod.fst).Pairwise fun a b => a.now ≤ b.now :=
      hclock.sublist (List.filter_sublist.map _)
    rw [outcomes_eq_log H psk buf _ hbuf hclock] at hdrop ⊢
    rw [outcomes_eq_log H psk buf _ hbuf hkept]
    exact Machine.outputs_keep _ (fun o => o = .skipped)
      (fun s a => log_inert H (bind psk).psk s a) marked [] hdrop

/-- A frame and two copies of it: the first copy finds the nonce in the cache, the second
comes when no acceptance counts any more. -/
theorem copies_judged_by_history :
    Accepted frameMac "psk" recvBuf [frameAt 1000, frameAt 1299, frameAt 1300] 0 ∧
      ¬ Accepted frameMac "psk" recvBuf [frameAt 1000, frameAt 1299, frameAt 1300] 1 ∧
      Accepted frameMac "psk" recvBuf [frameAt 1000, frameAt 1299, frameAt 1300] 2 := by
  have h := (recv_accepts_iff_history frameMac "psk" recvBuf
    [frameAt 1000, frameAt 1299, frameAt 1300] recvBuf_length (by simp [frameAt])).1
  have hfirst : Accepted frameMac "psk" recvBuf [frameAt 1000, frameAt 1299, frameAt 1300] 0 := by
    refine (h 0 (frameAt 1000) rfl).mpr ⟨by decide, by decide, by decide, ?_⟩
    rintro ⟨j, b, hj, -⟩
    omega
  have hsecond : ¬ Accepted frameMac "psk" recvBuf [frameAt 1000, frameAt 1299, frameAt 1300] 1 := by
    intro hacc
    obtain ⟨-, -, -, hno⟩ := (h 1 (frameAt 1299) rfl).mp hacc
    exact hno ⟨0, frameAt 1000, by omega, rfl, hfirst, by decide, rfl⟩
  refine ⟨hfirst, hsecond, (h 2 (frameAt 1300) rfl).mpr ⟨by decide, by decide, by decide, ?_⟩⟩
  rintro ⟨j, b, hj, hb, hacc, hlive, -⟩
  obtain rfl | rfl : j = 0 ∨ j = 1 := by omega
  · obtain rfl := Option.some.inj hb
    exact absurd hlive (by decide)
  · exact hsecond hacc

/-! ## Copies that outlive their nonce -/

/-- No datagram is accepted twice. -/
def ReplaySafe (H : HmacSha256) (psk : String) (buf : List UInt8) (run : List Arrival) : Prop :=
  ∀ (i j : Nat) (a b : Arrival), i < j → run[i]? = some a → run[j]? = some b → a.bytes = b.bytes →
    ¬ (Accepted H psk buf run i ∧ Accepted H psk buf run j)

/-- The same bytes in seconds 1000 and 1300: both are accepted. -/
theorem replay_after_300s :
    [frameAt 1000, frameAt 1300].Pairwise (fun a b => a.now ≤ b.now) ∧
      (∀ a ∈ [frameAt 1000, frameAt 1300], 0 < a.now) ∧
      ¬ ReplaySafe frameMac "psk" recvBuf [frameAt 1000, frameAt 1300] := by
  refine ⟨by simp [frameAt], by simp [frameAt], fun h => ?_⟩
  apply h 0 1 (frameAt 1000) (frameAt 1300) (by omega) rfl rfl rfl
  exact ⟨frame_accepted 1000 1300 (by omega) 0 48 (by decide),
    frame_accepted 1000 1300 (by omega) 1 48 (by decide)⟩

/-- No authentic datagram arrives again 300 s or more after an earlier arrival, in
the window both times. -/
def NoLateCopy (H : HmacSha256) (psk : String) (run : List Arrival) : Prop :=
  ∀ (i j : Nat) (a b : Arrival), i < j → run[i]? = some a → run[j]? = some b → a.bytes = b.bytes →
    authentic H (bind psk).psk a.bytes = true → inWindow a.now a.bytes = true →
    inWindow b.now b.bytes = true → b.now < a.now + replayWindowSecs

/-- Two accepted copies are 300 s or more apart. -/
theorem late_of_accepted (H : HmacSha256) (psk : String) (buf : List UInt8) (run : List Arrival)
    (hbuf : buf.length = 65535) (hclock : run.Pairwise fun a b => a.now ≤ b.now)
    (hpos : ∀ a ∈ run, 0 < a.now) (i j : Nat) (a b : Arrival) (hij : i < j)
    (ha : run[i]? = some a) (hb : run[j]? = some b) (he : nonce a.bytes = nonce b.bytes)
    (hai : Accepted H psk buf run i) (haj : Accepted H psk buf run j) :
    a.now + replayWindowSecs ≤ b.now := by
  obtain ⟨-, -, hno⟩ := (accepted_iff H psk buf run hbuf hclock j b hb).mp haj
  have h0 := hpos a (List.mem_of_getElem? ha)
  apply Classical.byContradiction
  intro hlt
  exact hno ⟨i, a, hij, ha, hai, by omega, he⟩

theorem replaySafe_of_noLateCopy (H : HmacSha256) (psk : String) (buf : List UInt8)
    (run : List Arrival) (hbuf : buf.length = 65535)
    (hclock : run.Pairwise fun a b => a.now ≤ b.now) (hpos : ∀ a ∈ run, 0 < a.now)
    (h : NoLateCopy H psk run) : ReplaySafe H psk buf run := by
  rintro i j a b hij ha hb he ⟨hai, haj⟩
  obtain ⟨hauth, hwi, -⟩ := (accepted_iff H psk buf run hbuf hclock i a ha).mp hai
  obtain ⟨-, hwj, -⟩ := (accepted_iff H psk buf run hbuf hclock j b hb).mp haj
  have h1 := h i j a b hij ha hb he hauth hwi hwj
  have h2 := late_of_accepted H psk buf run hbuf hclock hpos i j a b hij ha hb (by rw [he]) hai haj
  omega

/-- An authentic arrival in the window is accepted, or else a datagram of the same
nonce was, less than 300 s before. -/
theorem accepted_or_earlier (H : HmacSha256) (psk : String) (buf : List UInt8) (run : List Arrival)
    (hbuf : buf.length = 65535) (hclock : run.Pairwise fun a b => a.now ≤ b.now) (i : Nat)
    (a : Arrival) (ha : run[i]? = some a) (hauth : authentic H (bind psk).psk a.bytes = true)
    (hw : inWindow a.now a.bytes = true) :
    ∃ k c, k ≤ i ∧ run[k]? = some c ∧ Accepted H psk buf run k ∧ nonce c.bytes = nonce a.bytes ∧
      c.now ≤ a.now ∧ (k = i ∨ a.now - replayWindowSecs < c.now) := by
  by_cases hacc : Accepted H psk buf run i
  · exact ⟨i, a, Nat.le_refl i, ha, hacc, rfl, Nat.le_refl _, Or.inl rfl⟩
  · rw [accepted_iff H psk buf run hbuf hclock i a ha] at hacc
    obtain ⟨k, c, hk, hc, hck, hlive, hn⟩ : ∃ j b, j < i ∧ run[j]? = some b ∧
        Accepted H psk buf run j ∧ a.now - replayWindowSecs < b.now ∧
        nonce b.bytes = nonce a.bytes := by
      apply Classical.byContradiction
      intro hno
      exact hacc ⟨hauth, hw, hno⟩
    refine ⟨k, c, Nat.le_of_lt hk, hc, hck, hn, ?_, Or.inr hlive⟩
    obtain ⟨hk1, rfl⟩ := List.getElem?_eq_some_iff.mp hc
    obtain ⟨hi1, rfl⟩ := List.getElem?_eq_some_iff.mp ha
    exact (List.pairwise_iff_getElem.mp hclock) k i hk1 hi1 hk

/-- Where a nonce belongs to one authentic datagram, a late copy is a replay. -/
theorem noLateCopy_of_replaySafe (H : HmacSha256) (psk : String) (buf : List UInt8)
    (run : List Arrival) (hbuf : buf.length = 65535)
    (hclock : run.Pairwise fun a b => a.now ≤ b.now)
    (hnonce : ∀ a ∈ run, ∀ b ∈ run, authentic H (bind psk).psk a.bytes = true →
      authentic H (bind psk).psk b.bytes = true → nonce a.bytes = nonce b.bytes → a.bytes = b.bytes)
    (h : ReplaySafe H psk buf run) : NoLateCopy H psk run := by
  intro i j a b hij ha hb he hauth hwi hwj
  apply Classical.byContradiction
  intro hlate
  obtain ⟨k, c, hki, hc, hck, hnc, hca, -⟩ :=
    accepted_or_earlier H psk buf run hbuf hclock i a ha hauth hwi
  obtain ⟨l, d, hlj, hd, hdl, hnd, -, hl⟩ :=
    accepted_or_earlier H psk buf run hbuf hclock j b hb (by rw [← he]; exact hauth) hwj
  have hcd : c.bytes = d.bytes := by
    apply hnonce c (List.mem_of_getElem? hc) d (List.mem_of_getElem? hd)
      ((accepted_iff H psk buf run hbuf hclock k c hc).mp hck).1
      ((accepted_iff H psk buf run hbuf hclock l d hd).mp hdl).1
    rw [hnc, hnd, he]
  rcases Nat.lt_trichotomy k l with hkl | rfl | hkl
  · exact h k l c d hkl hc hd hcd ⟨hck, hdl⟩
  · -- the nonce accepted by the time of the first copy is dead at the second
    rw [hc] at hd
    cases hd
    rcases hl with hl | hl <;> omega
  · exact h l k d c hkl hd hc hcd.symm ⟨hdl, hck⟩

/-- **When replay is caught.**  A run without a late copy accepts no datagram twice;
and where no two authentic datagrams of the run share a nonce, a run that
accepts no datagram twice has no late copy. -/
theorem replay_only_by_late_copy (H : HmacSha256) (psk : String) (buf : List UInt8)
    (run : List Arrival) (hbuf : buf.length = 65535)
    (hclock : run.Pairwise fun a b => a.now ≤ b.now) (hpos : ∀ a ∈ run, 0 < a.now) :
    (NoLateCopy H psk run → ReplaySafe H psk buf run) ∧
    ((∀ a ∈ run, ∀ b ∈ run, authentic H (bind psk).psk a.bytes = true →
      authentic H (bind psk).psk b.bytes = true → nonce a.bytes = nonce b.bytes →
      a.bytes = b.bytes) → ReplaySafe H psk buf run → NoLateCopy H psk run) :=
  ⟨replaySafe_of_noLateCopy H psk buf run hbuf hclock hpos,
    noLateCopy_of_replaySafe H psk buf run hbuf hclock⟩

/-- One second earlier the copy is turned down. -/
theorem no_replay_after_299s : ReplaySafe frameMac "psk" recvBuf [frameAt 1000, frameAt 1299] := by
  refine (replay_only_by_late_copy frameMac "psk" recvBuf _ recvBuf_length (by simp [frameAt])
    (by simp [frameAt])).1 ?_
  intro i j a b hij ha hb _ _ _ _
  match i, j with
  | 0, 1 => cases ha; cases hb; decide
  | 0, j + 2 => simp at hb
  | 1, j + 2 => simp at hb
  | i + 2, _ => simp at ha

end NomadP2P.Protocol
