import NomadP2P.Delivery

/-!
# Replays across restarts (`UdpProtocol` of `agent/src/protocol.rs`)

The nonces are kept in memory, and `bind` starts without any.  A node lives through any number
of restarts, each life with a `recv_loop` of its own; the frames of other lives can be
brought to it again.

    of every frame sent, a node dispatches one copy for each of its lives that handles one
      within 300 s of the second it is stamped with                  (restarts_replay)

So within a life a frame is dispatched once, and a restart inside the window lets a copy in
again (`registerFrame_replayed`).
-/

namespace NomadP2P.Protocol

/-! ## Algorithm -/

/-- The datagrams that a node dispatches over its lives, each given by what happens in it. -/
def deliveredOver (H : HmacSha256) (psk : String) (lives : List (List Event)) : List (List UInt8) :=
  lives.flatMap fun life => (nodeAfter H psk life).delivered

/-- A copy of the frame is handled in the window. -/
def takesCopy (H : HmacSha256) (psk : String) (f : Sent) (life : List Event) : Bool :=
  (nodeAfter H psk life).handled.any fun a => a.bytes == f.bytes H psk && absDiff f.ts a.now ≤ 300

/-- What verifies in the life was sent, the clock does not go back, and frames are handled in a
later second than they are stamped with. -/
structure LifeOk (H : HmacSha256) (psk : String) (sent : List Sent) (life : List Event) : Prop where
  sent : ∀ a ∈ arrived life, authentic H (bind psk).psk a.bytes = true → ∃ f ∈ sent, a.bytes = f.bytes H psk
  clock : (arrived life).Pairwise fun a b => a.now ≤ b.now
  past : ∀ a ∈ arrived life, authentic H (bind psk).psk a.bytes = true → timestamp a.bytes < a.now

/-! ## Lemmas -/

theorem takesCopy_iff (H : HmacSha256) (psk : String) (f : Sent) (life : List Event) :
    takesCopy H psk f life = true ↔
      ∃ a ∈ (nodeAfter H psk life).handled, a.bytes = f.bytes H psk ∧ absDiff f.ts a.now ≤ 300 := by
  unfold takesCopy
  simp only [List.any_eq_true, Bool.and_eq_true, beq_iff_eq, decide_eq_true_eq]

/-- One life. -/
theorem count_life (H : HmacSha256) (hH : H.Exact) (psk : String) (sent : List Sent)
    (hnonce : ∀ f ∈ sent, ∀ g ∈ sent, f.nonceBytes = g.nonceBytes → f = g) (life : List Event)
    (hlife : LifeOk H psk sent life) (f : Sent) (hf : f ∈ sent) :
    (nodeAfter H psk life).delivered.count (f.bytes H psk) = if takesCopy H psk f life then 1 else 0 := by
  obtain ⟨hs, r⟩ := nodeAfter_run H psk life
  obtain ⟨hone, hnone⟩ := r.count_delivered hH sent hlife.sent hnonce hlife.clock hlife.past f hf
  rw [← takesCopy_iff] at hone hnone
  by_cases htakes : takesCopy H psk f life = true
  · rw [if_pos htakes, hone htakes]
  · rw [if_neg htakes, hnone htakes]

/-! ### A life with one copy -/

/-- A new life handles it. -/
theorem takesCopy_polled (H : HmacSha256) (hH : H.Exact) (psk : String) (f : Sent) (a : Arrival)
    (ha : a.bytes = f.bytes H psk) (hwindow : absDiff f.ts a.now ≤ 300) :
    takesCopy H psk f (polled a) = true := by
  have hok := recvFrame_fresh H hH psk f (bind psk) a.now rfl hwindow
    fun e he => absurd he List.not_mem_nil
  rw [← ha] at hok
  have hfits := a.fits
  obtain ⟨acts, hacts⟩ : ∃ acts, (nodeAfter H psk (polled a)).trace = .read a :: acts :=
    ⟨_, (polled_accepted H (bind psk) recvBuf a (by rw [recvBuf_length]; omega) hok).2⟩
  rw [takesCopy_iff]
  refine ⟨a, ?_, ha, hwindow⟩
  unfold Node.handled
  rw [hacts]
  exact List.mem_cons_self

/-! ## Main theorem -/

/-- **Once for each life.**  Where what verifies was sent and no two frames share a nonce, over any
lives of a node a frame is dispatched as often as there are lives that handle a copy of it within
300 s of its second. -/
theorem restarts_replay (H : HmacSha256) (hH : H.Exact) (psk : String) (sent : List Sent)
    (hnonce : ∀ f ∈ sent, ∀ g ∈ sent, f.nonceBytes = g.nonceBytes → f = g) (lives : List (List Event))
    (hlives : ∀ life ∈ lives, LifeOk H psk sent life) (f : Sent) (hf : f ∈ sent) :
    (deliveredOver H psk lives).count (f.bytes H psk) = lives.countP (takesCopy H psk f) := by
  induction lives with
  | nil => rfl
  | cons life lives ih =>
    have hrest := ih fun l hl => hlives l (List.mem_cons_of_mem _ hl)
    unfold deliveredOver at hrest ⊢
    rw [List.flatMap_cons, List.count_append, hrest, List.countP_cons,
      count_life H hH psk sent hnonce life (hlives life List.mem_cons_self) f hf, Nat.add_comm]

/-- The frame of second 1000 is handled at 1001, the node restarts, and a copy comes at 1200. -/
def twoLives : List (List Event) :=
  [polled (copyAt registerFrame 1001), polled (copyAt registerFrame 1200)]

theorem twoLives_ok : ∀ life ∈ twoLives, LifeOk exactMac "psk" [registerFrame] life := by
  have hlife : ∀ now, 1000 < now →
      LifeOk exactMac "psk" [registerFrame] (polled (copyAt registerFrame now)) := by
    intro now hnow
    have harrived : ∀ a ∈ arrived (polled (copyAt registerFrame now)), a = copyAt registerFrame now :=
      fun a ha => List.mem_singleton.mp ha
    refine ⟨fun a ha _ => ⟨registerFrame, List.mem_cons_self, ?_⟩, List.pairwise_singleton _ _,
      fun a ha _ => ?_⟩
    · rw [harrived a ha]
      rfl
    · rw [harrived a ha]
      exact (timestamp_bytes exactMac "psk" registerFrame).symm ▸ hnow
  intro life hlives
  rcases List.mem_cons.mp hlives with rfl | hlives
  · exact hlife 1001 (by decide)
  · rw [List.mem_singleton.mp hlives]
    exact hlife 1200 (by decide)

/-- It is dispatched twice. -/
theorem registerFrame_replayed :
    (deliveredOver exactMac "psk" twoLives).count (registerFrame.bytes exactMac "psk") = 2 := by
  have hnonce : ∀ f ∈ [registerFrame], ∀ g ∈ [registerFrame], f.nonceBytes = g.nonceBytes → f = g := by
    intro f hf g hg _
    rw [List.mem_singleton.mp hf, List.mem_singleton.mp hg]
  have htakes : ∀ now, absDiff registerFrame.ts now ≤ 300 →
      takesCopy exactMac "psk" registerFrame (polled (copyAt registerFrame now)) = true :=
    fun now hwindow => takesCopy_polled exactMac exactMac_exact "psk" registerFrame
      (copyAt registerFrame now) rfl hwindow
  rw [restarts_replay exactMac exactMac_exact "psk" [registerFrame] hnonce twoLives twoLives_ok registerFrame
    List.mem_cons_self]
  unfold twoLives
  rw [List.countP_cons, List.countP_cons, htakes 1001 (by decide), htakes 1200 (by decide)]
  rfl

end NomadP2P.Protocol
