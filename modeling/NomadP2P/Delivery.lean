import NomadP2P.RecvLoop
import Mathlib.Logic.Function.Basic

/-!
# Delivery between the nodes of a key

Any number of nodes run `recv_loop` under one pre-shared key.  Between them is a network that
loses, copies, delays and reorders datagrams, brings them to nodes they were not sent to, and
makes up new ones; what it cannot make is a tag under the key, so a datagram that verifies is
one that a holder of the key has sent before (`Unforged`).  A run is any interleaving of
sends, arrivals and wakes.

    what a node dispatches was sent, with that payload, at most 300 s off by its own clock
                                                                  (mesh_dispatches_sent)
    of every frame sent, a node dispatches one copy if it handles one in the window, and
      none otherwise                                                 (mesh_exactly_once)

The second needs the clocks: at each node they do not go back, and a frame is handled in a
later second than the one it is stamped with.  Nothing in a frame says whom it is for, so
"one copy" is one for each node it reaches.
-/

namespace NomadP2P.Protocol

open Bytes

/-! ## Algorithm -/

/-- What `send_to` sends: the payload, and the second and the 8 random bytes that `marshal`
takes. -/
structure Sent where
  payload : List UInt8
  ts : Nat
  nonceBytes : List UInt8
  stamped : ts < 2 ^ 64
  nonce_length : nonceBytes.length = 8
  /-- the socket takes no more -/
  fits : minMessageSize + payload.length ≤ 65507

def Sent.bytes (H : HmacSha256) (psk : String) (f : Sent) : List UInt8 :=
  (bind psk).marshal H f.payload f.ts f.nonceBytes

/-- A node: its `recv_loop` and what that has done so far. -/
structure Node where
  loop : RecvLoop
  trace : List Act

def Node.step (H : HmacSha256) (node : Node) (event : Event) : Node :=
  ⟨(recvLoop H).next node.loop event, node.trace ++ (recvLoop H).out node.loop event⟩

structure Mesh (ι : Type) where
  /-- all that was sent under the key, by whomever -/
  sent : List Sent
  node : ι → Node

inductive MeshEvent (ι : Type)
  | send (f : Sent)
  | node (i : ι) (event : Event)

section
variable {ι : Type} [DecidableEq ι]

def mesh (H : HmacSha256) : Machine (Mesh ι) (MeshEvent ι) Unit where
  step s
    | .send f => ({ s with sent := s.sent ++ [f] }, ())
    | .node i event =>
      ({ s with node := Function.update s.node i ((s.node i).step H event) }, ())

omit [DecidableEq ι] in
def startMesh (psk : String) : Mesh ι := ⟨[], fun _ => ⟨startLoop (bind psk), []⟩⟩

/-- A node started anew, behind what happens at it. -/
def nodeAfter (H : HmacSha256) (psk : String) (events : List Event) : Node :=
  ⟨(recvLoop H).after (startLoop (bind psk)) events, loopTrace H (startLoop (bind psk)) events⟩

/-- The state behind a run from the start. -/
def meshAfter (H : HmacSha256) (psk : String) (events : List (MeshEvent ι)) : Mesh ι :=
  (mesh H).after (startMesh psk) events

/-! ## What is to hold of a run -/

/-- A datagram that verifies was sent before. -/
def Unforged (H : HmacSha256) (psk : String) (s : Mesh ι) : MeshEvent ι → Prop
  | .node _ (.arrive (.datagram a)) =>
    authentic H (bind psk).psk a.bytes = true → a.bytes ∈ s.sent.map (Sent.bytes H psk)
  | _ => True

/-- What happens at node `i`. -/
def MeshEvent.at (i : ι) : MeshEvent ι → Option Event
  | .send _ => none
  | .node j event => if j = i then some event else none

def eventsAt (i : ι) (events : List (MeshEvent ι)) : List Event :=
  events.filterMap (MeshEvent.at i)

/-- The datagrams that arrive at node `i`. -/
def arrivedAt (i : ι) (events : List (MeshEvent ι)) : List Arrival := arrived (eventsAt i events)

end

/-- The datagrams a node has read. -/
def Node.handled (node : Node) : List Arrival := (handlings node.trace).2.map Handling.arrival

/-- Where a node went on with `Ok((n, addr))` and its buffer. -/
def Node.dispatches (node : Node) : List (Nat × SocketAddr × List UInt8) :=
  node.trace.filterMap Act.dispatched

/-- The datagrams behind them. -/
def Node.delivered (node : Node) : List (List UInt8) :=
  node.dispatches.map fun d => d.2.2.take d.1

/-! ## Lemmas -/

/-! ### One node of a run -/

section
variable {ι : Type} [DecidableEq ι]

theorem eventsAt_self (i : ι) (event : Event) (events : List (MeshEvent ι)) :
    eventsAt i (.node i event :: events) = event :: eventsAt i events :=
  List.filterMap_cons_some (if_pos rfl)

theorem eventsAt_other (i j : ι) (event : Event) (events : List (MeshEvent ι)) (h : j ≠ i) :
    eventsAt i (.node j event :: events) = eventsAt i events :=
  List.filterMap_cons_none (if_neg h)

/-- A node of a run is `recv_loop` on what happens at this node. -/
theorem mesh_node (H : HmacSha256) (i : ι) (events : List (MeshEvent ι)) :
    ∀ s : Mesh ι, ((mesh H).after s events).node i =
      ⟨(recvLoop H).after (s.node i).loop (eventsAt i events),
        (s.node i).trace ++ loopTrace H (s.node i).loop (eventsAt i events)⟩ := by
  induction events with
  | nil =>
    intro s
    show s.node i = ⟨(s.node i).loop, (s.node i).trace ++ []⟩
    rw [List.append_nil]
  | cons event events ih =>
    intro s
    rw [Machine.after_cons, ih]
    cases event with
    | send f => rfl
    | node j event =>
      by_cases hj : j = i
      · subst hj
        have hstep : ((mesh H).next s (.node j event)).node j = (s.node j).step H event :=
          Function.update_self _ _ _
        rw [hstep, eventsAt_self, Machine.after_cons]
        show Node.mk _ ((s.node j).trace ++ (recvLoop H).out (s.node j).loop event ++ _) = _
        rw [List.append_assoc]
        rfl
      · have hstep : ((mesh H).next s (.node j event)).node i = s.node i :=
          Function.update_of_ne (Ne.symm hj) _ _
        rw [hstep, eventsAt_other i j event events hj]

theorem meshAfter_node (H : HmacSha256) (psk : String) (i : ι) (events : List (MeshEvent ι)) :
    (meshAfter H psk events).node i =
      ⟨(recvLoop H).after (startLoop (bind psk)) (eventsAt i events),
        loopTrace H (startLoop (bind psk)) (eventsAt i events)⟩ :=
  mesh_node H i events (startMesh psk)

theorem mem_sent_after (H : HmacSha256) (events : List (MeshEvent ι)) (f : Sent) :
    ∀ s : Mesh ι, f ∈ s.sent → f ∈ ((mesh H).after s events).sent := by
  apply Machine.inv_after
  intro s event _ hf
  cases event with
  | send g => exact List.mem_append_left _ hf
  | node i event => exact hf

/-- What arrives at a node and verifies was sent. -/
theorem sent_of_arrivedAt (H : HmacSha256) (psk : String) (i : ι) (events : List (MeshEvent ι)) :
    ∀ s : Mesh ι, (mesh H).Guarded (Unforged H psk) s events →
      ∀ a ∈ arrivedAt i events, authentic H (bind psk).psk a.bytes = true →
        ∃ f ∈ ((mesh H).after s events).sent, a.bytes = f.bytes H psk := by
  induction events with
  | nil =>
    intro s _ a ha
    cases ha
  | cons event events ih =>
    rintro s ⟨hevent, hrest⟩ a ha hauth
    have hlater : a ∈ arrivedAt i events →
        ∃ f ∈ ((mesh H).after s (event :: events)).sent, a.bytes = f.bytes H psk :=
      fun h => ih _ hrest a h hauth
    cases event with
    | send f => exact hlater ha
    | node j event =>
      by_cases hj : j = i
      · subst hj
        unfold arrivedAt at ha hlater
        rw [eventsAt_self] at ha
        cases event with
        | wake w => exact hlater ha
        | arrive item =>
          cases item with
          | error => exact hlater ha
          | datagram b =>
            rcases List.mem_cons.mp ha with rfl | ha
            · -- this arrival: the guard of the step
              obtain ⟨f, hf, hbytes⟩ := List.mem_map.mp (hevent hauth)
              exact ⟨f, mem_sent_after H _ f _ hf, hbytes.symm⟩
            · exact hlater ha
      · unfold arrivedAt at ha hlater
        rw [eventsAt_other i j event events hj] at ha
        exact hlater ha

end

/-! ### Dispatches and outcomes -/

/-- Of a datagram that is handled, one copy is dispatched or none, as the outcome has it. -/
theorem delivered_handling (h : Handling) (hsafe : h.CancelSafe) :
    (h.acts.filterMap Act.dispatched = [] ∧ h.outcome = .skipped) ∨
      ∃ buf, h.acts.filterMap Act.dispatched = [(h.arrival.bytes.length, h.arrival.addr, buf)] ∧
        buf.take h.arrival.bytes.length = h.arrival.bytes ∧
        h.outcome = .ok h.arrival.bytes.length := by
  have hout : h.outcome = (h.acts.filterMap Act.dispatched).head?.elim .skipped
      fun dispatch => .ok dispatch.1 := by
    unfold Handling.outcome
    rw [List.head?_filterMap]
  by_cases hrec : .push h.arrival.entry ∈ h.acts
  · obtain ⟨buf, hone, htake⟩ := hsafe.recorded_iff.mp hrec
    refine .inr ⟨buf, hone, htake, ?_⟩
    rw [hout, hone]
    rfl
  · have hnone := hsafe.not_recorded hrec
    refine .inl ⟨hnone, ?_⟩
    rw [hout, hnone]
    rfl

/-- The acts of a trace that `recv_loop` dispatches, handling by handling. -/
theorem dispatches_flatMap (hs : List Handling) :
    (hs.flatMap Handling.trace).filterMap Act.dispatched =
      hs.flatMap fun h => h.acts.filterMap Act.dispatched := by
  induction hs with
  | nil => rfl
  | cons h hs ih =>
    rw [List.flatMap_cons, List.filterMap_append, ih, List.flatMap_cons]
    rfl

/-- The datagrams delivered are those accepted, in order. -/
theorem delivered_eq (hs : List Handling) (hsafe : ∀ h ∈ hs, h.CancelSafe) :
    ((hs.flatMap fun h => h.acts.filterMap Act.dispatched).map fun d => d.2.2.take d.1) =
      (hs.filter fun h => h.outcome != .skipped).map fun h => h.arrival.bytes := by
  induction hs with
  | nil => rfl
  | cons h hs ih =>
    have hrest := ih fun x hx => hsafe x (List.mem_cons_of_mem _ hx)
    rw [List.flatMap_cons, List.map_append, hrest]
    rcases delivered_handling h (hsafe h List.mem_cons_self) with
      ⟨hnone, hout⟩ | ⟨buf, hone, htake, hout⟩
    · rw [hnone, List.filter_cons_of_neg (by rw [hout]; decide)]
      rfl
    · rw [hone, List.filter_cons_of_pos (by rw [hout]; rfl), List.map_singleton, htake]
      rfl

/-- A run of passes keeps the key and the size of the buffer. -/
theorem recvMachine_keeps (H : HmacSha256) (psk : List UInt8) (run : List Arrival) :
    ∀ s : UdpProtocol × List UInt8, s.1.psk = psk ∧ s.2.length = 65535 →
      ((recvMachine H).after s run).1.psk = psk ∧
        ((recvMachine H).after s run).2.length = 65535 := by
  apply Machine.inv_after
  rintro ⟨p, buf⟩ a - ⟨hpsk, hbuf⟩
  have hfits : a.bytes.length ≤ buf.length := by
    have := a.fits
    simp only at hbuf
    omega
  rw [Machine.next, recvMachine_step H p buf a hfits]
  refine ⟨(recvFrame_psk H p a.now a.bytes).trans hpsk, ?_⟩
  show (a.bytes ++ buf.drop a.bytes.length).length = 65535
  rw [List.length_append, List.length_drop]
  simp only at hbuf
  omega

/-- What is accepted verifies and is in the window, whatever the clock has done. -/
theorem admitted_of_accepted (H : HmacSha256) (psk : String) (run : List Arrival) (k : Nat)
    (a : Arrival) (ha : run[k]? = some a) (hacc : Accepted H psk recvBuf run k) :
    authentic H (bind psk).psk a.bytes = true ∧ inWindow a.now a.bytes = true := by
  obtain ⟨n, hn⟩ := hacc
  obtain ⟨hpsk, hbuf⟩ :=
    recvMachine_keeps H (bind psk).psk (run.take k) (bind psk, recvBuf) ⟨rfl, recvBuf_length⟩
  unfold outcomes at hn
  rw [Machine.outputs_get, ha, Option.map_some, Option.some.injEq] at hn
  generalize (recvMachine H).after (bind psk, recvBuf) (run.take k) = s at hpsk hbuf hn
  obtain ⟨p, buf⟩ := s
  have hfits : a.bytes.length ≤ buf.length := by
    have := a.fits
    simp only at hbuf
    omega
  rw [Machine.out, recvMachine_step H p buf a hfits] at hn
  rw [← hpsk]
  unfold recvFrame at hn
  by_cases hauth : authentic H p.psk a.bytes = true
  · refine ⟨hauth, decide_eq_true (Nat.le_of_not_lt fun hlate => ?_)⟩
    rw [if_pos hauth] at hn
    unfold UdpProtocol.checkNonce at hn
    simp only [if_pos hlate] at hn
    cases hn
  · rw [if_neg hauth] at hn
    cases hn

/-- What is known of a node behind a run: the handlings of its trace. -/
structure NodeRun (H : HmacSha256) (psk : String) (arrivals : List Arrival) (node : Node)
    (hs : List Handling) : Prop where
  handled : node.handled = hs.map Handling.arrival
  safe : ∀ h ∈ hs, h.CancelSafe
  dispatches : node.dispatches = hs.flatMap fun h => h.acts.filterMap Act.dispatched
  delivered : node.delivered =
    (hs.filter fun h => h.outcome != .skipped).map fun h => h.arrival.bytes
  /-- a node handles what arrives in the order it arrives in -/
  first : node.handled <+: arrivals
  outcomes : outcomes H psk recvBuf node.handled = hs.map Handling.outcome

theorem nodeAfter_run (H : HmacSha256) (psk : String) (events : List Event) :
    ∃ hs, NodeRun H psk (arrived events) (nodeAfter H psk events) hs := by
  obtain ⟨hs, hcut, hhandles, -⟩ := recvLoop_start H (bind psk) events
  have hhandled : (nodeAfter H psk events).handled = hs.map Handling.arrival := by
    rw [nodeAfter, Node.handled]
    simp only [hcut]
  have hdisp : (nodeAfter H psk events).dispatches =
      hs.flatMap fun h => h.acts.filterMap Act.dispatched := by
    rw [nodeAfter, Node.dispatches]
    simp only [hhandles.trace_eq]
    exact dispatches_flatMap hs
  refine ⟨hs, hhandled, hhandles.safe, hdisp, ?_, ?_, ?_⟩
  · rw [Node.delivered, hdisp]
    exact delivered_eq hs hhandles.safe
  · rw [hhandled]
    exact ⟨_, hhandles.queue.symm⟩
  · rw [hhandled]
    exact hhandles.outcomes

theorem nodeRun {ι : Type} [DecidableEq ι] (H : HmacSha256) (psk : String) (i : ι)
    (events : List (MeshEvent ι)) :
    ∃ hs, NodeRun H psk (arrivedAt i events) ((meshAfter H psk events).node i) hs := by
  rw [meshAfter_node]
  exact nodeAfter_run H psk (eventsAt i events)

namespace NodeRun

variable {H : HmacSha256} {psk : String} {arrivals : List Arrival} {node : Node}
  {hs : List Handling}

theorem accepted_iff_outcome (r : NodeRun H psk arrivals node hs) (k : Nat) (h : Handling)
    (hk : hs[k]? = some h) : Accepted H psk recvBuf node.handled k ↔ h.outcome ≠ .skipped := by
  have hmem := r.safe h (List.mem_of_getElem? hk)
  unfold Accepted
  rw [r.outcomes, List.getElem?_map, hk, Option.map_some]
  rcases delivered_handling h hmem with ⟨-, hout⟩ | ⟨buf, -, -, hout⟩
  · simp [hout]
  · simp [hout]

theorem handled_get (r : NodeRun H psk arrivals node hs) (k : Nat) (h : Handling)
    (hk : hs[k]? = some h) : node.handled[k]? = some h.arrival := by
  rw [r.handled, List.getElem?_map, hk]
  rfl

theorem clock (r : NodeRun H psk arrivals node hs)
    (hclock : arrivals.Pairwise fun a b => a.now ≤ b.now) :
    node.handled.Pairwise fun a b => a.now ≤ b.now :=
  hclock.sublist r.first.sublist

/-- What a node dispatches verifies and is in the window. -/
theorem admitted (r : NodeRun H psk arrivals node hs) (h : Handling) (hmem : h ∈ hs)
    (hok : h.outcome ≠ .skipped) :
    authentic H (bind psk).psk h.arrival.bytes = true ∧
      inWindow h.arrival.now h.arrival.bytes = true := by
  obtain ⟨k, hk⟩ := List.getElem?_of_mem hmem
  exact admitted_of_accepted H psk node.handled k h.arrival (r.handled_get k h hk)
    ((r.accepted_iff_outcome k h hk).mpr hok)

theorem mem_arrivals (r : NodeRun H psk arrivals node hs) (h : Handling) (hmem : h ∈ hs) :
    h.arrival ∈ arrivals := by
  apply r.first.subset
  rw [r.handled]
  exact List.mem_map_of_mem hmem

/-- Where frames are handled later than they are stamped, no datagram is dispatched twice. -/
theorem delivered_nodup (r : NodeRun H psk arrivals node hs)
    (hclock : arrivals.Pairwise fun a b => a.now ≤ b.now)
    (hpast : ∀ a ∈ arrivals, authentic H (bind psk).psk a.bytes = true → timestamp a.bytes < a.now) :
    node.delivered.Nodup := by
  rw [r.delivered, List.nodup_iff_pairwise_ne, List.pairwise_map, List.pairwise_filter,
    List.pairwise_iff_getElem]
  intro j k hj hk hjk hjok hkok hbytes
  have hjs := List.getElem?_eq_getElem hj
  have hks := List.getElem?_eq_getElem hk
  generalize hs[j] = x at hjs hjok hbytes
  generalize hs[k] = y at hks hkok hbytes
  simp only [bne_iff_ne] at hjok hkok
  have hx := (r.accepted_iff_outcome j x hjs).mpr hjok
  have hy := (r.accepted_iff_outcome k y hks).mpr hkok
  rw [accepted_iff H psk recvBuf node.handled recvBuf_length (r.clock hclock) k y.arrival
    (r.handled_get k y hks)] at hy
  obtain ⟨-, hwindow, hno⟩ := hy
  have hauth := (r.admitted x (List.mem_of_getElem? hjs) hjok).1
  have hlater := hpast x.arrival (r.mem_arrivals x (List.mem_of_getElem? hjs)) hauth
  have hin : absDiff (timestamp y.arrival.bytes) y.arrival.now ≤ 300 := of_decide_eq_true hwindow
  rw [← hbytes] at hin
  -- the first copy's nonce still counts: the frame would else be stamped after it was handled
  refine hno ⟨j, x.arrival, hjk, r.handled_get j x hjs, hx, ?_, by rw [hbytes]⟩
  unfold absDiff at hin
  unfold replayWindowSecs
  omega

theorem mem_delivered_iff (r : NodeRun H psk arrivals node hs) (d : List UInt8) :
    d ∈ node.delivered ↔ ∃ (k : Nat) (h : Handling), hs[k]? = some h ∧ h.outcome ≠ .skipped ∧
      h.arrival.bytes = d := by
  rw [r.delivered, List.mem_map]
  constructor
  · rintro ⟨h, hmem, hbytes⟩
    rw [List.mem_filter, bne_iff_ne] at hmem
    obtain ⟨k, hk⟩ := List.getElem?_of_mem hmem.1
    exact ⟨k, h, hk, hmem.2, hbytes⟩
  · rintro ⟨k, h, hk, hok, hbytes⟩
    exact ⟨h, List.mem_filter.mpr ⟨List.mem_of_getElem? hk, bne_iff_ne.mpr hok⟩, hbytes⟩

end NodeRun

/-! ### Frames -/

theorem payload_bytes (H : HmacSha256) (hH : H.Exact) (psk : String) (f : Sent) (tail : List UInt8) :
    recvLoopPayload (f.bytes H psk ++ tail) (f.bytes H psk).length = some f.payload := by
  have hsize : (f.bytes H psk).length = minMessageSize + f.payload.length :=
    length_marshal H hH (bind psk) f.payload f.ts f.nonceBytes f.nonce_length
  obtain ⟨hsigned, -⟩ := take_marshal H hH (bind psk) f.payload f.ts f.nonceBytes f.nonce_length
  rw [recvLoopPayload_eq _ tail (by omega)]
  have hpayload := congrArg (List.drop headerSize) hsigned
  rw [List.drop_take] at hpayload
  refine congrArg some (hpayload.trans ?_)
  exact List.drop_left' (by rw [List.length_append, length_beBytes, f.nonce_length]; rfl)

theorem authentic_bytes (H : HmacSha256) (hH : H.Exact) (psk : String) (f : Sent) :
    authentic H (bind psk).psk (f.bytes H psk) = true := by
  have hsize : (f.bytes H psk).length = minMessageSize + f.payload.length :=
    length_marshal H hH (bind psk) f.payload f.ts f.nonceBytes f.nonce_length
  obtain ⟨hsigned, htag⟩ := take_marshal H hH (bind psk) f.payload f.ts f.nonceBytes f.nonce_length
  refine (authentic_iff H hH _ _).mpr ⟨by omega, ?_⟩
  exact htag.trans (congrArg _ hsigned.symm)

theorem timestamp_bytes (H : HmacSha256) (psk : String) (f : Sent) :
    timestamp (f.bytes H psk) = f.ts :=
  timestamp_marshal H (bind psk) f.payload f.ts f.nonceBytes f.stamped

theorem nonce_bytes (H : HmacSha256) (psk : String) (f : Sent) :
    nonce (f.bytes H psk) = f.nonceBytes :=
  nonce_marshal H (bind psk) f.payload f.ts f.nonceBytes f.nonce_length

/-- The header of the frame. -/
def Sent.header (f : Sent) : List UInt8 := beBytes 8 f.ts ++ f.nonceBytes

/-- A pass reads no more of a frame than its header and its length. -/
theorem recvFrame_bytes (H : HmacSha256) (hH : H.Exact) (psk : String) (f : Sent) (p : UdpProtocol)
    (now : Nat) (hpsk : p.psk = (bind psk).psk) :
    recvFrame H p now (f.bytes H psk) = ((p.checkNonce f.header now).1,
      if (p.checkNonce f.header now).2 then some (f.bytes H psk).length else none) := by
  have hcheck : p.checkNonce (f.bytes H psk) now = p.checkNonce f.header now := by
    have hheader : (f.bytes H psk).take headerSize = f.header := by
      show (beBytes 8 f.ts ++ f.nonceBytes ++ f.payload ++ _).take headerSize = _
      rw [List.append_assoc]
      exact List.take_left' (by rw [List.length_append, length_beBytes, f.nonce_length]; rfl)
    rw [← checkNonce_take, hheader]
  unfold recvFrame
  rw [if_pos (by rw [hpsk]; exact authentic_bytes H hH psk f), hcheck]

theorem recvFrame_fresh (H : HmacSha256) (hH : H.Exact) (psk : String) (f : Sent) (p : UdpProtocol)
    (now : Nat) (hpsk : p.psk = (bind psk).psk) (hwindow : absDiff f.ts now ≤ replayWindowSecs)
    (hfresh : p.FreshNonce now f.nonceBytes) :
    (recvFrame H p now (f.bytes H psk)).2 = some (f.bytes H psk).length := by
  have hcheck := checkNonce_fresh p (f.bytes H psk) now (by rw [timestamp_bytes]; exact hwindow)
    (by rw [nonce_bytes]; exact hfresh)
  unfold recvFrame
  rw [if_pos (by rw [hpsk]; exact authentic_bytes H hH psk f)]
  dsimp only
  rw [if_pos hcheck]

/-- Where what verifies was sent and no two frames share a nonce, of a frame that was sent one copy is
dispatched if a copy is handled in the window, and none otherwise. -/
theorem NodeRun.count_delivered {H : HmacSha256} {psk : String} {arrivals : List Arrival} {node : Node}
    {hs : List Handling} (r : NodeRun H psk arrivals node hs) (hH : H.Exact) (sent : List Sent)
    (hsent : ∀ a ∈ arrivals, authentic H (bind psk).psk a.bytes = true → ∃ f ∈ sent, a.bytes = f.bytes H psk)
    (hnonce : ∀ f ∈ sent, ∀ g ∈ sent, f.nonceBytes = g.nonceBytes → f = g)
    (hclock : arrivals.Pairwise fun a b => a.now ≤ b.now)
    (hpast : ∀ a ∈ arrivals, authentic H (bind psk).psk a.bytes = true → timestamp a.bytes < a.now)
    (f : Sent) (hf : f ∈ sent) :
    ((∃ a ∈ node.handled, a.bytes = f.bytes H psk ∧ absDiff f.ts a.now ≤ 300) →
      node.delivered.count (f.bytes H psk) = 1) ∧
    ((¬ ∃ a ∈ node.handled, a.bytes = f.bytes H psk ∧ absDiff f.ts a.now ≤ 300) →
      node.delivered.count (f.bytes H psk) = 0) := by
  constructor
  · rintro ⟨a, ha, hbytes, hwindow⟩
    refine List.count_eq_one_of_mem (r.delivered_nodup hclock hpast) ?_
    -- the nonce of this copy was accepted by now, and there is one frame with it
    obtain ⟨k, hk⟩ := List.getElem?_of_mem ha
    have hauth : authentic H (bind psk).psk a.bytes = true := by
      rw [hbytes]
      exact authentic_bytes H hH psk f
    obtain ⟨j, c, -, hc, hacc, hcn, -⟩ := accepted_or_earlier H psk recvBuf _ recvBuf_length
      (r.clock hclock) k a hk hauth (decide_eq_true (by rw [hbytes, timestamp_bytes]; exact hwindow))
    rw [r.handled, List.getElem?_map, Option.map_eq_some_iff] at hc
    obtain ⟨h, hh, rfl⟩ := hc
    have hok := (r.accepted_iff_outcome j h hh).mp hacc
    have hmem := List.mem_of_getElem? hh
    obtain ⟨g, hg, hgbytes⟩ := hsent h.arrival (r.mem_arrivals h hmem) (r.admitted h hmem hok).1
    have hfg : g = f := by
      apply hnonce g hg f hf
      rw [← nonce_bytes H psk g, ← nonce_bytes H psk f, ← hgbytes, ← hbytes]
      exact hcn
    exact (r.mem_delivered_iff _).mpr ⟨j, h, hh, hok, by rw [hgbytes, hfg]⟩
  · intro hno
    rw [List.count_eq_zero]
    intro hmem
    obtain ⟨k, h, hk, hok, hbytes⟩ := (r.mem_delivered_iff _).mp hmem
    have hwindow := (r.admitted h (List.mem_of_getElem? hk) hok).2
    refine hno ⟨h.arrival, List.mem_of_getElem? (r.handled_get k h hk), hbytes, ?_⟩
    rw [← timestamp_bytes H psk f, ← hbytes]
    exact of_decide_eq_true hwindow

/-! ### Datagrams that are polled one by one -/

def pollOnce : Wake := ⟨false, false, false, true, 1⟩

/-- A datagram arrives and is polled. -/
def polled (a : Arrival) : List Event :=
  [.arrive (.datagram a), .wake pollOnce, .wake pollOnce, .wake pollOnce]

theorem loopTrace_append (H : HmacSha256) (s : RecvLoop) (xs ys : List Event) :
    loopTrace H s (xs ++ ys) = loopTrace H s xs ++ loopTrace H ((recvLoop H).after s xs) ys := by
  unfold loopTrace
  rw [Machine.outputs_append, List.flatten_append]

/-- From the top of the loop, with nothing else at the socket, a datagram is read; if it is
accepted it is dispatched, and the loop is at its top again. -/
theorem polled_accepted (H : HmacSha256) (p : UdpProtocol) (buf : List UInt8) (a : Arrival)
    (hfits : a.bytes.length ≤ buf.length)
    (hok : (recvFrame H p a.now a.bytes).2 = some a.bytes.length) :
    (recvLoop H).after ⟨⟨[], p, buf⟩, .top⟩ (polled a) =
        ⟨⟨[], (recvFrame H p a.now a.bytes).1, a.bytes ++ buf.drop a.bytes.length⟩, .top⟩ ∧
      loopTrace H ⟨⟨[], p, buf⟩, .top⟩ (polled a) =
        [.read a, .retain (a.now - replayWindowSecs), .push a.entry,
          .dispatch a.bytes.length a.addr (a.bytes ++ buf.drop a.bytes.length)] := by
  have hpass := recvPass_eq H p buf a.now a.bytes hfits
  rw [hok] at hpass
  rcases recvPassActs_cases H p buf a.now a.bytes hfits with ⟨-, hlen, hacts⟩ | ⟨hskip, -⟩
  · have hpoll : pollSocket H 1 1 ⟨[.datagram a], p, buf⟩ =
        ⟨⟨[], (recvFrame H p a.now a.bytes).1, a.bytes ++ buf.drop a.bytes.length⟩,
          .ok a.bytes.length a.addr, [.read a, .retain (a.now - replayWindowSecs), .push a.entry]⟩ := by
      unfold pollSocket
      simp only [hpass, hacts]
      rfl
    constructor
    · show RecvLoop.mk (pollSocket H 1 1 ⟨[.datagram a], p, buf⟩).shared
        ((pollSocket H 1 1 ⟨[.datagram a], p, buf⟩).point false) = _
      rw [hpoll]
      unfold Polled.point
      dsimp only
      rw [recvLoopPayload_eq a.bytes _ hlen]
      rfl
    · have htrace : loopTrace H ⟨⟨[], p, buf⟩, .top⟩ (polled a) =
          (pollSocket H 1 1 ⟨[.datagram a], p, buf⟩).acts ++
            (pollSocket H 1 1 ⟨[.datagram a], p, buf⟩).dispatch ++ [] := rfl
      rw [htrace, hpoll]
      rfl
  · rw [hok] at hskip
    cases hskip

/-- If it is not accepted it is read all the same. -/
theorem polled_skipped (H : HmacSha256) (p : UdpProtocol) (buf : List UInt8) (a : Arrival)
    (hfits : a.bytes.length ≤ buf.length) (hskip : (recvFrame H p a.now a.bytes).2 = none) :
    loopTrace H ⟨⟨[], p, buf⟩, .top⟩ (polled a) = .read a :: recvPassActs H p buf a.now a.bytes := by
  have hpass := recvPass_eq H p buf a.now a.bytes hfits
  rw [hskip] at hpass
  have hpoll : pollSocket H 1 1 ⟨[.datagram a], p, buf⟩ =
      ⟨⟨[], (recvFrame H p a.now a.bytes).1, a.bytes ++ buf.drop a.bytes.length⟩,
        .pending (.socket 2), .read a :: recvPassActs H p buf a.now a.bytes⟩ := by
    unfold pollSocket
    simp only [hpass, if_neg (show ¬ 1 + 1 > maxRecvAttempts by decide), pollSocket]
    rw [List.append_nil]
  have htrace : loopTrace H ⟨⟨[], p, buf⟩, .top⟩ (polled a) =
      (pollSocket H 1 1 ⟨[.datagram a], p, buf⟩).acts ++
        (pollSocket H 1 1 ⟨[.datagram a], p, buf⟩).dispatch ++ [] := rfl
  rw [htrace, hpoll, List.append_nil]
  exact List.append_nil _

/-- What happens at a node whose events are all the events. -/
theorem eventsAt_map {ι : Type} [DecidableEq ι] (i : ι) (events : List Event) :
    eventsAt i (events.map (MeshEvent.node i)) = events := by
  induction events with
  | nil => rfl
  | cons event events ih => rw [List.map_cons, eventsAt_self, ih]

/-! ### Two frames and a copy -/

theorem registerNonce_length : ([1, 2, 3, 4, 5, 6, 7, 8] : List UInt8).length = 8 := rfl

theorem queryNonce_length : queryNonce.length = 8 := rfl

theorem second1000_stamped : 1000 < 2 ^ 64 := by decide

theorem registerText_fits : minMessageSize + registerText.length ≤ 65507 := by decide +kernel

theorem queryText_fits : minMessageSize + queryText.length ≤ 65507 := by decide +kernel

/-- A registration and a query, both of second 1000. -/
def registerFrame : Sent :=
  ⟨registerText, 1000, [1, 2, 3, 4, 5, 6, 7, 8], second1000_stamped, registerNonce_length,
    registerText_fits⟩

def queryFrame : Sent :=
  ⟨queryText, 1000, queryNonce, second1000_stamped, queryNonce_length, queryText_fits⟩

theorem length_bytes_le (f : Sent) : (f.bytes exactMac "psk").length ≤ 65507 := by
  have hsize : (f.bytes exactMac "psk").length = minMessageSize + f.payload.length :=
    length_marshal exactMac exactMac_exact (bind "psk") f.payload f.ts f.nonceBytes f.nonce_length
  have hfits := f.fits
  omega

/-- A copy of the frame, handled in second `now`. -/
def copyAt (f : Sent) (now : Nat) : Arrival :=
  ⟨now, ⟨⟨198, 51, 100, 7⟩, 9527⟩, f.bytes exactMac "psk", length_bytes_le f⟩

/-- Both frames are sent and arrive at one node, and then a copy of the first. -/
def twoFramesEvents : List Event :=
  polled (copyAt registerFrame 1001) ++
    (polled (copyAt queryFrame 1002) ++ polled (copyAt registerFrame 1003))

def twoFramesRun : List (MeshEvent Bool) :=
  .send registerFrame :: .send queryFrame :: twoFramesEvents.map (.node true)

theorem twoFramesRun_unforged :
    (mesh exactMac).Guarded (Unforged exactMac "psk") (startMesh "psk") twoFramesRun := by
  have hregister : registerFrame.bytes exactMac "psk" ∈
      [registerFrame, queryFrame].map (Sent.bytes exactMac "psk") := List.mem_cons_self
  have hquery : queryFrame.bytes exactMac "psk" ∈
      [registerFrame, queryFrame].map (Sent.bytes exactMac "psk") :=
    List.mem_cons_of_mem _ List.mem_cons_self
  exact ⟨trivial, trivial, fun _ => hregister, trivial, trivial, trivial, fun _ => hquery, trivial,
    trivial, trivial, fun _ => hregister, trivial, trivial, trivial, trivial⟩

/-- The buffer behind the first and behind the second frame. -/
def registerBuf : List UInt8 :=
  registerFrame.bytes exactMac "psk" ++ recvBuf.drop (registerFrame.bytes exactMac "psk").length

def queryBuf : List UInt8 :=
  queryFrame.bytes exactMac "psk" ++ registerBuf.drop (queryFrame.bytes exactMac "psk").length

theorem length_registerBuf : registerBuf.length = 65535 := by
  have hle := length_bytes_le registerFrame
  unfold registerBuf
  rw [List.length_append, List.length_drop, recvBuf_length]
  omega

theorem length_queryBuf : queryBuf.length = 65535 := by
  have hle := length_bytes_le queryFrame
  unfold queryBuf
  rw [List.length_append, List.length_drop, length_registerBuf]
  omega

/-- The nonces behind the two frames. -/
def twoNonces : List (String × Nat) := [("0102030405060708", 1001), ("1112131415161718", 1002)]

theorem register_taken :
    recvFrame exactMac (bind "psk") 1001 (registerFrame.bytes exactMac "psk") =
      (⟨(bind "psk").psk, twoNonces.take 1⟩, some (registerFrame.bytes exactMac "psk").length) := by
  have hcheck : (bind "psk").checkNonce registerFrame.header 1001 =
      (⟨(bind "psk").psk, twoNonces.take 1⟩, true) := by decide +kernel
  rw [recvFrame_bytes exactMac exactMac_exact "psk" registerFrame (bind "psk") 1001 rfl, hcheck]
  rfl

theorem query_taken :
    recvFrame exactMac ⟨(bind "psk").psk, twoNonces.take 1⟩ 1002 (queryFrame.bytes exactMac "psk") =
      (⟨(bind "psk").psk, twoNonces⟩, some (queryFrame.bytes exactMac "psk").length) := by
  have hcheck : UdpProtocol.checkNonce ⟨(bind "psk").psk, twoNonces.take 1⟩ queryFrame.header 1002 =
      (⟨(bind "psk").psk, twoNonces⟩, true) := by decide +kernel
  rw [recvFrame_bytes exactMac exactMac_exact "psk" queryFrame ⟨(bind "psk").psk, twoNonces.take 1⟩ 1002
    rfl, hcheck]
  rfl

theorem copy_refused :
    (recvFrame exactMac ⟨(bind "psk").psk, twoNonces⟩ 1003 (registerFrame.bytes exactMac "psk")).2 =
      none := by
  have hcheck : (UdpProtocol.checkNonce ⟨(bind "psk").psk, twoNonces⟩ registerFrame.header 1003).2 =
      false := by decide +kernel
  rw [recvFrame_bytes exactMac exactMac_exact "psk" registerFrame ⟨(bind "psk").psk, twoNonces⟩ 1003 rfl]
  dsimp only
  rw [hcheck]
  rfl

/-- The two frames are dispatched; the copy is read and its nonce found. -/
def twoFramesHandlings : List Handling :=
  [⟨copyAt registerFrame 1001, [.retain 701, .push (copyAt registerFrame 1001).entry,
      .dispatch (registerFrame.bytes exactMac "psk").length (copyAt registerFrame 1001).addr registerBuf]⟩,
    ⟨copyAt queryFrame 1002, [.retain 702, .push (copyAt queryFrame 1002).entry,
      .dispatch (queryFrame.bytes exactMac "psk").length (copyAt queryFrame 1002).addr queryBuf]⟩,
    ⟨copyAt registerFrame 1003, recvPassActs exactMac ⟨(bind "psk").psk, twoNonces⟩ queryBuf 1003
      (registerFrame.bytes exactMac "psk")⟩]

theorem twoFramesRun_trace :
    ((meshAfter exactMac "psk" twoFramesRun).node true).trace =
      twoFramesHandlings.flatMap Handling.trace := by
  have hfits : ∀ f : Sent, (f.bytes exactMac "psk").length ≤ 65535 :=
    fun f => Nat.le_trans (length_bytes_le f) (by decide)
  obtain ⟨hafter₁, htrace₁⟩ := polled_accepted exactMac (bind "psk") recvBuf
    (copyAt registerFrame 1001) (by rw [recvBuf_length]; exact hfits registerFrame)
    (congrArg Prod.snd register_taken)
  obtain ⟨hafter₂, htrace₂⟩ := polled_accepted exactMac ⟨(bind "psk").psk, twoNonces.take 1⟩ registerBuf
    (copyAt queryFrame 1002) (by rw [length_registerBuf]; exact hfits queryFrame)
    (congrArg Prod.snd query_taken)
  have htrace₃ := polled_skipped exactMac ⟨(bind "psk").psk, twoNonces⟩ queryBuf
    (copyAt registerFrame 1003) (by rw [length_queryBuf]; exact hfits registerFrame) copy_refused
  have hevents : eventsAt true twoFramesRun = twoFramesEvents := eventsAt_map true twoFramesEvents
  replace hafter₁ : (recvLoop exactMac).after ⟨⟨[], bind "psk", recvBuf⟩, .top⟩
      (polled (copyAt registerFrame 1001)) =
        ⟨⟨[], (recvFrame exactMac (bind "psk") 1001 (registerFrame.bytes exactMac "psk")).1,
          registerBuf⟩, .top⟩ := hafter₁
  replace hafter₂ : (recvLoop exactMac).after
      ⟨⟨[], ⟨(bind "psk").psk, twoNonces.take 1⟩, registerBuf⟩, .top⟩ (polled (copyAt queryFrame 1002)) =
        ⟨⟨[], (recvFrame exactMac ⟨(bind "psk").psk, twoNonces.take 1⟩ 1002
          (queryFrame.bytes exactMac "psk")).1, queryBuf⟩, .top⟩ := hafter₂
  rw [register_taken] at hafter₁
  rw [query_taken] at hafter₂
  dsimp only at hafter₁ hafter₂
  rw [meshAfter_node, hevents, startLoop, twoFramesEvents]
  dsimp only
  rw [loopTrace_append, hafter₁, loopTrace_append, hafter₂, htrace₁, htrace₂, htrace₃, twoFramesHandlings,
    List.flatMap_cons, List.flatMap_cons, List.flatMap_singleton]
  unfold Handling.trace
  dsimp only
  congr 1

theorem query_in_dispatches :
    ((queryFrame.bytes exactMac "psk").length, (copyAt queryFrame 1002).addr, queryBuf) ∈
      ((meshAfter exactMac "psk" twoFramesRun).node true).dispatches := by
  rw [Node.dispatches, twoFramesRun_trace, dispatches_flatMap]
  exact List.mem_flatMap.mpr ⟨_, List.mem_cons_of_mem _ List.mem_cons_self, List.mem_cons_self⟩

theorem twoFramesRun_handled :
    ((meshAfter exactMac "psk" twoFramesRun).node true).handled =
      [copyAt registerFrame 1001, copyAt queryFrame 1002, copyAt registerFrame 1003] := by
  have hreads : ∀ x ∈ twoFramesHandlings, ∀ a, Act.read a ∉ x.acts := by
    have hcopy : ∀ a, Act.read a ∉ recvPassActs exactMac ⟨(bind "psk").psk, twoNonces⟩ queryBuf 1003
        (registerFrame.bytes exactMac "psk") := by
      intro a ha
      rcases recvPassActs_cases exactMac ⟨(bind "psk").psk, twoNonces⟩ queryBuf 1003
        (registerFrame.bytes exactMac "psk")
        (by rw [length_queryBuf]; exact Nat.le_trans (length_bytes_le registerFrame) (by decide)) with
        ⟨-, -, hacts⟩ | ⟨-, hacts⟩
      · rw [hacts] at ha
        simp at ha
      · cases hacts _ ha
    simp only [twoFramesHandlings, List.forall_mem_cons]
    exact ⟨by simp, by simp, hcopy, by simp⟩
  rw [Node.handled, twoFramesRun_trace, handlings_flatMap _ hreads]
  rfl

/-! ## Main theorems -/

section
variable {ι : Type} [DecidableEq ι]

/-- What a node dispatches, at which arrival and from which frame. -/
theorem sent_of_dispatch (H : HmacSha256) (hH : H.Exact) (psk : String)
    (events : List (MeshEvent ι)) (hrun : (mesh H).Guarded (Unforged H psk) (startMesh psk) events)
    (i : ι) (n : Nat) (addr : SocketAddr) (buf : List UInt8)
    (hd : (n, addr, buf) ∈ ((meshAfter H psk events).node i).dispatches) :
    ∃ f ∈ (meshAfter H psk events).sent, ∃ a ∈ arrivedAt i events,
      recvLoopPayload buf n = some f.payload ∧ a.bytes = f.bytes H psk ∧ a.addr = addr ∧
        absDiff f.ts a.now ≤ 300 := by
  obtain ⟨hs, r⟩ := nodeRun H psk i events
  rw [r.dispatches, List.mem_flatMap] at hd
  obtain ⟨h, hmem, hd⟩ := hd
  rcases delivered_handling h (r.safe h hmem) with ⟨hnone, -⟩ | ⟨buf', hone, htake, hout⟩
  · rw [hnone] at hd
    cases hd
  · rw [hone, List.mem_singleton] at hd
    obtain ⟨rfl, rfl, rfl⟩ : n = h.arrival.bytes.length ∧ addr = h.arrival.addr ∧ buf = buf' := by
      simpa using hd
    obtain ⟨hauth, hwindow⟩ := r.admitted h hmem (by rw [hout]; exact fun he => by cases he)
    have harr := r.mem_arrivals h hmem
    obtain ⟨f, hf, hbytes⟩ := sent_of_arrivedAt H psk i events (startMesh psk) hrun h.arrival harr hauth
    refine ⟨f, hf, h.arrival, harr, ?_, hbytes, rfl, ?_⟩
    · rw [← List.take_append_drop h.arrival.bytes.length buf, htake, hbytes]
      exact payload_bytes H hH psk f _
    · rw [← timestamp_bytes H psk f, ← hbytes]
      exact of_decide_eq_true hwindow

/-- **Only what was sent.**  Where no one but the holders of the key makes tags, whatever a node
hands to its JSON parser is the payload of a frame that was sent; the datagram is that frame, and
its second is at most 300 s off the node's clock. -/
theorem mesh_dispatches_sent (H : HmacSha256) (hH : H.Exact) (psk : String)
    (events : List (MeshEvent ι)) (hrun : (mesh H).Guarded (Unforged H psk) (startMesh psk) events)
    (i : ι) (n : Nat) (addr : SocketAddr) (buf : List UInt8)
    (hd : (n, addr, buf) ∈ ((meshAfter H psk events).node i).dispatches) :
    ∃ f ∈ (meshAfter H psk events).sent, ∃ a ∈ arrivedAt i events,
      recvLoopPayload buf n = some f.payload ∧ a.bytes = f.bytes H psk ∧ a.addr = addr ∧
        absDiff f.ts a.now ≤ 300 :=
  sent_of_dispatch H hH psk events hrun i n addr buf hd

/-- The query reaches a node that has accepted the registration: what the node parses is the
text of one of the two. -/
theorem query_dispatched :
    ∃ f ∈ (meshAfter exactMac "psk" twoFramesRun).sent, ∃ a ∈ arrivedAt true twoFramesRun,
      recvLoopPayload queryBuf (queryFrame.bytes exactMac "psk").length = some f.payload ∧
        a.bytes = f.bytes exactMac "psk" ∧ a.addr = (copyAt queryFrame 1002).addr ∧
        absDiff f.ts a.now ≤ 300 := by
  exact mesh_dispatches_sent exactMac exactMac_exact "psk" twoFramesRun twoFramesRun_unforged
    true _ (copyAt queryFrame 1002).addr queryBuf query_in_dispatches

/-- **Exactly once.**  Where no one but the holders of the key makes tags and no two frames share
a nonce, at a node whose clock does not go back and that handles frames in a later second than
they are stamped with: of every frame sent, exactly one copy is dispatched if a copy is handled
within 300 s of its second, and none otherwise. -/
theorem mesh_exactly_once (H : HmacSha256) (hH : H.Exact) (psk : String)
    (events : List (MeshEvent ι)) (hrun : (mesh H).Guarded (Unforged H psk) (startMesh psk) events)
    (hnonce : ∀ f ∈ (meshAfter H psk events).sent, ∀ g ∈ (meshAfter H psk events).sent,
      f.nonceBytes = g.nonceBytes → f = g)
    (i : ι) (hclock : (arrivedAt i events).Pairwise fun a b => a.now ≤ b.now)
    (hpast : ∀ a ∈ arrivedAt i events, authentic H (bind psk).psk a.bytes = true →
      timestamp a.bytes < a.now)
    (f : Sent) (hf : f ∈ (meshAfter H psk events).sent) :
    ((∃ a ∈ ((meshAfter H psk events).node i).handled,
        a.bytes = f.bytes H psk ∧ absDiff f.ts a.now ≤ 300) →
      ((meshAfter H psk events).node i).delivered.count (f.bytes H psk) = 1) ∧
    ((¬ ∃ a ∈ ((meshAfter H psk events).node i).handled,
        a.bytes = f.bytes H psk ∧ absDiff f.ts a.now ≤ 300) →
      ((meshAfter H psk events).node i).delivered.count (f.bytes H psk) = 0) := by
  obtain ⟨hs, r⟩ := nodeRun H psk i events
  exact r.count_delivered hH _ (sent_of_arrivedAt H psk i events (startMesh psk) hrun) hnonce hclock hpast f hf

end

/-- Both frames are delivered once, though two copies of the first are handled. -/
theorem two_frames_once :
    ((meshAfter exactMac "psk" twoFramesRun).node true).handled =
        [copyAt registerFrame 1001, copyAt queryFrame 1002, copyAt registerFrame 1003] ∧
      ((meshAfter exactMac "psk" twoFramesRun).node true).delivered.count
        (registerFrame.bytes exactMac "psk") = 1 ∧
      ((meshAfter exactMac "psk" twoFramesRun).node true).delivered.count
        (queryFrame.bytes exactMac "psk") = 1 := by
  have hsent : (meshAfter exactMac "psk" twoFramesRun).sent = [registerFrame, queryFrame] := rfl
  have hnonce : ∀ f ∈ (meshAfter exactMac "psk" twoFramesRun).sent,
      ∀ g ∈ (meshAfter exactMac "psk" twoFramesRun).sent, f.nonceBytes = g.nonceBytes → f = g := by
    have hne : registerFrame.nonceBytes ≠ queryFrame.nonceBytes := by decide
    rw [hsent]
    simp only [List.mem_cons, List.not_mem_nil, or_false]
    rintro f (rfl | rfl) g (rfl | rfl) h
    · rfl
    · exact absurd h hne
    · exact absurd h.symm hne
    · rfl
  have harrived : arrivedAt true twoFramesRun =
      [copyAt registerFrame 1001, copyAt queryFrame 1002, copyAt registerFrame 1003] := rfl
  have hpast : ∀ a ∈ arrivedAt true twoFramesRun, authentic exactMac (bind "psk").psk a.bytes = true →
      timestamp a.bytes < a.now := by
    have hstamp : ∀ f : Sent, ∀ now, timestamp (copyAt f now).bytes = f.ts :=
      fun f _ => timestamp_bytes exactMac "psk" f
    rw [harrived]
    simp only [List.mem_cons, List.not_mem_nil, or_false]
    rintro a (rfl | rfl | rfl) -
    · rw [hstamp]; decide
    · rw [hstamp]; decide
    · rw [hstamp]; decide
  have honce := mesh_exactly_once exactMac exactMac_exact "psk" twoFramesRun twoFramesRun_unforged hnonce
    true (by rw [harrived]; simp [copyAt]) hpast
  refine ⟨twoFramesRun_handled, ?_, ?_⟩
  · refine (honce registerFrame (by rw [hsent]; exact List.mem_cons_self)).1
      ⟨copyAt registerFrame 1001, ?_, rfl, by decide⟩
    rw [twoFramesRun_handled]
    exact List.mem_cons_self
  · refine (honce queryFrame (by rw [hsent]; exact List.mem_cons_of_mem _ List.mem_cons_self)).1
      ⟨copyAt queryFrame 1002, ?_, rfl, by decide⟩
    rw [twoFramesRun_handled]
    exact List.mem_cons_of_mem _ List.mem_cons_self

end NomadP2P.Protocol
