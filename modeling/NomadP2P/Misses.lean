import NomadP2P.IpUnique
import NomadP2P.Keys

/-!
# The way of a route miss

A packet for which `NODE_DYNAMIC_MAP` has no peer makes the egress program put an item in the
ring buffer.  `ringbuf_consumer` takes items out one at a time, decodes them and calls
`submit_miss`, which looks at the length of `pending` first and pushes later; `discovery_loop`
drains `pending`, hands what is not cooling down to `kad_tx`, whose receiver is dropped at the
end of `spawn_all`, and enters it in the route map.  The four run side by side, and API requests
between them.

Beside the state of the code a run keeps what has become of each miss.  Over every run whose
drains read a clock that does not go back, with the mutex of the maps not poisoned:

    reported = turned away + drained + pending + at the consumer + in the ring buffer
    a drained miss has been handed to `kad_tx` at that drain, or less than 5 s before
    an address is handed over again after 5 s at the earliest        (misses_accounted)

A miss is turned away only where 4096 others were pending.
-/

namespace NomadP2P

open Bytes

/-! ## Algorithm -/

/-- Where `ringbuf_consumer` stands: at the ring buffer, behind it with the decoded item, or
between the two locks of `submit_miss`. -/
inductive Consumer
  | polling
  | decoded (overlayIp : UInt32)
  | checked (overlayIp : UInt32)
deriving DecidableEq, Repr

/-- The ring buffer, the tasks and the maps. -/
structure Pipeline where
  ring : List (List UInt8)
  consumer : Consumer
  route : RouteManager
  agent : Agent
  /-- the task of `discovery_loop` has not panicked -/
  discovering : Bool

/-- What has become of the misses so far. -/
structure MissLog where
  reported : List UInt32
  /-- turned away by `submit_miss`, with the length it saw -/
  turnedAway : List (UInt32 × Nat)
  /-- taken out of `pending` by a drain at that instant -/
  drained : List (Nat × UInt32)
  /-- handed to `kad_tx` -/
  handed : List (Nat × UInt32)
  /-- the last drain -/
  clock : Nat

structure MissState where
  pipe : Pipeline
  log : MissLog

def MissState.start : MissState :=
  ⟨⟨[], .polling, .new, Agent.loaded, true⟩, ⟨[], [], [], [], 0⟩⟩

inductive MissOp
  /-- a packet leaves, with what the egress program finds -/
  | packet (env : Ebpf.EgressEnv) (ctx : Ebpf.TcContext)
  /-- `ringbuf.next()` and `from_ne_bytes` -/
  | next
  /-- `self.pending.read().await.len()` and the test -/
  | check
  /-- `self.pending.write().await.push(overlay_ip)` -/
  | push
  /-- a turn of `discovery_loop`; `ok` says which inserts succeed -/
  | discover (now : Nat) (ok : UInt32 → Bool)
  | api (checks : Bool) (r : ApiRequest)

/-- The item the egress program submits. -/
def reportMiss (e : ByteOrder) (s : MissState) (overlayIp : UInt32) : MissState where
  pipe := { s.pipe with ring := s.pipe.ring ++ [e.store 4 overlayIp.toNat] }
  log := { s.log with reported := s.log.reported ++ [overlayIp] }

/-- `ringbuf_consumer` takes an item; one that is too short is dropped. -/
def takeItem (e : ByteOrder) (s : MissState) : MissState :=
  match s.pipe.consumer, s.pipe.ring with
  | .polling, data :: ring =>
    { s with pipe := { s.pipe with
        ring := ring
        consumer := (decodeMiss e data).elim .polling .decoded } }
  | _, _ => s

/-- The first half of `submit_miss`. -/
def checkPending (s : MissState) : MissState :=
  match s.pipe.consumer with
  | .decoded ip =>
    if maxPending ≤ s.pipe.route.pending.length then
      ⟨{ s.pipe with consumer := .polling },
        { s.log with turnedAway := s.log.turnedAway ++ [(ip, s.pipe.route.pending.length)] }⟩
    else { s with pipe := { s.pipe with consumer := .checked ip } }
  | _ => s

/-- The second half. -/
def pushPending (s : MissState) : MissState :=
  match s.pipe.consumer with
  | .checked ip =>
    { s with pipe := { s.pipe with
        consumer := .polling
        route := { s.pipe.route with pending := s.pipe.route.pending ++ [ip] } } }
  | _ => s

/-- A turn of `discovery_loop`: `spawn_all` gives it `kad_tx`. -/
def discoverTurn (s : MissState) (now : Nat) (ok : UInt32 → Bool) : MissState :=
  if s.pipe.discovering then
    let d := discoveryIteration s.pipe.route s.pipe.agent true now ok
    ⟨{ s.pipe with
        route := d.route
        agent := d.agent.getD s.pipe.agent
        discovering := d.agent.isSome },
      { s.log with
        drained := s.log.drained ++ s.pipe.route.pending.map fun ip => (now, ip)
        handed := s.log.handed ++ d.queries.map fun ip => (now, ip)
        clock := now }⟩
  else s

def missStep (e : ByteOrder) (s : MissState) : MissOp → MissState
  | .packet env ctx => (Ebpf.egressP2pMesh e env ctx).miss.elim s (reportMiss e s)
  | .next => takeItem e s
  | .check => checkPending s
  | .push => pushPending s
  | .discover now ok => discoverTurn s now ok
  | .api checks r =>
    { s with pipe := { s.pipe with agent := (handleContainerCmd checks s.pipe.agent r.body r.ok).1 } }

def missMachine (e : ByteOrder) : Machine MissState MissOp Unit where
  step s op := (missStep e s op, ())

/-- A drain reads a clock that has not gone back, and finds the mutex of the maps sound. -/
def steady (s : MissState) : MissOp → Prop
  | .discover now _ => s.log.clock ≤ now ∧ s.pipe.agent.poisoned = false
  | _ => True

/-! ## What is to hold of a run -/

/-- What the consumer has in its hands. -/
def Consumer.inHand : Consumer → List UInt32
  | .polling => []
  | .decoded ip => [ip]
  | .checked ip => [ip]

/-- Every miss reported is in one place. -/
def Accounted (e : ByteOrder) (s : MissState) : Prop :=
  s.log.reported.Perm (s.log.turnedAway.map Prod.fst ++ s.log.drained.map Prod.snd ++
    s.pipe.route.pending ++ s.pipe.consumer.inHand ++ s.pipe.ring.filterMap (decodeMiss e))

/-- What is drained has been handed to `kad_tx`, then or less than 5 s before. -/
def HandedOver (log : MissLog) : Prop :=
  ∀ d ∈ log.drained, ∃ t, (t, d.2) ∈ log.handed ∧ t ≤ d.1 ∧ d.1 < t + cooldown

/-- One address is handed over once in 5 s. -/
def Spaced (log : MissLog) : Prop :=
  log.handed.Pairwise fun a b => a.2 = b.2 → a.1 + cooldown ≤ b.1

/-! ## Lemmas -/

/-! ### Where the misses are -/

/-- The items of the ring buffer are what the egress program writes, every miss is in one place,
and those turned away saw a full list. -/
structure Placed (e : ByteOrder) (s : MissState) : Prop where
  ring : ∀ data ∈ s.pipe.ring, ∃ ip : UInt32, data = e.store 4 ip.toNat
  account : ∀ ip, s.log.reported.count ip =
    (s.log.turnedAway.map Prod.fst).count ip + (s.log.drained.map Prod.snd).count ip +
      s.pipe.route.pending.count ip + s.pipe.consumer.inHand.count ip +
      (s.pipe.ring.filterMap (decodeMiss e)).count ip
  full : ∀ d ∈ s.log.turnedAway, maxPending ≤ d.2

theorem Placed.accounted {e : ByteOrder} {s : MissState} (h : Placed e s) : Accounted e s := by
  unfold Accounted
  rw [List.perm_iff_count]
  intro ip
  simp only [List.count_append]
  exact h.account ip

theorem placed_start (e : ByteOrder) : Placed e .start where
  ring _ hdata := by cases hdata
  account _ := rfl
  full _ hd := by cases hd

theorem placed_reportMiss {e : ByteOrder} {s : MissState} (h : Placed e s) (miss : UInt32) :
    Placed e (reportMiss e s miss) where
  ring data hdata := by
    rcases List.mem_append.mp hdata with hdata | hdata
    · exact h.ring data hdata
    · exact ⟨miss, List.mem_singleton.mp hdata⟩
  account ip := by
    have hip := h.account ip
    show (s.log.reported ++ [miss]).count ip = _ + _ + _ + _ +
      ((s.pipe.ring ++ [e.store 4 miss.toNat]).filterMap (decodeMiss e)).count ip
    rw [List.filterMap_append, List.count_append, List.count_append,
      List.filterMap_cons_some (decodeMiss_store e miss), List.filterMap_nil, hip]
    simp only [reportMiss]
    omega
  full := h.full

theorem placed_takeItem {e : ByteOrder} {s : MissState} (h : Placed e s) : Placed e (takeItem e s) := by
  unfold takeItem
  split
  · next data ring hconsumer hring =>
    obtain ⟨item, rfl⟩ := h.ring data (by rw [hring]; exact List.mem_cons_self)
    rw [decodeMiss_store]
    refine ⟨fun d hd => h.ring d (by rw [hring]; exact List.mem_cons_of_mem _ hd), fun ip => ?_, h.full⟩
    have hip := h.account ip
    rw [hring, hconsumer, List.filterMap_cons_some (decodeMiss_store e item), List.count_cons] at hip
    simp only [Consumer.inHand, List.count_nil, Option.elim, List.count_singleton] at hip ⊢
    omega
  · exact h

theorem placed_checkPending {e : ByteOrder} {s : MissState} (h : Placed e s) :
    Placed e (checkPending s) := by
  unfold checkPending
  split
  · next miss hconsumer =>
    split
    · next hfull =>
      refine ⟨h.ring, fun ip => ?_, fun d hd => ?_⟩
      · have hip := h.account ip
        rw [hconsumer] at hip
        simp only [Consumer.inHand, List.map_append, List.map_singleton, List.count_append,
          List.count_nil] at hip ⊢
        omega
      · rcases List.mem_append.mp hd with hd | hd
        · exact h.full d hd
        · rw [List.mem_singleton.mp hd]
          exact hfull
    · refine ⟨h.ring, fun ip => ?_, h.full⟩
      have hip := h.account ip
      rw [hconsumer] at hip
      exact hip
  · exact h

theorem placed_pushPending {e : ByteOrder} {s : MissState} (h : Placed e s) :
    Placed e (pushPending s) := by
  unfold pushPending
  split
  · next miss hconsumer =>
    refine ⟨h.ring, fun ip => ?_, h.full⟩
    have hip := h.account ip
    rw [hconsumer] at hip
    simp only [Consumer.inHand, List.count_append, List.count_nil] at hip ⊢
    omega
  · exact h

theorem placed_discoverTurn {e : ByteOrder} {s : MissState} (h : Placed e s) (now : Nat)
    (ok : UInt32 → Bool) : Placed e (discoverTurn s now ok) := by
  unfold discoverTurn
  split
  · refine ⟨h.ring, fun ip => ?_, h.full⟩
    have hip := h.account ip
    have hpending : ((s.pipe.route.pending.map fun ip => (now, ip)).map Prod.snd) =
        s.pipe.route.pending := by
      rw [List.map_map]
      exact List.map_id _
    show _ = _ + ((s.log.drained ++ s.pipe.route.pending.map fun ip => (now, ip)).map
      Prod.snd).count ip + ([] : List UInt32).count ip + _ + _
    rw [List.map_append, hpending, List.count_append, List.count_nil]
    simp only
    omega
  · exact h

/-! ### When they are handed over -/

/-- The cooldowns against what was handed over: each comes from one, and one that still counts has its
cooldown. -/
structure Timed (cooldowns : UInt32 → Option Nat) (log : MissLog) : Prop where
  cooling : ∀ ip expires, cooldowns ip = some expires →
    ∃ t, expires = t + cooldown ∧ (t, ip) ∈ log.handed
  live : ∀ t ip, (t, ip) ∈ log.handed → log.clock < t + cooldown → cooldowns ip = some (t + cooldown)
  past : ∀ q ∈ log.handed, q.1 ≤ log.clock
  handedOver : HandedOver log
  spaced : Spaced log

theorem timed_start : Timed MissState.start.pipe.route.cooldowns MissState.start.log where
  cooling _ _ h := by cases h
  live _ _ h := by cases h
  past _ h := by cases h
  handedOver _ h := by cases h
  spaced := List.Pairwise.nil

theorem mem_fresh (cooldowns : UInt32 → Option Nat) (l : List UInt32) (ip : UInt32) :
    ip ∈ fresh cooldowns l ↔ ip ∈ l ∧ cooldowns ip = none := by
  rw [fresh, List.mem_filter, List.mem_eraseDups, Option.isNone_iff_eq_none]

theorem mem_stamped {now t : Nat} {ip : UInt32} {l : List UInt32} :
    (t, ip) ∈ l.map (fun ip => (now, ip)) ↔ t = now ∧ ip ∈ l := by
  rw [List.mem_map]
  constructor
  · rintro ⟨x, hx, he⟩
    obtain ⟨rfl, rfl⟩ := Prod.mk.inj he
    exact ⟨rfl, hx⟩
  · rintro ⟨rfl, hip⟩
    exact ⟨ip, hip, rfl⟩

/-- **A drain.**  What is cooling down was handed over less than 5 s ago, and what is not is handed
over now. -/
theorem timed_drain {r : RouteManager} {log : MissLog} (h : Timed r.cooldowns log) (now : Nat)
    (hclock : log.clock ≤ now) :
    Timed (r.drainBatch now).1.cooldowns { log with
      drained := log.drained ++ r.pending.map fun ip => (now, ip)
      handed := log.handed ++ (r.drainBatch now).2.map fun ip => (now, ip)
      clock := now } := by
  rw [drainBatch_eq]
  -- a cooldown that still counts keeps its address out of the batch
  have hkeep : ∀ t ip, (t, ip) ∈ log.handed → now < t + cooldown →
      RouteManager.retain now r.cooldowns ip = some (t + cooldown) := by
    intro t ip hmem hlive
    exact (retain_eq_some now r.cooldowns ip _).mpr ⟨h.live t ip hmem (by omega), hlive⟩
  constructor
  · intro ip expires hexp
    simp only at hexp
    split at hexp
    · next hfresh =>
      exact ⟨now, (Option.some.inj hexp).symm,
        List.mem_append_right _ (mem_stamped.mpr ⟨rfl, hfresh⟩)⟩
    · obtain ⟨t, ht, hmem⟩ := h.cooling ip expires ((retain_eq_some now r.cooldowns ip _).mp hexp).1
      exact ⟨t, ht, List.mem_append_left _ hmem⟩
  · intro t ip hmem hlive
    replace hlive : now < t + cooldown := hlive
    simp only
    rcases List.mem_append.mp hmem with hold | hnew
    · have hcool := hkeep t ip hold hlive
      rw [if_neg fun hf => ?_, hcool]
      have hnone := ((mem_fresh _ _ ip).mp hf).2
      rw [hcool] at hnone
      cases hnone
    · obtain ⟨rfl, hf⟩ := mem_stamped.mp hnew
      rw [if_pos hf]
  · intro q hq
    rcases List.mem_append.mp hq with hold | hnew
    · exact Nat.le_trans (h.past q hold) hclock
    · exact Nat.le_of_eq (mem_stamped.mp hnew).1
  · intro d hd
    rcases List.mem_append.mp hd with hold | hnew
    · obtain ⟨t, hmem, hle, hlt⟩ := h.handedOver d hold
      exact ⟨t, List.mem_append_left _ hmem, hle, hlt⟩
    · obtain ⟨hnow, hpending⟩ := mem_stamped.mp hnew
      cases hcool : RouteManager.retain now r.cooldowns d.2 with
      | none =>
        refine ⟨now, List.mem_append_right _ (mem_stamped.mpr ⟨rfl, ?_⟩), by omega, ?_⟩
        · exact (mem_fresh _ _ d.2).mpr ⟨hpending, hcool⟩
        · unfold cooldown
          omega
      | some expires =>
        obtain ⟨hsome, hlive⟩ := (retain_eq_some now r.cooldowns d.2 expires).mp hcool
        obtain ⟨t, rfl, hmem⟩ := h.cooling d.2 expires hsome
        have hpast : t ≤ log.clock := h.past _ hmem
        exact ⟨t, List.mem_append_left _ hmem, by omega, by omega⟩
  · refine List.pairwise_append.mpr ⟨h.spaced, ?_, ?_⟩
    · -- a batch has no address twice
      rw [List.pairwise_map]
      refine ((Dedup.nodup_eraseDups r.pending).filter _).imp ?_
      intro x y hne he
      exact absurd he hne
    · rintro ⟨t, ip⟩ hold ⟨u, ip'⟩ hnew he
      obtain ⟨rfl, hf⟩ := mem_stamped.mp hnew
      obtain rfl : ip = ip' := he
      have hnone := ((mem_fresh _ _ ip).mp hf).2
      show t + cooldown ≤ u
      apply Classical.byContradiction
      intro hlt
      rw [hkeep t ip hold (by omega)] at hnone
      cases hnone

theorem timed_discoverTurn {s : MissState} (h : Timed s.pipe.route.cooldowns s.log) (now : Nat)
    (ok : UInt32 → Bool) (hclock : s.log.clock ≤ now) (hsound : s.pipe.agent.poisoned = false) :
    Timed (discoverTurn s now ok).pipe.route.cooldowns (discoverTurn s now ok).log := by
  unfold discoverTurn
  split
  · have hhanded : kadQueries true s.pipe.agent (s.pipe.route.drainBatch now).2 =
        (s.pipe.route.drainBatch now).2 := by
      unfold kadQueries
      rw [if_pos rfl, hsound, if_neg Bool.false_ne_true]
    have hdrain := timed_drain h now hclock
    rw [← hhanded] at hdrain
    exact hdrain
  · exact h

/-! ### Runs -/

structure MissInv (e : ByteOrder) (s : MissState) : Prop where
  placed : Placed e s
  timed : Timed s.pipe.route.cooldowns s.log

theorem missInv_step (e : ByteOrder) (s : MissState) (op : MissOp) (h : MissInv e s)
    (hsteady : steady s op) : MissInv e ((missMachine e).next s op) := by
  cases op with
  | packet env ctx =>
    show MissInv e ((Ebpf.egressP2pMesh e env ctx).miss.elim s (reportMiss e s))
    cases (Ebpf.egressP2pMesh e env ctx).miss with
    | none => exact h
    | some miss =>
      exact ⟨placed_reportMiss h.placed miss, h.timed.1, h.timed.2, h.timed.3, h.timed.4, h.timed.5⟩
  | next =>
    refine ⟨placed_takeItem h.placed, ?_⟩
    show Timed (takeItem e s).pipe.route.cooldowns (takeItem e s).log
    unfold takeItem
    split
    · exact h.timed
    · exact h.timed
  | check =>
    refine ⟨placed_checkPending h.placed, ?_⟩
    show Timed (checkPending s).pipe.route.cooldowns (checkPending s).log
    unfold checkPending
    split
    · split
      · exact ⟨h.timed.1, h.timed.2, h.timed.3, h.timed.4, h.timed.5⟩
      · exact h.timed
    · exact h.timed
  | push =>
    refine ⟨placed_pushPending h.placed, ?_⟩
    show Timed (pushPending s).pipe.route.cooldowns (pushPending s).log
    unfold pushPending
    split
    · exact h.timed
    · exact h.timed
  | discover now ok =>
    exact ⟨placed_discoverTurn h.placed now ok,
      timed_discoverTurn h.timed now ok hsteady.1 hsteady.2⟩
  | api checks r => exact ⟨⟨h.placed.1, h.placed.2, h.placed.3⟩, h.timed⟩

/-! ### Main theorem -/

/-- **No miss is lost and no address is handed over too often.**  In every run of packets, of the
consumer, of drains and API requests in any order, with drains that read a clock that does
not go back and find the mutex of the maps sound: the misses reported are those turned away at
4096 pending ones, those drained, and those still on their way; each one drained was handed to
`kad_tx` at its drain or less than 5 s before; and one address is handed over again after 5 s at
the earliest. -/
theorem misses_accounted (e : ByteOrder) (ops : List MissOp)
    (hrun : (missMachine e).Guarded steady .start ops) :
    Accounted e ((missMachine e).after .start ops) ∧
      (∀ d ∈ ((missMachine e).after .start ops).log.turnedAway, 4096 ≤ d.2) ∧
      HandedOver ((missMachine e).after .start ops).log ∧
      Spaced ((missMachine e).after .start ops).log := by
  have hinv := (missMachine e).inv_of_guarded steady (MissInv e)
    (fun s op h hs => missInv_step e s op h hs) ops .start ⟨placed_start e, timed_start⟩ hrun ops
    List.prefix_rfl
  exact ⟨hinv.placed.accounted, hinv.placed.full, hinv.timed.handedOver, hinv.timed.spaced⟩

/-- A tunnel device, no peers and room in the ring buffer. -/
def noPeers : Ebpf.EgressEnv := ⟨fun _ => some 7, fun _ => none, true, fun _ => 0⟩

/-- A packet whose EtherType reads `0x0800` on the host, twice; the first is taken through to a
drain, the second is drained a second later. -/
def twoMisses : List MissOp :=
  [.packet noPeers (Ebpf.udpContext [0x00, 0x08]), .next, .check, .push, .discover 0 fun _ => true,
    .packet noPeers (Ebpf.udpContext [0x00, 0x08]), .next, .check, .push,
    .discover (10 ^ 9) fun _ => true]

theorem twoMisses_accounted :
    ((missMachine .little).after .start twoMisses).log.drained.length = 2 ∧
      ((missMachine .little).after .start twoMisses).log.handed.length = 1 ∧
      Accounted .little ((missMachine .little).after .start twoMisses) ∧
      (∀ d ∈ ((missMachine .little).after .start twoMisses).log.turnedAway, 4096 ≤ d.2) ∧
      HandedOver ((missMachine .little).after .start twoMisses).log ∧
      Spaced ((missMachine .little).after .start twoMisses).log := by
  refine ⟨by decide +kernel, by decide +kernel, misses_accounted .little twoMisses ?_⟩
  refine ⟨trivial, trivial, trivial, trivial, ⟨?_, ?_⟩, trivial, trivial, trivial, trivial, ⟨?_, ?_⟩,
    trivial⟩
  all_goals decide +kernel

end NomadP2P
