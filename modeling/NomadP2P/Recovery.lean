import NomadP2P.IpUnique

/-!
# Restart (`recover_from_bpf`)

The agent dies with live containers whose addresses are keys of the pinned map.  It
comes back with an empty table, runs `recover_from_bpf` over that map and serves
requests again.  Two things are asked of it: each live address is in exactly one
entry, and no `allocate` hands one out again before a `del` names it, as long as
some host of `10.244.0.2` to `10.244.0.253` is free.

`list_container_ips` lists nothing and `is_ip_allocated` says no, so nothing is
recovered and nothing is avoided:

    Recovered c ↔ c.live = ∅                                        (recovered_iff)
    NeverReused checks c ↔ no live address is in the range          (neverReused_iff)
-/

namespace NomadP2P

open ContainerManager

/-! ## Algorithm -/

/-- What is left when the agent dies: the pinned map, and the addresses of the live
containers. -/
structure Crash where
  pinned : KernelMap UInt32
  live : Set Ipv4Addr
  keys : ∀ ip ∈ live, pinned ip.toU32 ≠ none

/-- The agent after the restart. -/
def Crash.restarted (c : Crash) : Agent :=
  let bpf : BpfManager := { Agent.loaded.bpf with containerRoute := some c.pinned }
  ⟨recoverFromBpf (fun _ => none) bpf, bpf, false⟩

/-- Every live address is in exactly one entry of the table. -/
def Recovered (c : Crash) : Prop :=
  ∀ ip ∈ c.live, ∃! id, ∃ info, c.restarted.containers id = some info ∧ info.ip = ip.toText

/-- Some host from `2` to `253` has no route. -/
def freeHost (agent : Agent) : Prop :=
  ∃ host : UInt8, 2 ≤ host ∧ host ≤ 253 ∧ agent.bpf.route (hostAddr host).toU32 = none

/-- After any requests, while a host is free, no `allocate` answers a live address that
none of them has deleted. -/
def NeverReused (checks : Bool) (c : Crash) : Prop :=
  ∀ (reqs : List ApiRequest) (id : String) (ok : Bool),
    freeHost ((apiMachine checks).after (.start c.restarted) reqs).agent →
    ∀ ip ∈ c.live, (∀ r ∈ reqs, r.addrFor "del" ≠ some ip) →
      (allocate checks ((apiMachine checks).after (.start c.restarted) reqs).agent id ok).2 ≠
        some ip.toText

/-! ## Lemmas -/

theorem slot_range (b : UInt8) : 2 ≤ slot b ∧ slot b ≤ 253 := by
  unfold slot
  rw [UInt8.le_iff_toNat_le, UInt8.le_iff_toNat_le]
  split
  · next h =>
    have hb : b.toNat < 252 := h
    rw [UInt8.toNat_add]
    show 2 ≤ (b.toNat + 2) % 256 ∧ (b.toNat + 2) % 256 ≤ 253
    omega
  · decide

/-- An id whose hash has the low byte `n`. -/
def idWithByte (n : Nat) : String :=
  if n < 128 then String.ofList [Char.ofNat n]
  else String.ofList [Char.ofNat 4, Char.ofNat (n - 124)]

theorem slot_idWithByte (host : UInt8) (hlow : 2 ≤ host) (hhigh : host ≤ 253) :
    lowByte (idWithByte (host.toNat - 2)) < 252 ∧ slot (lowByte (idWithByte (host.toNat - 2))) = host := by
  have key : ∀ n, n < 252 → (lowByte (idWithByte n) < 252 &&
      slot (lowByte (idWithByte n)) == UInt8.ofNat (n + 2)) = true := by
    decide +kernel
  have hl : 2 ≤ host.toNat := hlow
  have hh : host.toNat ≤ 253 := hhigh
  obtain ⟨hbyte, hslot⟩ := Bool.and_eq_true_iff.mp (key (host.toNat - 2) (by omega))
  refine ⟨of_decide_eq_true hbyte, ?_⟩
  rw [beq_iff_eq.mp hslot, Nat.sub_add_cancel hl, UInt8.ofNat_toNat]

/-- The table is empty after the restart. -/
theorem restart_containers (c : Crash) (id : String) : c.restarted.containers id = none := rfl

theorem recovered_iff (c : Crash) : Recovered c ↔ c.live = ∅ := by
  constructor
  · intro h
    refine Set.eq_empty_of_forall_notMem fun ip hip => ?_
    obtain ⟨id, ⟨info, hinfo, -⟩, -⟩ := h ip hip
    rw [restart_containers] at hinfo
    cases hinfo
  · intro h ip hip
    rw [h] at hip
    cases hip

/-- The request that deletes `ip`. -/
def deleteRequest (ip : Ipv4Addr) : ApiRequest := ⟨.ok (notifyRequest "del" "old" ip.toText ""), true⟩

theorem addrFor_deleteRequest (ip : Ipv4Addr) : (deleteRequest ip).addrFor "del" = some ip := by
  simp only [ApiRequest.addrFor, deleteRequest, notifyRequest_action, notifyRequest_ip,
    Ipv4Addr.parse_toText, if_true]

theorem neverReused_iff (checks : Bool) (c : Crash) :
    NeverReused checks c ↔ ∀ host : UInt8, 2 ≤ host → host ≤ 253 → hostAddr host ∉ c.live := by
  constructor
  · intro h host hlow hhigh hlive
    -- free another host first, then ask for an id whose slot is `host`
    obtain ⟨other, holow, hohigh, hne⟩ : ∃ other : UInt8, 2 ≤ other ∧ other ≤ 253 ∧ other ≠ host := by
      by_cases h2 : host = 2
      · exact ⟨3, by decide, by decide, by rw [h2]; decide⟩
      · exact ⟨2, by decide, by decide, Ne.symm h2⟩
    have hagent : ((apiMachine checks).after (.start c.restarted) [deleteRequest (hostAddr other)]).agent =
        withRoute { c.restarted with containers := remove c.restarted.containers "old" }
          (hostAddr other).toText fun b key => b.removeContainerRoute key true :=
      handle_notify_del checks c.restarted "old" (hostAddr other).toText "" true
    have hfree : freeHost
        ((apiMachine checks).after (.start c.restarted) [deleteRequest (hostAddr other)]).agent := by
      refine ⟨other, holow, hohigh, ?_⟩
      rw [hagent, withRoute_remove_key _ _ true _ (Ipv4Addr.parse_toText _), if_pos ⟨⟨rfl, rfl⟩, rfl⟩]
    have hdel : ∀ r ∈ [deleteRequest (hostAddr other)], r.addrFor "del" ≠ some (hostAddr host) := by
      intro r hr
      rw [List.mem_singleton.mp hr, addrFor_deleteRequest]
      intro heq
      exact hne (congrArg Ipv4Addr.d (Option.some.inj heq))
    refine h [deleteRequest (hostAddr other)] (idWithByte (host.toNat - 2)) true hfree (hostAddr host)
      hlive hdel ?_
    obtain ⟨hbyte, hslot⟩ := slot_idWithByte host hlow hhigh
    have hpois : ((apiMachine checks).after (.start c.restarted)
        [deleteRequest (hostAddr other)]).agent.poisoned = false := by
      rw [hagent, withRoute_poisoned]
      rfl
    rw [allocate_answers checks _ _ true hpois hbyte, hslot]
  · intro h reqs id ok _ ip hlive _ hanswer
    obtain ⟨hlow, hhigh⟩ := slot_range (lowByte id)
    have hip := Ipv4Addr.toText_inj _ _ (allocate_answer checks _ id ok _ hanswer)
    rw [hip] at hlive
    exact h _ hlow hhigh hlive

/-! ## Persistence -/

/-- **What survives a restart.**  Whatever the pinned map and the containers, both
promises are kept exactly when there is nothing to keep. -/
theorem restart_persists_iff (checks : Bool) (c : Crash) :
    (Recovered c ∧ NeverReused checks c) ↔ c.live = ∅ := by
  constructor
  · rintro ⟨hrec, -⟩
    exact (recovered_iff c).mp hrec
  · intro hempty
    refine ⟨(recovered_iff c).mpr hempty, (neverReused_iff checks c).mpr fun host _ _ hlive => ?_⟩
    rw [hempty] at hlive
    cases hlive

/-- One container was running. -/
def oneContainer : Crash where
  pinned := Function.update (fun _ => none) (Ipv4Addr.toU32 ⟨10, 244, 0, 86⟩) (some 1)
  live := {⟨10, 244, 0, 86⟩}
  keys := by
    rintro ip rfl
    rw [Function.update_self]
    exact Option.some_ne_none 1

/-- It is not recovered, and its address is handed out again. -/
theorem oneContainer_lost : ¬ Recovered oneContainer ∧ ¬ NeverReused false oneContainer := by
  constructor
  · intro h
    have hempty := (recovered_iff oneContainer).mp h
    exact Set.singleton_ne_empty _ hempty
  · intro h
    exact (neverReused_iff false oneContainer).mp h 86 (by decide) (by decide) rfl

end NomadP2P
