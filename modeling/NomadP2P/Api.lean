import NomadP2P.Bpf
import NomadP2P.Ipv4

/-!
# The container API (`agent/src/api.rs`)

`ContainerManager` and `handle_container_cmd`: the request body is a JSON value,
the action picks one of `allocate`, `add` and `del`, and the answer is the text
sent back.  The allocator takes a hash of the container id and probes the hosts
of `10.244.0.0/24` from there.

`checks` says whether the build has overflow checks: then the unwrapped `2u8 + …`
of the allocator panics while the `BpfManager` mutex is held, which poisons it.
A handler that panics sends nothing (`none`).

With the stubbed occupancy test the first probe is taken (`probe_free`), so the
address is a function of the low byte of the hash:

    allocate checks agent id ok = …  host `slot (lowByte id)`          (allocate_eq)
-/

namespace NomadP2P

/-! ## Algorithm -/

/-- `serde_json::Value`. -/
inductive Json
  | null
  | bool (b : Bool)
  | number (literal : String)
  | string (s : String)
  | array (elems : List Json)
  | object (fields : List (String × Json))

namespace Json

/-- `value[key]`: `Null` when there is no such field. -/
def field (key : String) : Json → Json
  | .object fields => (fields.lookup key).getD .null
  | _ => .null

/-- `value.as_str()`. -/
def asStr : Json → Option String
  | .string s => some s
  | _ => none

/-- `value[key].as_str().unwrap_or(dflt)`. -/
def strField (v : Json) (key dflt : String) : String := ((v.field key).asStr).getD dflt

end Json

structure ContainerInfo where
  containerId : String
  ip : String
  hostIface : String
deriving DecidableEq, Repr

/-- What the API handlers share: the `ContainerManager` table, and the `BpfManager`
behind its mutex. -/
structure Agent where
  containers : String → Option ContainerInfo
  bpf : BpfManager
  poisoned : Bool

/-- The agent after `BpfManager::load`, with empty maps: the loader leaves `vip_map`,
`acl_map` and `default_policy` unset. -/
def Agent.loaded : Agent where
  containers _ := none
  bpf := { containerRoute := some fun _ => none
           nodeDynamic := some fun _ => none
           geneveIfindex := some fun _ => none
           tunnelCfg := some fun _ => none }
  poisoned := false

namespace ContainerManager

/-- `ContainerManager::add`. -/
def add (containers : String → Option ContainerInfo) (containerId ip iface : String) :
    String → Option ContainerInfo :=
  Function.update containers containerId (some ⟨containerId, ip, iface⟩)

/-- `ContainerManager::remove`. -/
def remove (containers : String → Option ContainerInfo) (containerId : String) :
    String → Option ContainerInfo :=
  Function.update containers containerId none

/-- The entry `recover_from_bpf` makes of an address found in the map. -/
def recovered (ip : UInt32) : ContainerInfo :=
  let addr := (Ipv4Addr.ofU32 ip).toText
  let cid := "recovered-" ++ addr
  ⟨cid, addr, "veth-" ++ String.ofList (cid.toList.take 8)⟩

/-- `ContainerManager::recover_from_bpf`. -/
def recoverFromBpf (containers : String → Option ContainerInfo) (bpf : BpfManager) :
    String → Option ContainerInfo :=
  bpf.listContainerIps.foldl
    (fun m ip => Function.update m (recovered ip).containerId (some (recovered ip))) containers

/-- `container_id.bytes().fold(0u32, |acc, b| acc * 31 + b)`, wrapping. -/
def hash (containerId : String) : UInt32 :=
  containerId.toUTF8.data.toList.foldl (fun acc b => acc * 31 + b.toUInt32) 0

/-- `x + y` on `u8`: with overflow checks, `none` is the panic. -/
def addU8 (checks : Bool) (x y : UInt8) : Option UInt8 :=
  if checks && 255 < x.toNat + y.toNat then none else some (x + y)

/-- The address of host `host` in the container network. -/
def hostAddr (host : UInt8) : Ipv4Addr := ⟨10, 244, 0, host⟩

/-- The `for offset in …` loop: the first free address, `some none` when every
offset has been tried, `none` when an addition panicked. -/
def probe (checks : Bool) (isIpAllocated : UInt32 → Bool) (start : UInt8) :
    List Nat → Option (Option UInt32)
  | [] => some none
  | offset :: rest => do
    let sum ← addU8 checks 2 (start + UInt8.ofNat offset)
    let host := sum % 254
    if host < 2 then probe checks isIpAllocated start rest
    else
      let ip := (hostAddr host).toU32
      if !isIpAllocated ip then some (some ip) else probe checks isIpAllocated start rest

/-- `allocate_from_bpf` past the lock: the text of the address and the maps after
it, or a panic. -/
def allocateFromBpf (checks : Bool) (bpf : BpfManager) (containerId : String) (ok : Bool) :
    Option (String × BpfManager) := do
  let h := hash containerId
  match ← probe checks bpf.isIpAllocated h.toUInt8 (List.range 253) with
  | some ip => some ((Ipv4Addr.ofU32 ip).toText, (bpf.updateContainerRoute ip 1 ok).1)
  | none =>
    let host ← addU8 checks 2 (h % 253).toUInt8
    some ((Ipv4Addr.ofU32 (hostAddr host).toU32).toText, bpf)

end ContainerManager

open ContainerManager

/-- `allocate_from_bpf` on the shared state.  `lock().unwrap()` panics on a poisoned
mutex, and a panic behind it poisons the mutex. -/
def allocate (checks : Bool) (agent : Agent) (containerId : String) (ok : Bool) :
    Agent × Option String :=
  if agent.poisoned then (agent, none)
  else
    match allocateFromBpf checks agent.bpf containerId ok with
    | none => ({ agent with poisoned := true }, none)
    | some (ip, bpf) => ({ agent with bpf := bpf }, some ip)

/-- The mutex section of `add` and `del`: skipped when the address does not parse or
the mutex is poisoned; a failed call is only logged. -/
def withRoute (agent : Agent) (ip : String) (op : BpfManager → UInt32 → BpfManager × Bool) : Agent :=
  match Ipv4Addr.parse ip with
  | none => agent
  | some addr => if agent.poisoned then agent else { agent with bpf := (op agent.bpf addr.toU32).1 }

/-- `handle_container_cmd`, on the outcome of `serde_json::from_slice`. -/
def handleContainerCmd (checks : Bool) (agent : Agent) (parsed : Except String Json) (ok : Bool) :
    Agent × Option String :=
  match parsed with
  | .error e => (agent, some ("400 Bad Request\r\n\r\n\x7b\"error\":\"json: " ++ e ++ "\"\x7d"))
  | .ok parsed =>
    let action := parsed.strField "action" ""
    let containerId := parsed.strField "container_id" ""
    let ip := parsed.strField "ip" "0.0.0.0"
    let iface := parsed.strField "iface" ""
    if action = "allocate" then
      let (agent, ip) := allocate checks agent containerId ok
      (agent, ip.map fun ip => "200 OK\r\n\r\n\x7b\"ip\":\"" ++ ip ++ "\"\x7d")
    else if action = "add" then
      let agent := { agent with containers := add agent.containers containerId ip iface }
      (withRoute agent ip fun b key => b.updateContainerRoute key 1 ok,
        some "200 OK\r\n\r\n\x7b\"status\":\"added\"\x7d")
    else if action = "del" then
      let agent := { agent with containers := remove agent.containers containerId }
      (withRoute agent ip fun b key => b.removeContainerRoute key ok,
        some "200 OK\r\n\r\n\x7b\"status\":\"removed\"\x7d")
    else (agent, some "400 Bad Request\r\n\r\n\x7b\"error\":\"unknown action\"\x7d")

/-- The body of the plugin's `allocate` request. -/
def allocateRequest (containerId : String) : Json :=
  .object [("action", .string "allocate"), ("container_id", .string containerId)]

/-- The body of the plugin's `add` and `del` requests. -/
def notifyRequest (action containerId ip iface : String) : Json :=
  .object [("action", .string action), ("container_id", .string containerId), ("ip", .string ip),
    ("iface", .string iface)]

/-! ## Lemmas -/

/-- The low byte of the hash, where the probing starts. -/
def lowByte (containerId : String) : UInt8 := (ContainerManager.hash containerId).toUInt8

/-- The host the first probe looks at: past `253` the sum wraps to `0..3`, and the
first of these that is not skipped is `2`. -/
def slot (start : UInt8) : UInt8 := if start < 252 then start + 2 else 2

/-- With every address free, the loop ends at the first host it does not skip. -/
theorem probe_free (checks : Bool) (start : UInt8) :
    probe checks (fun _ => false) start (List.range 253) =
      if checks && 252 ≤ start then none else some (some (hostAddr (slot start)).toU32) := by
  have key : ∀ n, n < 256 → ∀ checks : Bool,
      (probe checks (fun _ => false) (UInt8.ofNat n) (List.range 253) ==
        if checks && 252 ≤ UInt8.ofNat n then none
        else some (some (hostAddr (slot (UInt8.ofNat n))).toU32)) = true := by
    decide +kernel
  have h := key start.toNat start.toNat_lt checks
  rw [UInt8.ofNat_toNat] at h
  exact beq_iff_eq.mp h

theorem hostAddr_toText_inj (x y : UInt8) (h : (hostAddr x).toText = (hostAddr y).toText) : x = y := by
  have hp := Ipv4Addr.toText_inj _ _ h
  simp only [hostAddr, Ipv4Addr.mk.injEq] at hp
  exact hp.2.2.2

theorem allocateFromBpf_eq (checks : Bool) (bpf : BpfManager) (id : String) (ok : Bool) :
    allocateFromBpf checks bpf id ok =
      if checks && 252 ≤ lowByte id then none
      else some ((hostAddr (slot (lowByte id))).toText,
        (bpf.updateContainerRoute (hostAddr (slot (lowByte id))).toU32 1 ok).1) := by
  have hp : probe checks bpf.isIpAllocated (ContainerManager.hash id).toUInt8 (List.range 253) = _ :=
    probe_free checks (lowByte id)
  unfold allocateFromBpf
  simp only [hp]
  split
  · rfl
  · simp only [Option.bind_eq_bind, Option.bind_some, Ipv4Addr.ofU32_toU32]

/-- What `allocate` does: the address depends on the low byte of the hash alone. -/
theorem allocate_eq (checks : Bool) (agent : Agent) (id : String) (ok : Bool) :
    allocate checks agent id ok =
      if agent.poisoned then (agent, none)
      else if checks && 252 ≤ lowByte id then ({ agent with poisoned := true }, none)
      else
        ({ agent with
            bpf := (agent.bpf.updateContainerRoute (hostAddr (slot (lowByte id))).toU32 1 ok).1 },
          some (hostAddr (slot (lowByte id))).toText) := by
  unfold allocate
  rw [allocateFromBpf_eq]
  by_cases hpois : agent.poisoned
  · rw [if_pos hpois, if_pos hpois]
  rw [if_neg hpois, if_neg hpois]
  by_cases hover : (checks && 252 ≤ lowByte id) = true
  · rw [if_pos hover, if_pos hover]
  · rw [if_neg hover, if_neg hover]

/-- The address in an answer is that of the slot. -/
theorem allocate_answer (checks : Bool) (agent : Agent) (id : String) (ok : Bool) (text : String)
    (h : (allocate checks agent id ok).2 = some text) : text = (hostAddr (slot (lowByte id))).toText := by
  rw [allocate_eq] at h
  split at h
  · cases h
  · split at h
    · cases h
    · exact (Option.some.inj h).symm

/-- An id with a low byte below `252` gets an answer in either build. -/
theorem allocate_answers (checks : Bool) (agent : Agent) (id : String) (ok : Bool)
    (hp : agent.poisoned = false) (hbyte : lowByte id < 252) :
    (allocate checks agent id ok).2 = some (hostAddr (slot (lowByte id))).toText := by
  have hover : ¬ (checks && 252 ≤ lowByte id) = true := by
    intro h
    exact UInt8.not_le.mpr hbyte (of_decide_eq_true (Bool.and_eq_true_iff.mp h).2)
  rw [allocate_eq, hp, if_neg Bool.false_ne_true, if_neg hover]

/-! ### One request -/

theorem handle_allocate (checks : Bool) (agent : Agent) (v : Json) (ok : Bool)
    (h : v.strField "action" "" = "allocate") :
    handleContainerCmd checks agent (.ok v) ok =
      ((allocate checks agent (v.strField "container_id" "") ok).1,
        (allocate checks agent (v.strField "container_id" "") ok).2.map fun ip =>
          "200 OK\r\n\r\n\x7b\"ip\":\"" ++ ip ++ "\"\x7d") := by
  unfold handleContainerCmd
  simp only [h, if_true]

theorem handle_add (checks : Bool) (agent : Agent) (v : Json) (ok : Bool)
    (h : v.strField "action" "" = "add") :
    (handleContainerCmd checks agent (.ok v) ok).1 =
      withRoute
        { agent with
          containers := add agent.containers (v.strField "container_id" "")
            (v.strField "ip" "0.0.0.0") (v.strField "iface" "") }
        (v.strField "ip" "0.0.0.0") fun b key => b.updateContainerRoute key 1 ok := by
  unfold handleContainerCmd
  simp only [h, String.reduceEq, if_false, if_true]

theorem handle_del (checks : Bool) (agent : Agent) (v : Json) (ok : Bool)
    (h : v.strField "action" "" = "del") :
    (handleContainerCmd checks agent (.ok v) ok).1 =
      withRoute
        { agent with containers := remove agent.containers (v.strField "container_id" "") }
        (v.strField "ip" "0.0.0.0") fun b key => b.removeContainerRoute key ok := by
  unfold handleContainerCmd
  simp only [h, String.reduceEq, if_false, if_true]

theorem notifyRequest_action (action id ip iface : String) :
    (notifyRequest action id ip iface).strField "action" "" = action := rfl

theorem notifyRequest_ip (action id ip iface : String) :
    (notifyRequest action id ip iface).strField "ip" "0.0.0.0" = ip := rfl

theorem handle_notify_add (checks : Bool) (agent : Agent) (id ip iface : String) (ok : Bool) :
    (handleContainerCmd checks agent (.ok (notifyRequest "add" id ip iface)) ok).1 =
      withRoute { agent with containers := add agent.containers id ip iface } ip
        fun b key => b.updateContainerRoute key 1 ok :=
  handle_add checks agent _ ok rfl

theorem handle_notify_del (checks : Bool) (agent : Agent) (id ip iface : String) (ok : Bool) :
    (handleContainerCmd checks agent (.ok (notifyRequest "del" id ip iface)) ok).1 =
      withRoute { agent with containers := remove agent.containers id } ip
        fun b key => b.removeContainerRoute key ok :=
  handle_del checks agent _ ok rfl

/-! ### The route section of a request -/

theorem withRoute_of_parse (agent : Agent) (ip : String)
    (op : BpfManager → UInt32 → BpfManager × Bool) (addr : Ipv4Addr) (h : Ipv4Addr.parse ip = some addr) :
    withRoute agent ip op =
      if agent.poisoned then agent else { agent with bpf := (op agent.bpf addr.toU32).1 } := by
  simp only [withRoute, h]

theorem withRoute_of_not_parse (agent : Agent) (ip : String)
    (op : BpfManager → UInt32 → BpfManager × Bool) (h : Ipv4Addr.parse ip = none) :
    withRoute agent ip op = agent := by
  simp only [withRoute, h]

theorem withRoute_poisoned (agent : Agent) (ip : String)
    (op : BpfManager → UInt32 → BpfManager × Bool) :
    (withRoute agent ip op).poisoned = agent.poisoned := by
  cases h : Ipv4Addr.parse ip with
  | none => rw [withRoute_of_not_parse agent ip op h]
  | some addr =>
    rw [withRoute_of_parse agent ip op addr h]
    split <;> rfl

/-- The route section of `add`: at most its own key is new. -/
theorem withRoute_update_key (agent : Agent) (text : String) (ok : Bool) (ip : Ipv4Addr)
    (h : Ipv4Addr.parse text = some ip) (key : UInt32)
    (hkey : (withRoute agent text fun b key => b.updateContainerRoute key 1 ok).bpf.route key ≠ none) :
    key = ip.toU32 ∨ agent.bpf.route key ≠ none := by
  rw [withRoute_of_parse _ _ _ ip h] at hkey
  split at hkey
  · exact .inr hkey
  · replace hkey : (agent.bpf.updateContainerRoute ip.toU32 1 ok).1.route key ≠ none := hkey
    rw [BpfManager.route_update] at hkey
    split at hkey
    · next hnew => exact .inl hnew.2
    · exact .inr hkey

/-- The route section of `del`. -/
theorem withRoute_remove_key (agent : Agent) (text : String) (ok : Bool) (ip : Ipv4Addr)
    (h : Ipv4Addr.parse text = some ip) (key : UInt32) :
    (withRoute agent text fun b key => b.removeContainerRoute key ok).bpf.route key =
      if (agent.poisoned = false ∧ ok = true) ∧ key = ip.toU32 then none
      else agent.bpf.route key := by
  rw [withRoute_of_parse _ _ _ ip h]
  by_cases hp : agent.poisoned = true
  · rw [if_pos hp, if_neg (by rintro ⟨⟨h, -⟩, -⟩; rw [hp] at h; cases h)]
  · rw [if_neg hp]
    show (agent.bpf.removeContainerRoute ip.toU32 ok).1.route key = _
    rw [BpfManager.route_remove]
    by_cases hdel : ok = true ∧ key = ip.toU32
    · rw [if_pos hdel, if_pos ⟨⟨Bool.eq_false_iff.mpr hp, hdel.1⟩, hdel.2⟩]
    · rw [if_neg hdel, if_neg (fun h => hdel ⟨h.1.2, h.2⟩)]

end NomadP2P
