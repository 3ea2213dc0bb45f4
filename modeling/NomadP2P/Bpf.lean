import Mathlib.Logic.Function.Basic
import NomadP2P.Common

/-!
# The agent's handles on the BPF maps (`agent/src/bpf.rs`)

A kernel hash map is a partial function on `u32` keys.  Every update is a system
call that can fail; its success is an argument (`ok`) of the operation.  A map the
loader did not find is `none`, and operations on it succeed without effect.

The occupancy queries `listContainerIps` and `isIpAllocated` are stubs in the
source, and they are stubs here.
-/

namespace NomadP2P

/-- A BPF hash map with `u32` keys. -/
abbrev KernelMap (V : Type) := UInt32 → Option V

/-- `BpfManager`: the maps that `load` has taken out of the object.  `vip_map`, `acl_map` and
`default_policy` it leaves unset. -/
structure BpfManager where
  containerRoute : Option (KernelMap UInt32)
  nodeDynamic : Option (KernelMap PeerEndpoint) := none
  geneveIfindex : Option (KernelMap UInt32) := none
  tunnelCfg : Option (KernelMap TunnelCfg) := none
  vipMap : Option (KernelMap VipInfo) := none
  aclMap : Option (KernelMap AclRule) := none
  defaultPolicy : Option (KernelMap UInt8) := none

namespace BpfManager

/-- `if let Some(map) = slot { map.insert(key, value, 0)?; } Ok(())`: the slot
afterwards and whether the result is `Ok`. -/
def insertIn {V : Type} (slot : Option (KernelMap V)) (key : UInt32) (value : V) (ok : Bool) :
    Option (KernelMap V) × Bool :=
  match slot with
  | none => (none, true)
  | some map => if ok then (some (Function.update map key (some value)), true) else (some map, false)

/-- `set_tunnel_cfg`. -/
def setTunnelCfg (b : BpfManager) (tunnelId : UInt32) (ok : Bool) : BpfManager × Bool :=
  let r := insertIn b.tunnelCfg 0 ⟨tunnelId⟩ ok
  ({ b with tunnelCfg := r.1 }, r.2)

/-- `update_container_route`. -/
def updateContainerRoute (b : BpfManager) (containerIp routeVni : UInt32) (ok : Bool) :
    BpfManager × Bool :=
  let r := insertIn b.containerRoute containerIp routeVni ok
  ({ b with containerRoute := r.1 }, r.2)

/-- `remove_container_route`.  The kernel refuses to remove a key that is not there. -/
def removeContainerRoute (b : BpfManager) (containerIp : UInt32) (ok : Bool) : BpfManager × Bool :=
  match b.containerRoute with
  | none => (b, true)
  | some map =>
    if ok && (map containerIp).isSome then
      ({ b with containerRoute := some (Function.update map containerIp none) }, true)
    else (b, false)

/-- The value of a key of `CONTAINER_ROUTE_MAP`. -/
def route (b : BpfManager) (key : UInt32) : Option UInt32 := b.containerRoute.bind fun map => map key

/-- `list_container_ips`. -/
def listContainerIps (_ : BpfManager) : List UInt32 := []

/-- `is_ip_allocated`. -/
def isIpAllocated (_ : BpfManager) (_ip : UInt32) : Bool := false

/-! ## Lemmas -/

theorem route_update (b : BpfManager) (ip vni : UInt32) (ok : Bool) (key : UInt32) :
    (b.updateContainerRoute ip vni ok).1.route key =
      if (ok = true ∧ b.containerRoute.isSome) ∧ key = ip then some vni else b.route key := by
  obtain ⟨slot, _⟩ := b
  cases slot with
  | none => rw [if_neg (by rintro ⟨⟨-, h⟩, -⟩; cases h)]; rfl
  | some map =>
    cases ok with
    | false => rw [if_neg (by rintro ⟨⟨h, -⟩, -⟩; cases h)]; rfl
    | true =>
      show Function.update map ip (some vni) key = _
      by_cases hkey : key = ip
      · rw [if_pos ⟨⟨rfl, rfl⟩, hkey⟩, hkey, Function.update_self]
      · rw [if_neg (fun h => hkey h.2), Function.update_of_ne hkey]
        rfl

theorem route_remove (b : BpfManager) (ip : UInt32) (ok : Bool) (key : UInt32) :
    (b.removeContainerRoute ip ok).1.route key =
      if ok = true ∧ key = ip then none else b.route key := by
  obtain ⟨slot, _⟩ := b
  cases slot with
  | none => exact (ite_self none).symm
  | some map =>
    unfold removeContainerRoute
    by_cases hrun : (ok && (map ip).isSome) = true
    · obtain ⟨rfl, hsome⟩ := Bool.and_eq_true_iff.mp hrun
      simp only [hrun, if_true, true_and]
      show Function.update map ip none key = _
      by_cases hkey : key = ip
      · rw [if_pos hkey, hkey, Function.update_self]
      · rw [if_neg hkey, Function.update_of_ne hkey]
        rfl
    · simp only [hrun]
      show map key = if ok = true ∧ key = ip then none else map key
      by_cases hdel : ok = true ∧ key = ip
      · obtain ⟨rfl, rfl⟩ := hdel
        simpa using hrun
      · rw [if_neg hdel]

theorem isSome_update (b : BpfManager) (ip vni : UInt32) (ok : Bool) :
    (b.updateContainerRoute ip vni ok).1.containerRoute.isSome = b.containerRoute.isSome := by
  obtain ⟨slot, _⟩ := b
  cases slot <;> cases ok <;> rfl

theorem isSome_remove (b : BpfManager) (ip : UInt32) (ok : Bool) :
    (b.removeContainerRoute ip ok).1.containerRoute.isSome = b.containerRoute.isSome := by
  obtain ⟨slot, _⟩ := b
  cases slot with
  | none => rfl
  | some map =>
    unfold removeContainerRoute
    simp only
    split <;> rfl

end BpfManager
end NomadP2P
