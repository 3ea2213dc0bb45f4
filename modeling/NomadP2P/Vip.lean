import NomadP2P.Api

/-!
# VIP monitoring (`agent/src/vip.rs`)

The configured backends of each VIP, the probe loop, and the entry of `VIP_MAP` it
writes.  One iteration of the loop is a fold over the VIPs in the order the hash map
lists them, with the outcome of each probe as an input.

Nothing in the loop writes the `alive` flags that `set_backends` has set to `true`.
So a VIP is rewritten in an iteration exactly when one of its probes fails, and always
with all of its backends:

    probeChanged m round vip = true ↔ ∃ i < bs.length, round.alive vip i = false   (probeChanged_iff)
-/

namespace NomadP2P

/-! ## Algorithm -/

structure VipBackendCfg where
  vip : String
  backends : List String
deriving DecidableEq, Repr

structure BackendHealth where
  ip : Ipv4Addr
  port : UInt16
  alive : Bool
deriving DecidableEq, Repr

/-- `VipMonitor.backends`. -/
abbrev VipMonitor := String → Option (List BackendHealth)

namespace VipMonitor

def new : VipMonitor := fun _ => none

/-- `set_backends`. -/
def setBackends (m : VipMonitor) (vip : String) (backends : List (Ipv4Addr × UInt16)) : VipMonitor :=
  Function.update m vip (some (backends.map fun b => ⟨b.1, b.2, true⟩))

/-- `get_alive`. -/
def getAlive (m : VipMonitor) (vip : String) : List Ipv4Addr :=
  match m vip with
  | some backends => (backends.filter (·.alive)).map (·.ip)
  | none => []

end VipMonitor

/-- `text.parse::<u16>().ok()`: an optional plus sign, then digits. -/
def parseU16 (text : List Char) : Option UInt16 :=
  let digits := match text with
    | '+' :: rest => rest
    | _ => text
  if digits.length = 0 then none
  else if !digits.all Char.isDigit then none
  else if 65535 < Ipv4Addr.digitsVal digits then none
  else some (UInt16.ofNat (Ipv4Addr.digitsVal digits))

/-- A backend of the configuration, `ip` or `ip:port`. -/
def parseBackend (s : String) : Option (Ipv4Addr × UInt16) := do
  let parts := s.toList.splitOn ':'
  let ip ← Ipv4Addr.parse (String.ofList (parts.headD []))
  let port := (parts[1]? >>= parseU16).getD 80
  some (ip, port)

/-- The monitor after the initialisation of `probe_loop`. -/
def initMonitor (cfg : List VipBackendCfg) : VipMonitor :=
  cfg.foldl (fun m vc => m.setBackends vc.vip (vc.backends.filterMap parseBackend)) .new

/-- The entry `update_bpf_vip` builds: the first sixteen addresses, port zero. -/
def vipEntry (backends : List Ipv4Addr) : VipInfo where
  backends := Vector.ofFn fun i => match backends[i.val]? with
    | some ip => ⟨ip.toU32, 0, 1⟩
    | none => {}
  count := UInt8.ofNat (min backends.length 16)
  nextIdx := 0

/-- `update_bpf_vip`. -/
def updateBpfVip (bpf : BpfManager) (vipIp : Ipv4Addr) (backends : List Ipv4Addr) (ok : Bool) :
    BpfManager × Bool :=
  let r := BpfManager.insertIn bpf.vipMap vipIp.toU32 (vipEntry backends) ok
  ({ bpf with vipMap := r.1 }, r.2)

/-- The inputs of one iteration: the order of the keys, the outcome of the probe of each
VIP's `i`-th backend, and whether inserts succeed. -/
structure ProbeRound where
  order : List String
  alive : String → Nat → Bool
  ok : Bool

/-- The `changed` flag: some probe differs from the stored flag. -/
def probeChanged (m : VipMonitor) (round : ProbeRound) (vip : String) : Bool :=
  match m vip with
  | some backends => backends.zipIdx.any fun b => round.alive vip b.2 != b.1.alive
  | none => false

/-- The loop body for one VIP. -/
def probeVip (m : VipMonitor) (round : ProbeRound) (agent : Agent) (vip : String) : Agent :=
  if probeChanged m round vip then
    let alive := m.getAlive vip
    if alive.isEmpty then agent
    else
      match Ipv4Addr.parse vip with
      | none => agent
      | some vipIp =>
        if agent.poisoned then agent
        else { agent with bpf := (updateBpfVip agent.bpf vipIp alive round.ok).1 }
  else agent

/-- One iteration of `probe_loop`.  The monitor is only read. -/
def probeIteration (m : VipMonitor) (agent : Agent) (round : ProbeRound) : Agent :=
  round.order.foldl (probeVip m round) agent

/-! ## Lemmas -/

theorem isDigit_of_readPort (digits : List Char) (port : UInt16) (h : readPort digits = some port) :
    ∀ c ∈ digits, c.isDigit = true := by
  unfold readPort at h
  split at h
  · cases h
  split at h
  · cases h
  · next hall => simpa using hall

/-- A port of a socket address is also one to `parse::<u16>`. -/
theorem parseU16_of_readPort (digits : List Char) (port : UInt16) (h : readPort digits = some port) :
    parseU16 digits = some port := by
  have hdigits := isDigit_of_readPort digits port h
  rw [← h]
  unfold parseU16 readPort
  dsimp only
  split
  · next rest => exact absurd (hdigits '+' List.mem_cons_self) (by decide)
  · rfl

theorem splitOn_colon (ip : Ipv4Addr) (digits : List Char) (h : ':' ∉ digits) :
    (ip.chars ++ ':' :: digits).splitOn ':' = [ip.chars, digits] := by
  have hinter : ip.chars ++ ':' :: digits = [':'].intercalate [ip.chars, digits] := by
    simp [List.intercalate]
  rw [hinter]
  apply List.splitOn_intercalate
  · intro l hl
    rcases List.mem_cons.mp hl with rfl | hl
    · exact ip.colon_not_mem_chars
    · rw [List.mem_singleton.mp hl]
      exact h
  · exact List.cons_ne_nil _ _

/-- A text `ip:port` is split into its address and its port. -/
theorem parseBackend_of_parse (text : String) (ep : SocketAddr) (h : SocketAddr.parse text = some ep) :
    parseBackend text = some (ep.ip, ep.port) := by
  unfold SocketAddr.parse at h
  split at h
  · next ip digits hread =>
    obtain ⟨port, hport, rfl⟩ := Option.map_eq_some_iff.mp h
    have hcolon : ':' ∉ digits := fun hc =>
      absurd (isDigit_of_readPort digits port hport ':' hc) (by decide)
    unfold parseBackend
    rw [Ipv4Addr.eq_of_readAddr _ _ _ hread]
    simp only [splitOn_colon ip digits hcolon, List.headD_cons, List.getElem?_cons_succ,
      List.getElem?_cons_zero, Option.bind_eq_bind, Option.bind_some,
      parseU16_of_readPort digits port hport, Option.getD_some]
    rw [show Ipv4Addr.parse (String.ofList ip.chars) = some ip from Ipv4Addr.parse_toText ip]
    rfl
  · cases h

/-- The last entry of the configuration for a VIP is the one the monitor has. -/
theorem initMonitor_eq (cfg : List VipBackendCfg) (vip : String) :
    initMonitor cfg vip = (cfg.filter fun vc => vc.vip = vip).getLast?.map fun vc =>
      (vc.backends.filterMap parseBackend).map fun b => ⟨b.1, b.2, true⟩ := by
  unfold initMonitor
  induction cfg using List.reverseRecOn with
  | nil => rfl
  | append_singleton cfg vc ih =>
    rw [List.foldl_append, List.foldl_cons, List.foldl_nil, List.filter_append]
    unfold VipMonitor.setBackends at ih ⊢
    by_cases hv : vc.vip = vip
    · rw [← hv, Function.update_self]
      simp
    · rw [Function.update_of_ne (Ne.symm hv), ih]
      simp [hv]

/-- The flags of a fresh monitor are all `true`. -/
theorem initMonitor_alive (cfg : List VipBackendCfg) (vip : String) (bs : List BackendHealth)
    (h : initMonitor cfg vip = some bs) : ∀ b ∈ bs, b.alive = true := by
  rw [initMonitor_eq] at h
  obtain ⟨vc, -, rfl⟩ := Option.map_eq_some_iff.mp h
  intro b hb
  obtain ⟨x, -, rfl⟩ := List.mem_map.mp hb
  rfl

/-- With all flags `true`, the alive list is the whole list. -/
theorem getAlive_eq (m : VipMonitor) (vip : String) (bs : List BackendHealth) (h : m vip = some bs)
    (halive : ∀ b ∈ bs, b.alive = true) : m.getAlive vip = bs.map (·.ip) := by
  unfold VipMonitor.getAlive
  simp only [h]
  rw [List.filter_eq_self.mpr halive]

/-- With all flags `true`, a VIP has changed when one of its probes fails. -/
theorem probeChanged_iff (m : VipMonitor) (round : ProbeRound) (vip : String)
    (bs : List BackendHealth) (h : m vip = some bs) (halive : ∀ b ∈ bs, b.alive = true) :
    probeChanged m round vip = true ↔ ∃ i, i < bs.length ∧ round.alive vip i = false := by
  unfold probeChanged
  simp only [h]
  rw [List.any_eq_true]
  constructor
  · rintro ⟨⟨b, i⟩, hmem, hne⟩
    obtain ⟨_, hi, hb⟩ := List.mem_zipIdx hmem
    have hb' : b.alive = true := halive b (by rw [hb]; exact List.getElem_mem _)
    rw [hb'] at hne
    exact ⟨i, by omega, by simpa using hne⟩
  · rintro ⟨i, hi, hfail⟩
    refine ⟨(bs[i], i), ?_, ?_⟩
    · rw [List.mem_zipIdx_iff_getElem?]
      simp [hi]
    · rw [hfail, halive bs[i] (List.getElem_mem _)]
      rfl

theorem count_vipEntry (ips : List Ipv4Addr) : (vipEntry ips).count.toNat = min ips.length 16 := by
  show (UInt8.ofNat (min ips.length 16)).toNat = _
  rw [UInt8.toNat_ofNat']
  omega

theorem backends_vipEntry (ips : List Ipv4Addr) (i : Nat) (ip : Ipv4Addr) (h16 : i < 16)
    (hip : ips[i]? = some ip) : (vipEntry ips).backends[i]? = some ⟨ip.toU32, 0, 1⟩ := by
  simp [vipEntry, h16, hip]

/-- An insert that succeeds on a map that is there. -/
theorem updateBpfVip_some (bpf : BpfManager) (vips : KernelMap VipInfo) (h : bpf.vipMap = some vips)
    (vipIp : Ipv4Addr) (backends : List Ipv4Addr) :
    (updateBpfVip bpf vipIp backends true).1.vipMap =
      some (Function.update vips vipIp.toU32 (some (vipEntry backends))) := by
  unfold updateBpfVip BpfManager.insertIn
  simp only [h, if_true]

/-- The entry `update_bpf_vip` leaves in a map that is there. -/
theorem entry_of_update (bpf : BpfManager) (vipIp : Ipv4Addr) (backends : List Ipv4Addr)
    (vips : KernelMap VipInfo) (h : (updateBpfVip bpf vipIp backends true).1.vipMap = some vips) :
    vips vipIp.toU32 = some (vipEntry backends) := by
  cases hmap : bpf.vipMap with
  | none => simp [updateBpfVip, BpfManager.insertIn, hmap] at h
  | some old =>
    rw [updateBpfVip_some bpf old hmap, Option.some.injEq] at h
    rw [← h, Function.update_self]

end NomadP2P
