import NomadP2P.Ebpf
import NomadP2P.VipHealth

/-!
# From the VIP configuration to the connect

A backend of the configuration is a text `ip:port`.  The monitor keeps both halves,
`get_alive` hands on the address only, `update_bpf_vip` writes it with port zero, and
`try_vip` sends the connection there.  The runs are of whole connects and of
updates from the monitor, to any VIPs in any order.

Between two updates the entry only turns its index, so connect after connect goes
through the listed addresses:

    tryVip … (vipEntryAt ips j) = (vipEntryAt ips ((j + 1) % c), (ips[j], 0))    (tryVip_vipEntryAt)

and the port a connect ends up with is always zero:

    every connect reaches a configured endpoint ↔
      every address of the VIP with port zero is a configured endpoint           (redirects_iff)
-/

namespace NomadP2P

open Ebpf Bytes

/-! ## Algorithm -/

inductive BalanceOp
  | connect (ctx : Connect) (ok : Bool)
  | update (vip : Ipv4Addr) (backends : List Ipv4Addr) (ok : Bool)
deriving DecidableEq, Repr

/-- `try_vip` and `update_bpf_vip` on `VIP_MAP`.  The answer to a connect is its
destination; a panic has none. -/
def balanceStep (e : ByteOrder) (vips : KernelMap VipInfo) :
    BalanceOp → KernelMap VipInfo × Option Connect
  | .connect ctx ok =>
    match tryVip e vips ctx ok with
    | some r => (r.1, some r.2)
    | none => (vips, none)
  | .update vip backends ok =>
    (if ok then Function.update vips vip.toU32 (some (vipEntry backends)) else vips, none)

def balanceMachine (e : ByteOrder) : Machine (KernelMap VipInfo) BalanceOp (Option Connect) where
  step := balanceStep e

/-- If the step is an update, it is of a VIP of the monitor with its alive list. -/
def FromMonitor (m : VipMonitor) : BalanceOp → Prop
  | .connect _ _ => True
  | .update A backends _ => ∃ vip, Ipv4Addr.parse vip = some A ∧ backends = m.getAlive vip

/-- The backends of a configuration have the form `ip:port`. -/
def EndpointTexts (cfg : List VipBackendCfg) : Prop :=
  ∀ vc ∈ cfg, ∀ text ∈ vc.backends, SocketAddr.parse text ≠ none

/-- The configuration lists the endpoint for the VIP. -/
def Configured (cfg : List VipBackendCfg) (vip : String) (ep : SocketAddr) : Prop :=
  ∃ vc ∈ cfg, vc.vip = vip ∧ ∃ text ∈ vc.backends, SocketAddr.parse text = some ep

/-- The endpoints of the last entry for the VIP, in order. -/
def configuredFor (cfg : List VipBackendCfg) (vip : String) : List SocketAddr :=
  ((cfg.filter fun vc => vc.vip = vip).getLast?.map fun vc =>
    vc.backends.filterMap SocketAddr.parse).getD []

/-- The next connect to `A` is sent to a configured endpoint.  `reads` is the endpoint the
kernel takes the two numbers of the context for. -/
def Redirected (e : ByteOrder) (reads : Connect → SocketAddr) (cfg : List VipBackendCfg)
    (vip : String) (A : Ipv4Addr) (vips : KernelMap VipInfo) : Prop :=
  ∀ port ok, ∃ dest, (balanceMachine e).out vips (.connect ⟨A.toU32, port⟩ ok) = some dest ∧
    Configured cfg vip (reads dest)

/-! ## Lemmas -/

/-- What `get_alive` returns is the addresses of the last entry. -/
theorem getAlive_initMonitor (cfg : List VipBackendCfg) (hform : EndpointTexts cfg) (vip : String) :
    (initMonitor cfg).getAlive vip = (configuredFor cfg vip).map (·.ip) := by
  have hmon := initMonitor_eq cfg vip
  unfold configuredFor
  cases hlast : (cfg.filter fun vc => vc.vip = vip).getLast? with
  | none =>
    rw [hlast] at hmon
    unfold VipMonitor.getAlive
    rw [hmon]
    rfl
  | some vc =>
    rw [hlast] at hmon
    have hvc : vc ∈ cfg := (List.mem_filter.mp (List.mem_of_getLast? hlast)).1
    have hparse : vc.backends.filterMap parseBackend =
        (vc.backends.filterMap SocketAddr.parse).map fun ep => (ep.ip, ep.port) := by
      rw [List.map_filterMap]
      apply List.filterMap_congr
      intro text htext
      obtain ⟨ep, hep⟩ := Option.ne_none_iff_exists'.mp (hform vc hvc text htext)
      rw [parseBackend_of_parse text ep hep, hep]
      rfl
    rw [getAlive_eq _ vip _ hmon (initMonitor_alive cfg vip _ hmon)]
    simp only [hparse, List.map_map, Option.map_some, Option.getD_some]
    rfl

/-! ### Round robin -/

/-- The entry of an update whose index has turned to `j`. -/
def vipEntryAt (ips : List Ipv4Addr) (j : Nat) : VipInfo :=
  { vipEntry ips with nextIdx := UInt8.ofNat j }

theorem vipEntryAt_zero (ips : List Ipv4Addr) : vipEntryAt ips 0 = vipEntry ips := rfl

theorem vipChoose_vipEntryAt (ips : List Ipv4Addr) (j : Nat) (ip : Ipv4Addr)
    (hj : j < min ips.length 16) (hip : ips[j]? = some ip) :
    vipChoose (vipEntryAt ips j) = some (some ⟨⟨ip.toU32, 0, 1⟩,
      if UInt8.ofNat ((j + 1) % min ips.length 16) ≠ UInt8.ofNat j then
        some (vipEntryAt ips ((j + 1) % min ips.length 16)) else none⟩) := by
  have hcount : (vipEntryAt ips j).count.toNat = min ips.length 16 := count_vipEntry ips
  have hpos : 0 < (vipEntryAt ips j).count := by
    rw [UInt8.lt_iff_toNat_lt, hcount]
    show 0 < _
    omega
  have hidx : (vipEntryAt ips j).nextIdx.toNat % min ips.length 16 = j := by
    show (UInt8.ofNat j).toNat % _ = j
    have h8 : j % 2 ^ 8 = j := Nat.mod_eq_of_lt (by omega)
    rw [UInt8.toNat_ofNat', h8, Nat.mod_eq_of_lt hj]
  have hget : (vipEntryAt ips j).backends[j]? = some ⟨ip.toU32, 0, 1⟩ :=
    backends_vipEntry ips j ip (by omega) hip
  unfold vipChoose
  rw [if_pos hpos]
  simp only [hcount, hidx, hget, Option.bind_eq_bind, Option.bind_some]
  rfl

/-- A connect goes to the address at the index, port zero, and turns the index. -/
theorem tryVip_vipEntryAt (e : ByteOrder) (vips : KernelMap VipInfo) (A : Ipv4Addr)
    (ips : List Ipv4Addr) (j : Nat) (ip : Ipv4Addr) (port : UInt16) (ok : Bool)
    (hentry : vips A.toU32 = some (vipEntryAt ips j)) (hj : j < min ips.length 16)
    (hip : ips[j]? = some ip) :
    tryVip e vips ⟨A.toU32, port⟩ ok =
      some (if ok then
          Function.update vips A.toU32 (some (vipEntryAt ips ((j + 1) % min ips.length 16)))
        else vips, ⟨ip.toU32, 0⟩) := by
  have hzero : fromBe16 e 0 = 0 := by cases e <;> decide
  have hsend : Connect.sendTo e ⟨ip.toU32, 0, 1⟩ = ⟨ip.toU32, 0⟩ := by
    show (⟨ip.toU32, fromBe16 e 0⟩ : Connect) = _
    rw [hzero]
  unfold tryVip
  simp only [hentry, vipChoose_vipEntryAt ips j ip hj hip, Option.bind_eq_bind, Option.bind_some, hsend,
    Option.some.injEq, Prod.mk.injEq, and_true]
  unfold vipWriteBack
  simp only
  by_cases hnext : UInt8.ofNat ((j + 1) % min ips.length 16) = UInt8.ofNat j
  · -- one backend: the index stays, and the entry with it
    have hsame : vipEntryAt ips ((j + 1) % min ips.length 16) = vipEntryAt ips j := by
      unfold vipEntryAt
      rw [hnext]
    rw [if_neg (by simpa using hnext), hsame, ← hentry, Function.update_eq_self, ite_self]
  · rw [if_pos hnext]

theorem out_connect (e : ByteOrder) (vips : KernelMap VipInfo) (A : Ipv4Addr) (ips : List Ipv4Addr)
    (j : Nat) (ip : Ipv4Addr) (port : UInt16) (ok : Bool)
    (hentry : vips A.toU32 = some (vipEntryAt ips j)) (hj : j < min ips.length 16)
    (hip : ips[j]? = some ip) :
    (balanceMachine e).out vips (.connect ⟨A.toU32, port⟩ ok) = some ⟨ip.toU32, 0⟩ := by
  show (balanceStep e vips (.connect ⟨A.toU32, port⟩ ok)).2 = _
  simp only [balanceStep, tryVip_vipEntryAt e vips A ips j ip port ok hentry hj hip]

theorem next_connect (e : ByteOrder) (vips : KernelMap VipInfo) (A : Ipv4Addr) (ips : List Ipv4Addr)
    (j : Nat) (port : UInt16) (ok : Bool) (hentry : vips A.toU32 = some (vipEntryAt ips j))
    (hj : j < min ips.length 16) :
    (balanceMachine e).next vips (.connect ⟨A.toU32, port⟩ ok) A.toU32 =
      some (vipEntryAt ips (if ok then (j + 1) % min ips.length 16 else j)) := by
  have hip : ips[j]? = some ips[j] := List.getElem?_eq_getElem (by omega)
  show (balanceStep e vips (.connect ⟨A.toU32, port⟩ ok)).1 A.toU32 = _
  simp only [balanceStep, tryVip_vipEntryAt e vips A ips j _ port ok hentry hj hip]
  cases ok with
  | true => exact Function.update_self _ _ _
  | false => exact hentry

/-- A connect to another address leaves the entry. -/
theorem tryVip_other (e : ByteOrder) (vips vips' : KernelMap VipInfo) (ctx ctx' : Connect) (ok : Bool)
    (key : UInt32) (hne : key ≠ ctx.userIp) (h : tryVip e vips ctx ok = some (vips', ctx')) :
    vips' key = vips key := by
  rw [tryVip_map e vips vips' ctx ctx' ok h]
  cases (vips ctx.userIp).bind entryWritten with
  | none => rfl
  | some w =>
    rw [Option.elim_some]
    split
    · rw [Function.update_of_ne hne]
    · rfl

/-- The entry of `A` is the one of an update with `ips`, turned to some index. -/
def Turned (A : Ipv4Addr) (ips : List Ipv4Addr) (vips : KernelMap VipInfo) : Prop :=
  ∃ j, j < min ips.length 16 ∧ vips A.toU32 = some (vipEntryAt ips j)

theorem turned_connect (e : ByteOrder) (A : Ipv4Addr) (ips : List Ipv4Addr) (vips : KernelMap VipInfo)
    (ctx : Connect) (ok : Bool) (h : Turned A ips vips) :
    Turned A ips ((balanceMachine e).next vips (.connect ctx ok)) := by
  obtain ⟨key, port⟩ := ctx
  obtain ⟨j, hj, hentry⟩ := h
  by_cases hkey : key = A.toU32
  · subst hkey
    refine ⟨_, ?_, next_connect e vips A ips j port ok hentry hj⟩
    split
    · exact Nat.mod_lt _ (by omega)
    · exact hj
  · show Turned A ips (balanceStep e vips (.connect ⟨key, port⟩ ok)).1
    refine ⟨j, hj, ?_⟩
    rw [← hentry]
    unfold balanceStep
    cases htry : tryVip e vips ⟨key, port⟩ ok with
    | none => simp only [htry]
    | some r =>
      simp only [htry]
      exact tryVip_other e vips r.1 ⟨key, port⟩ r.2 ok A.toU32 (Ne.symm hkey) htry

/-- An update from the monitor is of another VIP, or writes the same list again. -/
theorem turned_update (e : ByteOrder) (m : VipMonitor) (vip : String) (A B : Ipv4Addr)
    (hA : Ipv4Addr.parse vip = some A) (backends : List Ipv4Addr) (ok : Bool)
    (hop : FromMonitor m (.update B backends ok)) (vips : KernelMap VipInfo)
    (h : Turned A (m.getAlive vip) vips) :
    Turned A (m.getAlive vip) ((balanceMachine e).next vips (.update B backends ok)) := by
  show Turned A _ (if ok then Function.update vips B.toU32 (some (vipEntry backends)) else vips)
  obtain ⟨j, hj, hentry⟩ := h
  obtain ⟨v, hB, rfl⟩ := hop
  cases ok with
  | false => exact ⟨j, hj, hentry⟩
  | true =>
    rw [if_pos rfl]
    by_cases hv : v = vip
    · subst hv
      rw [hA, Option.some.injEq] at hB
      exact ⟨0, by omega, by rw [hB, Function.update_self, vipEntryAt_zero]⟩
    · refine ⟨j, hj, ?_⟩
      rw [Function.update_of_ne (vip_key_ne vip v A B hA hB hv), hentry]

theorem turned_next (e : ByteOrder) (m : VipMonitor) (vip : String) (A : Ipv4Addr)
    (hA : Ipv4Addr.parse vip = some A) (vips : KernelMap VipInfo) (op : BalanceOp)
    (hop : FromMonitor m op) (h : Turned A (m.getAlive vip) vips) :
    Turned A (m.getAlive vip) ((balanceMachine e).next vips op) := by
  cases op with
  | connect ctx ok => exact turned_connect e A _ vips ctx ok h
  | update B backends ok => exact turned_update e m vip A B hA backends ok hop vips h

/-- A connect goes to one of the first sixteen addresses. -/
theorem out_of_turned (e : ByteOrder) (A : Ipv4Addr) (ips : List Ipv4Addr) (vips : KernelMap VipInfo)
    (h : Turned A ips vips) (port : UInt16) (ok : Bool) :
    ∃ ip ∈ ips.take 16,
      (balanceMachine e).out vips (.connect ⟨A.toU32, port⟩ ok) = some ⟨ip.toU32, 0⟩ := by
  obtain ⟨j, hj, hentry⟩ := h
  have hlen : j < ips.length := by omega
  refine ⟨ips[j], ?_, out_connect e vips A ips j _ port ok hentry hj (List.getElem?_eq_getElem hlen)⟩
  rw [List.mem_take_iff_getElem]
  exact ⟨j, by omega, rfl⟩

/-- Connects to `A` one after another, each with its port; all inserts succeed. -/
def connects (A : Ipv4Addr) (ports : List UInt16) : List BalanceOp :=
  ports.map fun port => .connect ⟨A.toU32, port⟩ true

/-- Connects in a row turn the index once each. -/
theorem after_connects (e : ByteOrder) (A : Ipv4Addr) (ips : List Ipv4Addr) (vips : KernelMap VipInfo)
    (hentry : vips A.toU32 = some (vipEntry ips)) (hpos : 0 < min ips.length 16) (ports : List UInt16) :
    (balanceMachine e).after vips (connects A ports) A.toU32 =
      some (vipEntryAt ips (ports.length % min ips.length 16)) := by
  unfold connects
  induction ports using List.reverseRecOn with
  | nil => rw [List.length_nil, Nat.zero_mod, vipEntryAt_zero]; exact hentry
  | append_singleton ports port ih =>
    rw [List.map_append, List.map_cons, List.map_nil, Machine.after_snoc,
      next_connect e _ A ips _ port true ih (Nat.mod_lt _ hpos), if_pos rfl, List.length_append,
      List.length_singleton, Nat.mod_add_mod]

/-- Each of the first sixteen addresses is where some connect goes. -/
theorem out_reaches (e : ByteOrder) (A : Ipv4Addr) (ips : List Ipv4Addr) (vips : KernelMap VipInfo)
    (hentry : vips A.toU32 = some (vipEntry ips)) (ip : Ipv4Addr) (hip : ip ∈ ips.take 16) :
    ∃ ports, (balanceMachine e).out ((balanceMachine e).after vips (connects A ports))
      (.connect ⟨A.toU32, 0⟩ true) = some ⟨ip.toU32, 0⟩ := by
  obtain ⟨k, hk, hget⟩ := List.mem_take_iff_getElem.mp hip
  have hk' : k < min ips.length 16 := by omega
  have hat := after_connects e A ips vips hentry (by omega) (List.replicate k 0)
  rw [List.length_replicate, Nat.mod_eq_of_lt hk'] at hat
  refine ⟨_, out_connect e _ A ips k ip 0 true hat hk' ?_⟩
  rw [← hget]
  exact List.getElem?_eq_getElem (by omega)

/-! ### Main theorem -/

/-- **Where connects are sent, exactly.**  Once `update_bpf_vip` has written the entry of a
VIP whose backends are texts `ip:port`, every later connect to it is sent to an endpoint
configured for it if and only if each of its first sixteen addresses is one
with port zero. -/
theorem redirects_iff (e : ByteOrder) (reads : Connect → SocketAddr) (cfg : List VipBackendCfg)
    (hform : EndpointTexts cfg) (vip : String) (A : Ipv4Addr) (hA : Ipv4Addr.parse vip = some A)
    (hne : configuredFor cfg vip ≠ []) (bpf : BpfManager) (vips : KernelMap VipInfo)
    (hwrite : (updateBpfVip bpf A ((initMonitor cfg).getAlive vip) true).1.vipMap = some vips) :
    (∀ ops, (∀ op ∈ ops, FromMonitor (initMonitor cfg) op) →
        Redirected e reads cfg vip A ((balanceMachine e).after vips ops)) ↔
      ∀ ep ∈ (configuredFor cfg vip).take 16, Configured cfg vip (reads ⟨ep.ip.toU32, 0⟩) := by
  have hentry := entry_of_update bpf A _ vips hwrite
  have halive := getAlive_initMonitor cfg hform vip
  have htake : ∀ ip, ip ∈ ((initMonitor cfg).getAlive vip).take 16 ↔
      ∃ ep ∈ (configuredFor cfg vip).take 16, ep.ip = ip := by
    intro ip
    rw [halive, ← List.map_take, List.mem_map]
  constructor
  · intro hall ep hep
    obtain ⟨ports, hports⟩ := out_reaches e A _ vips hentry ep.ip ((htake _).mpr ⟨ep, hep, rfl⟩)
    obtain ⟨dest, hout, hdest⟩ := hall (connects A ports)
      (fun op hop => by obtain ⟨port, -, rfl⟩ := List.mem_map.mp hop; trivial) 0 true
    rw [hports, Option.some.injEq] at hout
    rw [hout]
    exact hdest
  · intro hzero ops hops port ok
    have hpos : 0 < min ((initMonitor cfg).getAlive vip).length 16 := by
      have := List.length_pos_iff.mpr hne
      rw [halive, List.length_map]
      omega
    have hturned := (balanceMachine e).inv_after (Turned A ((initMonitor cfg).getAlive vip)) ops
      (fun s op hop h => turned_next e _ vip A hA s op (hops op hop) h) vips
      ⟨0, hpos, by rw [hentry, vipEntryAt_zero]⟩
    obtain ⟨ip, hip, hout⟩ := out_of_turned e A _ _ hturned port ok
    obtain ⟨ep, hep, rfl⟩ := (htake ip).mp hip
    exact ⟨_, hout, hzero ep hep⟩

/-- The endpoint that the kernel takes the context for: both fields are in network order. -/
def kernelEndpoint (e : ByteOrder) (ctx : Connect) : SocketAddr :=
  ⟨.ofU32 (UInt32.ofNat (ByteOrder.big.load (e.store 4 ctx.userIp.toNat))), fromBe16 e ctx.userPort⟩

/-- A VIP with one backend on the given port. -/
def oneBackendCfg (port : String) : List VipBackendCfg := [⟨"10.96.0.10", ["10.0.0.1:" ++ port]⟩]

/-- `VIP_MAP` when `update_bpf_vip` has written the backend. -/
def oneBackendVips : KernelMap VipInfo :=
  Function.update (fun _ => none) (⟨10, 96, 0, 10⟩ : Ipv4Addr).toU32 (some (vipEntry [⟨10, 0, 0, 1⟩]))

/-- On a machine in network order a backend configured with port zero is reached, also behind
a connect and an update. -/
theorem redirects_port_zero :
    Redirected .big (kernelEndpoint .big) (oneBackendCfg "0") "10.96.0.10" ⟨10, 96, 0, 10⟩
      ((balanceMachine .big).after oneBackendVips
        [.connect ⟨0x0A60000A, 443⟩ true, .update ⟨10, 96, 0, 10⟩ [⟨10, 0, 0, 1⟩] true]) := by
  have hform : EndpointTexts (oneBackendCfg "0") := by
    intro vc hvc text htext
    obtain rfl := List.mem_singleton.mp hvc
    obtain rfl := List.mem_singleton.mp htext
    decide
  have halive : (initMonitor (oneBackendCfg "0")).getAlive "10.96.0.10" = [⟨10, 0, 0, 1⟩] := by
    rw [getAlive_initMonitor _ hform]
    rfl
  refine (redirects_iff .big (kernelEndpoint .big) (oneBackendCfg "0") hform "10.96.0.10"
    ⟨10, 96, 0, 10⟩ (by decide) (by decide) emptyVips.bpf oneBackendVips
    (by rw [halive]; exact updateBpfVip_some _ _ rfl _ _)).mpr ?_ _ ?_
  · intro ep hep
    obtain rfl : ep = ⟨⟨10, 0, 0, 1⟩, 0⟩ := List.mem_singleton.mp hep
    exact ⟨_, List.mem_cons_self, rfl, _, List.mem_cons_self, by decide⟩
  · intro op hop
    rcases List.mem_cons.mp hop with rfl | hop
    · trivial
    · obtain rfl := List.mem_singleton.mp hop
      exact ⟨"10.96.0.10", by decide, halive.symm⟩

theorem out_oneBackendVips (e : ByteOrder) (port : UInt16) (ok : Bool) :
    (balanceMachine e).out oneBackendVips (.connect ⟨(⟨10, 96, 0, 10⟩ : Ipv4Addr).toU32, port⟩ ok) =
      some ⟨0x0A000001, 0⟩ :=
  out_connect e oneBackendVips ⟨10, 96, 0, 10⟩ [⟨10, 0, 0, 1⟩] 0 ⟨10, 0, 0, 1⟩ port ok
    (Function.update_self _ _ _) (by decide) rfl

/-- The port of the connect is zero in either byte order, and only 8080 is configured. -/
theorem not_redirected_8080 (e : ByteOrder) :
    ¬ Redirected e (kernelEndpoint e) (oneBackendCfg "8080") "10.96.0.10" ⟨10, 96, 0, 10⟩
      oneBackendVips := by
  intro h
  obtain ⟨dest, hdest, vc, hvc, -, text, htext, hep⟩ := h 443 true
  rw [out_oneBackendVips, Option.some.injEq] at hdest
  subst hdest
  obtain rfl := List.mem_singleton.mp hvc
  obtain rfl := List.mem_singleton.mp htext
  cases e <;> exact absurd hep (by decide)

/-- Configured with port 8080, it is not: the connect goes to `10.0.0.1:0`. -/
theorem port_lost :
    EndpointTexts (oneBackendCfg "8080") ∧
    (updateBpfVip emptyVips.bpf ⟨10, 96, 0, 10⟩
      ((initMonitor (oneBackendCfg "8080")).getAlive "10.96.0.10") true).1.vipMap = some oneBackendVips ∧
    (balanceMachine .big).out oneBackendVips (.connect ⟨0x0A60000A, 443⟩ true) =
      some ⟨0x0A000001, 0⟩ ∧
    ¬ Redirected .big (kernelEndpoint .big) (oneBackendCfg "8080") "10.96.0.10" ⟨10, 96, 0, 10⟩
      oneBackendVips ∧
    ¬ Redirected .little (kernelEndpoint .little) (oneBackendCfg "8080") "10.96.0.10"
      ⟨10, 96, 0, 10⟩ oneBackendVips := by
  have hform : EndpointTexts (oneBackendCfg "8080") := by
    intro vc hvc text htext
    obtain rfl := List.mem_singleton.mp hvc
    obtain rfl := List.mem_singleton.mp htext
    decide
  refine ⟨hform, ?_, out_oneBackendVips .big 443 true, not_redirected_8080 .big,
    not_redirected_8080 .little⟩
  rw [updateBpfVip_some _ _ rfl, getAlive_initMonitor _ hform]
  rfl

end NomadP2P
