import NomadP2P.CniOps

/-!
# The plugin and the commands it runs (`run`, `cmd_add`, `cmd_del` of `cni/src/lib.rs`)

The whole of the plugin: the input it reads, the `ip` and `nsenter` commands it runs one
after another with its requests to the agent between them, which of their failures end
it, and what it prints.  The system it runs on is a parameter, and so is `from_str`.

A command that cannot be started ends ADD; of those that fail only the first does, and
not if it says "File exists".  What follows from this for the agent and for the links of the host
is in `CniRefine`, for the network in `CniNet`.
-/

namespace NomadP2P.Plugin

open Text

/-! ## Algorithm -/

structure CniCmd where
  cniVersion : String
  command : Option String
  containerId : Option String
  netns : Option String
  ifName : Option String
  args : Option String
  name : Option String
  type : Option String
deriving DecidableEq

/-- The fields with the defaults of the two commands. -/
def CniCmd.id (cmd : CniCmd) : String := cmd.containerId.getD "unknown"

def CniCmd.netnsPath (cmd : CniCmd) : String := cmd.netns.getD "/proc/1/ns/net"

def CniCmd.peer (cmd : CniCmd) : String := cmd.ifName.getD "eth0"

structure CniIp where
  version : String
  address : String
  gateway : Option String
deriving DecidableEq

structure CniDns where
  nameservers : List String
deriving DecidableEq

structure CniResult where
  cniVersion : String
  ips : List CniIp
  dns : Option CniDns
deriving DecidableEq

/-- What the plugin prints: a result, or `json!(…)` with the version alone. -/
inductive Answer
  | result (r : CniResult)
  | version (cniVersion : String)
deriving DecidableEq

/-- The `ip` commands. -/
inductive IpCmd
  /-- `ip link add <name> type veth peer name <peer>` -/
  | linkAdd (name peer : String)
  /-- `ip link set <dev> netns <netns>` -/
  | setNetns (dev netns : String)
  /-- `ip addr add <addr> dev <dev>` -/
  | addrAdd (addr dev : String)
  /-- `ip link set <dev> up` -/
  | linkUp (dev : String)
  /-- `ip route add default via <gateway> dev <dev>` -/
  | routeDefault (gateway dev : String)
  /-- `ip link delete <dev>` -/
  | linkDelete (dev : String)
deriving DecidableEq

inductive Command
  | ip (cmd : IpCmd)
  /-- `nsenter --target <target> --net -- ip …` -/
  | nsenter (target : String) (cmd : IpCmd)
deriving DecidableEq

/-- A command that makes, moves and removes no link. -/
def IpCmd.keepsLinks : IpCmd → Bool
  | .addrAdd _ _ => true
  | .linkUp _ => true
  | .routeDefault _ _ => true
  | _ => false

def Command.keepsLinks : Command → Bool
  | .ip cmd => cmd.keepsLinks
  | .nsenter _ cmd => cmd.keepsLinks

structure Output where
  success : Bool
  stderr : String

/-- Where the plugin runs: the state behind a command, with its output or the error of starting
it; that behind `allocate_ip`, with the address; and that behind `notify_agent`, whose failure is
a warning. -/
structure System (σ : Type) where
  exec : σ → Command → σ × Except String Output
  allocateIp : σ → String → σ × Ipv4Addr
  notifyAgent : σ → (action containerId ip iface : String) → σ

inductive Failure
  | err (msg : String)
  | panic
deriving DecidableEq

/-- `text.contains(pat)`. -/
def containsText (pat text : String) : Bool := decide (pat.toList <:+: text.toList)

def gateway : String := "10.244.0.1"

/-- The text without the copies of `pat` behind it. -/
def trimEndMatches (pat text : List Char) : List Char :=
  (trimStartMatches pat.reverse text.reverse).reverse

/-- `netns.trim_start_matches("/proc/").trim_end_matches("/ns/net")`. -/
def nsTarget (netns : String) : String :=
  String.ofList (trimEndMatches "/ns/net".toList (trimStartMatches "/proc/".toList netns.toList))

/-- What ADD prints. -/
def addResult (cniVersion : String) (containerIp : Ipv4Addr) : CniResult :=
  ⟨cniVersion, [⟨"4", containerIp.toText ++ "/16", some gateway⟩], none⟩

section
variable {σ : Type} (sys : System σ)

/-- `Command::new(…).args(…).output()?` with what follows it. -/
def command (c : Command) (k : Output → σ → σ × Except Failure Answer) (s : σ) :
    σ × Except Failure Answer :=
  match sys.exec s c with
  | (s, .error e) => (s, .error (.err e))
  | (s, .ok out) => k out s

/-- Commands whose failure is a warning at most, and what follows them. -/
def commands (cs : List Command) (k : σ → σ × Except Failure Answer) : σ → σ × Except Failure Answer :=
  match cs with
  | [] => k
  | c :: cs => command sys c fun _ => commands cs k

/-- The commands of `cmd_add` behind `allocate_ip`. -/
def configCommands (hostIface netns ifName : String) (containerIp : Ipv4Addr) : List Command :=
  [.ip (.addrAdd (containerIp.toText ++ "/32") hostIface),
    .ip (.linkUp hostIface),
    .nsenter (nsTarget netns) (.addrAdd (containerIp.toText ++ "/16") ifName),
    .nsenter (nsTarget netns) (.linkUp ifName),
    .nsenter (nsTarget netns) (.routeDefault gateway ifName)]

/-- `cmd_add`. -/
def cmdAdd (cmd : CniCmd) (s : σ) : σ × Except Failure Answer :=
  match hostIface cmd.id with
  | none => (s, .error .panic)
  | some hostIface =>
    command sys (.ip (.linkAdd hostIface cmd.peer)) (fun out s =>
      if !out.success && !containsText "File exists" out.stderr then
        (s, .error (.err ("veth create failed: " ++ out.stderr)))
      else
        command sys (.ip (.setNetns cmd.peer cmd.netnsPath)) (fun _ s =>
          let (s, containerIp) := sys.allocateIp s cmd.id
          commands sys (configCommands hostIface cmd.netnsPath cmd.peer containerIp) (fun s =>
            (sys.notifyAgent s "add" cmd.id containerIp.toText hostIface,
              .ok (.result (addResult cmd.cniVersion containerIp)))) s) s) s

/-- `cmd_del`. -/
def cmdDel (cmd : CniCmd) (s : σ) : σ × Except Failure Answer :=
  match hostIface cmd.id with
  | none => (s, .error .panic)
  | some hostIface =>
    command sys (.ip (.linkDelete hostIface)) (fun _ s =>
      (sys.notifyAgent s "del" cmd.id "" hostIface, .ok (.version cmd.cniVersion))) s

/-- The match of `run`. -/
def dispatch (cmd : CniCmd) (s : σ) : σ × Except Failure Answer :=
  match cmd.command with
  | none => cmdAdd sys cmd s
  | some text =>
    if text = "ADD" then cmdAdd sys cmd s
    else if text = "DEL" then cmdDel sys cmd s
    else (s, .error (.err ("unknown CNI command: " ++ text)))

/-- `run`, on what `read_to_string` makes of the standard input. -/
def run (fromStr : String → Except String CniCmd) (input : Except String String) (s : σ) :
    σ × Except Failure Answer :=
  match input.bind fromStr with
  | .error e => (s, .error (.err e))
  | .ok cmd => dispatch sys cmd s

end

/-! ## Lemmas -/

/-! ### The target of `nsenter` -/

theorem trimEndMatches_append (pat text : List Char) (h : pat ≠ []) :
    trimEndMatches pat (text ++ pat) = trimEndMatches pat text := by
  unfold trimEndMatches
  rw [List.reverse_append, trimStartMatches_append _ _ (List.reverse_ne_nil_iff.mpr h)]

theorem trimEndMatches_of_not_suffix (pat text : List Char) (h : ¬ pat <:+ text) :
    trimEndMatches pat text = text := by
  unfold trimEndMatches
  rw [ trimStartMatches_of_not_prefix _ _ fun hpre => h (List.reverse_prefix.mp hpre), List.reverse_reverse]

/-- The target of the namespace of a process is its number. -/
theorem nsTarget_proc (pid : String) (h : '/' ∉ pid.toList) (hne : pid.toList ≠ []) :
    nsTarget ("/proc/" ++ pid ++ "/ns/net") = pid := by
  have hslash : ∀ pat : List Char, '/' ∈ pat → ¬ pat <:+ pid.toList :=
    fun pat hp hsuf => h (hsuf.subset hp)
  have htext : ("/proc/" ++ pid ++ "/ns/net").toList =
      "/proc/".toList ++ (pid.toList ++ "/ns/net".toList) := by
    rw [String.toList_append, String.toList_append, List.append_assoc]
  have hproc : "/proc/".toList = ['/', 'p', 'r', 'o', 'c', '/'] := by decide +kernel
  have hnet : "/ns/net".toList = ['/', 'n', 's', '/', 'n', 'e', 't'] := by decide +kernel
  -- behind "/proc/" stands the number, which begins with no slash
  have hstart : ¬ "/proc/".toList <+: pid.toList ++ "/ns/net".toList := by
    rw [hproc]
    rintro ⟨rest, hrest⟩
    cases hpid : pid.toList with
    | nil => exact hne hpid
    | cons c cs =>
      rw [hpid] at hrest
      have hc : c = '/' := (List.cons.inj hrest).1.symm
      exact h (hpid ▸ hc ▸ List.mem_cons_self)
  unfold nsTarget
  rw [htext, trimStartMatches_append _ _ (by rw [hproc]; exact List.cons_ne_nil _ _),
    trimStartMatches_of_not_prefix _ _ hstart,
    trimEndMatches_append _ _ (by rw [hnet]; exact List.cons_ne_nil _ _),
    trimEndMatches_of_not_suffix _ _ (hslash _ (by rw [hnet]; exact List.mem_cons_self)),
    String.ofList_toList]

/-! ### Commands one after another -/

section
variable {σ : Type} (sys : System σ)

/-- A command is started and followed by the rest, or ends the plugin. -/
theorem command_cases (c : Command) (k : Output → σ → σ × Except Failure Answer) (s : σ) :
    (∃ e, (sys.exec s c).2 = .error e ∧ command sys c k s = ((sys.exec s c).1, .error (.err e))) ∨
      ∃ out, (sys.exec s c).2 = .ok out ∧ command sys c k s = k out (sys.exec s c).1 := by
  unfold command
  cases sys.exec s c with
  | mk s' r =>
    cases r with
    | error e => exact Or.inl ⟨e, rfl, rfl⟩
    | ok out => exact Or.inr ⟨out, rfl, rfl⟩

theorem command_of_ok {c : Command} {s : σ} {out : Output} (h : (sys.exec s c).2 = .ok out)
    (k : Output → σ → σ × Except Failure Answer) : command sys c k s = k out (sys.exec s c).1 := by
  rcases command_cases sys c k s with ⟨e, he, -⟩ | ⟨out', hout, heq⟩
  · rw [h] at he
    cases he
  · rw [h] at hout
    cases hout
    exact heq

/-- Commands that a view of the state does not show, run to their end or ended. -/
theorem commands_view {α : Type} (view : σ → α) (k : σ → σ × Except Failure Answer) (cs : List Command)
    (hcs : ∀ c ∈ cs, ∀ s, view (sys.exec s c).1 = view s) :
    ∀ s, ∃ s', view s' = view s ∧
      ((∃ e, commands sys cs k s = (s', .error (.err e))) ∨ commands sys cs k s = k s') := by
  induction cs with
  | nil => exact fun s => ⟨s, rfl, Or.inr rfl⟩
  | cons c cs ih =>
    intro s
    have hc := hcs c List.mem_cons_self s
    rcases command_cases sys c (fun _ => commands sys cs k) s with ⟨e, -, heq⟩ | ⟨out, -, heq⟩
    · exact ⟨_, hc, Or.inl ⟨e, heq⟩⟩
    · obtain ⟨s', hview, hend⟩ := ih (fun c' h => hcs c' (List.mem_cons_of_mem c h)) (sys.exec s c).1
      refine ⟨s', hview.trans hc, ?_⟩
      show (∃ e, command sys c _ s = _) ∨ command sys c _ s = _
      rwa [heq]

/-- Where every command can be started, they run one after another. -/
theorem commands_of_starts (k : σ → σ × Except Failure Answer) (cs : List Command)
    (hstarts : ∀ c ∈ cs, ∀ s, ∃ out, (sys.exec s c).2 = .ok out) :
    ∀ s, commands sys cs k s = k (cs.foldl (fun s c => (sys.exec s c).1) s) := by
  induction cs with
  | nil => exact fun s => rfl
  | cons c cs ih =>
    intro s
    obtain ⟨out, hout⟩ := hstarts c List.mem_cons_self s
    show command sys c _ s = _
    rw [command_of_ok sys hout]
    exact ih (fun c' h => hstarts c' (List.mem_cons_of_mem c h)) _

theorem configCommands_keepsLinks (iface netns ifName : String) (ip : Ipv4Addr) :
    ∀ c ∈ configCommands iface netns ifName ip, c.keepsLinks = true := by
  simp [configCommands, Command.keepsLinks, IpCmd.keepsLinks]

/-- `ip link add` lets ADD go on: it succeeds, or says "File exists". -/
def GoesOn (out : Output) : Prop := out.success = true ∨ containsText "File exists" out.stderr = true

theorem goesOn_iff (out : Output) :
    GoesOn out ↔ ¬ (!out.success && !containsText "File exists" out.stderr) = true := by
  unfold GoesOn
  cases out.success <;> cases containsText "File exists" out.stderr <;> simp

/-- What `ip` says of a name that is taken. -/
def fileExists : Output := ⟨false, "RTNETLINK answers: File exists"⟩

theorem containsText_fileExists : containsText "File exists" fileExists.stderr = true := by decide +kernel

/-- What ADD does behind `ip link add`. -/
def moveAndConfigure (cmd : CniCmd) (hostIface : String) : σ → σ × Except Failure Answer :=
  command sys (.ip (.setNetns cmd.peer cmd.netnsPath)) fun _ s =>
    commands sys (configCommands hostIface cmd.netnsPath cmd.peer (sys.allocateIp s cmd.id).2) (fun s' =>
      (sys.notifyAgent s' "add" cmd.id (sys.allocateIp s cmd.id).2.toText hostIface,
        .ok (.result (addResult cmd.cniVersion (sys.allocateIp s cmd.id).2)))) (sys.allocateIp s cmd.id).1

/-- The ways an ADD takes at `ip link add`: it is not started, it fails, or ADD goes on. -/
theorem cmdAdd_cases (cmd : CniCmd) (s : σ) (iface : String) (hif : hostIface cmd.id = some iface) :
    let added := sys.exec s (.ip (.linkAdd iface cmd.peer))
    (∃ e, added.2 = .error e ∧ cmdAdd sys cmd s = (added.1, .error (.err e))) ∨
      (∃ out f, added.2 = .ok out ∧ ¬ GoesOn out ∧ cmdAdd sys cmd s = (added.1, .error f)) ∨
      ∃ out, added.2 = .ok out ∧ GoesOn out ∧ cmdAdd sys cmd s = moveAndConfigure sys cmd iface added.1 := by
  intro added
  unfold cmdAdd
  simp only [hif]
  rcases command_cases sys (.ip (.linkAdd iface cmd.peer)) _ s with ⟨e, he, heq⟩ | ⟨out, hout, heq⟩
  · exact Or.inl ⟨e, he, heq⟩
  · right
    rw [heq]
    by_cases hgo : GoesOn out
    · exact Or.inr ⟨out, hout, hgo, if_neg ((goesOn_iff out).mp hgo)⟩
    · refine Or.inl ⟨out, _, hout, hgo, if_pos ?_⟩
      rwa [goesOn_iff, not_not] at hgo

end

end NomadP2P.Plugin
