import NomadP2P.Config

/-!
# Hot reload (`agent/src/reload.rs`)

`watch_loop` waits for events of the configuration file and calls `reload_config` on those
that modify or create it.  `reload_config` reads the file again and copies five fields, each
one only if it differs.  The loop ends when the stop flag is seen or the watcher is gone.
Nothing starts `watch_loop`: the statement is about the function as it stands.

    over any run of the loop the configuration is the one of the start, with the five
      fields of the file that was last read without an error         (reload_run)
-/

namespace NomadP2P

/-! ## Algorithm -/

/-- `serde_json::from_str::<AgentConfig>`: the configuration, or the text of the error. -/
structure SerdeText where
  fromStr : String → Except String AgentConfig

/-- What `read_to_string` gives: the text, or the text of the error. -/
abbrev FileRead := Except String String

/-- The first two statements of `reload_config`. -/
def SerdeText.readConfig (J : SerdeText) (file : FileRead) : Except String AgentConfig :=
  match file with
  | .error e => .error ("read config: " ++ e)
  | .ok data =>
    match J.fromStr data with
    | .error e => .error ("parse config: " ++ e)
    | .ok cfg => .ok cfg

/-- `if cfg.field != new_cfg.field { cfg.field = new_cfg.field; }` -/
def assignIfNe {α : Type} [DecidableEq α] (get : AgentConfig → α) (set : AgentConfig → α → AgentConfig)
    (newCfg cfg : AgentConfig) : AgentConfig :=
  if get cfg ≠ get newCfg then set cfg (get newCfg) else cfg

/-- The five comparisons and assignments of `reload_config`, the first one innermost. -/
def AgentConfig.update (cfg newCfg : AgentConfig) : AgentConfig :=
  assignIfNe (fun c => c.metricsPort) (fun c v => { c with metricsPort := v }) newCfg <|
  assignIfNe (fun c => c.firewallEnabled) (fun c v => { c with firewallEnabled := v }) newCfg <|
  assignIfNe (fun c => c.ipsecEnabled) (fun c v => { c with ipsecEnabled := v }) newCfg <|
  assignIfNe (fun c => c.vipEnabled) (fun c v => { c with vipEnabled := v }) newCfg <|
  assignIfNe (fun c => c.stunServers) (fun c v => { c with stunServers := v }) newCfg cfg

/-- `reload_config`: the configuration behind the call, and what it returns. -/
def reloadConfig (J : SerdeText) (cfg : AgentConfig) (file : FileRead) :
    AgentConfig × Except String Unit :=
  match J.readConfig file with
  | .error e => (cfg, .error e)
  | .ok newCfg => (cfg.update newCfg, .ok ())

/-- `EventKind`, as far as it is told apart, with what the file then reads as. -/
inductive FileEvent
  | modify (file : FileRead)
  | create (file : FileRead)
  | remove
  | other

/-- What one pass of the loop meets: the stop flag at the top, and otherwise what
`recv_timeout` gives; behind a timeout the flag is looked at once more. -/
inductive Pass
  | stopped
  | event (e : FileEvent)
  | timeout (stop : Bool)
  | disconnected

/-- The configuration, and whether `watch_loop` still runs. -/
structure Watch where
  cfg : AgentConfig
  running : Bool

/-- The start of `watch_loop`: it returns when there is no watcher or the file cannot be
watched. -/
def Watch.start (cfg : AgentConfig) (watcher watched : Bool) : Watch := ⟨cfg, watcher && watched⟩

/-- The file an event has the loop read. -/
def FileEvent.file : FileEvent → Option FileRead
  | .modify file => some file
  | .create file => some file
  | .remove => none
  | .other => none

/-- One pass: the state behind it, and the configuration that was read. -/
def watchPass (J : SerdeText) (s : Watch) (p : Pass) : Watch × Option AgentConfig :=
  if s.running then
    match p with
    | .stopped => ({ s with running := false }, none)
    | .event e =>
      match e.file with
      | some file => ({ s with cfg := (reloadConfig J s.cfg file).1 }, (J.readConfig file).toOption)
      | none => (s, none)
    | .timeout stop => ({ s with running := !stop }, none)
    | .disconnected => ({ s with running := false }, none)
  else (s, none)

def watchMachine (J : SerdeText) : Machine Watch Pass (Option AgentConfig) where
  step := watchPass J

/-- The five fields that are copied. -/
structure Hot where
  stunServers : List String
  vipEnabled : Bool
  ipsecEnabled : Bool
  firewallEnabled : Bool
  metricsPort : UInt16
deriving DecidableEq

def AgentConfig.hot (cfg : AgentConfig) : Hot :=
  ⟨cfg.stunServers, cfg.vipEnabled, cfg.ipsecEnabled, cfg.firewallEnabled, cfg.metricsPort⟩

/-- The configuration with other hot fields. -/
def AgentConfig.withHot (cfg : AgentConfig) (h : Hot) : AgentConfig :=
  { cfg with
    stunServers := h.stunServers
    vipEnabled := h.vipEnabled
    ipsecEnabled := h.ipsecEnabled
    firewallEnabled := h.firewallEnabled
    metricsPort := h.metricsPort }

/-- The pass ends the loop. -/
def Pass.ends : Pass → Bool
  | .stopped => true
  | .event _ => false
  | .timeout stop => stop
  | .disconnected => true

/-- What the pass reads, if the loop still runs. -/
def Pass.reads (J : SerdeText) : Pass → Option AgentConfig
  | .event e => e.file.bind fun file => (J.readConfig file).toOption
  | _ => none

/-! ## Lemmas -/

theorem hot_withHot (cfg : AgentConfig) (h : Hot) : (cfg.withHot h).hot = h := rfl

theorem withHot_withHot (cfg : AgentConfig) (h h' : Hot) :
    (cfg.withHot h).withHot h' = cfg.withHot h' := rfl

/-- Comparing first changes nothing. -/
theorem assignIfNe_eq {α : Type} [DecidableEq α] (get : AgentConfig → α)
    (set : AgentConfig → α → AgentConfig) (h : ∀ c, set c (get c) = c) (newCfg cfg : AgentConfig) :
    assignIfNe get set newCfg cfg = set cfg (get newCfg) := by
  unfold assignIfNe
  by_cases heq : get cfg = get newCfg
  · rw [if_neg (not_not_intro heq), ← heq, h]
  · rw [if_pos heq]

/-- The five fields are those of the new configuration. -/
theorem update_eq (cfg newCfg : AgentConfig) : cfg.update newCfg = cfg.withHot newCfg.hot := by
  have hservers := assignIfNe_eq (fun c => c.stunServers) (fun c v => { c with stunServers := v })
    (fun _ => rfl) newCfg
  have hvip := assignIfNe_eq (fun c => c.vipEnabled) (fun c v => { c with vipEnabled := v })
    (fun _ => rfl) newCfg
  have hipsec := assignIfNe_eq (fun c => c.ipsecEnabled) (fun c v => { c with ipsecEnabled := v })
    (fun _ => rfl) newCfg
  have hfirewall := assignIfNe_eq (fun c => c.firewallEnabled)
    (fun c v => { c with firewallEnabled := v }) (fun _ => rfl) newCfg
  have hport := assignIfNe_eq (fun c => c.metricsPort) (fun c v => { c with metricsPort := v })
    (fun _ => rfl) newCfg
  unfold AgentConfig.update
  rw [hservers, hvip, hipsec, hfirewall, hport]
  rfl

/-- A call writes the hot fields of what it reads, and nothing if it reads nothing. -/
theorem reloadConfig_eq (J : SerdeText) (cfg : AgentConfig) (file : FileRead) :
    (reloadConfig J cfg file).1 =
      cfg.withHot (((J.readConfig file).toOption.map AgentConfig.hot).getD cfg.hot) := by
  unfold reloadConfig
  cases J.readConfig file with
  | error e => rfl
  | ok newCfg => exact update_eq cfg newCfg

/-- **One pass of a running loop.** -/
theorem watchPass_running (J : SerdeText) (cfg : AgentConfig) (p : Pass) :
    watchPass J ⟨cfg, true⟩ p =
      (⟨cfg.withHot (((p.reads J).map AgentConfig.hot).getD cfg.hot), !p.ends⟩, p.reads J) := by
  cases p with
  | stopped => rfl
  | timeout stop => rfl
  | disconnected => rfl
  | event e =>
    cases e with
    | remove => rfl
    | other => rfl
    | modify file =>
      show (Watch.mk (reloadConfig J cfg file).1 true, (J.readConfig file).toOption) = _
      rw [reloadConfig_eq]
      rfl
    | create file =>
      show (Watch.mk (reloadConfig J cfg file).1 true, (J.readConfig file).toOption) = _
      rw [reloadConfig_eq]
      rfl

/-- The passes the loop makes: up to the first one that ends it. -/
def passes : List Pass → List Pass
  | [] => []
  | p :: ps => if p.ends then [p] else p :: passes ps

theorem after_ended (J : SerdeText) (cfg : AgentConfig) (ps : List Pass) :
    (watchMachine J).after ⟨cfg, false⟩ ps = ⟨cfg, false⟩ := by
  induction ps with
  | nil => rfl
  | cons p ps ih => rw [Machine.after_cons]; exact ih

/-- The files read, in order. -/
def loaded (J : SerdeText) (ps : List Pass) : List AgentConfig := (passes ps).filterMap (Pass.reads J)

theorem getLast?_getD_cons {α : Type} (o : Option α) (xs : List α) (d : α) :
    (o.toList ++ xs).getLast?.getD d = xs.getLast?.getD (o.getD d) := by
  cases o with
  | none => rfl
  | some a => rw [Option.toList_some, List.singleton_append, List.getLast?_cons]; rfl

theorem loaded_cons (J : SerdeText) (p : Pass) (ps : List Pass) :
    loaded J (p :: ps) = (p.reads J).toList ++ if p.ends then [] else loaded J ps := by
  unfold loaded
  rw [passes]
  cases hends : p.ends with
  | true => cases h : p.reads J <;> simp [h]
  | false => cases h : p.reads J <;> simp [h]

/-- The run of a loop that has been started. -/
theorem after_running (J : SerdeText) (ps : List Pass) (cfg : AgentConfig) :
    ((watchMachine J).after ⟨cfg, true⟩ ps).cfg =
      cfg.withHot (((loaded J ps).map AgentConfig.hot).getLast?.getD cfg.hot) := by
  induction ps generalizing cfg with
  | nil => rfl
  | cons p ps ih =>
    rw [Machine.after_cons]
    have hnext : (watchMachine J).next ⟨cfg, true⟩ p =
        ⟨cfg.withHot (((p.reads J).map AgentConfig.hot).getD cfg.hot), !p.ends⟩ :=
      congrArg Prod.fst (watchPass_running J cfg p)
    rw [hnext, loaded_cons, List.map_append, ← Option.toList_map, getLast?_getD_cons]
    cases p.ends with
    | true =>
      rw [Bool.not_true, after_ended]
      rfl
    | false =>
      rw [Bool.not_false, ih, withHot_withHot, hot_withHot]
      rfl

/-! ### Main theorem -/

/-- **Hot reload over a run.**  Whatever happens to the file, every field but the five is
that of the start for good.  Files that cannot be read or parsed, and everything behind the
pass that ends the loop, count for nothing; a loop that could not start reads nothing. -/
theorem reload_run (J : SerdeText) (cfg : AgentConfig) (watcher watched : Bool) (ps : List Pass) :
    ((watchMachine J).after (Watch.start cfg watcher watched) ps).cfg =
      if watcher && watched then
        cfg.withHot (((loaded J ps).getLast?.getD cfg).hot)
      else cfg := by
  unfold Watch.start
  cases watcher && watched with
  | false => rw [if_neg Bool.false_ne_true, after_ended]
  | true =>
    rw [if_pos rfl, after_running, List.getLast?_map]
    cases (loaded J ps).getLast? with
    | none => rfl
    | some c => rfl

end NomadP2P
