import ScriptHost.Program.State

/-!
# Start-up

* `Program.configure` — applies settings.
* `Program.start` — finds the settings for the environment and applies them, or the defaults.
-/

namespace ScriptHost.Program

/-- The event that settings were read from a file. -/
def loadedEvent (path : Path) : Log.Event :=
  ⟨.debug, "tea_runtime::config", "loaded runtime config", [("path", Text.decodeLossy path)]⟩

/-- The event that another decoding than the one asked for stays in force. -/
def conflictEvent (requested active : Decoding) : Log.Event :=
  ⟨.warn, "tea_runtime", "input decoding already configured, keeping the active one",
    [("requested", requested.name), ("active", active.name)]⟩

/-- The event that settings are in force. -/
def startedEvent (s : Settings) : Log.Event :=
  ⟨.debug, "tea_runtime", "runtime initialized",
    [("log_level", s.logLevel), ("decoding", s.input.decoding.name)]⟩

/-- The event that the defaults stand in for settings that cannot be had. -/
def defaultsEvent (p : Program) (e : ConfigError) : Log.Event :=
  ⟨.warn, "tea_runtime", "using default runtime config",
    [("error", e.messageWith p.syntaxText)]⟩

/-- Applies settings: the log is opened, the decoding fixed, and the thread bound to the standard
streams. What was fixed before stays as it is. -/
def configure (p : Program) (t : Thread) (s : Settings) : Program :=
  let (_, p) := p.openLog s.logLevel
  let (isFirst, p) := p.fixDecoding s.input.decoding
  let p :=
    if !isFirst && p.decoding != s.input.decoding then
      p.log (conflictEvent s.input.decoding p.decoding)
    else p
  (p.bind t p.standardBindings).log (startedEvent s)

/-- Logs that a file was read, if one was. -/
def logLoaded (p : Program) (loaded : Option Path) : Program :=
  match loaded with
  | some path => p.log (loadedEvent path)
  | none => p

/-- Applies the settings for the environment. If there is an error the defaults are applied
instead, and the answer is false. -/
def start (p : Program) (t : Thread) : Bool × Program :=
  let found := Lookup.fromEnvironment p.files p.environment
  let loaded := p.logLoaded found.loaded
  match found.settings with
  | .ok s => (true, loaded.configure t s)
  | .error e => (false, (loaded.configure t {}).log (p.defaultsEvent e))

end ScriptHost.Program
