import ScriptHost.Config.Origin

/-!
# Commands on settings

* `Config.Command`, `Config.Answer` — what can be asked, and what is answered.
* `Config.Session`, `Config.Session.run` — a sequence of commands on the files of a directory.
-/

namespace ScriptHost.Config

/-- What a session can be asked. -/
inductive Command where
  | parse (source : String)
  | load (path : Path)
  | discover (directory : Path)
  | fromEnvironment (env : Environment)
  | default
  /-- Applies a log level to the last settings that were found. -/
  | overrideLog (level : Option String)
  /-- Whether the last settings that were found are the defaults. -/
  | isDefault

/-- What a session answers. -/
inductive Answer where
  | settings (s : Settings)
  | failed (e : ConfigError)
  | truth (b : Bool)

/-- The files, and the last settings that were found. -/
structure Session where
  files : FileTree
  last : Settings := {}

namespace Session

/-- Keeps settings that were found. -/
def keep (s : Session) : Except ConfigError Settings → Answer × Session
  | .ok found => (.settings found, { s with last := found })
  | .error e => (.failed e, s)

/-- One command. -/
def step (s : Session) : Command → Answer × Session
  | .parse source => s.keep (Settings.ofText source)
  | .load path => s.keep (Lookup.load s.files path).settings
  | .discover directory => s.keep (Lookup.discover s.files directory).settings
  | .fromEnvironment env => s.keep (Lookup.fromEnvironment s.files env).settings
  | .default => s.keep (.ok {})
  | .overrideLog level => s.keep (.ok (s.last.overrideLog level))
  | .isDefault => (.truth (s.last == {}), s)

/-- A sequence of commands, with the answers in order. -/
def run (s : Session) : List Command → List Answer × Session
  | [] => ([], s)
  | c :: cs =>
    let (a, s') := s.step c
    let (as, s'') := s'.run cs
    (a :: as, s'')

end Session

end ScriptHost.Config
