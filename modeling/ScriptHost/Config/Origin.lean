import ScriptHost.Config.Error
import ScriptHost.FileTree

/-!
# Where settings come from

The environment may name a configuration file and a log level. Without a name the file `tea.toml`
of the directory counts, and without that the defaults.

* `Environment` — the two variables.
* `Lookup` — the settings that were found, and the file that was read for them.
* `Lookup.load`, `Lookup.discover`, `Lookup.fromEnvironment` — the ways to find settings.
-/

namespace ScriptHost

/-- The variables that matter, by their bytes. -/
structure Environment where
  /-- The log level. -/
  log : Option (List UInt8) := none
  /-- The path of the configuration. -/
  config : Option Path := none

/-- The log level of the environment, if it is a text. -/
def Environment.logLevel? (env : Environment) : Option String :=
  env.log.bind fun bytes => (Text.decodeStrict bytes).toOption

/-- What comes of looking for settings. -/
structure Lookup where
  /-- The file that was read, whatever was in it. -/
  loaded : Option Path
  settings : Except ConfigError Settings

namespace Lookup

/-- The name of the file that is looked for. -/
def fileName : Path := Text.encode "tea.toml"

/-- The directory that a program runs in. -/
def here : Path := Text.encode "."

/-- The text of a file. -/
def readText (files : FileTree) (path : Path) : Except IoError String := do
  let bytes ← files.read path
  (Text.decodeStrict bytes).mapError fun _ => .notText

/-- The settings of a file. -/
def load (files : FileTree) (path : Path) : Lookup :=
  match readText files path with
  | .ok source => ⟨some path, Settings.ofText source⟩
  | .error e => ⟨none, .error (.read path e)⟩

/-- The settings of the file in a directory, and the defaults if there is none. -/
def discover (files : FileTree) (directory : Path) : Lookup :=
  let path := directory.join fileName
  if files.isFile path then load files path else ⟨none, .ok {}⟩

/-- The settings for an environment. The log level of the environment goes before that of the
file. -/
def fromEnvironment (files : FileTree) (env : Environment) : Lookup :=
  let found :=
    match env.config with
    | some path => load files path
    | none => discover files here
  { found with settings := found.settings.map (·.overrideLog env.logLevel?) }

end Lookup

end ScriptHost
