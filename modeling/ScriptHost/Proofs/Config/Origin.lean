import ScriptHost.Config.Origin
import ScriptHost.Proofs.Config.Schema
import ScriptHost.Proofs.FileTree
import ScriptHost.Proofs.Text.Utf8

/-!
# Where settings come from

An environment chooses one origin of settings: the file that it names, or else the file beside the
program, or else the defaults. What the origin says is final, be it settings or an error; only the
log level of the environment goes before the one that it gives.

- `Origin`, `Environment.Chooses`, `exists_chooses`, `Chooses.unique`: the one origin for an
  environment.
- `resolve_besideProgram`: where the path of the file beside the program leads.
- `Origin.Says`, `Origin.says_iff`: what an origin says, told from the bytes of the file.
- `Origin.loaded_lookup_eq_some_iff`: the file that is read for it.
- `logLevel_overrideLog`, `overrideLog_of_blank`: the log level of the environment.
- `fromEnvironment_eq`: looking for settings is asking the origin.
- `settings_eq_error_iff`, `exists_says_of_settings_eq_ok`: what is found is what the origin says.
-/

namespace ScriptHost

/-! ## Origins -/

/-- Where settings can come from. -/
inductive Origin where
  | file (path : Path)
  | defaults
  deriving DecidableEq

/-- The path of the file that is looked for beside the program. -/
def Lookup.besideProgram : Path := Lookup.here.join Lookup.fileName

/-- The origin of the settings for an environment. -/
inductive Environment.Chooses (env : Environment) (files : FileTree) : Origin → Prop where
  /-- The environment names a file. Whether it is there does not matter. -/
  | named {path : Path} (hnamed : env.config = some path) : Chooses env files (.file path)
  /-- It names none, and there is one beside the program, be it one to read or not. -/
  | beside {target : FileTree.Target} (hunnamed : env.config = none)
      (hat : files.at? [Lookup.fileName] = some target) (hfile : target.isFile = true) :
      Chooses env files (.file Lookup.besideProgram)
  /-- It names none, and there is none beside the program. -/
  | defaults (hunnamed : env.config = none)
      (hfile : ∀ target, files.at? [Lookup.fileName] = some target → target.isFile = false) :
      Chooses env files .defaults

theorem Environment.Chooses.unique {env : Environment} {files : FileTree} {origin other : Origin}
    (hchosen : env.Chooses files origin) (hother : env.Chooses files other) : other = origin := by
  cases hchosen <;> cases hother <;> simp_all

/-- Only what the environment says of the configuration matters for the choice. -/
theorem Environment.chooses_withLog {env : Environment} {files : FileTree} {origin : Origin}
    (hchosen : env.Chooses files origin) (log : Option (List UInt8)) :
    { env with log }.Chooses files origin := by
  cases hchosen with
  | named hnamed => exact .named hnamed
  | beside hunnamed hat hfile => exact .beside hunnamed hat hfile
  | defaults hunnamed hfile => exact .defaults hunnamed hfile

/-- Without a name in the environment only what is beside the program matters for it. -/
theorem Environment.chooses_of_at?_eq {env : Environment} {files files' : FileTree}
    {origin : Origin} (hunnamed : env.config = none)
    (hat : files'.at? [Lookup.fileName] = files.at? [Lookup.fileName])
    (hchosen : env.Chooses files origin) : env.Chooses files' origin := by
  cases hchosen with
  | named hnamed => exact nomatch hunnamed.symm.trans hnamed
  | beside _ hbeside hfile => exact .beside hunnamed (hat.trans hbeside) hfile
  | defaults _ hfile => exact .defaults hunnamed (hat ▸ hfile)

/-- There is always an origin. -/
theorem Environment.exists_chooses (env : Environment) (files : FileTree) :
    ∃ origin, env.Chooses files origin := by
  cases hconfig : env.config with
  | some path => exact ⟨.file path, .named hconfig⟩
  | none =>
    by_cases hbeside : ∃ target, files.at? [Lookup.fileName] = some target ∧ target.isFile = true
    · obtain ⟨target, hat, hfile⟩ := hbeside
      exact ⟨.file Lookup.besideProgram, .beside hconfig hat hfile⟩
    · refine ⟨.defaults, .defaults hconfig fun target hat => ?_⟩
      exact Bool.eq_false_iff.2 fun hfile => hbeside ⟨target, hat, hfile⟩

/-- The path of the file beside the program leads to what stands under its name. -/
theorem FileTree.resolve_besideProgram (files : FileTree) :
    files.resolve Lookup.besideProgram
      = (files.at? [Lookup.fileName]).elim (.error .notFound) .ok := by
  have hnames : Lookup.besideProgram.names = [[0x2E], Lookup.fileName] := by decide +kernel
  have hstart : (Lookup.besideProgram.head? == some Path.separator) = false := by decide +kernel
  have hhere : files.enter (.directory []) [0x2E] = .ok (.directory []) := rfl
  have hname : files.enter (.directory []) Lookup.fileName
      = (files.at? [Lookup.fileName]).elim (.error .notFound) .ok := by
    rw [enter, if_neg (by decide +kernel), if_neg (by decide +kernel), if_neg (by decide +kernel),
      List.nil_append]
    cases files.at? [Lookup.fileName] <;> rfl
  rw [resolve, if_neg (by decide +kernel), if_neg (by decide +kernel), if_neg (by decide +kernel)]
  simp only [hnames, hstart, Bool.false_eq_true, if_false, List.foldlM_cons, List.foldlM_nil]
  rw [hhere]
  show (files.enter (.directory []) Lookup.fileName >>= pure) = _
  rw [bind_pure, hname]

/-! ## What an origin says -/

/-- What an origin says: settings, or why it gives none. -/
inductive Origin.Says (files : FileTree) : Origin → Except ConfigError Settings → Prop where
  | defaults : Says files .defaults (.ok {})
  /-- The path leads nowhere. -/
  | nowhere {path : Path} {e : IoError} (hpath : files.resolve path = .error e) :
      Says files (.file path) (.error (.read path e))
  /-- It leads to a directory. -/
  | directory {path : Path} {target : FileTree.Target} (hpath : files.resolve path = .ok target)
      (hfile : target.isFile = false) :
      Says files (.file path) (.error (.read path .isADirectory))
  /-- It leads to a file that the program is not permitted to read. -/
  | withheld {path : Path} (hpath : files.resolve path = .ok .withheld) :
      Says files (.file path) (.error (.read path .permissionDenied))
  /-- It leads to a file whose bytes are those of no text. -/
  | notText {path : Path} {content : List UInt8}
      (hpath : files.resolve path = .ok (.file content))
      (htext : ∀ source, Text.encode source ≠ content) :
      Says files (.file path) (.error (.read path .notText))
  /-- The text writes no document. -/
  | malformed {path : Path} {source : String}
      (hpath : files.resolve path = .ok (.file (Text.encode source)))
      (hparse : Toml.parse? source = none) :
      Says files (.file path) (.error (@ConfigError.malformed source))
  /-- A setting in the document is wrong. -/
  | wrongSetting {path : Path} {source : String} {document : Toml.Entries} {e : SchemaError}
      (hpath : files.resolve path = .ok (.file (Text.encode source)))
      (hparse : Toml.parse? source = some document)
      (hsettings : Settings.ofDocument document = .error e) :
      Says files (.file path) (.error (.schema source e))
  | settings {path : Path} {source : String} {document : Toml.Entries} {s : Settings}
      (hpath : files.resolve path = .ok (.file (Text.encode source)))
      (hparse : Toml.parse? source = some document)
      (hsettings : Settings.ofDocument document = .ok s) : Says files (.file path) (.ok s)

namespace Lookup

variable {files : FileTree} {path : Path}

theorem readText_of_error {e : IoError} (hpath : files.resolve path = .error e) :
    readText files path = .error e := by
  rw [readText, FileTree.read, hpath]
  rfl

theorem readText_of_directory {target : FileTree.Target} (hpath : files.resolve path = .ok target)
    (hfile : target.isFile = false) : readText files path = .error .isADirectory := by
  rw [readText, FileTree.read, hpath]
  cases target with
  | file _ | withheld => cases hfile
  | directory _ | outside => rfl

theorem readText_of_withheld (hpath : files.resolve path = .ok .withheld) :
    readText files path = .error .permissionDenied := by
  rw [readText, FileTree.read, hpath]
  rfl

theorem readText_of_file {content : List UInt8}
    (hpath : files.resolve path = .ok (.file content)) :
    readText files path = (Text.decodeStrict content).mapError fun _ => .notText := by
  rw [readText, FileTree.read, hpath]
  rfl

theorem readText_of_text {source : String}
    (hpath : files.resolve path = .ok (.file (Text.encode source))) :
    readText files path = .ok source := by
  rw [readText_of_file hpath, Text.decodeStrict_eq_ok_iff.2 rfl]
  rfl

theorem readText_eq_ok_iff {source : String} :
    readText files path = .ok source
      ↔ files.resolve path = .ok (.file (Text.encode source)) := by
  refine ⟨fun hread => ?_, readText_of_text⟩
  cases hpath : files.resolve path with
  | error e =>
    rw [readText_of_error hpath] at hread
    cases hread
  | ok target =>
    cases target with
    | file content =>
      rw [readText_of_file hpath] at hread
      cases hdecode : Text.decodeStrict content with
      | error e =>
        rw [hdecode] at hread
        cases hread
      | ok decoded =>
        rw [hdecode] at hread
        cases hread
        rw [Text.decodeStrict_eq_ok_iff.1 hdecode]
    | withheld =>
      rw [readText_of_withheld hpath] at hread
      cases hread
    | directory _ | outside =>
      rw [readText_of_directory hpath rfl] at hread
      cases hread

/-- Loading a file that can be read gives what its bytes say. -/
theorem says_load_of_file {content : List UInt8}
    (hpath : files.resolve path = .ok (.file content)) :
    (Origin.file path).Says files (load files path).settings := by
  rw [load]
  by_cases htext : ∃ source, Text.encode source = content
  case neg =>
    have hnone (source : String) : Text.encode source ≠ content :=
      fun heq => htext ⟨source, heq⟩
    rw [readText_of_file hpath]
    cases hdecode : Text.decodeStrict content with
    | ok source => exact absurd (Text.decodeStrict_eq_ok_iff.1 hdecode) (hnone source)
    | error e => exact .notText hpath hnone
  obtain ⟨source, rfl⟩ := htext
  rw [readText_of_text hpath]
  show (Origin.file path).Says files (Settings.ofText source)
  cases hparse : Toml.parse? source with
  | none =>
    rw [Settings.ofText, hparse]
    exact .malformed hpath hparse
  | some document =>
    rw [ofText_eq hparse]
    cases hsettings : Settings.ofDocument document with
    | ok s => exact .settings hpath hparse hsettings
    | error e => exact .wrongSetting hpath hparse hsettings

/-- Loading a file gives what the file says. -/
theorem says_load (files : FileTree) (path : Path) :
    (Origin.file path).Says files (load files path).settings := by
  cases hpath : files.resolve path with
  | error e =>
    rw [load, readText_of_error hpath]
    exact .nowhere hpath
  | ok target =>
    cases target with
    | file content => exact says_load_of_file hpath
    | withheld =>
      rw [load, readText_of_withheld hpath]
      exact .withheld hpath
    | directory _ | outside =>
      rw [load, readText_of_directory hpath rfl]
      exact .directory hpath rfl

end Lookup

/-- Asking an origin. -/
def Origin.lookup (files : FileTree) : Origin → Lookup
  | file path => .load files path
  | defaults => ⟨none, .ok {}⟩

/-- An origin says one thing, and this is what comes of asking it. -/
theorem Origin.says_iff {files : FileTree} {origin : Origin} {r : Except ConfigError Settings} :
    origin.Says files r ↔ (origin.lookup files).settings = r := by
  constructor
  · intro hsays
    cases hsays with
    | defaults => rfl
    | nowhere hpath =>
      rw [lookup, Lookup.load, Lookup.readText_of_error hpath]
    | directory hpath hfile =>
      rw [lookup, Lookup.load, Lookup.readText_of_directory hpath hfile]
    | withheld hpath =>
      rw [lookup, Lookup.load, Lookup.readText_of_withheld hpath]
    | @notText _ content hpath htext =>
      rw [lookup, Lookup.load, Lookup.readText_of_file hpath]
      cases hdecode : Text.decodeStrict content with
      | ok source => exact absurd (Text.decodeStrict_eq_ok_iff.1 hdecode) (htext source)
      | error e => rfl
    | malformed hpath hparse =>
      rw [lookup, Lookup.load, Lookup.readText_of_text hpath]
      show Settings.ofText _ = _
      rw [Settings.ofText, hparse]
    | wrongSetting hpath hparse hsettings | settings hpath hparse hsettings =>
      rw [lookup, Lookup.load, Lookup.readText_of_text hpath]
      show Settings.ofText _ = _
      rw [ofText_eq hparse, hsettings]
      rfl
  · rintro rfl
    cases origin with
    | file path => exact Lookup.says_load files path
    | defaults => exact .defaults

/-- The file that was read is the origin, and its bytes are those of a text. -/
theorem Origin.loaded_lookup_eq_some_iff {files : FileTree} {origin : Origin} {path : Path} :
    (origin.lookup files).loaded = some path ↔
      origin = .file path ∧ ∃ source, files.resolve path = .ok (.file (Text.encode source)) := by
  cases origin with
  | defaults => exact iff_of_false (fun hnone => nomatch hnone) fun hnamed => nomatch hnamed.1
  | file named =>
    simp only [← Lookup.readText_eq_ok_iff, file.injEq]
    rw [lookup, Lookup.load]
    cases hread : Lookup.readText files named with
    | ok source =>
      refine ⟨fun hsome => ?_, fun hnamed => congrArg some hnamed.1⟩
      cases hsome
      exact ⟨rfl, source, hread⟩
    | error e =>
      refine iff_of_false (fun hnone => nomatch hnone) ?_
      rintro ⟨rfl, source, hsource⟩
      rw [hread] at hsource
      cases hsource

/-! ## The log level of the environment -/

/-- The log level of the environment is there if its bytes are those of a text. -/
theorem Environment.logLevel?_eq_some_iff {env : Environment} {level : String} :
    env.logLevel? = some level ↔ env.log = some (Text.encode level) := by
  rw [logLevel?, Option.bind_eq_some_iff]
  constructor
  · rintro ⟨bytes, hbytes, hlevel⟩
    cases hdecode : Text.decodeStrict bytes with
    | error e =>
      rw [hdecode] at hlevel
      cases hlevel
    | ok source =>
      rw [hdecode] at hlevel
      cases hlevel
      rw [hbytes, Text.decodeStrict_eq_ok_iff.1 hdecode]
  · intro hlog
    refine ⟨_, hlog, ?_⟩
    rw [Text.decodeStrict_eq_ok_iff.2 rfl]
    rfl

namespace Settings

variable (s : Settings) {env : Environment} {level : String}

@[simp] theorem input_overrideLog (level : Option String) :
    (s.overrideLog level).input = s.input := by
  cases level with
  | none => rfl
  | some level =>
    rw [overrideLog]
    split <;> rfl

/-- A level of the environment goes before the others, blank ones excepted. -/
theorem logLevel_overrideLog (hlog : env.log = some (Text.encode level))
    (hblank : Text.isBlank level = false) : (s.overrideLog env.logLevel?).logLevel = level := by
  rw [Environment.logLevel?_eq_some_iff.2 hlog, overrideLog, hblank, if_neg Bool.false_ne_true]

/-- If the environment has no level, or a blank one, nothing changes. -/
theorem overrideLog_of_blank
    (hlog : ∀ level, env.log = some (Text.encode level) → Text.isBlank level = true) :
    s.overrideLog env.logLevel? = s := by
  cases hlevel : env.logLevel? with
  | none => rfl
  | some level =>
    rw [overrideLog, if_pos (hlog level (Environment.logLevel?_eq_some_iff.1 hlevel))]

end Settings

/-! ## Looking for settings -/

namespace Lookup

variable {files : FileTree} {env : Environment} {origin : Origin}

/-- Looking for settings is asking the origin that the environment chooses. -/
theorem fromEnvironment_eq (hchosen : env.Chooses files origin) :
    fromEnvironment files env
      = { origin.lookup files with
          settings := (origin.lookup files).settings.map (·.overrideLog env.logLevel?) } := by
  have hisFile : files.isFile besideProgram = (files.at? [fileName]).any (·.isFile) := by
    rw [FileTree.isFile, FileTree.resolve_besideProgram]
    cases files.at? [fileName] <;> rfl
  have hdiscover : discover files here
      = if files.isFile besideProgram then load files besideProgram else ⟨none, .ok {}⟩ := rfl
  rw [fromEnvironment]
  cases hchosen with
  | named hnamed =>
    rw [hnamed]
    rfl
  | beside hunnamed hat hfile =>
    have hbeside : files.isFile besideProgram = true := by
      rw [hisFile, hat]
      exact hfile
    rw [hunnamed]
    simp only [hdiscover, if_pos hbeside]
    rfl
  | defaults hunnamed hfile =>
    have hnot : ¬ files.isFile besideProgram = true := by
      rw [hisFile, Option.any_eq_true]
      rintro ⟨target, hat, hbeside⟩
      exact Bool.eq_false_iff.1 (hfile target hat) hbeside
    rw [hunnamed]
    simp only [hdiscover, if_neg hnot]
    rfl

/-- There are no settings if the origin says that there are none. -/
theorem settings_eq_error_iff (hchosen : env.Chooses files origin) {e : ConfigError} :
    (fromEnvironment files env).settings = .error e ↔ origin.Says files (.error e) := by
  rw [Origin.says_iff, fromEnvironment_eq hchosen]
  cases (origin.lookup files).settings <;> simp [Except.map]

/-- Settings that are found are those of the origin, with the log level of the environment. -/
theorem exists_says_of_settings_eq_ok (hchosen : env.Chooses files origin) {s : Settings}
    (hs : (fromEnvironment files env).settings = .ok s) :
    ∃ s', origin.Says files (.ok s') ∧ s = s'.overrideLog env.logLevel? := by
  rw [fromEnvironment_eq hchosen] at hs
  cases hlookup : (origin.lookup files).settings with
  | error e =>
    simp only [hlookup] at hs
    cases hs
  | ok s' =>
    simp only [hlookup] at hs
    cases hs
    exact ⟨s', Origin.says_iff.2 hlookup, rfl⟩

/-- Where the same origin is chosen and answers alike, the same comes of it. -/
theorem fromEnvironment_eq_of_lookup_eq {files' : FileTree} (hchosen : env.Chooses files origin)
    (hchosen' : env.Chooses files' origin) (hlookup : origin.lookup files' = origin.lookup files) :
    fromEnvironment files' env = fromEnvironment files env := by
  rw [fromEnvironment_eq hchosen', fromEnvironment_eq hchosen, hlookup]

/-- Asking a file depends only on where its path leads. -/
theorem load_eq_of_resolve_eq {files' : FileTree} {path : Path}
    (hpath : files'.resolve path = files.resolve path) : load files' path = load files path := by
  rw [load, load, readText, readText, FileTree.read, FileTree.read, hpath]

end Lookup

end ScriptHost
