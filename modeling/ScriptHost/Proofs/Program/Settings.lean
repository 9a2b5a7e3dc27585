import ScriptHost.Proofs.Config.Origin
import ScriptHost.Proofs.Log.Filter
import ScriptHost.Proofs.Program.Startup

/-!
# Which settings a program starts with

A program takes its settings from one origin. If the origin gives none, no other one is asked: the
program goes on with the defaults and says so. The log level of the environment goes before the one
of the origin, but not before the one of these defaults.

- `found`: what comes of looking for the settings of a program.
- `start_of_ok`, `start_of_error`: the two ways in which a start goes.
- `filter_start`, `decoding_start`: what the first start fixes.
- `SettledBy`, `settings_from_one_origin`: what the settings of a program depend on.
- `log_level_of_start`, `not_log_level_of_environment`: the level with which a start opens the log.
-/

namespace ScriptHost.Program

/-- What comes of looking for the settings of a program. -/
def found (p : Program) : Lookup := Lookup.fromEnvironment p.files p.environment

section Start

variable (p : Program) (t : Thread)

theorem start_of_ok {s : Settings} (hs : p.found.settings = .ok s) :
    p.start t = (true, (p.logLoaded p.found.loaded).configure t s) := by
  rw [found] at hs
  rw [start, hs]
  rfl

theorem start_of_error {e : ConfigError} (he : p.found.settings = .error e) :
    p.start t
      = (false, ((p.logLoaded p.found.loaded).configure t {}).log (p.defaultsEvent e)) := by
  rw [found] at he
  rw [start, he]
  rfl

theorem environmentSettings_of_ok {s : Settings} (hs : p.found.settings = .ok s) :
    p.environmentSettings = s := by
  rw [found] at hs
  rw [environmentSettings, hs]

theorem environmentSettings_of_error {e : ConfigError} (he : p.found.settings = .error e) :
    p.environmentSettings = {} := by
  rw [found] at he
  rw [environmentSettings, he]

theorem start_fst_eq_true_iff :
    (p.start t).1 = true ↔ ∃ s, p.found.settings = .ok s := by
  cases hfound : p.found.settings with
  | ok s => simp [start_of_ok p t hfound]
  | error e => simp [start_of_error p t hfound]

theorem start_fst_eq_false_iff :
    (p.start t).1 = false ↔ ∃ e, p.found.settings = .error e := by
  cases hfound : p.found.settings with
  | ok s => simp [start_of_ok p t hfound]
  | error e => simp [start_of_error p t hfound]

/-- A start that goes well applies the settings that were found. -/
theorem found_of_start_fst (hok : (p.start t).1 = true) :
    p.found.settings = .ok p.environmentSettings := by
  obtain ⟨s, hs⟩ := (start_fst_eq_true_iff p t).1 hok
  rw [environmentSettings_of_ok p hs, hs]

/-- A start is an initialization with the settings that were found, or else with the defaults. -/
theorem setup_start : (p.start t).2.setup = p.setup.after t .start := setup_step p t .start

/-- The first start opens the log with the level of its settings. -/
theorem filter_start (hclosed : p.filter = none) :
    (p.start t).2.filter = some (.ofSetting p.environmentSettings.logLevel) := by
  have hfilter : (p.start t).2.filter
      = p.filter.or (some (.ofSetting p.environmentSettings.logLevel)) :=
    congrArg Setup.filter (setup_start p t)
  rw [hfilter, hclosed, Option.none_or]

/-- And it fixes their decoding. -/
theorem decoding_start (hunfixed : p.fixedDecoding = none) :
    (p.start t).2.decoding = p.environmentSettings.input.decoding := by
  have hfixed : (p.start t).2.fixedDecoding
      = p.fixedDecoding.or (some p.environmentSettings.input.decoding) :=
    congrArg Setup.fixedDecoding (setup_start p t)
  rw [decoding, hfixed, hunfixed, Option.none_or, Option.getD_some]

/-- A start logs which settings are in force, the defaults included. -/
theorem startedEvent_mem_issued_start :
    startedEvent p.environmentSettings ∈ (p.start t).2.issued := by
  have hstarted (s : Settings) :
      startedEvent s ∈ ((p.logLoaded p.found.loaded).configure t s).issued := by
    rw [issued_configure]
    exact List.mem_append_right _ (List.mem_singleton.2 rfl)
  cases hfound : p.found.settings with
  | ok s =>
    rw [environmentSettings_of_ok p hfound, start_of_ok p t hfound]
    exact hstarted s
  | error e =>
    rw [environmentSettings_of_error p hfound, start_of_error p t hfound]
    exact List.mem_append_left _ (hstarted {})

end Start

/-! ## The settings of an origin -/

/-- The settings of a program come from an origin, and only from it. -/
structure SettledBy (p : Program) (origin : Origin) : Prop where
  chosen : p.environment.Chooses p.files origin
  only : ∀ other, p.environment.Chooses p.files other → other = origin
  /-- The origin says one thing. -/
  answers : ∃ r, ∀ other, origin.Says p.files other ↔ other = r
  /-- No file is read but the one that is the origin. -/
  loaded : ∀ path, p.found.loaded = some path ↔
    origin = .file path ∧ ∃ source, p.files.resolve path = .ok (.file (Text.encode source))
  /-- An error of the origin is final. -/
  fails : ∀ e, p.found.settings = .error e ↔ origin.Says p.files (.error e)
  /-- If there are settings, then the origin gave some. -/
  given : ∀ s, p.found.settings = .ok s → ∃ s', origin.Says p.files (.ok s')
    ∧ s.input = s'.input
    ∧ ((∀ level, p.environment.log = some (Text.encode level) → Text.isBlank level = true) →
        s.logLevel = s'.logLevel)
  /-- The log level of the environment is taken as it is, unless it is blank or no text. -/
  level : ∀ s, p.found.settings = .ok s → ∀ level, p.environment.log = some (Text.encode level) →
    Text.isBlank level = false → s.logLevel = level
  /-- Apart from it the settings do not depend on what the environment says about the log. -/
  input : ∀ log, (Lookup.fromEnvironment p.files { p.environment with log }).settings.map (·.input)
    = p.found.settings.map (·.input)
  /-- A file that the environment names is all that matters. -/
  named : ∀ path, p.environment.config = some path → ∀ files : FileTree,
    files.resolve path = p.files.resolve path →
    Lookup.fromEnvironment files p.environment = p.found
  /-- In particular it does not matter what is beside the program, if the path of the named file
  does not come by there. -/
  besideIgnored : ∀ path, p.environment.config = some path → path.Avoids Lookup.fileName →
    ∀ files, FileTree.AgreeOff Lookup.fileName files p.files →
    Lookup.fromEnvironment files p.environment = p.found
  /-- If it names none, then what is beside the program is all that matters. -/
  unnamed : p.environment.config = none → ∀ files : FileTree,
    files.at? [Lookup.fileName] = p.files.at? [Lookup.fileName] →
    Lookup.fromEnvironment files p.environment = p.found
  /-- The program starts well if there are settings, -/
  succeeds : ∀ t, (p.start t).1 = true ↔ ∃ s, p.found.settings = .ok s
  /-- and then these are applied. -/
  started : ∀ t s, p.found.settings = .ok s →
    (p.start t).2 = ((p.logLoaded p.found.loaded).step t (.apply s)).2

/-- The settings of a program come from one origin. -/
theorem settings_from_one_origin (p : Program) : ∃ origin, p.SettledBy origin := by
  obtain ⟨origin, hchosen⟩ := p.environment.exists_chooses p.files
  have hfound : p.found = _ := Lookup.fromEnvironment_eq hchosen
  have hgiven {s : Settings} (hs : p.found.settings = .ok s) :=
    Lookup.exists_says_of_settings_eq_ok hchosen hs
  have hnamed {path : Path} (hconfig : p.environment.config = some path) {files : FileTree}
      (hpath : files.resolve path = p.files.resolve path) :
      Lookup.fromEnvironment files p.environment = p.found := by
    obtain rfl : Origin.file path = origin := hchosen.unique (.named hconfig)
    exact Lookup.fromEnvironment_eq_of_lookup_eq hchosen (.named hconfig)
      (Lookup.load_eq_of_resolve_eq hpath)
  refine ⟨origin, ⟨hchosen, fun other => hchosen.unique, ?answers, ?loaded,
    fun e => Lookup.settings_eq_error_iff hchosen, ?given, ?level, ?input,
    fun path hconfig files => hnamed hconfig, ?besideIgnored, ?unnamed,
    fun t => start_fst_eq_true_iff p t, ?started⟩⟩
  case answers =>
    refine ⟨(origin.lookup p.files).settings, fun other => ?_⟩
    rw [Origin.says_iff, eq_comm]
  case loaded =>
    intro path
    rw [hfound]
    exact Origin.loaded_lookup_eq_some_iff
  case given =>
    intro s hs
    obtain ⟨s', hsays, rfl⟩ := hgiven hs
    refine ⟨s', hsays, s'.input_overrideLog _, fun hblank => ?_⟩
    rw [s'.overrideLog_of_blank hblank]
  case level =>
    intro s hs level hlog hblank
    obtain ⟨s', -, rfl⟩ := hgiven hs
    exact s'.logLevel_overrideLog hlog hblank
  case input =>
    intro log
    rw [hfound, Lookup.fromEnvironment_eq (Environment.chooses_withLog hchosen log)]
    cases (origin.lookup p.files).settings <;> simp [Except.map]
  case besideIgnored =>
    intro path hconfig havoids files hagree
    exact hnamed hconfig (FileTree.resolve_eq_of_agreeOff hagree havoids)
  case unnamed =>
    -- The same is beside the program, so the same origin is chosen, and it says the same.
    intro hunnamed files hat
    have hchosen' := Environment.chooses_of_at?_eq hunnamed hat hchosen
    refine Lookup.fromEnvironment_eq_of_lookup_eq hchosen hchosen' ?_
    cases hchosen with
    | named hconfig => exact nomatch hunnamed.symm.trans hconfig
    | beside _ _ _ =>
      refine Lookup.load_eq_of_resolve_eq ?_
      rw [FileTree.resolve_besideProgram, FileTree.resolve_besideProgram, hat]
    | defaults _ _ => rfl
  case started =>
    intro t s hs
    rw [start_of_ok p t hs]
    rfl

/-- A file that may not be read beside the program. If another one is named it does not matter, and
the log level of the environment is taken as it is; otherwise it is the origin, and there are no
settings. -/
theorem settings_from_one_origin_withheld :
    let files : FileTree :=
      ⟨[([Text.encode "app.toml"], some (Text.encode "[runtime]\nlog_level = \"info\"\n")),
        ([Lookup.fileName], some .withheld)]⟩
    let named := begun files
      { log := some (Text.encode " debug"), config := some (Text.encode "app.toml") }
      (.bytes []) {} {}
    let unnamed := begun files { log := some (Text.encode " debug") } (.bytes []) {} {}
    (∃ s, named.found.settings = .ok s ∧ s.logLevel = " debug" ∧ ∀ files' : FileTree,
        FileTree.AgreeOff Lookup.fileName files' files →
        Lookup.fromEnvironment files' named.environment = named.found)
      ∧ unnamed.found.settings = .error (.read Lookup.besideProgram .permissionDenied)
      ∧ (unnamed.start .main).1 = false := by
  intro files named unnamed
  constructor
  · -- the named file can be read, and its path does not come by the other one
    obtain ⟨origin, hsettled⟩ := settings_from_one_origin named
    obtain ⟨s, hs⟩ := (hsettled.succeeds .main).1 (by decide +kernel)
    have havoids : Path.Avoids (Text.encode "app.toml") Lookup.fileName := by decide +kernel
    exact ⟨s, hs, hsettled.level s hs " debug" rfl (by decide +kernel),
      hsettled.besideIgnored (Text.encode "app.toml") rfl havoids⟩
  · -- the file beside the program is there, so the defaults are not the origin
    obtain ⟨origin, hsettled⟩ := settings_from_one_origin unnamed
    have hat : files.at? [Lookup.fileName] = some .withheld := by decide +kernel
    obtain rfl : Origin.file Lookup.besideProgram = origin :=
      hsettled.only _ (.beside rfl hat rfl)
    have hwithheld : files.resolve Lookup.besideProgram = .ok .withheld := by
      rw [FileTree.resolve_besideProgram, hat]
      rfl
    have herror : unnamed.found.settings
        = .error (.read Lookup.besideProgram .permissionDenied) :=
      (hsettled.fails _).2 (.withheld hwithheld)
    refine ⟨herror, Bool.eq_false_iff.2 fun hstart => ?_⟩
    obtain ⟨s, hs⟩ := (hsettled.succeeds .main).1 hstart
    rw [herror] at hs
    exact nomatch hs

/-! ## The log level of the environment -/

/-- If the environment has a log level that is not blank, a start opens the log with this level as
long as there are settings. If there are none the log is opened with the level of the defaults,
whatever the environment says. -/
theorem log_level_of_start (p : Program) (t : Thread) (level : String) (hclosed : p.filter = none)
    (hlog : p.environment.log = some (Text.encode level)) (hblank : Text.isBlank level = false) :
    p.environmentSettings.logLevel = (if (p.start t).1 then level else "warn")
      ∧ (p.start t).2.filter = some (.ofSetting (if (p.start t).1 then level else "warn"))
      ∧ startedEvent p.environmentSettings ∈ (p.start t).2.issued
      ∧ ((p.start t).1 = false ↔
          ∃ origin e, p.environment.Chooses p.files origin ∧ origin.Says p.files (.error e)) := by
  obtain ⟨origin, hchosen⟩ := p.environment.exists_chooses p.files
  have hlevel : p.environmentSettings.logLevel = if (p.start t).1 then level else "warn" := by
    cases hfound : p.found.settings with
    | ok s =>
      obtain ⟨s', -, hs⟩ := Lookup.exists_says_of_settings_eq_ok hchosen hfound
      rw [environmentSettings_of_ok p hfound, start_of_ok p t hfound, if_pos rfl, hs]
      exact s'.logLevel_overrideLog hlog hblank
    | error e =>
      rw [environmentSettings_of_error p hfound, start_of_error p t hfound,
        if_neg Bool.false_ne_true]
  refine ⟨hlevel, ?filter, ?started, ?fails⟩
  case filter =>
    rw [filter_start p t hclosed, hlevel]
  case started => exact startedEvent_mem_issued_start p t
  case fails =>
    rw [start_fst_eq_false_iff]
    constructor
    · rintro ⟨e, he⟩
      exact ⟨origin, e, hchosen, (Lookup.settings_eq_error_iff hchosen).1 he⟩
    · rintro ⟨other, e, hother, hsays⟩
      exact ⟨e, (Lookup.settings_eq_error_iff hother).2 hsays⟩

/-- Without a file the log is opened with the level of the environment, white space and all. -/
theorem log_level_of_start_padded :
    let p := begun ⟨[]⟩ { log := some (Text.encode " debug") } (.bytes []) {} {}
    (p.start .main).1 = true ∧ (p.start .main).2.filter = some (.ofSetting " debug") := by
  intro p
  have hok : (p.start .main).1 = true := by decide +kernel
  obtain ⟨-, hfilter, -, -⟩ :=
    log_level_of_start p .main " debug" rfl rfl (by decide +kernel)
  rw [hok, if_pos rfl] at hfilter
  exact ⟨hok, hfilter⟩

/-- The log is not always opened with the level of the environment: where there are no settings
because a file is missing, it is opened with the one of the defaults. -/
theorem not_log_level_of_environment :
    ¬ ∀ (files : FileTree) (environment : Environment) (t : Thread) (level : String),
      environment.log = some (Text.encode level) → Text.isBlank level = false →
      ((begun files environment (.bytes []) {} {}).start t).2.filter = some (.ofSetting level) := by
  intro hlevel
  let environment : Environment :=
    { log := some (Text.encode "error"), config := some (Text.encode "missing.toml") }
  let p := begun ⟨[]⟩ environment (.bytes []) {} {}
  have herror : (p.start .main).2.filter = some (.ofSetting Log.Level.error.name) :=
    hlevel ⟨[]⟩ environment .main "error" rfl (by decide +kernel)
  have hwarn : (p.start .main).2.filter = some (.ofSetting Log.Level.warn.name) := by
    have hdefault : p.environmentSettings.logLevel = "warn" := by decide +kernel
    rw [filter_start p .main rfl, hdefault]
    rfl
  rw [hwarn, Log.Filter.ofSetting_name, Log.Filter.ofSetting_name] at herror
  exact absurd herror (by decide)

end ScriptHost.Program
