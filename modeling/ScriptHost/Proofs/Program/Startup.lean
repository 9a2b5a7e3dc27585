import ScriptHost.Proofs.Program.Setup

/-!
# Start-up

Threads take their steps in any order. What is fixed after any number of them, how each thread is
bound, and what the next step will say can be told from these steps alone.

- `conflictEvents`, `issued_configure`, `issued_initialization`: the events of an initialization.
- `begun`: a program before its first step.
- `ToldBy`, `run_toldBy`: what the steps so far tell about the state they lead to.
-/

namespace ScriptHost.Program

/-! ## What an initialization logs -/

section Events

variable (p : Program) (t : Thread)

theorem issued_prepared (s : Settings) : (p.prepared s).issued = p.issued := by
  obtain ⟨_, _, _, _, _, filter, fixedDecoding, _, _⟩ := p
  cases filter <;> cases fixedDecoding <;> rfl

/-- The warning that another decoding than the one asked for is in force, if it is. -/
def conflictEvents (requested active : Decoding) : List Log.Event :=
  if requested = active then [] else [conflictEvent requested active]

theorem issued_configure (s : Settings) :
    (p.configure t s).issued
      = p.issued ++ conflictEvents s.input.decoding (p.configure t s).decoding
        ++ [startedEvent s] := by
  have hwarned : (p.warned s).issued
      = p.issued ++ conflictEvents s.input.decoding (p.warned s).decoding := by
    rw [← issued_prepared p s, warned]
    by_cases heq : s.input.decoding = (p.prepared s).decoding
    · rw [if_pos heq, conflictEvents, if_pos heq, List.append_nil]
    · have hconflict : conflictEvents s.input.decoding (p.prepared s).decoding = _ := if_neg heq
      rw [if_neg heq]
      exact congrArg ((p.prepared s).issued ++ ·) hconflict.symm
  have hdecoding : (p.configure t s).decoding = (p.warned s).decoding := by
    rw [configure_eq]
    rfl
  rw [hdecoding, ← hwarned, configure_eq]
  rfl

theorem issued_logLoaded (loaded : Option Path) :
    (p.logLoaded loaded).issued = p.issued ++ loaded.toList.map loadedEvent := by
  cases loaded with
  | none => exact (List.append_nil _).symm
  | some path => rfl

/-- The events of an initialization for which a file may have been read. -/
theorem issued_configure_logLoaded (loaded : Option Path) (s : Settings) :
    ((p.logLoaded loaded).configure t s).issued
      = p.issued ++ (loaded.toList.map loadedEvent
        ++ conflictEvents s.input.decoding ((p.logLoaded loaded).configure t s).decoding
        ++ [startedEvent s]) := by
  rw [issued_configure, issued_logLoaded]
  simp only [List.append_assoc]

/-- Among the events of an initialization there is the warning, if it is due, and no other warning
of this kind. -/
theorem issued_initialization {what : Step} {s : Settings}
    (hs : what.settings? p.environmentSettings = some s) :
    ∃ early late, (p.step t what).2.issued
        = p.issued ++ (early ++ conflictEvents s.input.decoding (p.step t what).2.decoding ++ late)
      ∧ ∀ requested active, conflictEvent requested active ∉ early ++ late := by
  obtain ⟨loaded, failed, hstep⟩ := exists_step_of_settings p t hs
  have happlied := issued_configure_logLoaded p t loaded s
  rw [hstep]
  cases failed with
  | none =>
    refine ⟨_, _, happlied, fun _ _ => ?_⟩
    simp [conflictEvent, loadedEvent, startedEvent]
  | some e =>
    refine ⟨loaded.toList.map loadedEvent, [startedEvent s] ++ [p.defaultsEvent e], ?_,
      fun _ _ => ?_⟩
    · have hlogged := congrArg (· ++ [p.defaultsEvent e]) happlied
      simp only [List.append_assoc] at hlogged ⊢
      exact hlogged
    · simp [conflictEvent, loadedEvent, startedEvent, defaultsEvent]

end Events

/-! ## What a history tells -/

/-- A program that has just begun: nothing is fixed, and no thread has bindings. -/
def begun (files : FileTree) (environment : Environment) (stdin : Input) (stdout : LineBuffer)
    (stderr : Sink) (syntaxText : String → String := fun _ => "") : Program :=
  { files, environment, stdin, stdout, stderr, syntaxText }

/-- What the steps `h` of the threads of a program `p` that has just begun tell about the state `q`
that they lead to. -/
structure ToldBy (p : Program) (h : List (Thread × Step)) (q : Program) : Prop where
  /-- The decoding is lossy until a step asks for one, and from then on the one it asked for. -/
  decoding : q.decoding = (h.findSome? fun c => c.2.decoding? p.environmentSettings).getD .lossy
  /-- The call that fixes the decoding succeeds if no step asked for one before. -/
  isFirst : ∀ t d, (q.step t (.fixDecoding d)).1
    = .truth (h.all fun c => (c.2.decoding? p.environmentSettings).isNone)
  /-- So does the one that an initialization makes, after it opened the log. -/
  isFirst_within : ∀ loaded level d, (((q.logLoaded loaded).openLog level).2.fixDecoding d).1
    = h.all fun c => (c.2.decoding? p.environmentSettings).isNone
  /-- The log is opened with the level of the first step that asks for one. -/
  filter : q.filter = (h.findSome? fun c => c.2.level? p.environmentSettings).map .ofSetting
  /-- The next initialization warns, once, if it asks for another decoding than the one in force. -/
  warning : ∀ t what s, what.settings? p.environmentSettings = some s →
    ∃ early late, (q.step t what).2.issued
        = q.issued ++ (early ++ conflictEvents s.input.decoding (q.step t what).2.decoding ++ late)
      ∧ ∀ requested active, conflictEvent requested active ∉ early ++ late
  /-- And it leaves its thread with the decoding in force. -/
  rebound : ∀ t what s, what.settings? p.environmentSettings = some s →
    (q.step t what).2.bindings t = some ⟨.standard, (q.step t what).2.decoding⟩
  /-- No step of another thread changes the bindings of a thread. -/
  others : ∀ t u what, u ≠ t → (q.step u what).2.bindings t = q.bindings t
  /-- The latest bindings that a thread gave itself are those it has. -/
  latest : ∀ t before what after b, h = before ++ (t, what) :: after →
    what.rebinding? p.environmentSettings q.decoding = some b →
    Keeps p.environmentSettings t after → q.bindings t = some b
  /-- A thread that gave itself none has those that were made when it first needed some, with the
  decoding that was in force then. -/
  firstUse : ∀ t before what after, h = before ++ (t, what) :: after →
    Keeps p.environmentSettings t h → DoesWithout t before → what.needsBindings = true →
    q.bindings t = some ⟨.standard, (p.run before).2.decoding⟩
  /-- A thread that did without so far would be given some with the decoding in force. -/
  unused : ∀ t, Keeps p.environmentSettings t h → DoesWithout t h →
    q.bindings t = none ∧ (q.bound t).1 = ⟨.standard, q.decoding⟩

/-- The steps of all threads so far, in whichever order they were taken, tell what is fixed and how
each thread is bound. -/
theorem run_toldBy (files : FileTree) (environment : Environment) (stdin : Input)
    (stdout : LineBuffer) (stderr : Sink) (syntaxText : String → String)
    (h : List (Thread × Step)) :
    ToldBy (begun files environment stdin stdout stderr syntaxText) h
      ((begun files environment stdin stdout stderr syntaxText).run h).2 := by
  have hfixed : (begun files environment stdin stdout stderr syntaxText).setup.fixedDecoding
      = none := rfl
  have hfilter : (begun files environment stdin stdout stderr syntaxText).setup.filter = none := rfl
  have hbindings (t : Thread) :
      (begun files environment stdin stdout stderr syntaxText).setup.bindings t = none := rfl
  generalize begun files environment stdin stdout stderr syntaxText = p
    at hfixed hfilter hbindings ⊢
  have hrun (h : List (Thread × Step)) := setup_run p h
  have hisNone : (p.run h).2.setup.fixedDecoding.isNone
      = h.all fun c => (c.2.decoding? p.environmentSettings).isNone := by
    rw [hrun, Setup.fixedDecoding_afterAll, hfixed, Option.none_or, Bool.eq_iff_iff,
      Option.isNone_iff_eq_none, List.findSome?_eq_none_iff, List.all_eq_true]
    exact forall₂_congr fun c _ => Option.isNone_iff_eq_none.symm
  constructor
  case decoding =>
    show (p.run h).2.setup.decoding = _
    rw [hrun, Setup.decoding, Setup.fixedDecoding_afterAll, hfixed, Option.none_or]
    rfl
  case isFirst =>
    intro t d
    rw [← hisNone, ← fixDecoding_fst _ d]
    rfl
  case isFirst_within =>
    intro loaded level d
    rw [fixDecoding_fst, setup_openLog, setup_logLoaded]
    exact hisNone
  case filter =>
    show (p.run h).2.setup.filter = _
    rw [hrun, Setup.filter_afterAll, hfilter, Option.none_or]
    rfl
  case warning =>
    intro t what s hs
    rw [← environmentSettings_run p h] at hs
    exact issued_initialization _ t hs
  case rebound =>
    intro t what s hs
    rw [← environmentSettings_run p h] at hs
    exact bindings_step_of_settings _ t hs
  case others => exact fun t u what hu => bindings_step_of_ne _ t what hu
  case latest =>
    intro t before what after b hh hb hkeeps
    show (p.run h).2.setup.bindings t = some b
    have hb' : what.rebinding? p.environmentSettings (p.run h).2.setup.decoding = some b := hb
    rw [hrun, hh] at hb' ⊢
    exact Setup.bindings_of_latest before what hb' hkeeps
  case firstUse =>
    intro t before what after hh hkeeps hwithout hneeds
    show (p.run h).2.setup.bindings t = some ⟨.standard, (p.run before).2.setup.decoding⟩
    rw [hh] at hkeeps
    rw [hrun, hrun, hh]
    exact Setup.bindings_of_firstUse (hbindings t) hkeeps hwithout hneeds
  case unused =>
    intro t hkeeps hwithout
    have hnone : (p.run h).2.setup.bindings t = none := by
      rw [hrun]
      exact Setup.bindings_afterAll_of_doesWithout (hbindings t) hkeeps hwithout
    refine ⟨hnone, ?_⟩
    rw [(bound_setup _ t).1, Setup.needed, hnone, Option.getD_none]
    rfl

/-- One thread asks for its decoding before another initializes the program, a third one does so
afterwards. -/
theorem run_toldBy_three_threads :
    let h : List (Thread × Step) := [(⟨1⟩, .boundDecoding),
      (.main, .apply { input := { decoding := .strict } }), (⟨2⟩, .boundDecoding)]
    let q := ((begun ⟨[]⟩ {} (.bytes []) {} {}).run h).2
    q.decoding = .strict ∧ q.bindings ⟨1⟩ = some ⟨.standard, .lossy⟩
      ∧ q.bindings .main = some ⟨.standard, .strict⟩
      ∧ q.bindings ⟨2⟩ = some ⟨.standard, .strict⟩ := by
  intro h q
  have told := run_toldBy ⟨[]⟩ {} (.bytes []) {} {} (fun _ => "") h
  refine ⟨told.decoding, ?_, ?_, ?_⟩
  · refine told.firstUse ⟨1⟩ [] .boundDecoding _ rfl ?_ (fun c hc => nomatch hc) rfl
    simp [Keeps, h, Step.rebinding?, Step.settings?, Thread.main]
  · refine told.latest .main [(⟨1⟩, .boundDecoding)] _ [(⟨2⟩, .boundDecoding)] _ rfl rfl ?_
    simp [Keeps, Thread.main]
  · refine told.firstUse ⟨2⟩ (h.take 2) .boundDecoding [] rfl ?_ ?_ rfl
    · simp [Keeps, h, Step.rebinding?, Step.settings?, Thread.main]
    · simp [DoesWithout, h, Thread.main]

end ScriptHost.Program
