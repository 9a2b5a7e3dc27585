import ScriptHost.Program.Step

/-!
# What a program has fixed and bound

The log filter and the decoding of input are fixed once for all threads of a program, by whichever
step comes first. Each thread has its own bindings: they are made when they are first needed, and
replaced when the thread asks for it. An initialization is one step here, and its parts are steps
of their own as well, so that a history may also have them one by one, with steps of other threads
in between.

- `Step.settings?`, `Step.decoding?`, `Step.level?`: the settings that a step applies, and what it
  wants to fix.
- `Step.rebinding?`, `Step.needsBindings`: what a step does about the bindings of its thread.
- `Keeps`, `DoesWithout`: what a thread does about its bindings in a history.
- `Setup`, `Setup.after`: what a program has fixed and bound, and what a step makes of it.
- `setup_step`, `setup_run`: a step and a run of a program, seen on its setup.
- `fixedDecoding_afterAll`, `filter_afterAll`: who comes first decides.
- `bindings_after_of_ne`, `bindings_afterAll_of_keeps`, `bindings_afterAll_of_doesWithout`: bindings
  are a matter of their own thread.
- `bindings_of_latest`, `bindings_of_firstUse`: where the bindings of a thread come from.
- `bindings_step_of_settings`, `bindings_step_of_ne`: the same for a step of a program.
-/

namespace ScriptHost.Program

/-! ## What a step is about -/

namespace Step

/-- The settings that a step applies, if it applies any. `own` are the settings for the
environment. -/
def settings? (own : Settings) : Step → Option Settings
  | start => some own
  | apply s => some s
  | configure source => (Settings.ofText source).toOption
  | _ => none

/-- The decoding that a step wants to fix. -/
def decoding? (own : Settings) : Step → Option Decoding
  | fixDecoding d => some d
  | what => (what.settings? own).map (·.input.decoding)

/-- The level with which a step wants to open the log. -/
def level? (own : Settings) : Step → Option String
  | openLog level => some level
  | what => (what.settings? own).map (·.logLevel)

/-- The bindings that a step puts in the place of those of its thread. `active` is the decoding
that is in force after it. -/
def rebinding? (own : Settings) (active : Decoding) : Step → Option Bindings
  | bind b => some b
  | what => (what.settings? own).map fun _ => ⟨.standard, active⟩

/-- Whether a step needs the bindings of its thread. -/
def needsBindings : Step → Bool
  | boundDecoding | readCounted | read | tryRead | rawPrint _ _ => true
  | _ => false

section Settings

variable {own : Settings} {what : Step}

/-- A step that applies settings wants to fix their decoding. -/
theorem decoding?_of_settings {s : Settings} (hs : what.settings? own = some s) :
    what.decoding? own = some s.input.decoding := by
  have hwanted := congrArg (Option.map (·.input.decoding)) hs
  cases what with
  | start | apply _ | configure _ => exact hwanted
  | _ => cases hs

/-- A step that applies settings binds its thread to the standard streams. -/
theorem rebinding?_of_settings {s : Settings} (hs : what.settings? own = some s) (d : Decoding) :
    what.rebinding? own d = some ⟨.standard, d⟩ := by
  have hbound := congrArg (Option.map fun _ => (⟨.standard, d⟩ : Bindings)) hs
  cases what with
  | start | apply _ | configure _ => exact hbound
  | _ => cases hs

/-- The decoding in force matters only to a step that applies settings. -/
theorem rebinding?_of_no_settings (hs : what.settings? own = none) (d d' : Decoding) :
    what.rebinding? own d = what.rebinding? own d' := by
  have hnone (d : Decoding) := congrArg (Option.map fun _ => (⟨.standard, d⟩ : Bindings)) hs
  cases what with
  | start | apply _ => cases hs
  | configure _ => exact (hnone d).trans (hnone d').symm
  | _ => rfl

end Settings

end Step

/-- Whether a thread leaves its bindings alone, whatever decoding is in force. -/
def Keeps (own : Settings) (t : Thread) (h : List (Thread × Step)) : Prop :=
  ∀ c ∈ h, c.1 = t → ∀ d, c.2.rebinding? own d = none

/-- Whether a thread does without bindings. -/
def DoesWithout (t : Thread) (h : List (Thread × Step)) : Prop :=
  ∀ c ∈ h, c.1 = t → c.2.needsBindings = false

/-! ## Setups -/

/-- The settings that `start` applies: those for the environment, or the defaults. -/
def environmentSettings (p : Program) : Settings :=
  match (Lookup.fromEnvironment p.files p.environment).settings with
  | .ok s => s
  | .error _ => {}

/-- What a program has fixed and bound. -/
@[ext] structure Setup where
  /-- The settings for the environment. -/
  own : Settings
  filter : Option Log.Filter
  fixedDecoding : Option Decoding
  bindings : Thread → Option Bindings

/-- The setup of a program. -/
def setup (p : Program) : Setup := ⟨p.environmentSettings, p.filter, p.fixedDecoding, p.bindings⟩

namespace Setup

/-- The decoding in force. -/
def decoding (x : Setup) : Decoding := x.fixedDecoding.getD .lossy

/-- The setup with the bindings of a thread replaced. -/
def withBindings (x : Setup) (t : Thread) (b : Option Bindings) : Setup :=
  { x with bindings := fun u => if u = t then b else x.bindings u }

/-- The bindings of a thread, made if there are none. -/
def needed (x : Setup) (t : Thread) : Bindings := (x.bindings t).getD ⟨.standard, x.decoding⟩

/-- The setup after a step fixed what it wants to fix. What is fixed already stays. -/
def fix (x : Setup) (what : Step) : Setup :=
  { x with
    filter := x.filter.or ((what.level? x.own).map .ofSetting)
    fixedDecoding := x.fixedDecoding.or (what.decoding? x.own) }

/-- What a step of a thread makes of a setup. The bindings of the thread are those that the step
replaces them by, or else those that the thread had, or else, if the step needs some, those that
are made for it. -/
def after (x : Setup) (t : Thread) (what : Step) : Setup :=
  (x.fix what).withBindings t ((what.rebinding? x.own (x.fix what).decoding).or
    (if what.needsBindings then some (x.needed t) else x.bindings t))

/-- What the steps of a history make of a setup, one after another. -/
def afterAll (x : Setup) (h : List (Thread × Step)) : Setup :=
  h.foldl (fun x c => x.after c.1 c.2) x

@[simp] theorem withBindings_self (x : Setup) (t : Thread) :
    x.withBindings t (x.bindings t) = x := by
  refine Setup.ext rfl rfl rfl (funext fun u => ?_)
  by_cases hu : u = t
  · rw [hu]
    exact if_pos rfl
  · exact if_neg hu

@[simp] theorem withBindings_twice (x : Setup) (t : Thread) (b b' : Option Bindings) :
    (x.withBindings t b).withBindings t b' = x.withBindings t b' := by
  refine Setup.ext rfl rfl rfl (funext fun u => ?_)
  by_cases hu : u = t
  · exact (if_pos hu).trans (if_pos hu).symm
  · exact (if_neg hu).trans ((if_neg hu).trans (if_neg hu).symm)

/-- What was made for a thread is there when it is needed again. -/
@[simp] theorem needed_withBindings (x : Setup) (t : Thread) (b : Bindings) :
    (x.withBindings t (some b)).needed t = b := by
  simp [needed, withBindings]

/-- A step that wants to fix nothing fixes nothing. -/
theorem fix_of_idle {x : Setup} {what : Step} (hlevel : what.level? x.own = none)
    (hdecoding : what.decoding? x.own = none) : x.fix what = x := by
  rw [fix, hlevel, hdecoding, Option.map_none, Option.or_none, Option.or_none]

/-- A step that is not about bindings does no more than fix what it wants to fix. -/
theorem after_of_unbound {x : Setup} {t : Thread} {what : Step}
    (hrebinding : ∀ d, what.rebinding? x.own d = none) (hneeds : what.needsBindings = false) :
    x.after t what = x.fix what := by
  rw [after, hrebinding, Option.none_or, hneeds, if_neg Bool.false_ne_true]
  exact withBindings_self (x.fix what) t

/-- A step that needs bindings, and is about nothing else, does no more than make them. -/
theorem after_of_needing {x : Setup} {t : Thread} {what : Step} (hlevel : what.level? x.own = none)
    (hdecoding : what.decoding? x.own = none) (hrebinding : ∀ d, what.rebinding? x.own d = none)
    (hneeds : what.needsBindings = true) :
    x.after t what = x.withBindings t (some (x.needed t)) := by
  rw [after, fix_of_idle hlevel hdecoding, hrebinding, Option.none_or, if_pos hneeds]

/-- All initializations with the same settings do the same. -/
theorem after_of_settings {x : Setup} (t : Thread) {what : Step} {s : Settings}
    (hs : what.settings? x.own = some s) : x.after t what = x.after t (.apply s) := by
  cases what with
  | start =>
    cases hs
    rfl
  | apply s' =>
    cases hs
    rfl
  | configure source =>
    simp only [after, fix, Step.level?, Step.decoding?, Step.rebinding?, hs]
    rfl
  | _ => cases hs

end Setup

/-! ## One step -/

section Frame

variable (p : Program) (t : Thread)

theorem setup_log (e : Log.Event) : (p.log e).setup = p.setup := rfl

theorem setup_logLoaded (loaded : Option Path) : (p.logLoaded loaded).setup = p.setup := by
  cases loaded <;> rfl

theorem setup_openLog (level : String) :
    (p.openLog level).2.setup
      = { p.setup with filter := p.setup.filter.or (some (.ofSetting level)) } := by
  obtain ⟨_, _, _, _, _, filter, _, _, _⟩ := p
  cases filter <;> rfl

theorem setup_fixDecoding (d : Decoding) :
    (p.fixDecoding d).2.setup
      = { p.setup with fixedDecoding := p.setup.fixedDecoding.or (some d) } := by
  obtain ⟨_, _, _, _, _, _, fixedDecoding, _, _⟩ := p
  cases fixedDecoding <;> rfl

/-- Only the first call fixes the decoding. -/
theorem fixDecoding_fst (d : Decoding) : (p.fixDecoding d).1 = p.setup.fixedDecoding.isNone := by
  obtain ⟨_, _, _, _, _, _, fixedDecoding, _, _⟩ := p
  cases fixedDecoding <;> rfl

theorem setup_bind (b : Bindings) : (p.bind t b).setup = p.setup.withBindings t (some b) := rfl

/-- The bindings of a thread, with the state in which it has them. -/
theorem bound_setup :
    (p.bound t).1 = p.setup.needed t
      ∧ (p.bound t).2.setup = p.setup.withBindings t (some (p.setup.needed t)) := by
  rw [bound]
  cases hb : p.bindings t with
  | none =>
    have hneeded : p.setup.needed t = p.standardBindings := by
      rw [Setup.needed, show p.setup.bindings t = none from hb]
      rfl
    rw [hneeded]
    exact ⟨rfl, setup_bind p t _⟩
  | some b =>
    have hown : p.setup.bindings t = some b := hb
    have hneeded : p.setup.needed t = b := by
      rw [Setup.needed, hown, Option.getD_some]
    have hself := Setup.withBindings_self p.setup t
    rw [hown] at hself
    rw [hneeded, hself]
    exact ⟨rfl, rfl⟩

/-- Printing changes no more than that the thread has bindings. -/
theorem setup_print (st : Stream) (a : Arg) :
    (p.print t st a).2.setup = p.setup.withBindings t (some (p.setup.needed t)) := by
  rw [← (bound_setup p t).2, print]
  rcases p.bound t with ⟨⟨_ | _, d⟩, p'⟩
  · by_cases hst : st.isError = true
    · simp only [if_pos hst]
      rfl
    · simp only [if_neg hst]
      rfl
  · rfl

theorem setup_tryRead :
    (p.tryRead t).2.setup = p.setup.withBindings t (some (p.setup.needed t)) :=
  (bound_setup p t).2

/-- So does reading, even if it reports a failure: the bindings are there by then. -/
theorem setup_read : (p.read t).2.setup = p.setup.withBindings t (some (p.setup.needed t)) := by
  have htried := setup_tryRead p t
  rw [read]
  rcases htry : p.tryRead t with ⟨e | text, tried⟩ <;> rw [htry] at htried
  · -- The report goes through the bindings that the attempt left, and these are not made anew.
    have hreport (event : Log.Event) (a : Arg) :
        ((tried.log event).print t .eprintln a).2.setup
          = p.setup.withBindings t (some (p.setup.needed t)) := by
      rw [setup_print, setup_log, show tried.setup = _ from htried, Setup.needed_withBindings,
        Setup.withBindings_twice]
    have hreported := hreport
      ⟨.warn, "tea_std_io", "input read failed, continuing with empty input",
        [("error", e.message)]⟩ (.text e.report)
    simp only
    split <;> rename_i hprint <;> rw [hprint] at hreported <;> exact hreported
  · exact htried

/-- The program as an initialization finds it once the log is open and the decoding fixed. -/
def prepared (s : Settings) : Program := ((p.openLog s.logLevel).2.fixDecoding s.input.decoding).2

theorem setup_prepared (s : Settings) : (p.prepared s).setup = p.setup.fix (.apply s) := by
  rw [prepared, setup_fixDecoding, setup_openLog]
  rfl

/-- The program after an initialization warned, if another decoding than the one it asks for is in
force. -/
def warned (s : Settings) : Program :=
  if s.input.decoding = (p.prepared s).decoding then p.prepared s
  else (p.prepared s).log (conflictEvent s.input.decoding (p.prepared s).decoding)

theorem setup_warned (s : Settings) : (p.warned s).setup = p.setup.fix (.apply s) := by
  rw [← setup_prepared, warned]
  split <;> rfl

/-- For the warning it makes no difference whether an initialization is the first to ask for a
decoding: whoever is first gets what they ask for. -/
theorem configure_eq (s : Settings) :
    p.configure t s
      = ((p.warned s).bind t ⟨.standard, (p.warned s).decoding⟩).log (startedEvent s) := by
  have hfirst (q : Program) (d : Decoding) (hq : (q.fixDecoding d).1 = true) :
      d = (q.fixDecoding d).2.decoding := by
    obtain ⟨_, _, _, _, _, _, _ | d', _, _⟩ := q
    · rfl
    · cases hq
  have hwarned :
      (if !((p.openLog s.logLevel).2.fixDecoding s.input.decoding).1
          && (p.prepared s).decoding != s.input.decoding then
        (p.prepared s).log (conflictEvent s.input.decoding (p.prepared s).decoding)
      else p.prepared s) = p.warned s := by
    rw [warned]
    -- A decoding other than the one asked for can only be there from before.
    by_cases heq : s.input.decoding = (p.prepared s).decoding
    · rw [if_pos heq, heq, bne_self_eq_false, Bool.and_false, if_neg Bool.false_ne_true]
    · have hlater : ((p.openLog s.logLevel).2.fixDecoding s.input.decoding).1 = false :=
        Bool.eq_false_iff.2 (mt (hfirst _ _) heq)
      rw [if_neg heq, hlater, Bool.not_false, Bool.true_and, if_pos (bne_iff_ne.2 (Ne.symm heq))]
  exact congrArg (fun q => (q.bind t q.standardBindings).log (startedEvent s)) hwarned

theorem setup_configure (s : Settings) :
    (p.configure t s).setup = p.setup.after t (.apply s) := by
  rw [configure_eq, setup_log, setup_bind,
    show (p.warned s).decoding = (p.warned s).setup.decoding from rfl, setup_warned]
  rfl

/-- An initialization logs that it read a file, if it did, applies its settings, and logs that they
are the defaults because of an error, if they are. -/
theorem exists_step_of_settings {what : Step} {s : Settings}
    (hs : what.settings? p.environmentSettings = some s) :
    ∃ (loaded : Option Path) (failed : Option ConfigError),
      (p.step t what).2 = failed.elim ((p.logLoaded loaded).configure t s)
        fun e => ((p.logLoaded loaded).configure t s).log (p.defaultsEvent e) := by
  cases what with
  | apply s =>
    cases hs
    exact ⟨none, none, rfl⟩
  | configure source =>
    rw [Step.settings?] at hs
    rw [step]
    cases hsource : Settings.ofText source with
    | ok s =>
      rw [hsource] at hs
      cases hs
      exact ⟨none, none, rfl⟩
    | error e =>
      rw [hsource] at hs
      cases hs
  | start =>
    rw [Step.settings?, environmentSettings] at hs
    rw [step, start]
    generalize Lookup.fromEnvironment p.files p.environment = found at hs ⊢
    refine ⟨found.loaded, ?_⟩
    cases hfound : found.settings with
    | ok s =>
      rw [hfound] at hs
      cases hs
      exact ⟨none, rfl⟩
    | error e =>
      rw [hfound] at hs
      cases hs
      exact ⟨some e, rfl⟩
  | _ => cases hs

theorem setup_step_of_settings {what : Step} {s : Settings}
    (hs : what.settings? p.environmentSettings = some s) :
    (p.step t what).2.setup = p.setup.after t what := by
  obtain ⟨loaded, failed, hstep⟩ := exists_step_of_settings p t hs
  have happlied : ((p.logLoaded loaded).configure t s).setup = p.setup.after t what := by
    rw [setup_configure, setup_logLoaded, Setup.after_of_settings (x := p.setup) t hs]
  rw [hstep]
  cases failed <;> exact happlied

/-- What a step makes of a program, seen on its setup. -/
theorem setup_step (what : Step) : (p.step t what).2.setup = p.setup.after t what := by
  cases hs : what.settings? p.environmentSettings with
  | some s => exact setup_step_of_settings p t hs
  | none =>
    cases what with
    | start | apply _ => cases hs
    | configure source =>
      -- The source cannot be read as settings, so nothing is applied.
      have hnone {α : Type} (f : Settings → α) :
          ((Step.configure source).settings? p.setup.own).map f = none := congrArg (Option.map f) hs
      have hafter : p.setup.after t (.configure source) = p.setup.fix (.configure source) :=
        Setup.after_of_unbound (fun _ => hnone _) rfl
      have hfix : p.setup.fix (.configure source) = p.setup :=
        Setup.fix_of_idle (hnone _) (hnone _)
      rw [hafter, hfix, step]
      rw [Step.settings?] at hs
      cases hsource : Settings.ofText source with
      | ok s =>
        rw [hsource] at hs
        cases hs
      | error e => rfl
    | openLog level =>
      rw [Setup.after_of_unbound (fun _ => rfl) rfl, Setup.fix,
        show (Step.openLog level).decoding? _ = none from rfl, Option.or_none]
      exact setup_openLog p level
    | fixDecoding d =>
      rw [Setup.after_of_unbound (fun _ => rfl) rfl, Setup.fix,
        show (Step.fixDecoding d).level? _ = none from rfl, Option.map_none, Option.or_none]
      exact setup_fixDecoding p d
    | bind b =>
      rw [Setup.after, Setup.fix_of_idle rfl rfl]
      exact setup_bind p t b
    | decoding | freshDecoding | readNowhere =>
      rw [Setup.after_of_unbound (fun _ => rfl) rfl, Setup.fix_of_idle rfl rfl, step]
    | boundDecoding =>
      rw [Setup.after_of_needing rfl rfl (fun _ => rfl) rfl]
      exact (bound_setup p t).2
    | readCounted | read =>
      rw [Setup.after_of_needing rfl rfl (fun _ => rfl) rfl]
      exact setup_read p t
    | tryRead =>
      rw [Setup.after_of_needing rfl rfl (fun _ => rfl) rfl]
      exact setup_tryRead p t
    | makeRecord keys values =>
      rw [Setup.after_of_unbound (fun _ => rfl) rfl, Setup.fix_of_idle rfl rfl, step]
      split <;> rfl
    | callBoxed a =>
      rw [Setup.after_of_unbound (fun _ => rfl) rfl, Setup.fix_of_idle rfl rfl, step]
      cases a.shape <;> rfl
    | rawPrint st item =>
      have hprinted := setup_print p t st item.arg
      rw [Setup.after_of_needing rfl rfl (fun _ => rfl) rfl, step]
      split <;> rename_i hprint <;> rw [hprint] at hprinted <;> exact hprinted

end Frame

/-! ## Whole runs -/

/-- What a run makes of a program, seen on its setup. -/
theorem setup_run (p : Program) (h : List (Thread × Step)) :
    (p.run h).2.setup = p.setup.afterAll h := by
  induction h generalizing p with
  | nil => rfl
  | cons c rest ih =>
    show ((p.step c.1 c.2).2.run rest).2.setup = (p.setup.after c.1 c.2).afterAll rest
    rw [ih, setup_step]

namespace Setup

variable (x : Setup) (t : Thread) (what : Step) (h : List (Thread × Step))

theorem own_afterAll : (x.afterAll h).own = x.own := by
  induction h generalizing x with
  | nil => rfl
  | cons c rest ih => exact ih (x.after c.1 c.2)

theorem afterAll_append (h' : List (Thread × Step)) :
    x.afterAll (h ++ h') = (x.afterAll h).afterAll h' := List.foldl_append

theorem afterAll_append_cons (h' : List (Thread × Step)) :
    x.afterAll (h ++ (t, what) :: h') = ((x.afterAll h).after t what).afterAll h' :=
  x.afterAll_append h _

/-- What is written at most once is written by the first step that wants to. -/
theorem written_once {α : Type} (field : Setup → Option α) (wanted : Settings → Step → Option α)
    (hstep : ∀ x t what, field (after x t what) = (field x).or (wanted x.own what)) :
    field (x.afterAll h) = (field x).or (h.findSome? fun c => wanted x.own c.2) := by
  induction h generalizing x with
  | nil => exact Option.or_none.symm
  | cons c rest ih =>
    have hhead : ((c :: rest).findSome? fun c => wanted x.own c.2)
        = (wanted x.own c.2).or (rest.findSome? fun c => wanted x.own c.2) := by
      rw [List.findSome?_cons]
      cases wanted x.own c.2 <;> rfl
    rw [hhead, ← Option.or_assoc, ← hstep x c.1 c.2]
    exact ih (x.after c.1 c.2)

/-- Whoever comes first decides on the decoding. -/
theorem fixedDecoding_afterAll :
    (x.afterAll h).fixedDecoding
      = x.fixedDecoding.or (h.findSome? fun c => c.2.decoding? x.own) :=
  x.written_once h fixedDecoding (fun own what => what.decoding? own) fun _ _ _ => rfl

/-- And on the log. -/
theorem filter_afterAll :
    (x.afterAll h).filter
      = x.filter.or ((h.findSome? fun c => c.2.level? x.own).map .ofSetting) := by
  rw [List.map_findSome?]
  exact x.written_once h filter (fun own what => (what.level? own).map .ofSetting) fun _ _ _ => rfl

/-- After a step that asks for a decoding there is one. -/
theorem isSome_fixedDecoding_after {what : Step} {d : Decoding}
    (hd : what.decoding? x.own = some d) : (x.after t what).fixedDecoding.isSome := by
  show (x.fixedDecoding.or (what.decoding? x.own)).isSome
  rw [hd, Option.isSome_or, Option.isSome_some, Bool.or_true]

/-- A decoding that is fixed stays. -/
theorem decoding_afterAll_of_fixed {d : Decoding} (hd : x.fixedDecoding = some d) :
    (x.afterAll h).decoding = d := by
  rw [decoding, fixedDecoding_afterAll, hd, Option.some_or, Option.getD_some]

/-! ## Bindings -/

/-- No step touches the bindings of another thread. -/
theorem bindings_after_of_ne {t u : Thread} (hu : u ≠ t) :
    (x.after t what).bindings u = x.bindings u := if_neg hu

theorem bindings_after_self :
    (x.after t what).bindings t
      = (what.rebinding? x.own (x.fix what).decoding).or
          (if what.needsBindings then some (x.needed t) else x.bindings t) := if_pos rfl

variable {x t h}

/-- A thread keeps its bindings until it replaces them itself. -/
theorem bindings_afterAll_of_keeps {b : Bindings} (hb : x.bindings t = some b)
    (hkeeps : Keeps x.own t h) : (x.afterAll h).bindings t = some b := by
  induction h generalizing x with
  | nil => exact hb
  | cons c rest ih =>
    obtain ⟨u, what⟩ := c
    refine @ih (x.after u what) ?_ fun c hc => hkeeps c (List.mem_cons_of_mem _ hc)
    by_cases hu : u = t
    · -- If the step needs bindings, it finds those that are there.
      have hneeded : x.needed t = b := by rw [needed, hb, Option.getD_some]
      rw [hu, bindings_after_self, hkeeps _ List.mem_cons_self hu, Option.none_or, hneeded, hb,
        ite_self]
    · rw [bindings_after_of_ne x what (Ne.symm hu), hb]

/-- A thread that neither replaces its bindings nor needs any has none. -/
theorem bindings_afterAll_of_doesWithout (hnone : x.bindings t = none) (hkeeps : Keeps x.own t h)
    (hwithout : DoesWithout t h) : (x.afterAll h).bindings t = none := by
  induction h generalizing x with
  | nil => exact hnone
  | cons c rest ih =>
    obtain ⟨u, what⟩ := c
    refine @ih (x.after u what) ?_ (fun c hc => hkeeps c (List.mem_cons_of_mem _ hc))
      fun c hc => hwithout c (List.mem_cons_of_mem _ hc)
    by_cases hu : u = t
    · rw [hu, bindings_after_self, hkeeps _ List.mem_cons_self hu,
        hwithout _ List.mem_cons_self hu, Option.none_or, if_neg Bool.false_ne_true, hnone]
    · rw [bindings_after_of_ne x what (Ne.symm hu), hnone]

/-- If the bindings that a step gives its thread carry the decoding in force, then that decoding is
in force ever after. -/
theorem rebinding?_fix (x : Setup) (t : Thread) (what : Step) (h : List (Thread × Step)) :
    what.rebinding? x.own (x.fix what).decoding
      = what.rebinding? x.own ((x.after t what).afterAll h).decoding := by
  cases hs : what.settings? x.own with
  | none => exact Step.rebinding?_of_no_settings hs _ _
  | some s =>
    obtain ⟨d, hfixed⟩ := Option.isSome_iff_exists.1
      (isSome_fixedDecoding_after x t (Step.decoding?_of_settings hs))
    rw [decoding_afterAll_of_fixed _ h hfixed,
      show (x.fix what).decoding = _ from decoding_afterAll_of_fixed _ [] hfixed]

/-- The latest bindings that a thread gave itself are those it has. -/
theorem bindings_of_latest (before : List (Thread × Step)) (what : Step) {b : Bindings}
    (hb : what.rebinding? x.own (x.afterAll (before ++ (t, what) :: h)).decoding = some b)
    (hkeeps : Keeps x.own t h) : (x.afterAll (before ++ (t, what) :: h)).bindings t = some b := by
  rw [afterAll_append_cons] at hb ⊢
  rw [← own_afterAll x before] at hb hkeeps
  refine bindings_afterAll_of_keeps ?_ hkeeps
  rw [bindings_after_self, rebinding?_fix _ t what h, hb, Option.some_or]

/-- What a thread needed stays with it until it replaces it. -/
theorem bindings_afterAll_of_needing {what : Step} (hkeeps : Keeps x.own t ((t, what) :: h))
    (hneeds : what.needsBindings = true) :
    ((x.after t what).afterAll h).bindings t = some (x.needed t) := by
  obtain ⟨hnow, hlater⟩ := List.forall_mem_cons.1 hkeeps
  refine bindings_afterAll_of_keeps ?_ hlater
  rw [bindings_after_self, hnow rfl, Option.none_or, if_pos hneeds]

/-- A thread that gave itself none has those that were made when it first needed some, with the
decoding that was in force then. -/
theorem bindings_of_firstUse {before : List (Thread × Step)} {what : Step}
    (hnone : x.bindings t = none) (hkeeps : Keeps x.own t (before ++ (t, what) :: h))
    (hwithout : DoesWithout t before) (hneeds : what.needsBindings = true) :
    (x.afterAll (before ++ (t, what) :: h)).bindings t
      = some ⟨.standard, (x.afterAll before).decoding⟩ := by
  obtain ⟨hbefore, hafter⟩ := List.forall_mem_append.1 hkeeps
  have hstill := bindings_afterAll_of_doesWithout hnone hbefore hwithout
  rw [← own_afterAll x before] at hafter
  rw [afterAll_append_cons, bindings_afterAll_of_needing hafter hneeds, needed, hstill,
    Option.getD_none]

end Setup

/-! ## Back to programs -/

section Program

variable (p : Program) (t : Thread)

/-- No step changes the settings for the environment. -/
theorem environmentSettings_run (h : List (Thread × Step)) :
    (p.run h).2.environmentSettings = p.environmentSettings := by
  show (p.run h).2.setup.own = p.setup.own
  rw [setup_run, Setup.own_afterAll]

/-- A thread that initializes the program has the decoding in force. -/
theorem bindings_step_of_settings {what : Step} {s : Settings}
    (hs : what.settings? p.environmentSettings = some s) :
    (p.step t what).2.bindings t = some ⟨.standard, (p.step t what).2.decoding⟩ := by
  show (p.step t what).2.setup.bindings t
    = some ⟨.standard, (p.step t what).2.setup.decoding⟩
  rw [setup_step, Setup.bindings_after_self,
    Step.rebinding?_of_settings (show what.settings? p.setup.own = some s from hs), Option.some_or]
  rfl

/-- No step changes the bindings of another thread. -/
theorem bindings_step_of_ne {u : Thread} (what : Step) (hu : u ≠ t) :
    (p.step u what).2.bindings t = p.bindings t := by
  show (p.step u what).2.setup.bindings t = p.setup.bindings t
  rw [setup_step, Setup.bindings_after_of_ne _ _ (Ne.symm hu)]

end Program

end ScriptHost.Program
