import ScriptHost.Proofs.Program.Startup

/-!
# Which decoding a thread reads with

The decoding of input is fixed once for the whole program, but each thread keeps the decoding that
was in force when its bindings were made. Where no thread is given bindings from outside, only two
decodings are possible: the one that was fixed, and the lossy one for a thread that needed bindings
while nothing was fixed and never initialized the program itself.

- `NeverBinds`: no thread is given bindings from outside.
- `beforeFixing`, `Outdated`: the steps before a decoding is asked for, and what makes a thread
  miss it.
- `needed_afterAll_of_settled`: bindings that carry the decoding in force go on doing so as long as
  it does not change.
- `bindings_afterAll_of_outdated`, `needed_afterAll_of_not_outdated`: the two possible decodings.
- `boundDecoding_eq_iff`: who sees the decoding that was fixed.
-/

namespace ScriptHost.Program

/-- No step gives its thread bindings from outside. -/
def NeverBinds (h : List (Thread × Step)) : Prop := ∀ c ∈ h, ∀ b, c.2 ≠ .bind b

/-- The steps before any that asks for a decoding. -/
def beforeFixing (own : Settings) (h : List (Thread × Step)) : List (Thread × Step) :=
  h.takeWhile fun c => (c.2.decoding? own).isNone

/-- A thread needed bindings before any step asked for a decoding, and never replaced them. -/
def Outdated (own : Settings) (t : Thread) (h : List (Thread × Step)) : Prop :=
  Keeps own t h ∧ ¬ DoesWithout t (beforeFixing own h)

/-- If not all steps of a thread are of some kind, the history splits at one that is not. -/
theorem exists_split_of_not {t : Thread} {h : List (Thread × Step)} {P : Step → Prop}
    (hnot : ¬ ∀ c ∈ h, c.1 = t → P c.2) :
    ∃ before what after, h = before ++ (t, what) :: after ∧ ¬ P what := by
  simp only [Classical.not_forall] at hnot
  obtain ⟨⟨_, what⟩, hc, rfl, hP⟩ := hnot
  obtain ⟨before, after, rfl⟩ := List.append_of_mem hc
  exact ⟨before, what, after, rfl, hP⟩

/-- The steps before any that asks for a decoding are all of the history, or the first that does
follows them. -/
theorem eq_beforeFixing_or_exists (own : Settings) (h : List (Thread × Step)) :
    h = beforeFixing own h
      ∨ ∃ t what rest d, h = beforeFixing own h ++ (t, what) :: rest
        ∧ what.decoding? own = some d := by
  have hsplit : beforeFixing own h ++ h.dropWhile (fun c => (c.2.decoding? own).isNone) = h :=
    List.takeWhile_append_dropWhile
  have hfirst := List.head?_dropWhile_not (fun c : Thread × Step => (c.2.decoding? own).isNone) h
  cases hlate : h.dropWhile (fun c => (c.2.decoding? own).isNone) with
  | nil =>
    rw [hlate, List.append_nil] at hsplit
    exact .inl hsplit.symm
  | cons c rest =>
    rw [hlate] at hsplit hfirst
    obtain ⟨d, hd⟩ := Option.isSome_iff_exists.1 (Option.isNone_eq_false_iff.1 hfirst)
    exact .inr ⟨c.1, c.2, rest, d, hsplit.symm, hd⟩

theorem decoding?_of_mem_beforeFixing {own : Settings} {h : List (Thread × Step)}
    {c : Thread × Step} (hc : c ∈ beforeFixing own h) : c.2.decoding? own = none :=
  Option.isNone_iff_eq_none.1 (List.all_eq_true.1 List.all_takeWhile c hc)

namespace Step

variable {own : Settings} {what : Step}

/-- Only what applies settings replaces bindings, if they are not given from outside. -/
theorem rebinding?_eq_none (hbinds : ∀ b, what ≠ .bind b) (hs : what.settings? own = none)
    (d : Decoding) : what.rebinding? own d = none := by
  cases what with
  | bind b => exact absurd rfl (hbinds b)
  | _ => exact congrArg (Option.map fun _ => (⟨.standard, d⟩ : Bindings)) hs

/-- A step that asks for a decoding needs no bindings. -/
theorem needsBindings_of_decoding? {d : Decoding} (hd : what.decoding? own = some d) :
    what.needsBindings = false := by
  cases what with
  | boundDecoding | readCounted | read | tryRead | rawPrint _ _ => cases hd
  | _ => rfl

end Step

namespace Setup

variable {x : Setup} {t : Thread} {h : List (Thread × Step)}

/-! ## Bindings with the decoding in force -/

/-- A step that leaves the decoding in force as it is leaves bindings that carry it as they are. -/
theorem needed_after_of_settled (u : Thread) {what : Step} (hbinds : ∀ b, what ≠ .bind b)
    (hsettled : (x.after u what).decoding = x.decoding)
    (hneeded : x.needed t = ⟨.standard, x.decoding⟩) :
    (x.after u what).needed t = ⟨.standard, x.decoding⟩ := by
  by_cases hu : u = t
  · rw [hu] at hsettled ⊢
    rw [needed, hsettled, bindings_after_self, show (x.fix what).decoding = _ from hsettled]
    cases hs : what.settings? x.own with
    | some s => rw [Step.rebinding?_of_settings hs, Option.some_or, Option.getD_some]
    | none =>
      -- Whether or not the step needs bindings, the thread has what it would have been given.
      rw [Step.rebinding?_eq_none hbinds hs, Option.none_or, hneeded]
      split
      · rfl
      · exact hneeded
  · rw [needed, bindings_after_of_ne x what (Ne.symm hu), hsettled]
    exact hneeded

/-- So do any number of steps. -/
theorem needed_afterAll_of_settled (hbinds : NeverBinds h)
    (hsettled : ∀ c ∈ h, x.fixedDecoding.or (c.2.decoding? x.own) = x.fixedDecoding)
    (hneeded : x.needed t = ⟨.standard, x.decoding⟩) :
    (x.afterAll h).decoding = x.decoding
      ∧ (x.afterAll h).needed t = ⟨.standard, x.decoding⟩ := by
  induction h generalizing x with
  | nil => exact ⟨rfl, hneeded⟩
  | cons c rest ih =>
    obtain ⟨u, what⟩ := c
    have hfixed : (x.after u what).fixedDecoding = x.fixedDecoding :=
      hsettled _ List.mem_cons_self
    have hdecoding : (x.after u what).decoding = x.decoding :=
      congrArg (·.getD .lossy) hfixed
    have hstep := needed_after_of_settled u (hbinds _ List.mem_cons_self) hdecoding hneeded
    rw [← hdecoding] at hstep ⊢
    refine @ih (x.after u what) (fun c hc => hbinds c (List.mem_cons_of_mem _ hc))
      (fun c hc => ?_) hstep
    rw [hfixed]
    exact hsettled c (List.mem_cons_of_mem _ hc)

/-- Once a decoding is fixed a thread whose bindings carry it stays with it. -/
theorem needed_afterAll_of_fixed (hbinds : NeverBinds h) (hfixed : x.fixedDecoding.isSome)
    (hneeded : x.needed t = ⟨.standard, x.decoding⟩) :
    (x.afterAll h).needed t = ⟨.standard, (x.afterAll h).decoding⟩ := by
  obtain ⟨d, hd⟩ := Option.isSome_iff_exists.1 hfixed
  have hsettled (c : Thread × Step) (_ : c ∈ h) :
      x.fixedDecoding.or (c.2.decoding? x.own) = x.fixedDecoding := by
    rw [hd, Option.some_or]
  obtain ⟨hdecoding, hafter⟩ := needed_afterAll_of_settled hbinds hsettled hneeded
  rw [hafter, hdecoding]

/-- A thread that initialized the program has bindings with the decoding in force. -/
theorem needed_afterAll_of_initialized {what : Step} {s : Settings} (hbinds : NeverBinds h)
    (hs : what.settings? x.own = some s) :
    ((x.after t what).afterAll h).needed t
      = ⟨.standard, ((x.after t what).afterAll h).decoding⟩ := by
  have hneeded : (x.after t what).needed t = ⟨.standard, (x.after t what).decoding⟩ := by
    rw [needed, bindings_after_self, Step.rebinding?_of_settings hs, Option.some_or]
    rfl
  exact needed_afterAll_of_fixed hbinds
    (isSome_fixedDecoding_after x t (Step.decoding?_of_settings hs)) hneeded

/-! ## The two possible decodings -/

section FromTheStart

variable (hfixed : x.fixedDecoding = none) (hnone : x.bindings t = none) (hbinds : NeverBinds h)

include hfixed hnone hbinds

/-- As long as nothing is fixed every thread has lossy bindings, or would be given some. -/
theorem needed_afterAll_of_unfixed (hunfixed : ∀ c ∈ h, c.2.decoding? x.own = none) :
    (x.afterAll h).decoding = .lossy ∧ (x.afterAll h).needed t = ⟨.standard, .lossy⟩ := by
  have hlossy : x.decoding = .lossy := by rw [decoding, hfixed, Option.getD_none]
  have hneeded : x.needed t = ⟨.standard, x.decoding⟩ := by rw [needed, hnone, Option.getD_none]
  rw [← hlossy]
  refine needed_afterAll_of_settled hbinds (fun c hc => ?_) hneeded
  rw [hunfixed c hc, Option.or_none]

/-- A thread that missed the decoding is bound to read without it. -/
theorem bindings_afterAll_of_outdated (houtdated : Outdated x.own t h) :
    (x.afterAll h).bindings t = some ⟨.standard, .lossy⟩ := by
  obtain ⟨hkeeps, hneeds⟩ := houtdated
  obtain ⟨early, what, between, hearly, hwhat⟩ :=
    exists_split_of_not (P := (·.needsBindings = false)) hneeds
  -- The thread needed its bindings at this step, with nothing fixed before.
  obtain ⟨late, hlate⟩ : ∃ late, h = early ++ (t, what) :: late := by
    rcases eq_beforeFixing_or_exists x.own h with hall | ⟨u, first, rest, -, hall, -⟩
    · exact ⟨between, hall.trans hearly⟩
    · refine ⟨between ++ (u, first) :: rest, ?_⟩
      rw [hall, hearly, List.append_assoc, List.cons_append]
  have hunfixed (c : Thread × Step) (hc : c ∈ early) : c.2.decoding? x.own = none := by
    refine decoding?_of_mem_beforeFixing (h := h) ?_
    rw [hearly]
    exact List.mem_append_left _ hc
  rw [hlate] at hbinds hkeeps ⊢
  obtain ⟨hbindsEarly, -⟩ := List.forall_mem_append.1 hbinds
  obtain ⟨-, hkeepsLate⟩ := List.forall_mem_append.1 hkeeps
  rw [← own_afterAll x early] at hkeepsLate
  rw [afterAll_append_cons,
    bindings_afterAll_of_needing hkeepsLate (eq_true_of_ne_false hwhat),
    (needed_afterAll_of_unfixed hfixed hnone hbindsEarly hunfixed).2]

/-- A thread that neither initializes the program nor needs bindings too early has, or would be
given, bindings with the decoding in force. -/
theorem needed_afterAll_of_late (hkeeps : Keeps x.own t h)
    (hwithout : DoesWithout t (beforeFixing x.own h)) :
    (x.afterAll h).needed t = ⟨.standard, (x.afterAll h).decoding⟩ := by
  rcases eq_beforeFixing_or_exists x.own h with hall | ⟨u, what, rest, d, hh, hd⟩
  · have hunfixed (c : Thread × Step) (hc : c ∈ h) : c.2.decoding? x.own = none := by
      rw [hall] at hc
      exact decoding?_of_mem_beforeFixing hc
    obtain ⟨hlossy, hneeded⟩ := needed_afterAll_of_unfixed hfixed hnone hbinds hunfixed
    rw [hneeded, hlossy]
  · generalize beforeFixing x.own h = early at hwithout hh
    rw [hh] at hkeeps hbinds ⊢
    obtain ⟨-, hbindsLate⟩ := List.forall_mem_append.1 hbinds
    obtain ⟨-, hbindsRest⟩ := List.forall_mem_cons.1 hbindsLate
    -- Fixing the decoding needs no bindings, so the thread has none even after that step.
    have hkeepsFixing : Keeps x.own t (early ++ [(u, what)]) := by
      rw [← List.singleton_append, ← List.append_assoc] at hkeeps
      exact (List.forall_mem_append.1 hkeeps).1
    have hwithoutFixing : DoesWithout t (early ++ [(u, what)]) := by
      refine List.forall_mem_append.2 ⟨hwithout, fun c hc _ => ?_⟩
      rw [List.mem_singleton.1 hc]
      exact Step.needsBindings_of_decoding? hd
    have hnoneYet : ((x.afterAll early).after u what).bindings t = none := by
      rw [← bindings_afterAll_of_doesWithout hnone hkeepsFixing hwithoutFixing,
        afterAll_append_cons]
      rfl
    rw [← own_afterAll x early] at hd
    rw [afterAll_append_cons]
    refine needed_afterAll_of_fixed hbindsRest (isSome_fixedDecoding_after _ u hd) ?_
    rw [needed, hnoneYet, Option.getD_none]

/-- Every thread that did not miss the decoding has bindings with the one in force, or would be
given some. -/
theorem needed_afterAll_of_not_outdated (houtdated : ¬ Outdated x.own t h) :
    (x.afterAll h).needed t = ⟨.standard, (x.afterAll h).decoding⟩ := by
  by_cases hkeeps : Keeps x.own t h
  case pos =>
    refine needed_afterAll_of_late hfixed hnone hbinds hkeeps ?_
    exact Classical.byContradiction fun hneeds => houtdated ⟨hkeeps, hneeds⟩
  case neg =>
    obtain ⟨before, what, after, hh, hwhat⟩ :=
      exists_split_of_not (P := fun what => ∀ d, what.rebinding? x.own d = none) hkeeps
    rw [hh] at hbinds ⊢
    obtain ⟨-, hbindsLate⟩ := List.forall_mem_append.1 hbinds
    obtain ⟨hbind, hbindsAfter⟩ := List.forall_mem_cons.1 hbindsLate
    rw [← own_afterAll x before] at hwhat
    rw [afterAll_append_cons]
    cases hs : what.settings? (x.afterAll before).own with
    | none => exact absurd (Step.rebinding?_eq_none hbind hs) hwhat
    | some s => exact needed_afterAll_of_initialized hbindsAfter hs

end FromTheStart

end Setup

/-! ## Who sees the decoding that was fixed -/

/-- If the decoding that was fixed is not the lossy one, then exactly the threads that missed it
read without it. -/
theorem boundDecoding_eq_iff (files : FileTree) (environment : Environment) (stdin : Input)
    (stdout : LineBuffer) (stderr : Sink) (syntaxText : String → String)
    (h : List (Thread × Step)) (hbinds : NeverBinds h) (d : Decoding)
    (hd : ((begun files environment stdin stdout stderr syntaxText).run h).2.fixedDecoding = some d)
    (t : Thread) :
    (((begun files environment stdin stdout stderr syntaxText).run h).2.step t .boundDecoding).1
        = .decoding d
      ↔ d = .lossy
        ∨ ¬ Outdated (begun files environment stdin stdout stderr syntaxText).environmentSettings
            t h := by
  have hfixed : (begun files environment stdin stdout stderr syntaxText).setup.fixedDecoding
      = none := rfl
  have hnone : (begun files environment stdin stdout stderr syntaxText).setup.bindings t
      = none := rfl
  generalize begun files environment stdin stdout stderr syntaxText = p at hd hfixed hnone ⊢
  have hanswer : ((p.run h).2.step t .boundDecoding).1
      = .decoding ((p.setup.afterAll h).needed t).decoding := by
    rw [← setup_run, ← (bound_setup _ t).1]
    rfl
  have hdecoding : (p.setup.afterAll h).decoding = d := by
    rw [← setup_run]
    exact congrArg (·.getD .lossy) hd
  rw [hanswer]
  by_cases houtdated : Outdated p.environmentSettings t h
  · have hlossy := Setup.bindings_afterAll_of_outdated hfixed hnone hbinds houtdated
    rw [Setup.needed, hlossy, Option.getD_some]
    constructor
    · rintro ⟨⟩
      exact .inl rfl
    · rintro (rfl | hnot)
      · rfl
      · exact absurd houtdated hnot
  · rw [Setup.needed_afterAll_of_not_outdated hfixed hnone hbinds houtdated, hdecoding]
    exact iff_of_true rfl (.inr houtdated)

/-- A thread asks for its decoding, then another one initializes the program with strict decoding.
The second sees it, the first does not. -/
theorem boundDecoding_eq_iff_two_threads :
    let h : List (Thread × Step) :=
      [(⟨1⟩, .boundDecoding), (.main, .apply { input := { decoding := .strict } })]
    let q := ((begun ⟨[]⟩ {} (.bytes []) {} {}).run h).2
    NeverBinds h ∧ q.fixedDecoding = some .strict
      ∧ (q.step .main .boundDecoding).1 = .decoding .strict
      ∧ (q.step ⟨1⟩ .boundDecoding).1 ≠ .decoding .strict := by
  intro h q
  have hbinds : NeverBinds h := by simp [NeverBinds, h]
  have hfixed : q.fixedDecoding = some .strict := rfl
  have hsees := boundDecoding_eq_iff ⟨[]⟩ {} (.bytes []) {} {} (fun _ => "") h hbinds .strict hfixed
  refine ⟨hbinds, hfixed, (hsees .main).2 (.inr fun houtdated => ?_), fun hstrict => ?_⟩
  · have hkeeps := houtdated.1 (.main, .apply { input := { decoding := .strict } }) (by simp [h])
      rfl .lossy
    cases hkeeps
  · rcases (hsees ⟨1⟩).1 hstrict with hlossy | hnot
    · cases hlossy
    · refine hnot ⟨?_, fun hwithout => ?_⟩
      · simp [Keeps, h, Step.rebinding?, Step.settings?, Thread.main]
      · have hneeds := hwithout (⟨1⟩, .boundDecoding) List.mem_cons_self rfl
        cases hneeds

/-- That every thread sees the decoding once one is fixed is too much to say: the thread that fixes
it may have been asked before. -/
theorem not_all_threads_see_decoding :
    ¬ ∀ (files : FileTree) (environment : Environment) (stdin : Input) (stdout : LineBuffer)
        (stderr : Sink) (h : List (Thread × Step)), NeverBinds h → ∀ d : Decoding,
        ((begun files environment stdin stdout stderr).run h).2.fixedDecoding = some d →
        ∀ t, (((begun files environment stdin stdout stderr).run h).2.step t .boundDecoding).1
          = .decoding d := by
  intro hall
  have hbinds : NeverBinds [(.main, .boundDecoding), (.main, .fixDecoding .strict)] := by
    simp [NeverBinds]
  have hstrict : Answer.decoding .lossy = .decoding .strict :=
    hall ⟨[]⟩ {} (.bytes []) {} {} _ hbinds .strict rfl .main
  cases hstrict

end ScriptHost.Program
