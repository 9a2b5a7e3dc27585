import ScriptHost.Proofs.Script.Comparison

/-!
# Ways to make a function

A function can be assembled from one handler for each shape, set one after the other; it can be
made from one handler for values alone; or all it can do may be spelled out, the claims about it
included. Boxing is provided for separately in each of these: by the assembled function itself, by
what is filled in where nothing is said, and by whoever spells the function out. Whichever way is
taken, no program can tell, except by asking a function about itself.

- `Making.behavior`: the entry points of a function and its claims, as they are provided in each
  way. `behavior_of_resolve` says that functions behave like that.
- `Setting`, `Draft.builder`: handlers that are set one after the other. `Draft.builder_eq`.
- `makings_are_interchangeable`: whole programs in which functions are made in other ways.
-/

namespace ScriptHost

namespace Script

/-! ## Behaviors -/

/-- The behavior that handlers give a function that is made of them. -/
def Making.behavior (m : Making) (generic : Value → Action Unit)
    (text : Option (String → Action Unit)) (number : Option (Number → Action Unit)) : Behavior :=
  match m with
  | .assembled => .assembled generic text number
  | .single => .assembled generic none none
  | .minimal => .ofCall generic
  | .bespoke claims => .spelledOut generic text number claims

end Script

open Script

namespace Native

/-- How a function behaves. -/
def behavior (f : Native) : Behavior :=
  ⟨callGeneric f, callText f, callNumeric f, f.claims⟩

/-- What a call in the generic shape runs. -/
def runGeneric (f : Native) (v : Value) : Action Unit := runHandler f.label f.generic (.generic v)

/-- What a call with an unboxed text runs, if there is a handler for it. -/
def runText? (f : Native) : Option (String → Action Unit) :=
  f.text?.map fun h s => runHandler f.label h (.text s)

/-- What a call with an unboxed number runs, if there is a handler for it. -/
def runNumber? (f : Native) : Option (Number → Action Unit) :=
  f.numeric?.map fun h x => runHandler f.label h (.numeric x)

/-- Both ways to make a call go through the behavior. -/
theorem call_eq_behavior (f : Native) (entry : Entry) (a : Arg) :
    call entry f a = f.behavior.invoke a := by
  rw [call_eq_invoke, ← call_eq_invoke .direct]
  cases a <;> rfl

end Native

namespace Script

/-- Whether there is a handler does not depend on what it resolves to. -/
theorem HandlerDraft.isSome_of_resolve? {d : Option HandlerDraft} {s s' : Session}
    {h : Option (Handler Native)} (hd : HandlerDraft.resolve? d s = .ok h s') :
    h.isSome = d.isSome := by
  cases d with
  | none =>
    cases hd
    rfl
  | some d =>
    obtain ⟨h', s₁, -, hpure⟩ := Evaluation.exists_of_bind hd
    cases hpure
    rfl

/-- A function behaves as it does in the way in which it was made. -/
theorem Draft.behavior_of_resolve {d : Draft} {s s' : Session} {f : Native}
    (h : d.resolve s = .ok f s') :
    f.behavior = d.making.behavior f.runGeneric f.runText? f.runNumber? := by
  rw [Draft.resolve_eq] at h
  obtain ⟨id, s₁, -, h⟩ := Evaluation.exists_of_bind h
  obtain ⟨generic, s₂, -, h⟩ := Evaluation.exists_of_bind h
  obtain ⟨text, s₃, htext, h⟩ := Evaluation.exists_of_bind h
  obtain ⟨numeric, s₄, hnumeric, h⟩ := Evaluation.exists_of_bind h
  cases h
  have htextSome := HandlerDraft.isSome_of_resolve? htext
  have hnumericSome := HandlerDraft.isSome_of_resolve? hnumeric
  obtain ⟨label, making, genericDraft, textDraft, numericDraft⟩ := d
  cases making with
  | assembled =>
    refine Behavior.ext rfl (funext fun s => ?_) (funext fun x => ?_) (funext fun shape => ?_)
    · cases text <;> rfl
    · cases numeric <;> rfl
    · cases shape with
      | generic => rfl
      | text => exact (Option.isSome_map.trans htextSome).symm
      | numeric => exact (Option.isSome_map.trans hnumericSome).symm
  | single =>
    obtain rfl := Option.not_isSome_iff_eq_none.mp (Bool.not_eq_true _ ▸ htextSome)
    obtain rfl := Option.not_isSome_iff_eq_none.mp (Bool.not_eq_true _ ▸ hnumericSome)
    refine Behavior.ext rfl rfl rfl (funext fun shape => ?_)
    cases shape <;> rfl
  | minimal =>
    obtain rfl := Option.not_isSome_iff_eq_none.mp (Bool.not_eq_true _ ▸ htextSome)
    obtain rfl := Option.not_isSome_iff_eq_none.mp (Bool.not_eq_true _ ▸ hnumericSome)
    exact Behavior.ext rfl rfl rfl Draft.minimal_claims.symm
  | bespoke claims =>
    refine Behavior.ext rfl ?_ ?_ rfl
    · cases text <;> rfl
    · cases numeric <;> rfl

/-! ## Handlers set one after the other -/

/-- A handler is set for unboxed texts or for unboxed numbers. -/
inductive Setting where
  | text (h : HandlerDraft)
  | numeric (h : HandlerDraft)

namespace Setting

/-- The handler for texts that is set. -/
def text? : Setting → Option HandlerDraft
  | text h => some h
  | numeric _ => none

/-- The handler for numbers that is set. -/
def numeric? : Setting → Option HandlerDraft
  | text _ => none
  | numeric h => some h

end Setting

namespace Draft

/-- A draft with a handler set. -/
def set (d : Draft) : Setting → Draft
  | .text h => { d with text := some h }
  | .numeric h => { d with numeric := some h }

/-- A function is assembled from a generic handler and others that are set one after the other. -/
def builder (label : String) (generic : HandlerDraft) (settings : List Setting) : Draft :=
  settings.foldl set ⟨label, .assembled, generic, none, none⟩

theorem foldl_set (d : Draft) (settings : List Setting) :
    settings.foldl set d =
      { d with
        text := (settings.reverse.findSome? Setting.text?).or d.text
        numeric := (settings.reverse.findSome? Setting.numeric?).or d.numeric } := by
  induction settings generalizing d with
  | nil => rfl
  | cons x xs ih =>
    rw [List.foldl_cons, ih, List.reverse_cons, List.findSome?_append, List.findSome?_append]
    cases x with
    | text h => simp [set, Setting.text?, Setting.numeric?]
    | numeric h => simp [set, Setting.text?, Setting.numeric?]

/-- Of each kind the last one counts, whatever the order is otherwise. -/
theorem builder_eq (label : String) (generic : HandlerDraft) (settings : List Setting) :
    builder label generic settings =
      ⟨label, .assembled, generic, settings.reverse.findSome? Setting.text?,
        settings.reverse.findSome? Setting.numeric?⟩ := by
  rw [builder, foldl_set, Option.or_none, Option.or_none]

/-- The later of two handlers for texts counts, and it may come before or after the one for
numbers. -/
example :
    builder "f" .succeed [.text .succeed, .numeric .succeed, .text (.print .println)]
      = builder "f" .succeed [.text (.print .println), .numeric .succeed] := rfl

end Draft

/-! ## Interchangeable functions -/

namespace Draft

/-- Drafts with the same handlers and the same claims. -/
abbrev Interchangeable (d d' : Draft) : Prop := Alike True d d'

/-- Drafts with the same handlers. What they claim of these may differ. -/
abbrev SameHandlers (d d' : Draft) : Prop := Alike False d d'

variable (label : String) (generic : HandlerDraft) (text numeric : Option HandlerDraft)

/-- A function that is assembled from handlers, and one that is spelled out truthfully. -/
theorem assembled_interchangeable_bespoke :
    Interchangeable ⟨label, .assembled, generic, text, numeric⟩
      ⟨label, .bespoke (truth text numeric), generic, text, numeric⟩ :=
  ⟨rfl, rfl, rfl, rfl, fun _ => rfl⟩

/-- Without handlers for unboxed arguments there are three more ways to make a function, two of
which pay no attention to such handlers. -/
theorem interchangeable_assembled_without {m : Making} (hm : m = .single ∨ m = .minimal) :
    Interchangeable ⟨label, m, generic, text, numeric⟩
      ⟨label, .assembled, generic, none, none⟩ := by
  rcases hm with rfl | rfl
  · exact ⟨rfl, rfl, rfl, rfl, fun _ => rfl⟩
  · exact ⟨rfl, rfl, rfl, rfl, fun _ => rfl⟩

/-- Functions that are spelled out alike, with whatever claims. -/
theorem bespoke_sameHandlers (claims claims' : Shape → Bool) :
    SameHandlers ⟨label, .bespoke claims, generic, text, numeric⟩
      ⟨label, .bespoke claims', generic, text, numeric⟩ :=
  ⟨rfl, rfl, rfl, rfl, False.elim⟩

end Draft

/-- **The ways to make a function are interchangeable, and its claims are mere talk.**
1. A function behaves as is provided for in the way in which it is made, however it is called.
2. Handlers that are set one after the other may be set in any order: the last of each kind counts.
3. A function that is assembled from handlers can be replaced by one that is spelled out with the
   same handlers and claims them truthfully, and a function that is made from one handler, or by
   saying nothing else, by one that is assembled from it alone.
4. Where functions of a program are replaced like that, nothing changes: neither an answer nor
   anything that is left behind.
5. What a function that is spelled out claims may be replaced by anything.
6. Where claims are replaced, the same handlers run in the same shapes, with the same arguments and
   the same results, and the same goes out. Only steps that inspect something or ask for the shapes
   show a difference, and only where they show claims. -/
theorem makings_are_interchangeable :
    (∀ (d : Draft) (s s' : Session) (f : Native), d.resolve s = .ok f s' →
      f.behavior = d.making.behavior f.runGeneric f.runText? f.runNumber? ∧
        ∀ entry a, call entry f a = f.behavior.invoke a) ∧
    (∀ label generic settings,
      Draft.builder label generic settings =
        ⟨label, .assembled, generic, settings.reverse.findSome? Setting.text?,
          settings.reverse.findSome? Setting.numeric?⟩) ∧
    (∀ label generic text numeric,
      Draft.Interchangeable ⟨label, .assembled, generic, text, numeric⟩
        ⟨label, .bespoke (Draft.truth text numeric), generic, text, numeric⟩ ∧
      ∀ m, m = .single ∨ m = .minimal →
        Draft.Interchangeable ⟨label, m, generic, text, numeric⟩
          ⟨label, .assembled, generic, none, none⟩) ∧
    (∀ (s : Session) (ts ts' : List Step),
      List.Forall₂ (Step.Like Draft.Interchangeable) ts ts' → s.run ts = s.run ts') ∧
    (∀ label generic text numeric claims claims',
      Draft.SameHandlers ⟨label, .bespoke claims, generic, text, numeric⟩
        ⟨label, .bespoke claims', generic, text, numeric⟩) ∧
    ∀ (streams : Streams) (ts ts' : List Step),
      List.Forall₂ (Step.Like Draft.SameHandlers) ts ts' →
        let run := (Session.start streams).run ts
        let run' := (Session.start streams).run ts'
        List.Forall₂
            (fun x y =>
              x.2.Matches (Pairing.same False).correspondence (¬x.1.Reflects) y.2 ∧
                (¬x.1.Reflects → x.2.shown = y.2.shown))
            (ts.zip run.1) (ts'.zip run'.1) ∧
          run.2.streams = run'.2.streams := by
  refine ⟨fun d s s' f h => ⟨Draft.behavior_of_resolve h, f.call_eq_behavior⟩, Draft.builder_eq,
    fun label generic text numeric =>
      ⟨Draft.assembled_interchangeable_bespoke label generic text numeric, fun m =>
        Draft.interchangeable_assembled_without label generic text numeric⟩,
    fun s ts ts' h => Session.run_eq_of_like (fun _ _ hd => hd.resolve_eq) h s,
    Draft.bespoke_sameHandlers, ?_⟩
  intro streams ts ts' h
  obtain ⟨hanswers, w, -, hend⟩ := (Session.Matches.start streams False).run h
  exact ⟨hanswers.imp fun x y hxy => ⟨hxy, hxy.shown_eq⟩, hend.streams⟩

/-- A function that prints texts, which is assembled, spelled out, or spelled out by someone who
denies it. -/
theorem makings_are_interchangeable_denied :
    let handler : Option HandlerDraft := some (.print .println)
    let assembled : Draft := ⟨"f", .assembled, .succeed, handler, none⟩
    let truthful : Draft := ⟨"f", .bespoke (Draft.truth handler none), .succeed, handler, none⟩
    let denied : Draft := ⟨"f", .bespoke fun _ => false, .succeed, handler, none⟩
    let program (d : Draft) : List Step :=
      [.bind "f" (.function d), .call "f" (.text "a") .tagged, .examine "f"]
    let streams : Streams := ⟨{}, none, .lossy⟩
    let run (d : Draft) := (Session.start streams).run (program d)
    let f : Native := .mk 0 "f" .succeed (some (.print .println)) none fun _ => false
    f.behavior = .spelledOut f.runGeneric f.runText? f.runNumber? (fun _ => false) ∧
      run assembled = run truthful ∧
      (run truthful).2.streams = (run denied).2.streams := by
  intro handler assembled truthful denied program streams run f
  obtain ⟨hbehavior, -, hassembled, hsame, hbespoke, hclaims⟩ := makings_are_interchangeable
  have hlike {D : Draft → Draft → Prop} {d d' : Draft} (hd : D d d') :
      List.Forall₂ (Step.Like D) (program d) (program d') :=
    .cons (.bind "f" (.function hd)) (.cons (.same _) (.cons (.same _) .nil))
  refine ⟨?_, ?_, ?_⟩
  · exact (hbehavior denied (Session.start streams) _ f rfl).1
  · exact hsame (Session.start streams) _ _ (hlike (hassembled "f" .succeed handler none).1)
  · exact (hclaims streams _ _ (hlike (hbespoke "f" .succeed handler none _ _))).2

end Script

end ScriptHost
