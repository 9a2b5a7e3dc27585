import ScriptHost.Proofs.Script.Comparison

/-!
# Steps that fail

A step fails by itself if it is refused, as it is if a literal in it has no value, or if it looks up
a key that is not there. By then parts of it may have been evaluated: objects and functions may
have been made. But nothing refers to them, so a program goes on as if the step had not been there.
That later objects have other places than they would have had cannot be seen.

- `Answer.Failed`: the answers of steps that fail.
- `Session.withLeftovers`, `Session.Left`: a session with things in it that nothing refers to.
- `MakesIf`, `OnlyMakes`: an evaluation does no more than make things, if it is refused and if it
  has a certain result, or in any case. `Literal.evaluate_onlyMakes`.
- `Step.perform_failsCleanly`, `Session.left_of_failed`: a step that fails does no more than that.
- `Pairing.skipping`: the places and identities of a session, and those of one with leftovers.
- `failed_step_is_invisible`: a program with the step and without it.
-/

namespace ScriptHost

open Script

namespace Script

/-! ## What a failed step leaves behind -/

/-- The answer of a step that fails by itself. -/
def Answer.Failed : Answer → Prop
  | .missing _ | .refused _ => True
  | _ => False

/-- A session with more objects in its heap and with identities used up, and no other change. -/
def Session.withLeftovers (s : Session) (cells : Array Cell) (n : Nat) : Session :=
  { s with heap := ⟨s.heap.cells ++ cells⟩, nextId := s.nextId + n }

/-- The second session is the first one with leftovers. -/
def Session.Left (s s' : Session) : Prop := ∃ cells n, s' = s.withLeftovers cells n

namespace Session.Left

variable {s s' s'' : Session}

theorem refl (s : Session) : s.Left s :=
  ⟨#[], 0, by rw [withLeftovers, Array.append_empty, Nat.add_zero]⟩

theorem trans (h : s.Left s') (h' : s'.Left s'') : s.Left s'' := by
  obtain ⟨cells, n, rfl⟩ := h
  obtain ⟨cells', n', rfl⟩ := h'
  refine ⟨cells ++ cells', n + n', ?_⟩
  simp only [withLeftovers, Array.append_assoc, Nat.add_assoc]

end Session.Left

/-! ## Evaluations -/

section Evaluations

variable {α β : Type}

/-- If an evaluation is refused or has a result of a certain kind, then all that it did to the
session is to make things in it. -/
def MakesIf (P : α → Prop) (x : Evaluation α) : Prop := ∀ s,
  match x s with
  | .ok a s' => P a → s.Left s'
  | .error _ s' => s.Left s'

/-- All that an evaluation does to a session is to make things in it, refused or not. -/
abbrev OnlyMakes (x : Evaluation α) : Prop := MakesIf (fun _ => True) x

namespace MakesIf

variable {P : α → Prop} {Q : β → Prop}

theorem pure (a : α) : MakesIf P (pure a) := fun s _ => .refl s

theorem throw (e : Refusal) : MakesIf P (throw e) := fun s => .refl s

/-- What comes first may be refused as well, and then nothing comes second. -/
theorem bind {x : Evaluation α} {f : α → Evaluation β} (hx : OnlyMakes x)
    (hf : ∀ a, MakesIf Q (f a)) : MakesIf Q (x >>= f) := by
  intro s
  have hfirst := hx s
  cases hxs : x s with
  | error e s' =>
    rw [hxs] at hfirst
    rw [Evaluation.bind_of_error hxs]
    exact hfirst
  | ok a s' =>
    rw [hxs] at hfirst
    rw [Evaluation.bind_of_ok hxs]
    have hsecond := hf a s'
    cases hfs : f a s' with
    | error e s'' =>
      rw [hfs] at hsecond
      exact (hfirst trivial).trans hsecond
    | ok b s'' =>
      rw [hfs] at hsecond
      intro hb
      exact (hfirst trivial).trans (hsecond hb)

end MakesIf

end Evaluations

section Literals

theorem get_onlyMakes : OnlyMakes (getThe Session) := fun s _ => .refl s

theorem valueOf_onlyMakes (name : String) : OnlyMakes (Session.valueOf name) := by
  intro s
  unfold Session.valueOf
  cases s.lookup? name with
  | none => exact .refl s
  | some v => exact fun _ => .refl s

theorem objectRef_onlyMakes (name : String) : OnlyMakes (Session.objectRef name) := by
  refine .bind (valueOf_onlyMakes name) fun v => ?_
  cases v with
  | object r => exact .pure r
  | scalar _ | function _ | foreign _ => exact .throw _

theorem function_onlyMakes (name : String) : OnlyMakes (Session.function name) := by
  refine .bind (valueOf_onlyMakes name) fun v => ?_
  cases v with
  | function f => exact .pure f
  | scalar _ | object _ | foreign _ => exact .throw _

theorem freshId_onlyMakes : OnlyMakes Session.freshId := by
  intro s _
  exact ⟨#[], 1, by rw [Session.withLeftovers, Array.append_empty]⟩

theorem newObject_onlyMakes (keys : List String) (vs : List Value) :
    OnlyMakes (Session.newObject keys vs) := by
  intro s
  unfold Session.newObject
  cases Record.ofColumns keys vs with
  | error e => exact .refl s
  | ok o =>
    intro _
    refine ⟨#[⟨o, .free⟩], 0, ?_⟩
    rw [Session.withLeftovers, ← Array.push_eq_append]
    rfl

theorem HandlerDraft.resolve_onlyMakes (d : HandlerDraft) : OnlyMakes d.resolve := by
  cases d with
  | succeed => exact .pure _
  | fail e => exact .pure _
  | forward name => exact .bind (function_onlyMakes name) fun _ => .pure _
  | print st => exact .pure _
  | store name key => exact .bind (objectRef_onlyMakes name) fun _ => .pure _

theorem HandlerDraft.resolve?_onlyMakes (d : Option HandlerDraft) :
    OnlyMakes (HandlerDraft.resolve? d) := by
  cases d with
  | none => exact .pure _
  | some d => exact .bind d.resolve_onlyMakes fun _ => .pure _

theorem Draft.resolve_onlyMakes (d : Draft) : OnlyMakes d.resolve := by
  rw [Draft.resolve_eq]
  refine .bind freshId_onlyMakes fun id => .bind d.generic.resolve_onlyMakes fun generic => ?_
  refine .bind (HandlerDraft.resolve?_onlyMakes d.textHandler) fun text => ?_
  exact .bind (HandlerDraft.resolve?_onlyMakes d.numericHandler) fun numeric => .pure _

mutual

/-- A literal makes what it says, at whatever depth, and does nothing else. If it is refused, that
is all that it did by then. -/
theorem Literal.evaluate_onlyMakes : ∀ l : Literal, OnlyMakes l.evaluate
  | .scalar _ => .pure _
  | .named name => valueOf_onlyMakes name
  | .object keys ls => by
    rw [Literal.evaluate]
    exact .bind (Literal.evaluateAll_onlyMakes ls) fun vs =>
      .bind (newObject_onlyMakes keys vs) fun _ => .pure _
  | .foreign _ => by
    rw [Literal.evaluate]
    exact .bind freshId_onlyMakes fun _ => .pure _
  | .function d => by
    rw [Literal.evaluate]
    exact .bind d.resolve_onlyMakes fun _ => .pure _

theorem Literal.evaluateAll_onlyMakes : ∀ ls : List Literal, OnlyMakes (Literal.evaluateAll ls)
  | [] => .pure _
  | l :: ls => by
    rw [Literal.evaluateAll]
    exact .bind l.evaluate_onlyMakes fun _ =>
      .bind (Literal.evaluateAll_onlyMakes ls) fun _ => .pure _

end

theorem ArgLiteral.evaluate_onlyMakes (a : ArgLiteral) : OnlyMakes a.evaluate := by
  cases a with
  | generic l => exact .bind l.evaluate_onlyMakes fun _ => .pure _
  | text t => exact .pure _
  | numeric x => exact .pure _

theorem object_onlyMakes (name : String) : OnlyMakes (Session.object name) := by
  refine .bind (objectRef_onlyMakes name) fun r => .bind get_onlyMakes fun s => ?_
  cases s.heap.read? r with
  | none => exact .throw _
  | some o => exact .pure _

end Literals

/-! ## Steps -/

/-- If a step is refused or answers that it failed, all that it did was to make things. -/
abbrev FailsCleanly (x : Evaluation Answer) : Prop := MakesIf Answer.Failed x

/-- A step has an answer, and never that it failed. -/
def NeverFails (x : Evaluation Answer) : Prop := ∀ s, ∃ a s', x s = .ok a s' ∧ ¬a.Failed

namespace NeverFails

theorem failsCleanly {x : Evaluation Answer} (hx : NeverFails x) : FailsCleanly x := by
  intro s
  obtain ⟨a, s', hxs, ha⟩ := hx s
  rw [hxs]
  exact fun h => absurd h ha

theorem pure {a : Answer} (ha : ¬a.Failed) : NeverFails (pure a) := fun s => ⟨a, s, rfl, ha⟩

/-- To change the session does not fail, and what comes last decides. -/
theorem modify (f : Session → Session) {x : Evaluation Answer} (hx : NeverFails x) :
    NeverFails ((modify f : Evaluation PUnit) >>= fun _ => x) := fun s => hx (f s)

theorem get {f : Session → Evaluation Answer} (hf : ∀ s, NeverFails (f s)) :
    NeverFails (getThe Session >>= f) := fun s => hf s s

/-- The faults of a call are reported among its effects. The call itself has taken place. -/
theorem reporting (action : Action Unit) (outcome : Option Fault → Outcome) :
    NeverFails (Session.reporting action outcome) := by
  intro s
  unfold Session.reporting
  rcases action s with ⟨_, s'⟩ | ⟨e, s'⟩ <;> exact ⟨_, _, rfl, id⟩

theorem reportingOutcome (o : Outcome) : NeverFails (Session.reportingOutcome o) :=
  fun _ => ⟨_, _, rfl, id⟩

end NeverFails

/-- A step that fails did no more than make things. What it does besides, such as binding a
variable, changing an object or printing, it does after everything that can fail in it. -/
theorem Step.perform_failsCleanly (t : Step) : FailsCleanly t.perform := by
  cases t with
  | bind name l =>
    exact .bind l.evaluate_onlyMakes fun _ =>
      NeverFails.failsCleanly (.modify _ (.get fun _ => .pure id))
  | examine name =>
    exact .bind get_onlyMakes fun _ => .bind (valueOf_onlyMakes name) fun _ => .pure _
  | inspectIndented name =>
    exact .bind (valueOf_onlyMakes name) fun _ => .bind get_onlyMakes fun _ => .pure _
  | equal a b =>
    exact .bind a.evaluate_onlyMakes fun _ => .bind b.evaluate_onlyMakes fun _ => .pure _
  | downcast name kind =>
    refine .bind (valueOf_onlyMakes name) fun v => ?_
    cases v <;> exact .pure _
  | get name key into =>
    -- the key is looked up before a variable is bound
    rw [Step.perform]
    refine .bind (object_onlyMakes name) fun found => ?_
    obtain ⟨r, o⟩ := found
    dsimp only
    cases o.get key with
    | error e => exact .pure _
    | ok v =>
      cases into with
      | none => exact .bind get_onlyMakes fun _ => .pure _
      | some n => exact NeverFails.failsCleanly (.modify _ (.get fun _ => .pure id))
  | set name key l =>
    -- the key is looked up before the object is changed
    rw [Step.perform]
    refine .bind l.evaluate_onlyMakes fun v => .bind (object_onlyMakes name) fun found => ?_
    obtain ⟨r, o⟩ := found
    dsimp only
    cases o.set key v with
    | error e => exact .pure _
    | ok o' => exact NeverFails.failsCleanly (.modify _ (.pure id))
  | add name key l =>
    -- any pair can be added
    exact .bind l.evaluate_onlyMakes fun _ => .bind (object_onlyMakes name) fun _ =>
      NeverFails.failsCleanly (.modify _ (.pure id))
  | contains name key => exact .bind (object_onlyMakes name) fun _ => .pure _
  | pairs name => exact .bind (object_onlyMakes name) fun _ => .bind get_onlyMakes fun _ => .pure _
  | copy name into =>
    exact .bind (object_onlyMakes name) fun _ => .bind (newObject_onlyMakes _ _) fun _ =>
      NeverFails.failsCleanly (.modify _ (.pure id))
  | objectsEqual a b =>
    exact .bind (object_onlyMakes a) fun _ => .bind (object_onlyMakes b) fun _ => .pure _
  | objectDisplay name | objectInspect name | objectInspectIndented name =>
    exact .bind (object_onlyMakes name) fun _ => .bind get_onlyMakes fun _ => .pure _
  | examineWhile held name exclusive =>
    exact .bind (objectRef_onlyMakes held) fun _ => .bind (valueOf_onlyMakes name) fun _ =>
      .bind get_onlyMakes fun _ => .pure _
  | call name a entry =>
    -- what goes wrong within the call is reported and is no failure of the step
    exact .bind (function_onlyMakes name) fun _ => .bind a.evaluate_onlyMakes fun _ =>
      (NeverFails.reporting _ _).failsCleanly
  | classify a => exact .bind a.evaluate_onlyMakes fun _ => .bind get_onlyMakes fun _ => .pure _
  | print stream a entry =>
    exact .bind a.evaluate_onlyMakes fun _ => (NeverFails.reporting _ _).failsCleanly
  | streamShapes stream => exact .pure _
  | rawPrint stream item =>
    exact (NeverFails.reporting (Session.print stream item.arg) fun e =>
      .status e.isNone).failsCleanly
  | decoding => exact .bind get_onlyMakes fun _ => .pure _
  | tryRead reader =>
    refine .bind get_onlyMakes fun s => ?_
    cases s.streams.decoding.read reader <;> exact (NeverFails.reportingOutcome _).failsCleanly
  | read reader => exact NeverFails.failsCleanly fun _ => ⟨_, _, rfl, id⟩

/-- A step that fails leaves nothing but leftovers. -/
theorem Session.left_of_failed {s : Session} {t : Step} (h : (s.step t).1.Failed) :
    s.Left (s.step t).2 := by
  have hclean := t.perform_failsCleanly s
  unfold Session.step at h ⊢
  cases hperform : t.perform s with
  | error e s' =>
    rw [hperform] at hclean
    exact hclean
  | ok a s' =>
    rw [hperform] at h hclean
    exact hclean h

/-- The inner object of a literal that is refused is left over. -/
example :
    let s := Session.start ⟨{}, none, .lossy⟩
    (s.step (.bind "o" (.object ["a"] [.object [] [], .scalar .null]))).2
      = s.withLeftovers #[⟨⟨[], [], rfl⟩, .free⟩] 0 := rfl

end Script

/-! ## Leftovers cannot be seen -/

namespace Pairing

/-- A number on the other side of a gap of the given size. -/
def skip (start gap i : Nat) : Nat := if i < start then i else i + gap

theorem skip_inj {start gap i j : Nat} : skip start gap i = skip start gap j ↔ i = j := by
  unfold skip
  split <;> split <;> omega

theorem skip_add (start gap i : Nat) : skip start gap (start + i) = start + gap + i := by
  unfold skip
  split <;> omega

/-- The second side has a gap in its objects and one in its identities. -/
def skipping (w gap : Nat × Nat) : Pairing where
  objects r r' := r'.index = skip w.1 gap.1 r.index
  ids i i' := i' = skip w.2 gap.2 i
  exact := True
  objects_iff := by
    rintro ⟨r⟩ ⟨_⟩ ⟨s⟩ ⟨_⟩ rfl rfl
    rw [ObjectRef.mk.injEq, ObjectRef.mk.injEq, skip_inj]
  ids_iff := by
    rintro i _ j _ rfl rfl
    rw [skip_inj]

/-- Below the gaps nothing differs. -/
theorem same_le_skipping (w gap : Nat × Nat) : (same True).upTo w ≤ (skipping w gap).upTo w := by
  refine ⟨?_, ?_, id⟩
  · rintro r _ ⟨hlt, rfl⟩
    exact ⟨hlt, (if_pos hlt).symm⟩
  · rintro i _ ⟨hlt, rfl⟩
    exact ⟨hlt, (if_pos hlt).symm⟩

end Pairing

namespace Script

/-- A session in which all references are in use matches itself with leftovers. -/
theorem Session.Matches.withLeftovers {w : Nat × Nat} {s : Session}
    (hs : Session.Matches (.same True) w s s) (cells : Array Cell) (n : Nat) :
    Session.Matches (.skipping w (cells.size, n)) w s (s.withLeftovers cells n) := by
  have hle := Pairing.same_le_skipping w (cells.size, n)
  obtain ⟨hbindings, hcalls⟩ := hs.rest_mono hle
  refine
    { hs with
      heap := ⟨((Pairing.skipping w (cells.size, n)).upTo w).objects_iff, ?cells⟩
      bindings := hbindings
      calls := hcalls
      freshObjects := ?objects
      freshIds := ?ids }
  case cells =>
    rintro r ⟨_⟩ ⟨hlt, hr⟩
    obtain rfl := hr.trans (if_pos hlt)
    have hold : r.index < s.heap.cells.size := hlt.trans_eq hs.size_eq.symm
    show Option.Rel _ s.heap.cells[r.index]? (s.heap.cells ++ cells)[r.index]?
    rw [Array.getElem?_append_left hold]
    exact cells_mono hle (hs.heap.cells ⟨hlt, rfl⟩)
  case objects =>
    intro i
    show (s.heap.cells ++ cells).size + i = Pairing.skip w.1 cells.size (w.1 + i)
    rw [Array.size_append, Pairing.skip_add, ← hs.size_eq]
    rfl
  case ids =>
    intro i
    show s.nextId + n + i = Pairing.skip w.2 n (w.2 + i)
    rw [Pairing.skip_add, ← hs.nextId_eq]

theorem Session.run_append (s : Session) (ts us : List Step) :
    s.run (ts ++ us)
      = ((s.run ts).1 ++ ((s.run ts).2.run us).1, ((s.run ts).2.run us).2) := by
  induction ts generalizing s with
  | nil => rfl
  | cons t ts ih =>
    rw [List.cons_append, Session.run, Session.run]
    simp only [ih]
    rfl

/-- **A failed step is invisible.** If a step of a program fails by itself, because a literal in it
has no value or because it looks up a key that is not there, then all that it leaves behind are
objects and identities that nothing refers to: the variables, the objects that were there, the
streams and the calls are as they were. Without the step every other step has the same answer, and
the same goes out. -/
theorem failed_step_is_invisible (streams : Streams) (before after : List Step) (t : Step)
    (hfailed : (((Session.start streams).run before).2.step t).1.Failed) :
    let s := ((Session.start streams).run before).2
    let run := (Session.start streams).run (before ++ t :: after)
    let runWithout := (Session.start streams).run (before ++ after)
    (∃ cells n, (s.step t).2 = s.withLeftovers cells n) ∧
      (run.1.map Answer.shown).eraseIdx before.length = runWithout.1.map Answer.shown ∧
      run.2.streams = runWithout.2.streams := by
  intro s run runWithout
  have hleft : s.Left (s.step t).2 := Session.left_of_failed hfailed
  refine ⟨hleft, ?_⟩
  obtain ⟨cells, n, hcells⟩ := hleft
  -- a program matches itself, and up to the step all that it refers to is in use
  have hrefl (us : List Step) : List.Forall₂ (Step.Like (Draft.Alike True)) us us :=
    List.forall₂_same.mpr fun u _ => .same u
  obtain ⟨-, w, -, hs⟩ := (Session.Matches.start streams True).run (hrefl before)
  -- from there on the two programs differ by what the step left behind
  have hafter := hs.withLeftovers cells n
  have hanswers := hafter.map_shown_run (hrefl after) trivial
  obtain ⟨-, w', -, hend⟩ := hafter.run (hrefl after)
  have hrun : run
      = (((Session.start streams).run before).1
          ++ (s.step t).1 :: ((s.withLeftovers cells n).run after).1,
        ((s.withLeftovers cells n).run after).2) := by
    rw [← hcells]
    exact Session.run_append _ before (t :: after)
  have hrunWithout : runWithout
      = (((Session.start streams).run before).1 ++ (s.run after).1, (s.run after).2) :=
    Session.run_append _ before after
  rw [hrun, hrunWithout]
  refine ⟨?_, hend.streams.symm⟩
  have hlength : before.length
      = (((Session.start streams).run before).1.map Answer.shown).length := by
    rw [List.length_map, Session.length_run]
  rw [List.map_append, List.map_append, List.map_cons, hlength,
    List.eraseIdx_append_of_length_le (Nat.le_refl _), Nat.sub_self, List.eraseIdx_cons_zero,
    hanswers]

/-- An object that holds itself. To set a key that it does not have fails, although two objects have
been made by then for the value, and so does a literal with a key too many, although one has been
made. What comes later does not notice. -/
theorem failed_step_is_invisible_inner_objects :
    let before : List Step :=
      [.bind "o" (.object ["a"] [.scalar .null]), .set "o" "a" (.named "o")]
    let t : Step := .set "o" "b" (.object ["x"] [.object [] []])
    let u : Step := .bind "q" (.object ["x", "y"] [.object [] []])
    let after : List Step :=
      [.bind "p" (.object [] []), .equal (.named "p") (.named "o"), .examine "o"]
    let start := Session.start ⟨{}, none, .lossy⟩
    (((start.run before).2.step t).1.Failed ∧
      ((start.run (before ++ t :: after)).1.map Answer.shown).eraseIdx before.length
        = (start.run (before ++ after)).1.map Answer.shown) ∧
    ((start.run before).2.step u).1.Failed ∧
      ((start.run (before ++ u :: after)).1.map Answer.shown).eraseIdx before.length
        = (start.run (before ++ after)).1.map Answer.shown := by
  intro before t u after start
  have hmissing : ((start.run before).2.step t).1.Failed := trivial
  have hrefused : ((start.run before).2.step u).1.Failed := trivial
  exact
    ⟨⟨hmissing, (failed_step_is_invisible ⟨{}, none, .lossy⟩ before after t hmissing).2.1⟩,
      hrefused, (failed_step_is_invisible ⟨{}, none, .lossy⟩ before after u hrefused).2.1⟩

end Script

end ScriptHost
