import ScriptHost.Proofs.Script.Simulation

/-!
# Programs side by side

Two programs that are the same, but for functions that are made in different ways, are taken step
by step in sessions that match. Their answers are the same. Only where an answer speaks of a
reference it speaks of the one that is paired with it; and only where it shows what a function
claims may it differ, if functions that are paired differ in that.

- `Answer.Matches`: what two answers have in common.
- `Step.Reflects`: steps that show what functions claim.
- `Answer.shown`: an answer without the references in it. `Answer.Matches.shown_eq`.
- `Session.Matches.perform`, `Session.Matches.step`: one step, case by case.
- `Session.Matches.run`: a whole program.
-/

namespace ScriptHost.Script

open Text

/-! ## Answers -/

/-- Two examinations show the same, but for what functions claim. -/
structure Details.Matches (exact : Prop) (d d' : Details) : Prop where
  brief : d.brief = d'.brief
  inspection : Inspections.Agree exact d.inspection d'.inspection
  isNull : d.isNull = d'.isNull
  bool : d.bool = d'.bool
  number : d.number = d'.number
  text : d.text = d'.text
  size : d.size = d'.size
  shapes : Option.Rel (fun x y => exact → x = y) d.shapes d'.shapes

/-- The same went out, and the same handlers ran, with arguments that match. -/
structure Effects.Matches (m : Correspondence) (e e' : Effects) : Prop where
  out : e.out = e'.out
  err : e.err = e'.err
  flushes : e.flushes = e'.flushes
  calls : List.Forall₂ (Call.Matches m) e.calls e'.calls

/-- Two answers are the same, but for references, which correspond, and for what functions claim.
If `exact` holds functions claim the same. -/
inductive Answer.Matches (m : Correspondence) (exact : Prop) : Answer → Answer → Prop
  | same (a : Answer) : Matches m exact a a
  | details {d d' : Details} (h : d.Matches exact d') :
      Matches m exact (.details d) (.details d')
  | text {s s' : String} (h : Inspections.Agree exact s s') :
      Matches m exact (.text s) (.text s')
  | examined (display : String) {s s' : String} (h : Inspections.Agree exact s s') :
      Matches m exact (.examined display s) (.examined display s')
  | classified (shape : Shape) {s s' : String} (h : Inspections.Agree exact s s') :
      Matches m exact (.classified shape s) (.classified shape s')
  | effects (o : Outcome) {e e' : Effects} (h : e.Matches m e') :
      Matches m exact (.effects o e) (.effects o e')

/-- An answer as it is shown to the outside, where references mean nothing: of a call there are
the label of the function, the shape of the handler that ran, and its argument in brief. -/
def Answer.shown : Answer → Answer × List (String × Shape × Brief)
  | .effects o e =>
    (.effects o { e with calls := [] }, e.calls.map fun c => (c.label, c.shape, c.brief))
  | a => (a, [])

namespace Answer.Matches

variable {a b : Answer} {exact : Prop}

theorem mono {p q : Pairing} (hpq : p ≤ q) (h : a.Matches p.correspondence exact b) :
    a.Matches q.correspondence exact b := by
  cases h with
  | same a => exact .same a
  | details h => exact .details h
  | text h => exact .text h
  | examined display h => exact .examined display h
  | classified shape h => exact .classified shape h
  | effects o h =>
    refine .effects o { h with calls := h.calls.imp fun _ _ hcd => ?_ }
    exact { hcd with arg := hcd.arg.mono hpq }

theorem of_eq {m : Correspondence} (h : a = b) : a.Matches m exact b := h ▸ .same a

/-- Answers that match are shown alike, if functions claim the same. -/
theorem shown_eq {m : Correspondence} (h : a.Matches m exact b) (hexact : exact) :
    a.shown = b.shown := by
  cases h with
  | same a => rfl
  | @details d d' h =>
    obtain ⟨brief, inspection, isNull, bool, number, text, size, shapes⟩ := d
    obtain ⟨brief', inspection', isNull', bool', number', text', size', shapes'⟩ := d'
    obtain ⟨rfl, hinspection, rfl, rfl, rfl, rfl, rfl, hshapes⟩ := h
    obtain rfl : inspection = inspection' := hinspection.eq hexact
    cases hshapes with
    | none => rfl
    | some hxy => rw [hxy hexact]
  | text h => rw [h.eq hexact]
  | examined display h => rw [h.eq hexact]
  | classified shape h => rw [h.eq hexact]
  | @effects o e e' h =>
    obtain ⟨out, err, flushes, calls⟩ := e
    obtain ⟨out', err', flushes', calls'⟩ := e'
    obtain ⟨rfl, rfl, rfl, hcalls⟩ := h
    refine Prod.ext rfl (map_eq_map_of_forall₂ hcalls fun c d hcd => ?_)
    rw [hcd.label, hcd.brief, Call.shape, Call.shape, hcd.arg.shape_eq]

end Answer.Matches

/-- Two steps come out alike, with answers that match. -/
abbrev AnswersAlike (p : Pairing) (w : Nat × Nat) (exact : Prop) :
    EStateM.Result Refusal Session Answer → EStateM.Result Refusal Session Answer → Prop :=
  Likewise p w fun q => Answer.Matches q.correspondence exact

/-! ## Steps -/

/-- A step shows what functions claim: it inspects something, or it asks for the shapes that a
function handles. -/
def Step.Reflects : Step → Prop
  | .examine _ | .inspectIndented _ | .objectInspect _ | .objectInspectIndented _
  | .examineWhile .. | .classify _ => True
  | _ => False

theorem Session.length_run (s : Session) (ts : List Step) : (s.run ts).1.length = ts.length := by
  induction ts generalizing s with
  | nil => rfl
  | cons t ts ih => exact congrArg (· + 1) (ih (s.step t).2)

namespace Session.Matches

variable {p : Pairing} {w : Nat × Nat} {s t : Session} {exact : Prop}

/-- What values that match show under examination. -/
theorem details_matches (hst : Session.Matches p w s t) (hexact : exact → p.exact) {v v' : Value}
    (hv : v.Matches (p.upTo w).correspondence v') :
    Details.Matches exact (.of s.heap v) (.of t.heap v') := by
  have houtline := Value.Matches.outline_agree (p := p.upTo w) hexact hst.heap hv
  refine ⟨hst.brief_eq hv, .compact houtline, ?isNull, ?bool, ?number, ?text, ?size, ?shapes⟩
  case shapes =>
    cases hv with
    | function hf => exact .some fun h => by rw [hf.claims_eq (hexact h)]
    | scalar _ | object _ | foreign _ => exact .none
  case size =>
    cases hv with
    | object hr =>
      rename_i r r'
      have hread := hst.heap.read? hr
      simp only [Details.of]
      generalize s.heap.read? r = o, t.heap.read? r' = o' at hread
      cases hread with
      | none => rfl
      | some ho => exact congrArg some (Object.Matches.size_eq ho)
    | scalar _ | function _ | foreign _ => rfl
  all_goals cases hv <;> rfl

/-- What went out since the last report is the same, and so is what will be reported next. -/
theorem report_matches (hst : Session.Matches p w s t) :
    s.report.1.Matches (p.upTo w).correspondence t.report.1 ∧
      Session.Matches p w s.report.2 t.report.2 := by
  refine ⟨⟨?out, ?err, ?flushes, hst.calls⟩, { hst with calls := .nil, reported := ?reported }⟩
  all_goals simp only [Session.report, hst.streams, hst.reported]

theorem reportingOutcome_alike (hst : Session.Matches p w s t) (o : Outcome) :
    AnswersAlike p w exact (Session.reportingOutcome o s)
      (Session.reportingOutcome o t) := by
  obtain ⟨heffects, hafter⟩ := hst.report_matches
  exact .ok hafter (.effects o heffects)

/-- Actions that come out alike are reported alike. -/
theorem reporting_alike {x y : Action Unit} (hxy : Result.Matches p w (x s) (y t))
    (outcome : Option Fault → Outcome) :
    AnswersAlike p w exact
      (Session.reporting x outcome s) (Session.reporting y outcome t) := by
  unfold Session.reporting
  generalize x s = r, y t = r' at hxy
  cases hxy with
  | ok hst => exact hst.reportingOutcome_alike (outcome none)
  | error e hst => exact hst.reportingOutcome_alike (outcome (some e))

/-! ### Steps with literals -/

section Literals

variable {l l' m m' : Literal} {a a' : ArgLiteral}

theorem perform_bind (hst : Session.Matches p w s t) (name : String)
    (h : l.Like (Draft.Alike p.exact) l') :
    AnswersAlike p w exact
      ((Step.bind name l).perform s) ((Step.bind name l').perform t) := by
  rw [Step.perform, Step.perform]
  refine (h.evaluate_alike hst).bind fun _ hst' hv => ?_
  have hbound := hst'.bind name hv
  exact .ok hbound (.of_eq (congrArg Answer.brief (hbound.brief_eq hv)))

theorem perform_equal (hst : Session.Matches p w s t) (h : l.Like (Draft.Alike p.exact) l')
    (hm : m.Like (Draft.Alike p.exact) m') :
    AnswersAlike p w exact
      ((Step.equal l m).perform s) ((Step.equal l' m').perform t) := by
  rw [Step.perform, Step.perform]
  refine (h.evaluate_alike hst).bind fun _ hst' hv => ?_
  refine (hm.evaluate_alike hst').bind fun hw hst'' hu => ?_
  have hsame := (hv.mono (p.upTo_mono hw)).beq_eq hu
  exact .ok hst'' (.of_eq (congrArg Answer.truth hsame))

/-- A change of an object. -/
theorem store_alike (hst : Session.Matches p w s t) {r r' : ObjectRef} {o o' : Object}
    (hr : (p.upTo w).objects r r') (ho : Object.Matches (p.upTo w).correspondence o o') :
    AnswersAlike p w exact
      (Session.store r o s) (Session.store r' o' t) :=
  .ok (hst.write hr ho) (.of_eq (congrArg Answer.sized ho.size_eq))

theorem perform_set (hst : Session.Matches p w s t) (name key : String)
    (h : l.Like (Draft.Alike p.exact) l') :
    AnswersAlike p w exact
      ((Step.set name key l).perform s) ((Step.set name key l').perform t) := by
  rw [Step.perform, Step.perform]
  refine (h.evaluate_alike hst).bind fun _ hst' hv => ?_
  refine (hst'.object_alike name).bind fun {_ x y _ _} hw hst'' hxy => ?_
  have hset := hxy.2.set key (hv.mono (p.upTo_mono hw))
  obtain ⟨r, o⟩ := x
  obtain ⟨r', o'⟩ := y
  dsimp only at hset ⊢
  generalize o.set key _ = z, o'.set key _ = z' at hset
  cases hset with
  | error e => exact .ok hst'' (.same _)
  | ok ho => exact hst''.store_alike hxy.1 ho

theorem perform_add (hst : Session.Matches p w s t) (name key : String)
    (h : l.Like (Draft.Alike p.exact) l') :
    AnswersAlike p w exact
      ((Step.add name key l).perform s) ((Step.add name key l').perform t) := by
  rw [Step.perform, Step.perform]
  refine (h.evaluate_alike hst).bind fun _ hst' hv => ?_
  refine (hst'.object_alike name).bind fun hw hst'' hxy => ?_
  exact hst''.store_alike hxy.1 (hxy.2.add key (hv.mono (p.upTo_mono hw)))

theorem perform_call (hst : Session.Matches p w s t) (name : String) (entry : Entry)
    (h : a.Like (Draft.Alike p.exact) a') :
    AnswersAlike p w exact
      ((Step.call name a entry).perform s) ((Step.call name a' entry).perform t) := by
  rw [Step.perform, Step.perform]
  refine (hst.function_alike name).bind fun _ hst' hf => ?_
  refine (h.evaluate_alike hst').bind fun hw hst'' harg => ?_
  rw [call_eq_invoke, call_eq_invoke]
  exact reporting_alike ((hf.mono (p.upTo_mono hw)).invoke_matches hst'' harg) _

theorem perform_classify (hst : Session.Matches p w s t) (hexact : exact → p.exact)
    (h : a.Like (Draft.Alike p.exact) a') :
    AnswersAlike p w exact
      ((Step.classify a).perform s) ((Step.classify a').perform t) := by
  rw [Step.perform, Step.perform]
  refine (h.evaluate_alike hst).bind fun {w' b b' s' t'} _ hst' harg => ?_
  have houtline := Arg.Matches.outline_agree (p := p.upTo w') hexact hst'.heap harg
  show Likewise p w' _ (.ok (Answer.classified b.shape (b.outline s'.heap).compact) s')
    (.ok (Answer.classified b'.shape (b'.outline t'.heap).compact) t')
  rw [harg.shape_eq]
  exact .ok hst' (.classified _ (.compact houtline))

theorem perform_print (hst : Session.Matches p w s t) (stream : Stream) (entry : Entry)
    (h : a.Like (Draft.Alike p.exact) a') :
    AnswersAlike p w exact
      ((Step.print stream a entry).perform s) ((Step.print stream a' entry).perform t) := by
  rw [Step.perform, Step.perform]
  refine (h.evaluate_alike hst).bind fun _ hst' harg => ?_
  exact reporting_alike (hst'.printThrough_matches entry stream harg) _

end Literals

/-! ### Steps on values and objects -/

theorem perform_examine (hst : Session.Matches p w s t) (hexact : exact → p.exact)
    (name : String) :
    AnswersAlike p w exact
      ((Step.examine name).perform s) ((Step.examine name).perform t) := by
  -- the heap is the one before the variable is looked up
  show Likewise p w _
    ((Session.valueOf name >>= fun v => pure (.details (.of s.heap v)) : Evaluation Answer) s)
    ((Session.valueOf name >>= fun v => pure (.details (.of t.heap v)) : Evaluation Answer) t)
  have hfound := hst.lookup? name
  generalize hx : s.lookup? name = x, hy : t.lookup? name = y at hfound
  cases hfound with
  | none =>
    have hs : Session.valueOf name s = .error (.unbound name) s := by rw [Session.valueOf, hx]
    have ht : Session.valueOf name t = .error (.unbound name) t := by rw [Session.valueOf, hy]
    rw [Evaluation.bind_of_error hs, Evaluation.bind_of_error ht]
    exact .error hst _
  | @some v v' hv =>
    have hs : Session.valueOf name s = .ok v s := by rw [Session.valueOf, hx]
    have ht : Session.valueOf name t = .ok v' t := by rw [Session.valueOf, hy]
    rw [Evaluation.bind_of_ok hs, Evaluation.bind_of_ok ht]
    exact .ok hst (.details (hst.details_matches hexact hv))

theorem perform_get (hst : Session.Matches p w s t) (name key : String) (into : Option String) :
    AnswersAlike p w exact
      ((Step.get name key into).perform s) ((Step.get name key into).perform t) := by
  rw [Step.perform]
  refine (hst.object_alike name).bind fun {_ x y _ _} _ hst' hxy => ?_
  have hget := hxy.2.get key
  obtain ⟨r, o⟩ := x
  obtain ⟨r', o'⟩ := y
  dsimp only at hget ⊢
  generalize o.get key = z, o'.get key = z' at hget
  cases hget with
  | error e => exact .ok hst' (.same _)
  | ok hv =>
    cases into with
    | none => exact .ok hst' (.of_eq (congrArg Answer.brief (hst'.brief_eq hv)))
    | some n =>
      have hbound := hst'.bind n hv
      exact .ok hbound (.of_eq (congrArg Answer.brief (hbound.brief_eq hv)))

theorem perform_pairs (hst : Session.Matches p w s t) (name : String) :
    AnswersAlike p w exact
      ((Step.pairs name).perform s) ((Step.pairs name).perform t) := by
  rw [Step.perform]
  refine (hst.object_alike name).bind fun _ hst' hxy => ?_
  have hpairs := Record.Related.toPairs hxy.2
  refine .ok hst' (.of_eq (congrArg Answer.pairs (map_eq_map_of_forall₂ hpairs fun x y h => ?_)))
  exact Prod.ext h.1 (hst'.brief_eq h.2)

theorem perform_copy (hst : Session.Matches p w s t) (name into : String) :
    AnswersAlike p w exact
      ((Step.copy name into).perform s) ((Step.copy name into).perform t) := by
  rw [Step.perform]
  refine (hst.object_alike name).bind fun {_ x y _ _} _ hst' hxy => ?_
  have hkeys := hxy.2.keys_eq
  obtain ⟨r, o⟩ := x
  obtain ⟨r', o'⟩ := y
  dsimp only at hkeys ⊢
  rw [hkeys]
  refine (hst'.newObject_alike o'.keys hxy.2.values).bind fun _ hst'' hr => ?_
  exact .ok (hst''.bind into (.object hr)) (.same _)

theorem perform_objectsEqual (hst : Session.Matches p w s t) (a b : String) :
    AnswersAlike p w exact
      ((Step.objectsEqual a b).perform s) ((Step.objectsEqual a b).perform t) := by
  rw [Step.perform]
  refine (hst.object_alike a).bind fun _ hst' hx => ?_
  refine (hst'.object_alike b).bind fun hw hst'' hy => ?_
  have hsame := (hx.2.mono (p.upTo_mono hw)).beq_eq hy.2
  exact .ok hst'' (.of_eq (congrArg Answer.truth hsame))

/-- One variable is examined while the object of another one is held. -/
theorem perform_examineWhile (hst : Session.Matches p w s t) (hexact : exact → p.exact)
    (held name : String) (exclusive : Bool) :
    AnswersAlike p w exact
      ((Step.examineWhile held name exclusive).perform s)
      ((Step.examineWhile held name exclusive).perform t) := by
  rw [Step.perform]
  refine (hst.objectRef_alike held).bind fun {w₁ r r' _ _} _ hst₁ hr => ?_
  refine (hst₁.valueOf_alike name).bind fun {w₂ v v' s' t'} hw hst₂ hv => ?_
  have hheld := hst₂.heap.hold ((p.upTo_mono hw).1 _ _ hr)
    (if exclusive then .exclusive else .shared)
  have houtline := Value.Matches.outline_agree (p := p.upTo w₂) hexact hheld hv
  show Likewise p w₂ _ (.ok (Answer.examined (v.display _) (v.outline _).compact) s')
    (.ok (Answer.examined (v'.display _) (v'.outline _).compact) t')
  rw [display_eq_of_matches hheld hv]
  exact .ok hst₂ (.examined _ (.compact houtline))

/-! ### Reading -/

theorem perform_read (hst : Session.Matches p w s t) (reader : List Delivery) :
    AnswersAlike p w exact
      ((Step.read reader).perform s) ((Step.read reader).perform t) := by
  show Likewise p w _ (Session.reportingOutcome (.text (s.read reader).1) (s.read reader).2)
    (Session.reportingOutcome (.text (t.read reader).1) (t.read reader).2)
  rw [Session.read_eq, Session.read_eq, hst.streams]
  rcases t.streams.decoding.read reader with e | text
  · have hafter := hst.install (t.sent .eprintln e.report).2.streams
    show Likewise p w _ (Session.reportingOutcome (.text "") (s.sent .eprintln e.report).2)
      (Session.reportingOutcome (.text "") (t.sent .eprintln e.report).2)
    unfold Session.sent
    rw [hst.streams]
    exact hafter.reportingOutcome_alike _
  · exact hst.reportingOutcome_alike _

/-! ### Any step -/

/-- A step that is the same on both sides, but for functions made in different ways. -/
theorem perform (hst : Session.Matches p w s t) {u u' : Step}
    (h : u.Like (Draft.Alike p.exact) u') (hexact : u.Reflects → exact → p.exact) :
    AnswersAlike p w exact (u.perform s)
      (u'.perform t) := by
  have hrefl := fun l => Literal.Like.refl (Draft.Alike.refl p.exact) l
  have hrefl' := fun a => ArgLiteral.Like.refl (Draft.Alike.refl p.exact) a
  cases h with
  | bind name h => exact hst.perform_bind name h
  | equal ha hb => exact hst.perform_equal ha hb
  | set name key h => exact hst.perform_set name key h
  | add name key h => exact hst.perform_add name key h
  | call name h entry => exact hst.perform_call name entry h
  | classify h => exact hst.perform_classify (hexact trivial) h
  | print stream h entry => exact hst.perform_print stream entry h
  | same u =>
    cases u with
    | bind name l => exact hst.perform_bind name (hrefl l)
    | equal a b => exact hst.perform_equal (hrefl a) (hrefl b)
    | set name key l => exact hst.perform_set name key (hrefl l)
    | add name key l => exact hst.perform_add name key (hrefl l)
    | call name a entry => exact hst.perform_call name entry (hrefl' a)
    | classify a => exact hst.perform_classify (hexact trivial) (hrefl' a)
    | print stream a entry => exact hst.perform_print stream entry (hrefl' a)
    | get name key into => exact hst.perform_get name key into
    | pairs name => exact hst.perform_pairs name
    | copy name into => exact hst.perform_copy name into
    | objectsEqual a b => exact hst.perform_objectsEqual a b
    | examineWhile held name exclusive =>
      exact hst.perform_examineWhile (hexact trivial) held name exclusive
    | read reader => exact hst.perform_read reader
    | examine name => exact hst.perform_examine (hexact trivial) name
    | inspectIndented name =>
      exact (hst.valueOf_alike name).bind fun {w' _ _ _ _} _ hst' hv =>
        .ok hst' (.text (.indented
          (Value.Matches.outline_agree (p := p.upTo w') (hexact trivial) hst'.heap hv)))
    | downcast name kind =>
      refine (hst.valueOf_alike name).bind fun _ hst' hv => ?_
      cases hv with
      | foreign hx => exact .ok hst' (.of_eq (by rw [hx.2]))
      | scalar _ | object _ | function _ => exact .ok hst' (.same _)
    | contains name key =>
      exact (hst.object_alike name).bind fun _ hst' hxy =>
        .ok hst' (.of_eq (congrArg Answer.truth (hxy.2.contains_eq key)))
    | objectDisplay name =>
      exact (hst.object_alike name).bind fun _ hst' hxy =>
        .ok hst' (.of_eq (congrArg Answer.text (object_display_eq_of_matches hst'.heap hxy.2)))
    | objectInspect name =>
      exact (hst.object_alike name).bind fun {w' _ _ _ _} _ hst' hxy =>
        .ok hst' (.text (.compact
          (Object.Matches.outline_agree (p := p.upTo w') (hexact trivial) hst'.heap hxy.2)))
    | objectInspectIndented name =>
      exact (hst.object_alike name).bind fun {w' _ _ _ _} _ hst' hxy =>
        .ok hst' (.text (.indented
          (Object.Matches.outline_agree (p := p.upTo w') (hexact trivial) hst'.heap hxy.2)))
    | streamShapes stream => exact .ok hst (.same _)
    | rawPrint stream item =>
      have harg : item.arg.Matches (p.upTo w).correspondence item.arg := by
        rcases item with (_ | b) | x
        · exact .text _
        · exact .text _
        · exact .numeric x
      exact reporting_alike (hst.printThrough_matches .tagged stream harg) fun e =>
        .status e.isNone
    | decoding =>
      exact .ok hst (.of_eq (congrArg Answer.decoding (congrArg Streams.decoding hst.streams)))
    | tryRead reader =>
      rw [Step.perform, Evaluation.get_bind, Evaluation.get_bind, hst.streams]
      rcases t.streams.decoding.read reader with e | text <;> exact hst.reportingOutcome_alike _

/-! ## Runs -/

/-- One step. What a refused step has made by then matches as well. -/
theorem step (hst : Session.Matches p w s t) {u u' : Step}
    (h : u.Like (Draft.Alike p.exact) u') (hexact : u.Reflects → exact → p.exact) :
    (s.step u).1.Matches p.correspondence exact (t.step u').1 ∧
      ∃ w', w ≤ w' ∧ Session.Matches p w' (s.step u).2 (t.step u').2 := by
  have hperform := hst.perform h hexact
  unfold Session.step
  generalize u.perform s = x, u'.perform t = y at hperform
  cases hperform with
  | returned hafter hw hanswer => exact ⟨hanswer.mono (p.upTo_le _), _, hw, hafter⟩
  | refused hafter hw e => exact ⟨.same _, _, hw, hafter⟩

/-- A program, by induction along it with both sessions generalized. Each answer stands next to
the step that it answers. -/
theorem run (hst : Session.Matches p w s t) {us us' : List Step}
    (h : List.Forall₂ (Step.Like (Draft.Alike p.exact)) us us') :
    List.Forall₂
        (fun x y => x.2.Matches p.correspondence (x.1.Reflects → p.exact) y.2)
        (us.zip (s.run us).1) (us'.zip (t.run us').1) ∧
      ∃ w', w ≤ w' ∧ Session.Matches p w' (s.run us).2 (t.run us').2 := by
  induction h generalizing s t w with
  | nil => exact ⟨.nil, w, le_rfl, hst⟩
  | @cons u _ _ _ hu _ ih =>
    have hexact : u.Reflects → (u.Reflects → p.exact) → p.exact := fun hreflects h => h hreflects
    obtain ⟨hanswer, w', hw, hafter⟩ := hst.step hu hexact
    obtain ⟨hanswers, w'', hw', hend⟩ := ih hafter
    exact ⟨.cons hanswer hanswers, w'', hw.trans hw', hend⟩

/-- Programs are shown alike, if functions claim the same. -/
theorem map_shown_run (hst : Session.Matches p w s t) {us us' : List Step}
    (h : List.Forall₂ (Step.Like (Draft.Alike p.exact)) us us') (hexact : p.exact) :
    (s.run us).1.map Answer.shown = (t.run us').1.map Answer.shown := by
  have hanswers := (hst.run h).1
  rw [← List.map_snd_zip (Nat.le_of_eq (s.length_run us)),
    ← List.map_snd_zip (Nat.le_of_eq (t.length_run us')), List.map_map, List.map_map]
  exact map_eq_map_of_forall₂ hanswers fun x y hxy => hxy.shown_eq fun _ => hexact

end Session.Matches

end ScriptHost.Script
