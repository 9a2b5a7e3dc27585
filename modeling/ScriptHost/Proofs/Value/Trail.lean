import Mathlib.Data.Set.Card
import ScriptHost.Proofs.Value.Correspondence
import ScriptHost.Proofs.Value.Stepwise

/-!
# Objects in progress

While something is displayed, the list of objects in progress is a way through the heap: each
object on it stands as a value in the one before, and none comes twice. So objects cannot be
nested deeper than there are objects to reach, whatever cycles the heap has.

- `Subject.Inside`: a value stands right inside the innermost object in progress.
- `Subject.Trail`: the objects in progress were entered one from inside the other.
- `Subject.Awaits`: what is left to do belongs to the objects in progress, level by level.
- `Subject.Orderly`: both, of a moment. `orderly_step` is the invariant.
- `Subject.reached`: the objects that can be reached from what is displayed.
- `Moment.depth`: how many objects are nested.
- `Moment.Nested`: what holds at one moment, and the bound on the depth.
- `objects_in_progress_form_trail`: at every moment of every display.
-/

namespace ScriptHost

/-- An object stands as a value in another one. -/
def Heap.Contains (h : Heap) (outer inner : ObjectRef) : Prop :=
  ∃ c, h.cells[outer.index]? = some c ∧ .object inner ∈ c.object.values

namespace Subject

/-- The values that a subject consists of. -/
def values : Subject → List Value
  | value v => [v]
  | object o => o.values

/-- The objects that can be reached from a subject. -/
def reached (h : Heap) (s : Subject) : Set ObjectRef := {r | ∃ v ∈ s.values, h.Reaches v r}

/-- A value stands right inside the innermost object in progress, or inside the subject if no
object is in progress. -/
def Inside (h : Heap) (s : Subject) : List ObjectRef → Value → Prop
  | [], v => v ∈ s.values
  | r :: _, v => ∃ c, h.cells[r.index]? = some c ∧ v ∈ c.object.values

/-- The objects of a path were entered one from inside the other, each when it was neither in
progress nor held for a change. -/
inductive Trail (h : Heap) (s : Subject) : List ObjectRef → Prop
  | start : Trail h s []
  | enter {path : List ObjectRef} {r : ObjectRef} (trail : Trail h s path) (off : r ∉ path)
      (unheld : ¬ h.HeldForChange r) (inside : s.Inside h path (.object r)) :
      Trail h s (r :: path)

/-- What is left to do, as far as the innermost object is taken off, is to write pieces and
values inside that object; then the same holds of what is left for the object around it. -/
inductive Awaits (h : Heap) (s : Subject) : List ObjectRef → List Job → Prop
  | done : Awaits h s [] []
  | put {path : List ObjectRef} {js : List Job} (text : String) (rest : Awaits h s path js) :
      Awaits h s path (.put text :: js)
  | write {path : List ObjectRef} {js : List Job} {v : Value} (inside : s.Inside h path v)
      (rest : Awaits h s path js) : Awaits h s path (.write v :: js)
  | leave {path : List ObjectRef} {js : List Job} {r : ObjectRef} (rest : Awaits h s path js) :
      Awaits h s (r :: path) (.leave :: js)

/-- The objects in progress form a trail, and what is left to do belongs to them. -/
structure Orderly {σ : Type} (h : Heap) (s : Subject) (m : Moment σ) : Prop where
  trail : s.Trail h m.writing.active
  awaits : s.Awaits h m.writing.active m.jobs

end Subject

/-! ## Every step keeps to the trail -/

section Keeping

variable {h : Heap} {s : Subject} {path : List ObjectRef} {js : List Job}

namespace Subject

theorem Awaits.inside_of_write {v : Value} (awaits : s.Awaits h path (.write v :: js)) :
    s.Inside h path v := by
  cases awaits with
  | write inside _ => exact inside

/-- What there is to do for an object belongs inside of it. -/
theorem Awaits.object {o : Object} (each : ∀ v ∈ o.values, s.Inside h path v)
    (rest : s.Awaits h path js) : s.Awaits h path (o.jobs ++ js) := by
  have hbelongs : ∀ ks ⊆ o.jobs, s.Awaits h path (ks ++ js) := by
    intro ks hsub
    induction ks with
    | nil => exact rest
    | cons k ks ih =>
      obtain ⟨hk, hks⟩ := List.cons_subset.mp hsub
      have hawaits : s.Awaits h path (ks ++ js) := ih hks
      rcases Object.mem_jobs hk with ⟨text, rfl⟩ | ⟨v, hv, rfl⟩
      · exact .put text hawaits
      · exact .write (each v hv) hawaits
  exact hbelongs o.jobs (List.Subset.refl _)

theorem orderly_start {σ : Type} (out : σ) : s.Orderly h (.start s out) where
  trail := .start
  awaits := by
    cases s with
    | value v => exact .write (List.mem_singleton_self v) .done
    | object o =>
      rw [Moment.start, jobs, ← List.append_nil o.jobs]
      exact .object (fun _ hv => hv) .done

variable {σ : Type} [Outlet σ] {m : Moment σ}

/-- A step keeps to the trail: it enters an object from inside the innermost one, or leaves the
innermost one, or does neither. -/
theorem orderly_step (hm : s.Orderly h m) : s.Orderly h (m.step h) := by
  obtain ⟨js, e, path, out⟩ := m
  obtain ⟨trail, awaits⟩ := hm
  dsimp only at trail awaits
  cases awaits with
  | done => exact ⟨trail, .done⟩
  | put text rest =>
    cases e with
    | none => exact ⟨trail, rest⟩
    | some e => exact ⟨trail, rest⟩
  | leave rest =>
    cases trail with
    | enter trail => exact ⟨trail, rest⟩
  | @write _ js v inside rest =>
    cases e with
    | some e => exact ⟨trail, rest⟩
    | none =>
      have hstep : Moment.step h ⟨.write v :: js, none, ⟨path, out⟩⟩
        = ⟨(v.opening h path).1 ++ js, none, ⟨(v.opening h path).2, out⟩⟩ := rfl
      rw [hstep]
      rcases opening_cases h path v with ⟨text, hopening, -⟩ | ⟨r, o, rfl, hr, ho, hopening⟩
      · rw [hopening]
        exact ⟨trail, .put text rest⟩
      · rw [hopening]
        obtain ⟨c, cell, hc, rfl⟩ := Heap.read?_eq_some_iff.mp ho
        refine ⟨.enter trail hr (fun held => hc (held c cell)) inside, ?_⟩
        show s.Awaits h (r :: path) (c.object.jobs ++ [.leave] ++ js)
        rw [List.append_assoc]
        exact .object (fun v hv => ⟨c, cell, hv⟩) (.leave rest)

theorem orderly_iterate (hm : s.Orderly h m) (n : Nat) :
    s.Orderly h ((Moment.step h)^[n] m) := by
  induction n with
  | zero => exact hm
  | succ n ih =>
    rw [Function.iterate_succ_apply']
    exact orderly_step ih

end Subject

end Keeping

/-! ## What is known of a trail -/

namespace Subject

variable {h : Heap} {s : Subject} {path : List ObjectRef} {r : ObjectRef}

theorem Trail.nodup (trail : s.Trail h path) : path.Nodup := by
  induction trail with
  | start => exact List.nodup_nil
  | enter _ off _ _ ih => exact List.nodup_cons.mpr ⟨off, ih⟩

theorem Trail.not_heldForChange (trail : s.Trail h path) : ∀ r ∈ path, ¬ h.HeldForChange r := by
  induction trail with
  | start => simp
  | enter _ _ unheld _ ih => exact List.forall_mem_cons.mpr ⟨unheld, ih⟩

/-- Each object of a trail stands in the one around it. -/
theorem Trail.isChain (trail : s.Trail h path) :
    path.IsChain fun inner outer => h.Contains outer inner := by
  induction trail with
  | start => exact .nil
  | @enter path r _ _ _ inside ih =>
    cases path with
    | nil => exact .singleton r
    | cons outer path => exact .cons_cons inside ih

/-- The outermost object of a trail stands in the subject. -/
theorem Trail.mem_values_of_getLast? (trail : s.Trail h path) (hr : path.getLast? = some r) :
    .object r ∈ s.values := by
  induction trail with
  | start => cases hr
  | @enter path q _ _ _ inside ih =>
    cases path with
    | nil =>
      cases hr
      exact inside
    | cons outer path => exact ih (List.getLast?_cons_cons ▸ hr)

/-- What can be reached from inside the innermost object can be reached from the subject. -/
theorem Trail.mem_reached_of_inside (trail : s.Trail h path) {v : Value}
    (inside : s.Inside h path v) (reaches : h.Reaches v r) : r ∈ s.reached h := by
  induction trail generalizing v with
  | start => exact ⟨v, inside, reaches⟩
  | enter _ _ _ outside ih =>
    obtain ⟨c, cell, mem⟩ := inside
    exact ih outside (.inside cell mem reaches)

theorem Trail.subset_reached (trail : s.Trail h path) : ∀ r ∈ path, r ∈ s.reached h := by
  induction trail with
  | start => simp
  | enter trail _ _ inside ih =>
    exact List.forall_mem_cons.mpr ⟨trail.mem_reached_of_inside inside (.here _), ih⟩

end Subject

/-! ## How deep objects are nested -/

/-- What can be reached from a value is named by it, or in some object of the heap. -/
theorem Heap.Reaches.named {h : Heap} {v : Value} {r : ObjectRef} (hr : h.Reaches v r) :
    v = .object r ∨ ∃ c ∈ h.cells.toList, .object r ∈ c.object.values := by
  induction hr with
  | here r => exact .inl rfl
  | inside cell mem _ ih =>
    rcases ih with rfl | hnamed
    · exact .inr ⟨_, Array.mem_toList_iff.mpr (Array.mem_of_getElem? cell), mem⟩
    · exact .inr hnamed

/-- No more objects can be reached than are named. -/
theorem Subject.finite_reached (h : Heap) (s : Subject) : (s.reached h).Finite := by
  have hnames : (Set.preimage Value.object
      {w | w ∈ s.values ++ h.cells.toList.flatMap fun c => c.object.values}).Finite :=
    (List.finite_toSet _).preimage fun _ _ _ _ heq => Value.object.inj heq
  refine hnames.subset ?_
  rintro r ⟨v, hv, reaches⟩
  show Value.object r ∈ s.values ++ _
  rcases reaches.named with rfl | ⟨c, hc, mem⟩
  · exact List.mem_append_left _ hv
  · exact List.mem_append_right _ (List.mem_flatMap.mpr ⟨c, hc, mem⟩)

theorem Subject.length_le_ncard_reached {h : Heap} {s : Subject} {path : List ObjectRef}
    (nodup : path.Nodup) (hsub : ∀ r ∈ path, r ∈ s.reached h) :
    path.length ≤ (s.reached h).ncard := by
  rw [← List.toFinset_card_of_nodup nodup, ← Set.ncard_coe_finset]
  exact Set.ncard_le_ncard (fun r hr => hsub r (List.mem_toFinset.mp hr)) (s.finite_reached h)

/-- Whether the job ends the writing of an object. -/
def Job.isLeave : Job → Bool
  | leave => true
  | put _ | write _ => false

/-- How many objects are being written, one within the other: those whose writing has still to
be ended. -/
def Moment.depth {σ : Type} (m : Moment σ) : Nat := m.jobs.countP Job.isLeave

/-- The objects that are being written are those in progress. -/
theorem Subject.Awaits.countP_isLeave {h : Heap} {s : Subject} {path : List ObjectRef}
    {js : List Job} (awaits : s.Awaits h path js) : js.countP Job.isLeave = path.length := by
  induction awaits with
  | done => rfl
  | put _ _ ih => rw [List.countP_cons_of_neg (by simp [Job.isLeave]), ih]
  | write _ _ ih => rw [List.countP_cons_of_neg (by simp [Job.isLeave]), ih]
  | leave _ ih => rw [List.countP_cons_of_pos rfl, ih, List.length_cons]

/-- What holds of the objects in progress at a moment of a display. -/
structure Moment.Nested {σ : Type} (h : Heap) (s : Subject) (m : Moment σ) : Prop where
  /-- None is there twice. -/
  nodup : m.writing.active.Nodup
  /-- None is held for a change. -/
  unheld : ∀ r ∈ m.writing.active, ¬ h.HeldForChange r
  /-- Each stands as a value in the one around it. -/
  linked : m.writing.active.IsChain fun inner outer => h.Contains outer inner
  /-- The outermost one stands in what is displayed. -/
  outermost : ∀ r, m.writing.active.getLast? = some r → .object r ∈ s.values
  /-- They are the objects that are being written, one within the other. -/
  depth_eq : m.depth = m.writing.active.length
  /-- There are no more of them than can be reached. -/
  depth_le : m.depth ≤ (s.reached h).ncard
  /-- When an object comes next that is not one of them, there are fewer, so that it may be counted
  as well. One that is met again is not entered. -/
  room : ∀ r js, m.jobs = .write (.object r) :: js → r ∉ m.writing.active →
    m.depth < (s.reached h).ncard

theorem Subject.Orderly.nested {σ : Type} {h : Heap} {s : Subject} {m : Moment σ}
    (hm : s.Orderly h m) : m.Nested h s := by
  obtain ⟨trail, awaits⟩ := hm
  have hdepth : m.depth = m.writing.active.length := awaits.countP_isLeave
  refine ⟨trail.nodup, trail.not_heldForChange, trail.isChain,
    fun _ => trail.mem_values_of_getLast?, hdepth, ?bound, ?room⟩
  case bound =>
    rw [hdepth]
    exact length_le_ncard_reached trail.nodup trail.subset_reached
  case room =>
    intro r js hnext off
    rw [hnext] at awaits
    have hr : r ∈ s.reached h := trail.mem_reached_of_inside awaits.inside_of_write (.here r)
    rw [hdepth]
    exact length_le_ncard_reached (List.nodup_cons.mpr ⟨off, trail.nodup⟩)
      (List.forall_mem_cons.mpr ⟨hr, trail.subset_reached⟩)

/-- **Objects in progress form a trail, and every display comes to an end.** Whatever is
displayed, on whatever outlet, and whether or not the outlet refuses a piece,
1. only so many objects can be reached;
2. at every moment the objects in progress are nested one within the other, none twice and none
   that is held for a change, and there are no more of them than can be reached; and what the
   actions of the writer make of that moment is what they make of the display;
3. some time nothing is left to do, no object is in progress any more, and the result is that of
   the actions of the writer. -/
theorem objects_in_progress_form_trail {σ : Type} [Outlet σ] (h : Heap) (s : Subject) (out : σ) :
    (s.reached h).Finite ∧
    (∀ n : Nat, ((Moment.step h)^[n] (.start s out)).Nested h s ∧
      ((Moment.step h)^[n] (.start s out)).concluded h = s.writer h ⟨[], out⟩) ∧
    ∃ n : Nat, ((Moment.step h)^[n] (.start s out)).jobs = [] ∧
      ((Moment.step h)^[n] (.start s out)).writing.active = [] ∧
      ((Moment.step h)^[n] (.start s out)).result = s.writer h ⟨[], out⟩ := by
  have hconcluded (n : Nat) :
      ((Moment.step h)^[n] (.start s out)).concluded h = s.writer h ⟨[], out⟩ := by
    rw [Moment.concluded_iterate, Moment.concluded_start]
  refine ⟨s.finite_reached h, fun n => ⟨?nested, hconcluded n⟩, ?ending⟩
  case nested => exact (Subject.orderly_iterate (Subject.orderly_start out) n).nested
  case ending =>
    obtain ⟨n, hdone, hactive⟩ := Moment.exists_done h s out
    exact ⟨n, hdone, hactive, by rw [← Moment.concluded_of_done hdone, hconcluded n]⟩

/-- Two objects, each below the other: both are in progress when the first is met again. -/
example :
    let h : Heap := ⟨#[⟨⟨["down"], [.object ⟨1⟩], rfl⟩, .shared⟩,
      ⟨⟨["up"], [.object ⟨0⟩], rfl⟩, .free⟩]⟩
    let m : Moment String := (Moment.step h)^[8] (.start (.value (.object ⟨0⟩)) "")
    m.writing = ⟨[⟨1⟩, ⟨0⟩], "\x7b down: \x7b up: "⟩ ∧ m.depth = 2 := by
  exact ⟨rfl, rfl⟩

end ScriptHost
