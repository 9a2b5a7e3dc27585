import Mathlib.Logic.Function.Iterate
import ScriptHost.Proofs.Value.Display

/-!
# Writing one step at a time

The actions of a writer say what has come of a value in the end. Here the same is done by small
steps, so that one can stop at any moment and look at the objects in progress. What is left to do
is kept in a list. Writing an object puts its pairs on that list, and behind them the job of
taking the object off again. After a failure everything else on the list is dropped, but objects
are still taken off.

No bound stands on how deep the steps go: an object is entered whenever it is not in progress and
can be read. That they come to an end is proved, by the number of objects off the path.

- `Job`, `Object.jobs`: what can be left to do, and what there is to do for an object.
- `Value.opening`: what writing a value comes down to. `opening_cases` is the only place where
  the kinds of values are told apart.
- `Moment`, `Moment.step`: a moment of a display, and the next one.
- `Subject`, `Moment.start`: what is displayed, and the first moment.
- `Moment.concluded`: what comes of a moment if the actions of the writer do what is left to do.
  `concluded_step`: no step changes that.
- `exists_done`: there is nothing left to do after some number of steps.
-/

namespace ScriptHost

/-! ## Jobs -/

/-- A thing that is left to do. -/
inductive Job where
  | put (s : String)
  | write (v : Value)
  /-- Takes the innermost object in progress off the list. -/
  | leave

/-- What there is to do for pairs that stand behind another one. -/
def Job.restOfPairs : List (String × Value) → List Job
  | [] => []
  | (k, v) :: ps => put ", " :: put k :: put ": " :: write v :: restOfPairs ps

/-- What there is to do for an object. -/
def Object.jobs (o : Object) : List Job :=
  match o.toPairs with
  | [] => [.put "\x7b\x7d"]
  | (k, v) :: ps =>
    .put "\x7b " :: .put k :: .put ": " :: .write v :: (Job.restOfPairs ps ++ [.put " \x7d"])

theorem Job.mem_restOfPairs {ps : List (String × Value)} {j : Job}
    (hj : j ∈ Job.restOfPairs ps) : (∃ s, j = .put s) ∨ ∃ p ∈ ps, j = .write p.2 := by
  induction ps with
  | nil => cases hj
  | cons p ps ih =>
    simp only [Job.restOfPairs, List.mem_cons] at hj
    rcases hj with rfl | rfl | rfl | rfl | hrest
    · exact .inl ⟨_, rfl⟩
    · exact .inl ⟨_, rfl⟩
    · exact .inl ⟨_, rfl⟩
    · exact .inr ⟨p, List.mem_cons_self, rfl⟩
    · exact (ih hrest).imp_right fun ⟨q, hq, heq⟩ => ⟨q, List.mem_cons_of_mem _ hq, heq⟩

/-- All there is to do for an object is to put pieces and to write the values in it. -/
theorem Object.mem_jobs {o : Object} {j : Job} (hj : j ∈ o.jobs) :
    (∃ s, j = .put s) ∨ ∃ v ∈ o.values, j = .write v := by
  have hvalue : ∀ p ∈ o.toPairs, p.2 ∈ o.values := fun p hp =>
    o.map_snd_toPairs ▸ List.mem_map_of_mem hp
  unfold Object.jobs at hj
  generalize o.toPairs = ps at hj hvalue
  cases ps with
  | nil => exact .inl ⟨_, List.mem_singleton.mp hj⟩
  | cons p ps =>
    simp only [List.mem_cons, List.mem_append, List.not_mem_nil, or_false] at hj
    rcases hj with rfl | rfl | rfl | rfl | hrest | rfl
    · exact .inl ⟨_, rfl⟩
    · exact .inl ⟨_, rfl⟩
    · exact .inl ⟨_, rfl⟩
    · exact .inr ⟨p.2, hvalue p List.mem_cons_self, rfl⟩
    · exact (Job.mem_restOfPairs hrest).imp_right fun ⟨q, hq, heq⟩ =>
        ⟨q.2, hvalue q (List.mem_cons_of_mem _ hq), heq⟩
    · exact .inl ⟨_, rfl⟩

/-- What writing a value comes down to while the objects of `path` are in progress, and which
objects are in progress from then on. -/
def Value.opening (h : Heap) (path : List ObjectRef) : Value → List Job × List ObjectRef
  | scalar s => ([.put s.display], path)
  | object r =>
    if path.contains r then ([.put Writer.elided], path)
    else
      match h.read? r with
      | some o => (o.jobs ++ [.leave], r :: path)
      | none => ([.put Writer.elided], path)
  | function _ => ([.put "<native fn>"], path)
  | foreign _ => ([.put "<opaque>"], path)

/-- Writing a value comes down to one piece, or else to an object that is entered: one that is
not in progress and can be read. -/
theorem opening_cases (h : Heap) (path : List ObjectRef) (v : Value) :
    (∃ s, v.opening h path = ([.put s], path) ∧
      ∀ {σ : Type} [Outlet σ], Writer.Writes path (Writer.value (σ := σ) h v) [s]) ∨
    (∃ r o, v = .object r ∧ r ∉ path ∧ h.read? r = some o ∧
      v.opening h path = (o.jobs ++ [.leave], r :: path)) := by
  cases v with
  | scalar s => exact .inl ⟨_, rfl, Writer.value_writes (.leaf rfl)⟩
  | function f => exact .inl ⟨_, rfl, Writer.value_writes (.leaf rfl)⟩
  | foreign x => exact .inl ⟨_, rfl, Writer.value_writes (.leaf rfl)⟩
  | object r =>
    by_cases hr : r ∈ path
    · have hopening : (Value.object r).opening h path = ([.put Writer.elided], path) := by
        rw [Value.opening, if_pos (List.contains_iff_mem.mpr hr)]
      exact .inl ⟨_, hopening, Writer.value_writes (.elided (.inl hr))⟩
    · have hcontains : ¬ path.contains r = true := fun hc => hr (List.contains_iff_mem.mp hc)
      cases ho : h.read? r with
      | none =>
        have hopening : (Value.object r).opening h path = ([.put Writer.elided], path) := by
          rw [Value.opening, if_neg hcontains, ho]
        have held := Heap.heldForChange_iff_read?.mpr ho
        exact .inl ⟨_, hopening, Writer.value_writes (.elided (.inr held))⟩
      | some o =>
        have hopening : (Value.object r).opening h path = (o.jobs ++ [.leave], r :: path) := by
          rw [Value.opening, if_neg hcontains, ho]
        exact .inr ⟨r, o, rfl, hr, ho, hopening⟩

/-! ## Moments -/

/-- A moment of a display: what is left to do, how it failed if it did, and where the writing
stands. -/
structure Moment (σ : Type) where
  jobs : List Job
  failure : Option IoError
  writing : Writing σ

/-- What is displayed: a value, or an object on its own. -/
inductive Subject where
  | value (v : Value)
  | object (o : Object)

namespace Subject

/-- The action that writes a subject. -/
def writer {σ : Type} [Outlet σ] (h : Heap) : Subject → Writer σ Unit
  | value v => Writer.value h v
  | object o => Writer.object (Writer.value h) o

/-- What there is to do for a subject. -/
def jobs : Subject → List Job
  | value v => [.write v]
  | object o => o.jobs

end Subject

namespace Moment

variable {σ : Type}

/-- The moment before anything is written. -/
def start (s : Subject) (out : σ) : Moment σ := ⟨s.jobs, none, ⟨[], out⟩⟩

/-- The result when nothing is left to do. -/
def result : Moment σ → EStateM.Result IoError (Writing σ) Unit
  | ⟨_, none, w⟩ => .ok () w
  | ⟨_, some e, w⟩ => .error e w

theorem result_settled (js : List Job) (path : List ObjectRef) (said : Option IoError × σ) :
    result ⟨js, said.1, ⟨path, said.2⟩⟩ = Writer.settle path said := by
  rcases said with ⟨_ | e, out⟩ <;> rfl

variable [Outlet σ]

/-- The next moment. When nothing is left to do, nothing happens any more. -/
def step (h : Heap) : Moment σ → Moment σ
  | ⟨[], e, w⟩ => ⟨[], e, w⟩
  | ⟨.leave :: js, e, w⟩ => ⟨js, e, { w with active := w.active.tail }⟩
  | ⟨.put s :: js, none, w⟩ =>
    let (e, out) := Outlet.put w.outlet s
    ⟨js, e, { w with outlet := out }⟩
  | ⟨.write v :: js, none, w⟩ =>
    let (opened, path) := v.opening h w.active
    ⟨opened ++ js, none, { w with active := path }⟩
  | ⟨_ :: js, some e, w⟩ => ⟨js, some e, w⟩

end Moment

/-! ## What comes of a moment -/

section Conclusion

variable {σ : Type} [Outlet σ] {h : Heap}

/-- A job, done by the actions of the writer. -/
def Job.perform (h : Heap) :
    EStateM.Result IoError (Writing σ) Unit → Job → EStateM.Result IoError (Writing σ) Unit
  | .ok _ w, put s => Writer.put s w
  | .ok _ w, write v => Writer.value h v w
  | .ok _ w, leave => .ok () { w with active := w.active.tail }
  | .error e w, leave => .error e { w with active := w.active.tail }
  | .error e w, _ => .error e w

/-- The result if the actions of the writer do all that is left to do. -/
def Moment.concluded (h : Heap) (m : Moment σ) : EStateM.Result IoError (Writing σ) Unit :=
  m.jobs.foldl (Job.perform h) m.result

/-- Doing the jobs is the same as the action, and nothing is done after a failure. -/
structure Performs (h : Heap) (js : List Job) (action : Writer σ Unit) : Prop where
  ok : ∀ w, js.foldl (Job.perform h) (.ok () w) = action w
  error : ∀ e w, js.foldl (Job.perform h) (.error e w : EStateM.Result _ (Writing σ) Unit)
    = .error e w

namespace Performs

variable {js ks : List Job} {action next : Writer σ Unit}

theorem nil : Performs h [] (pure () : Writer σ Unit) := ⟨fun _ => rfl, fun _ _ => rfl⟩

theorem put (s : String) : Performs h [.put s] (Writer.put s : Writer σ Unit) :=
  ⟨fun _ => rfl, fun _ _ => rfl⟩

theorem write (v : Value) : Performs h [.write v] (Writer.value h v : Writer σ Unit) :=
  ⟨fun _ => rfl, fun _ _ => rfl⟩

theorem append (hjs : Performs h js action) (hks : Performs h ks next) :
    Performs h (js ++ ks) (do action; next) where
  ok w := by
    show _ = EStateM.bind action (fun _ => next) w
    rw [List.foldl_append, hjs.ok, EStateM.bind]
    cases action w with
    | ok _ w' => exact hks.ok w'
    | error e w' => exact hks.error e w'
  error e w := by rw [List.foldl_append, hjs.error, hks.error]

theorem restOfPairs (ps : List (String × Value)) :
    Performs h (Job.restOfPairs ps) (Writer.restOfPairs (σ := σ) (Writer.value h) ps) := by
  induction ps with
  | nil => exact nil
  | cons p ps ih =>
    exact (put ", ").append <| (put p.1).append <| (put ": ").append <| (write p.2).append ih

/-- What there is to do for an object is what the writer does for it. -/
theorem object (o : Object) :
    Performs h o.jobs (Writer.object (σ := σ) (Writer.value h) o) := by
  unfold Object.jobs Writer.object
  cases o.toPairs with
  | nil => exact put _
  | cons p ps =>
    exact (put "\x7b ").append <| (put p.1).append <| (put ": ").append <| (write p.2).append <|
      (restOfPairs ps).append (put " \x7d")

end Performs

/-- An object that is neither in progress nor held for a change is entered, however many are in
progress already. -/
theorem Writer.value_entered {path : List ObjectRef} {r : ObjectRef} {o : Object} (hr : r ∉ path)
    (ho : h.read? r = some o) (out : σ) :
    Writer.value h (.object r) ⟨path, out⟩
      = Writer.within r (Writer.object (Writer.value h) o) ⟨path, out⟩ := by
  obtain ⟨c, cell, hc, rfl⟩ := Heap.read?_eq_some_iff.mp ho
  obtain ⟨ts, hts⟩ := exists_unfoldsPairs (exists_unfolds h (r :: path)) c.object.toPairs
  -- both sides write the pieces of one layout, so the bound that `value` starts with does not show
  have hvalue := Writer.value_writes (σ := σ) (.full hr cell hc hts)
  have hobject := (Writer.object_writes (σ := σ) Writer.value_writes hts r).within
  rw [hvalue out, hobject out]

/-- What writing a value comes down to is what the writer does for it. -/
theorem foldl_opening (path : List ObjectRef) (v : Value) (out : σ) :
    (v.opening h path).1.foldl (Job.perform h) (.ok () ⟨(v.opening h path).2, out⟩)
      = Writer.value h v ⟨path, out⟩ := by
  rcases opening_cases h path v with ⟨s, hopening, hwrites⟩ | ⟨r, o, rfl, hr, ho, hopening⟩
  · rw [hopening, hwrites out, ← Writer.writes_put]
    rfl
  · rw [hopening, Writer.value_entered hr ho, Writer.within, List.foldl_append,
      (Performs.object o).ok]
    dsimp only
    cases Writer.object (Writer.value h) o ⟨r :: path, out⟩ <;> rfl

namespace Moment

/-- A step does not change what comes of a moment: the actions of the writer go on from every one
as the steps do. -/
@[simp] theorem concluded_step (m : Moment σ) : (m.step h).concluded h = m.concluded h := by
  obtain ⟨js, e, w⟩ := m
  cases js with
  | nil => rfl
  | cons j js =>
    cases j with
    | leave => cases e <;> rfl
    | put s =>
      cases e with
      | some e => rfl
      | none =>
        have hput : Writer.put s w = Writer.settle w.active (Outlet.put w.outlet s) := by
          rw [← Outlet.putAll_singleton]
          exact Writer.writes_put s w.outlet
        rw [← result_settled js] at hput
        exact congrArg (js.foldl (Job.perform h)) hput.symm
    | write v =>
      cases e with
      | some e => rfl
      | none =>
        show List.foldl _ _ (_ ++ js) = js.foldl _ (Writer.value h v w)
        rw [List.foldl_append, ← foldl_opening w.active v w.outlet]
        rfl

@[simp] theorem concluded_iterate (n : Nat) (m : Moment σ) :
    ((step h)^[n] m).concluded h = m.concluded h := by
  induction n with
  | zero => rfl
  | succ n ih => rw [Function.iterate_succ_apply', concluded_step, ih]

/-- What comes of the first moment is what the writer does for the subject. -/
theorem concluded_start (s : Subject) (out : σ) :
    (start s out).concluded h = s.writer h ⟨[], out⟩ := by
  cases s with
  | value v => exact (Performs.write v).ok _
  | object o => exact (Performs.object o).ok _

theorem concluded_of_done {m : Moment σ} (done : m.jobs = []) : m.concluded h = m.result := by
  rw [concluded, done]
  rfl

end Moment

end Conclusion

/-! ## Steps come to an end -/

section Ending

variable {σ : Type} [Outlet σ] {h : Heap} {path : List ObjectRef}

/-- One moment comes before another one. -/
def Moment.Leads (h : Heap) (m m' : Moment σ) : Prop := ∃ n, (step h)^[n] m = m'

theorem Moment.Leads.trans {m m' m'' : Moment σ} (hm : m.Leads h m') (hm' : m'.Leads h m'') :
    m.Leads h m'' := by
  obtain ⟨n, rfl⟩ := hm
  obtain ⟨k, rfl⟩ := hm'
  exact ⟨k + n, Function.iterate_add_apply _ k n m⟩

theorem Moment.Leads.step (m : Moment σ) : m.Leads h (m.step h) := ⟨1, rfl⟩

/-- Whatever comes behind them and whether or not something has failed before, the jobs are done
some time, and then the objects of `path` are in progress, as they were at first. -/
def Finish (σ : Type) [Outlet σ] (h : Heap) (path : List ObjectRef) (js : List Job) : Prop :=
  ∀ (rest : List Job) (e : Option IoError) (out : σ), ∃ e' out',
    Moment.Leads h ⟨js ++ rest, e, ⟨path, out⟩⟩ ⟨rest, e', ⟨path, out'⟩⟩

namespace Finish

variable {js ks : List Job}

theorem nil : Finish σ h path [] := fun _ e out => ⟨e, out, 0, rfl⟩

theorem append (hjs : Finish σ h path js) (hks : Finish σ h path ks) :
    Finish σ h path (js ++ ks) := by
  intro rest e out
  obtain ⟨e', out', hfirst⟩ := hjs (ks ++ rest) e out
  obtain ⟨e'', out'', hsecond⟩ := hks rest e' out'
  rw [List.append_assoc]
  exact ⟨e'', out'', hfirst.trans hsecond⟩

theorem put (s : String) : Finish σ h path [.put s] := by
  intro rest e out
  cases e with
  | none => exact ⟨_, _, .step _⟩
  | some e => exact ⟨_, _, .step _⟩

theorem of_forall_mem (each : ∀ j ∈ js, Finish σ h path [j]) : Finish σ h path js := by
  induction js with
  | nil => exact nil
  | cons j js ih =>
    have hjs : Finish σ h path js := ih fun k hk => each k (List.mem_cons_of_mem _ hk)
    exact (each j List.mem_cons_self).append hjs

theorem object (each : ∀ v, Finish σ h path [.write v]) (o : Object) :
    Finish σ h path o.jobs := by
  refine of_forall_mem fun j hj => ?_
  rcases Object.mem_jobs hj with ⟨s, rfl⟩ | ⟨v, -, rfl⟩
  · exact put s
  · exact each v

/-- An object is done, below a path that it is not on, when everything in it is done below the
path that it is on. -/
theorem entered {r : ObjectRef} {o : Object} (hobject : Finish σ h (r :: path) o.jobs)
    (rest : List Job) (out : σ) : ∃ e' out',
      Moment.Leads h ⟨o.jobs ++ [.leave] ++ rest, none, ⟨r :: path, out⟩⟩
        ⟨rest, e', ⟨path, out'⟩⟩ := by
  obtain ⟨e', out', hinside⟩ := hobject (.leave :: rest) none out
  rw [List.append_assoc]
  exact ⟨e', out', hinside.trans (.step _)⟩

/-- Writing a value is done some time, by induction on the number of objects off the path:
entering an object takes one off it. -/
theorem write (path : List ObjectRef) (v : Value) : Finish σ h path [.write v] := by
  induction hn : h.offPath path using Nat.strongRecOn generalizing path v with
  | ind n ih =>
    intro rest e out
    cases e with
    | some e => exact ⟨_, _, .step _⟩
    | none =>
      have hstep : Moment.Leads h ⟨[.write v] ++ rest, none, ⟨path, out⟩⟩
          ⟨(v.opening h path).1 ++ rest, none, ⟨(v.opening h path).2, out⟩⟩ := .step _
      rcases opening_cases h path v with ⟨s, hopening, -⟩ | ⟨r, o, rfl, hr, ho, hopening⟩
      · rw [hopening] at hstep
        have hpiece : Finish σ h path [.put s] := put s
        obtain ⟨e', out', hput⟩ := hpiece rest none out
        exact ⟨e', out', hstep.trans hput⟩
      · rw [hopening] at hstep
        have hlt : h.offPath (r :: path) < n := by
          rw [← hn]
          exact Heap.offPath_cons_lt (Heap.lt_size_of_read? ho) hr
        have hobject : Finish σ h (r :: path) o.jobs := object (fun w => ih _ hlt _ w rfl) o
        obtain ⟨e', out', hinside⟩ := hobject.entered rest out
        exact ⟨e', out', hstep.trans hinside⟩

end Finish

/-- A display comes to an end: some time there is nothing left to do, and then no object is in
progress. -/
theorem Moment.exists_done (h : Heap) (s : Subject) (out : σ) :
    ∃ n, ((step h)^[n] (start s out)).jobs = [] ∧
      ((step h)^[n] (start s out)).writing.active = [] := by
  have hsubject : Finish σ h [] s.jobs := by
    cases s with
    | value v => exact .write [] v
    | object o => exact .object (.write []) o
  obtain ⟨e, out', n, hn⟩ := hsubject [] none out
  rw [List.append_nil] at hn
  refine ⟨n, ?_, ?_⟩
  · rw [start, hn]
  · rw [start, hn]

end Ending

end ScriptHost
