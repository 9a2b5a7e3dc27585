import ScriptHost.Script.Invoke
import ScriptHost.Script.Literal

/-!
# Chains of functions

A function may do no more than pass its argument on to another one, in the shape in which it got
it. Where functions of this kind stand in a row, a call of the first runs one handler in each of
them. An argument goes on unboxed until a function has no handler for its shape; from there on it
is boxed, even for functions that would take it unboxed.

- `Native.handles`, `Native.handlerFor`: the shapes for which a function has a handler of its own,
  and the handler that takes a shape.
- `Handler.effect`: what a handler does besides being logged.
- `Link`, `chain`, `functions`: functions that pass everything on, in a row before a last one.
- `Arg.through`: an argument after some functions.
- `callsThrough`: the calls that a chain logs.
- `Link.draft`, `resolve_draft`: a link is what a program makes of handlers that all forward to one
  function.
- `call_eq_invoke`: the ways to make a call are the same.
- `invoke_chain_apply`: a call of a chain, by induction along it.
- `invoke_chain`: what a chain logs and returns, shape by shape.
-/

namespace ScriptHost

/-! ## Handlers and shapes -/

namespace Native

/-- Whether a function has a handler of its own for a shape. -/
def handles (f : Native) : Shape → Bool
  | .generic => true
  | .text => f.text?.isSome
  | .numeric => f.numeric?.isSome

/-- The handler that takes an argument of a shape. -/
def handlerFor (f : Native) (s : Shape) : Handler Native := (f.select s).1

theorem select_snd (f : Native) (s : Shape) :
    (f.select s).2 = if f.handles s then s else .generic := by
  rcases f with ⟨_, _, _, _ | _, _ | _, _⟩ <;> cases s <;> rfl

/-- A shape without a handler of its own is taken by the generic handler. -/
theorem handlerFor_select_snd (f : Native) (s : Shape) :
    f.handlerFor (f.select s).2 = f.handlerFor s := by
  rcases f with ⟨_, _, _, _ | _, _ | _, _⟩ <;> cases s <;> rfl

end Native

namespace Arg

@[simp] theorem inShape_shape (a : Arg) : a.inShape a.shape = a := by
  cases a <;> rfl

/-- An argument after it went through some functions: as it was if each of them handles its
shape, and otherwise boxed. -/
def through (a : Arg) (fs : List Native) : Arg :=
  if fs.all (·.handles a.shape) then a else .generic a.boxed

theorem through_singleton (a : Arg) (f : Native) :
    a.through [f] = a.inShape (f.select a.shape).2 := by
  rw [through, Native.select_snd, List.all_cons, List.all_nil, Bool.and_true]
  by_cases h : f.handles a.shape = true
  · rw [if_pos h, if_pos h, inShape_shape]
  · rw [if_neg h, if_neg h]
    rfl

/-- The shape of an argument that went through a function is that of the handler that ran. -/
theorem shape_through (a : Arg) (f : Native) : (a.through [f]).shape = (f.select a.shape).2 := by
  rw [through_singleton, Native.select_snd]
  by_cases h : f.handles a.shape = true
  · rw [if_pos h, inShape_shape]
  · rw [if_neg h]
    rfl

/-- A value is a value after any function. -/
theorem through_generic (v : Value) (fs : List Native) :
    (Arg.generic v).through fs = .generic v := by
  rw [through]
  exact ite_self _

/-- The functions after the first take the argument as the first one left it. -/
theorem through_cons (a : Arg) (f : Native) (fs : List Native) :
    a.through (f :: fs) = (a.through [f]).through fs := by
  rw [through, through_singleton, Native.select_snd, List.all_cons]
  by_cases h : f.handles a.shape = true
  · rw [if_pos h, inShape_shape, h, Bool.true_and]
    rfl
  · rw [if_neg h, Bool.eq_false_iff.mpr h, Bool.false_and]
    exact (through_generic a.boxed fs).symm

@[simp] theorem boxed_through (a : Arg) (fs : List Native) : (a.through fs).boxed = a.boxed := by
  rw [through]
  split <;> rfl

end Arg

open Script in
/-- What a handler does besides being logged. -/
def Handler.effect (h : Handler Native) (a : Arg) : Action Unit :=
  match h with
  | .succeed => pure ()
  | .fail e => throw e
  | .forward g => invoke g a
  | .print stream => Session.print stream a
  | .store r key => Session.append r key a.boxed

namespace Script

/-! ## Calls -/

theorem runHandler_apply (label : String) (h : Handler Native) (a : Arg) (s : Session) :
    runHandler label h a s
      = h.effect a { s with calls := s.calls ++ [⟨label, a, Brief.of s.heap a.boxed⟩] } := by
  cases h <;> rw [runHandler] <;> rfl

/-- A call logs the handler that takes the argument, and has its effect. -/
theorem invoke_apply (f : Native) (a : Arg) (s : Session) :
    invoke f a s
      = (f.handlerFor (a.through [f]).shape).effect (a.through [f])
          { s with calls := s.calls ++ [⟨f.label, a.through [f], Brief.of s.heap a.boxed⟩] } := by
  rw [invoke, runHandler_apply, ← Arg.through_singleton, Arg.boxed_through, Arg.shape_through,
    Native.handlerFor_select_snd]
  rfl

/-- The ways to make a call are the same. -/
theorem call_eq_invoke (entry : Entry) (f : Native) (a : Arg) : call entry f a = invoke f a := by
  cases entry with
  | tagged => rfl
  | direct =>
    rcases f with ⟨_, _, _, _ | _, _ | _, _⟩ <;> cases a <;> rw [invoke] <;> rfl

/-! ## Chains -/

/-- A function that passes every argument on, apart from what it passes them on to. -/
structure Link where
  id : Nat
  label : String
  /-- Whether it has a handler for unboxed texts. -/
  text : Bool
  /-- Whether it has a handler for unboxed numbers. -/
  numeric : Bool

/-- A link as a function. Each of its handlers forwards to `next`. -/
def Link.toward (l : Link) (next : Native) : Native :=
  .ofHandlers l.id l.label (.forward next) (if l.text then some (.forward next) else none)
    (if l.numeric then some (.forward next) else none)

/-- A link as a program writes it down, if a name stands for the function that it forwards to. -/
def Link.draft (l : Link) (name : String) : Draft where
  label := l.label
  making := .assembled
  generic := .forward name
  text := if l.text then some (.forward name) else none
  numeric := if l.numeric then some (.forward name) else none

theorem resolve_forward {s : Session} {name : String} {f : Native}
    (hname : s.lookup? name = some (.function f)) :
    (HandlerDraft.forward name).resolve s = .ok (.forward f) s := by
  have hvalue : Session.valueOf name s = .ok (.function f) s := by
    rw [Session.valueOf, hname]
  have hfunction : Session.function name s = .ok f s := Evaluation.bind_of_ok hvalue
  exact Evaluation.bind_of_ok hfunction

theorem resolve?_forward {s : Session} {name : String} {f : Native}
    (hname : s.lookup? name = some (.function f)) (b : Bool) :
    HandlerDraft.resolve? (if b then some (.forward name) else none) s
      = .ok (if b then some (.forward f) else none) s := by
  cases b with
  | false => rfl
  | true => exact Evaluation.bind_of_ok (resolve_forward hname)

/-- A link is what a program makes of its draft. -/
theorem resolve_draft (l : Link) {s : Session} {name : String} {next : Native}
    (hname : s.lookup? name = some (.function next)) :
    (l.draft name).resolve s
      = .ok ({ l with id := s.nextId }.toward next) { s with nextId := s.nextId + 1 } := by
  -- The identity is the only thing that the handlers find changed.
  have hfresh : ({ s with nextId := s.nextId + 1 } : Session).lookup? name
      = some (.function next) := hname
  refine (Evaluation.bind_of_ok (rfl : Session.freshId s = .ok s.nextId _)).trans ?_
  refine (Evaluation.bind_of_ok (resolve_forward hfresh)).trans ?_
  refine (Evaluation.bind_of_ok (resolve?_forward hfresh l.text)).trans ?_
  exact Evaluation.bind_of_ok (resolve?_forward hfresh l.numeric)

/-- The first function of links in a row before a last function. -/
def chain (links : List Link) (last : Native) : Native := links.foldr Link.toward last

/-- The functions of a chain, from the first to the last. -/
def functions : List Link → Native → List Native
  | [], last => [last]
  | l :: ls, last => chain (l :: ls) last :: functions ls last

/-- The calls that a chain logs: one of each function, in order, with the argument as it went
through the functions up to this one. -/
def callsThrough (h : Heap) (a : Arg) (fs : List Native) : List Call :=
  fs.mapIdx fun i f => ⟨f.label, a.through (fs.take (i + 1)), Brief.of h a.boxed⟩

theorem callsThrough_cons (h : Heap) (a : Arg) (f : Native) (fs : List Native) :
    callsThrough h a (f :: fs)
      = ⟨f.label, a.through [f], Brief.of h a.boxed⟩ :: callsThrough h (a.through [f]) fs := by
  rw [callsThrough, callsThrough, List.mapIdx_cons]
  congr 1
  refine congrArg (fun g => List.mapIdx g fs) (funext fun i => funext fun g => ?_)
  rw [List.take_succ_cons, Arg.through_cons, Arg.boxed_through]

theorem handlerFor_toward (l : Link) (next : Native) (s : Shape) :
    (l.toward next).handlerFor s = .forward next := by
  obtain ⟨id, label, text, numeric⟩ := l
  cases text <;> cases numeric <;> cases s <;> rfl

/-- A call of a chain logs one call of each of its functions and has the effect of the handler
that runs in the last one. By induction along the chain: what is left after the first function is
a call of a shorter chain, with the argument as the first one left it. -/
theorem invoke_chain_apply (links : List Link) (last : Native) (a : Arg) (s : Session) :
    invoke (chain links last) a s
      = (last.handlerFor (a.through (functions links last)).shape).effect
          (a.through (functions links last))
          { s with calls := s.calls ++ callsThrough s.heap a (functions links last) } := by
  induction links generalizing a s with
  | nil => exact invoke_apply last a s
  | cons l ls ih =>
    have hfirst := invoke_apply (chain (l :: ls) last) a s
    rw [hfirst]
    -- All handlers of a link do the same, so it is enough to know in which shape one runs.
    have hhandler : (chain (l :: ls) last).handlerFor (a.through [chain (l :: ls) last]).shape
        = .forward (chain ls last) := handlerFor_toward l (chain ls last) _
    rw [hhandler]
    show invoke (chain ls last) (a.through [chain (l :: ls) last]) _ = _
    rw [ih, functions, callsThrough_cons, ← Arg.through_cons, List.append_assoc]
    rfl

/-! ## What a chain logs -/

/-- Of each function, one handler runs, in the order of the functions. -/
theorem handlers_callsThrough (h : Heap) (a : Arg) (fs : List Native) :
    (callsThrough h a fs).map (fun c => (c.label, c.arg))
      = fs.mapIdx fun i f => (f.label, a.through (fs.take (i + 1))) := by
  refine List.ext_getElem? fun i => ?_
  rw [callsThrough, List.getElem?_map, List.getElem?_mapIdx, List.getElem?_mapIdx, Option.map_map]
  rfl

/-- **Chains pass arguments and results on.**
1. However a chain is called, it logs one call of each of its functions, in order, and has the
   effect of the handler that runs in the last one: a link fails with nothing of its own.
2. A number stays unboxed as far as all functions handle numbers, and is boxed from there on.
3. So does a text.
4. A value is a value all along.
5. The ways to make a call are the same for every function.
6. What a program makes of handlers that all forward to one function is a link toward it. -/
theorem invoke_chain (links : List Link) (last : Native) (s : Session) :
    let fs := functions links last
    (∀ entry a, call entry (chain links last) a s
      = (last.handlerFor (a.through fs).shape).effect (a.through fs)
          { s with calls := s.calls ++ callsThrough s.heap a fs })
    ∧ (∀ x, (callsThrough s.heap (.numeric x) fs).map (fun c => (c.label, c.arg))
        = fs.mapIdx fun i f =>
            (f.label, if (fs.take (i + 1)).all (·.handles .numeric) then .numeric x
              else .generic (.number x)))
    ∧ (∀ t, (callsThrough s.heap (.text t) fs).map (fun c => (c.label, c.arg))
        = fs.mapIdx fun i f =>
            (f.label, if (fs.take (i + 1)).all (·.handles .text) then .text t
              else .generic (.text t)))
    ∧ (∀ v, (callsThrough s.heap (.generic v) fs).map (fun c => (c.label, c.arg))
        = fs.map fun f => (f.label, .generic v))
    ∧ (∀ entry f a, call entry f a = invoke f a)
    ∧ ∀ (l : Link) (t : Session) (name : String) (next : Native),
        t.lookup? name = some (.function next) →
          (l.draft name).resolve t
            = .ok ({ l with id := t.nextId }.toward next) { t with nextId := t.nextId + 1 } := by
  intro fs
  refine ⟨?anyCall, ?numeric, ?text, ?generic, call_eq_invoke, fun l _ _ _ => resolve_draft l⟩
  case anyCall =>
    intro entry a
    rw [call_eq_invoke]
    exact invoke_chain_apply links last a s
  case numeric =>
    intro x
    exact handlers_callsThrough s.heap (.numeric x) fs
  case text =>
    intro t
    exact handlers_callsThrough s.heap (.text t) fs
  case generic =>
    intro v
    rw [handlers_callsThrough]
    simp only [Arg.through_generic]
    exact List.mapIdx_eq_iff.mpr fun i => List.getElem?_map

/-- Two links before a function that fails. The second link takes no unboxed texts, so the last
function gets a boxed one, though it would succeed with it unboxed. The second link is what comes of
its draft where a name stands for the last function. -/
theorem invoke_chain_boxed_on_the_way :
    let last : Native := .ofHandlers 2 "h" (.fail (.refused "no")) (some .succeed) none
    let s := (Session.start ⟨{}, none, .lossy⟩).bind "h" (.function last)
    let boxed : Arg := .generic (.text "a")
    let brief : Brief := ⟨"string", "a"⟩
    call .direct (chain [⟨0, "f", true, false⟩, ⟨1, "g", false, true⟩] last) (.text "a") s
        = .error (.refused "no")
            { s with
              calls := [⟨"f", .text "a", brief⟩, ⟨"g", boxed, brief⟩, ⟨"h", boxed, brief⟩] } ∧
      ((⟨1, "g", false, true⟩ : Link).draft "h").resolve s
        = .ok ((⟨0, "g", false, true⟩ : Link).toward last) { s with nextId := 1 } := by
  intro last s boxed brief
  obtain ⟨hcall, -, -, -, -, hdraft⟩ :=
    invoke_chain [⟨0, "f", true, false⟩, ⟨1, "g", false, true⟩] last s
  exact ⟨hcall .direct (.text "a"), hdraft ⟨1, "g", false, true⟩ s "h" last rfl⟩

end Script

end ScriptHost
