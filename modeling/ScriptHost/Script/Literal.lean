import ScriptHost.Script.Session

/-!
# Literals

How a step writes down a value. Evaluating a literal may make objects, functions and foreign
values. If a part of it is refused the literal has no value, but what was made by then is there.

* `HandlerDraft`, `Making`, `Draft` — a function to be made, with names for what it refers to.
* `Literal`, `ArgLiteral` — values and arguments to be made.
* `Refusal`, `Evaluation` — why a literal has no value, and computations that may be refused.
* `Literal.evaluate` — the value and the session that has what it refers to.
-/

namespace ScriptHost.Script

/-- What a function to be made does with an argument. -/
inductive HandlerDraft where
  | succeed
  | fail (e : Fault)
  | forward (function : String)
  | print (stream : Stream)
  | store (object key : String)

/-- How a function is put together. -/
inductive Making where
  /-- From a handler for the generic shape and handlers for some of the others. -/
  | assembled
  /-- From one handler, which takes every argument as a value. -/
  | single
  /-- By saying no more than how the generic shape is handled. -/
  | minimal
  /-- By saying everything, and so also which shapes the function claims to handle. -/
  | bespoke (claims : Shape → Bool)

/-- A function to be made. -/
structure Draft where
  label : String
  making : Making
  generic : HandlerDraft
  text : Option HandlerDraft
  numeric : Option HandlerDraft

/-- A value to be made. -/
inductive Literal where
  | scalar (s : Scalar)
  | named (name : String)
  | object (keys : List String) (values : List Literal)
  | foreign (content : Content)
  | function (draft : Draft)

/-- An argument to be made. -/
inductive ArgLiteral where
  | generic (l : Literal)
  | text (s : String)
  | numeric (x : Number)

/-- Why a step is not taken. -/
inductive Refusal where
  /-- An object literal has keys and values of different numbers. -/
  | mismatch (e : SizeMismatch)
  /-- No variable has the name. -/
  | unbound (name : String)
  /-- The variable is no object. -/
  | notObject (name : String)
  /-- The variable is no function. -/
  | notFunction (name : String)
  deriving Repr, DecidableEq

/-- A computation on a session that may be refused. What it has done by then stays. -/
abbrev Evaluation (α : Type) := EStateM Refusal Session α

namespace Evaluation

variable {α β : Type}

/-- What comes after a step of an evaluation that succeeds. -/
theorem bind_of_ok {x : Evaluation α} {f : α → Evaluation β} {s s' : Session} {a : α}
    (h : x s = .ok a s') : (x >>= f) s = f a s' := by
  show EStateM.bind x f s = f a s'
  rw [EStateM.bind, h]

/-- Nothing comes after a step that is refused. -/
theorem bind_of_error {x : Evaluation α} {f : α → Evaluation β} {s s' : Session} {e : Refusal}
    (h : x s = .error e s') : (x >>= f) s = .error e s' := by
  show EStateM.bind x f s = .error e s'
  rw [EStateM.bind, h]

/-- What comes after a look at the session gets to see it. -/
theorem get_bind (f : Session → Evaluation β) (s : Session) :
    (getThe Session >>= f) s = f s s := rfl

/-- An evaluation that succeeds consists of steps that succeed. -/
theorem exists_of_bind {x : Evaluation α} {f : α → Evaluation β} {s s'' : Session} {b : β}
    (h : (x >>= f) s = .ok b s'') : ∃ a s', x s = .ok a s' ∧ f a s' = .ok b s'' := by
  cases hx : x s with
  | error e s' =>
    rw [bind_of_error hx] at h
    cases h
  | ok a s' =>
    rw [bind_of_ok hx] at h
    exact ⟨a, s', rfl, h⟩

end Evaluation

namespace Session

/-- The value of a variable. -/
def valueOf (name : String) : Evaluation Value := fun s =>
  match s.lookup? name with
  | some v => .ok v s
  | none => .error (.unbound name) s

/-- The object that a variable refers to. -/
def objectRef (name : String) : Evaluation ObjectRef := do
  match ← valueOf name with
  | .object r => pure r
  | _ => throw (.notObject name)

/-- The function that a variable refers to. -/
def function (name : String) : Evaluation Native := do
  match ← valueOf name with
  | .function f => pure f
  | _ => throw (.notFunction name)

/-- An identity that nothing has yet. -/
def freshId : Evaluation Nat := fun s => .ok s.nextId { s with nextId := s.nextId + 1 }

/-- A new object. -/
def newObject (keys : List String) (values : List Value) : Evaluation ObjectRef := fun s =>
  match Record.ofColumns keys values with
  | .ok o =>
    let (r, heap) := s.heap.allocate o
    .ok r { s with heap }
  | .error e => .error (.mismatch e) s

end Session

/-- A handler with its names resolved. -/
def HandlerDraft.resolve : HandlerDraft → Evaluation (Handler Native)
  | succeed => pure .succeed
  | fail e => pure (.fail e)
  | forward name => do pure (.forward (← Session.function name))
  | print stream => pure (.print stream)
  | store name key => do pure (.store (← Session.objectRef name) key)

/-- A handler that may be missing, with its names resolved. -/
def HandlerDraft.resolve? : Option HandlerDraft → Evaluation (Option (Handler Native))
  | none => pure none
  | some d => do pure (some (← d.resolve))

/-- The function of a draft. Handlers for which its making has no use are left alone. -/
def Draft.resolve (d : Draft) : Evaluation Native := do
  let id ← Session.freshId
  let generic ← d.generic.resolve
  match d.making with
  | .assembled =>
    let text ← HandlerDraft.resolve? d.text
    let numeric ← HandlerDraft.resolve? d.numeric
    pure (.ofHandlers id d.label generic text numeric)
  | .single => pure (.ofHandlers id d.label generic none none)
  | .minimal => pure (.mk id d.label generic none none (· == .generic))
  | .bespoke claims =>
    let text ← HandlerDraft.resolve? d.text
    let numeric ← HandlerDraft.resolve? d.numeric
    pure (.mk id d.label generic text numeric claims)

mutual

/-- The value of a literal. The parts of an object are evaluated before it, from left to right. -/
def Literal.evaluate : Literal → Evaluation Value
  | .scalar s => pure (.scalar s)
  | .named name => Session.valueOf name
  | .object keys values => do
    let vs ← Literal.evaluateAll values
    pure (.object (← Session.newObject keys vs))
  | .foreign content => do pure (.foreign ⟨← Session.freshId, content⟩)
  | .function draft => do pure (.function (← draft.resolve))

/-- The values of several literals, from left to right. -/
def Literal.evaluateAll : List Literal → Evaluation (List Value)
  | [] => pure []
  | l :: ls => do
    let v ← Literal.evaluate l
    let vs ← Literal.evaluateAll ls
    pure (v :: vs)

end

/-- The argument of a literal. -/
def ArgLiteral.evaluate : ArgLiteral → Evaluation Arg
  | generic l => do pure (.generic (← l.evaluate))
  | text s => pure (.text s)
  | numeric x => pure (.numeric x)

end ScriptHost.Script
