import ScriptHost.Script.Behavior

/-!
# Calling native functions

* `invoke` — a call with an argument tagged with its shape.
* `callGeneric`, `callText`, `callNumeric` — the entry points for the three shapes.
* `Entry` — which of the two ways a call takes.
-/

namespace ScriptHost.Script

namespace Session

/-- Notes that a handler of a function runs with an argument. -/
def logCall (label : String) (a : Arg) : Action Unit :=
  modify fun s => { s with calls := s.calls ++ [⟨label, a, Brief.of s.heap a.boxed⟩] }

/-- Appends a pair to an object. -/
def append (r : ObjectRef) (key : String) (v : Value) : Action Unit :=
  modify fun s =>
    match s.heap.read? r with
    | some o => { s with heap := s.heap.write r (o.add key v) }
    | none => s

end Session

mutual

/-- Calls a function with an argument: the handler for its shape takes it as it is, and without
such a handler the generic one takes it boxed. A function calls no function but those it was made
with, so calls come to an end. -/
def invoke (f : Native) (a : Arg) : Action Unit :=
  runHandler f.label (f.select a.shape).1 (a.inShape (f.select a.shape).2)
termination_by sizeOf f
decreasing_by exact f.sizeOf_select_lt a.shape

/-- Notes that a handler runs, and runs it. -/
def runHandler (label : String) (h : Handler Native) (a : Arg) : Action Unit := do
  Session.logCall label a
  match h with
  | .succeed => pure ()
  | .fail e => throw e
  | .forward g => invoke g a
  | .print stream => Session.print stream a
  | .store r key => Session.append r key a.boxed
termination_by sizeOf h

end

/-! ## Entry points -/

/-- Calls a function with a value. -/
def callGeneric (f : Native) (v : Value) : Action Unit :=
  runHandler f.label f.generic (.generic v)

/-- Calls a function with an unboxed text, which is boxed if need be. -/
def callText (f : Native) (s : String) : Action Unit :=
  match f.text? with
  | some h => runHandler f.label h (.text s)
  | none => callGeneric f (.text s)

/-- Calls a function with an unboxed number, which is boxed if need be. -/
def callNumeric (f : Native) (x : Number) : Action Unit :=
  match f.numeric? with
  | some h => runHandler f.label h (.numeric x)
  | none => callGeneric f (.number x)

/-- The ways to make a call. -/
inductive Entry where
  /-- Through the entry point for the shape. -/
  | direct
  /-- Through the one entry point for arguments of every shape. -/
  | tagged
  deriving Repr, DecidableEq

/-- Calls a function. -/
def call : Entry → Native → Arg → Action Unit
  | .tagged, f, a => invoke f a
  | .direct, f, .generic v => callGeneric f v
  | .direct, f, .text s => callText f s
  | .direct, f, .numeric x => callNumeric f x

/-- Writes an argument to a stream. -/
def Session.printThrough : Entry → Stream → Arg → Action Unit
  | .tagged, stream, a => Session.print stream a
  | .direct, stream, .generic v => (Session.wrapper stream).call v
  | .direct, stream, .text s => (Session.wrapper stream).callText s
  | .direct, stream, .numeric x => (Session.wrapper stream).callNumber x

end ScriptHost.Script
