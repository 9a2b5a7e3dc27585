import ScriptHost.Script.Session

/-!
# Behaviors

A function handles an argument in one of three shapes. So do the streams, which are functions like
any other.

* `Behavior` — the entry points of a function, and what it claims about itself.
* `Behavior.assembled`, `Behavior.ofCall`, `Behavior.spelledOut` — the ways to provide for them.
* `Session.printValue`, `Session.printText`, `Session.printNumber` — an item on a stream.
* `Session.wrapper`, `Session.print` — a stream as a function, and a call of it.
* `Session.read` — input as a text.
-/

namespace ScriptHost.Script

/-- What can be done with a function: it can be called in three shapes, and asked which of these it
handles by itself. -/
@[ext]
structure Behavior where
  call : Value → Action Unit
  callText : String → Action Unit
  callNumber : Number → Action Unit
  specializes : Shape → Bool

namespace Behavior

/-- A text goes to the generic shape as a value. -/
def boxText (call : Value → Action Unit) (text : String) : Action Unit := call (.text text)

/-- A number goes to the generic shape as a value. -/
def boxNumber (call : Value → Action Unit) (x : Number) : Action Unit := call (.number x)

/-- Nothing is said but how values are handled. The rest is filled in. -/
def ofCall (call : Value → Action Unit) : Behavior where
  call
  callText := boxText call
  callNumber := boxNumber call
  specializes s := s == .generic

/-- A behavior assembled from one handler for each shape. -/
def assembled (generic : Value → Action Unit) (text : Option (String → Action Unit))
    (number : Option (Number → Action Unit)) : Behavior where
  call := generic
  callText s :=
    match text with
    | some f => f s
    | none => boxText generic s
  callNumber x :=
    match number with
    | some f => f x
    | none => boxNumber generic x
  specializes
    | .generic => true
    | .text => text.isSome
    | .numeric => number.isSome

/-- A behavior that is spelled out, and boxes where there is no handler. -/
def spelledOut (generic : Value → Action Unit) (text : Option (String → Action Unit))
    (number : Option (Number → Action Unit)) (claims : Shape → Bool) : Behavior where
  call := generic
  callText := text.getD (boxText generic)
  callNumber := number.getD (boxNumber generic)
  specializes := claims

/-- A call with an argument in its shape. -/
def invoke (b : Behavior) : Arg → Action Unit
  | .generic v => b.call v
  | .text s => b.callText s
  | .numeric x => b.callNumber x

end Behavior

namespace Session

/-! ## Streams -/

/-- Performs a writer on the sink of a stream. -/
def writing (stream : Stream) (w : Writer Sink Unit) : Action Unit := fun s =>
  let after (done : Writing Sink) : Session :=
    { s.install (s.streams.withSink stream done.outlet) with active := done.active }
  match w ⟨s.active, s.streams.sink stream⟩ with
  | .ok () done => .ok () (after done)
  | .error e done => .error (.io e) (after done)

/-- A value on a stream, in the form that it has in program output. -/
def printValue (stream : Stream) (v : Value) : Action Unit := fun s =>
  writing stream (stream.emit (Writer.value s.heap v)) s

/-- A text on a stream. -/
def printText (stream : Stream) (text : String) : Action Unit :=
  writing stream (stream.emit (Writer.put text))

/-- A number on a stream. -/
def printNumber (stream : Stream) (x : Number) : Action Unit :=
  writing stream (stream.emit (Writer.put x.display))

/-- A stream as a function. It is assembled from handlers for all three shapes. -/
def wrapper (stream : Stream) : Behavior :=
  .assembled (printValue stream) (some (printText stream)) (some (printNumber stream))

/-- An argument on a stream. -/
def print (stream : Stream) (a : Arg) : Action Unit := (wrapper stream).invoke a

/-! ## Input -/

/-- The text that a reader delivers. A failure is reported on standard error, where a second
failure goes unnoticed, and leaves the empty text. -/
def read (s : Session) (reader : List Delivery) : String × Session :=
  match s.streams.decoding.read reader with
  | .ok text => (text, s)
  | .error e =>
    match (wrapper .eprintln).callText e.report s with
    | .ok _ s' => ("", s')
    | .error _ s' => ("", s')

end Session

end ScriptHost.Script
