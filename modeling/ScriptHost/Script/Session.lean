import ScriptHost.Stream.Printing
import ScriptHost.Stream.Reading
import ScriptHost.Stream.Sink

/-!
# Sessions

The state in which a program's steps are taken: its objects, its variables, its streams, and what
it did since it was last asked.

* `Streams` — where the streams lead, and how input is decoded.
* `Call` — a handler that ran.
* `Session` — the state.
* `Session.streams`, `Session.install` — the streams that the thread is bound to.
* `Session.report` — what went out since the last report.
-/

namespace ScriptHost.Script

/-- Where the streams lead. Standard error may share the sink of standard output. -/
structure Streams where
  out : Sink
  err : Option Sink
  decoding : Decoding

namespace Streams

/-- The sink of a stream. -/
def sink (s : Streams) (stream : Stream) : Sink :=
  if stream.isError then s.err.getD s.out else s.out

/-- The streams with another sink behind one of them. -/
def withSink (s : Streams) (stream : Stream) (k : Sink) : Streams :=
  if stream.isError && s.err.isSome then { s with err := some k } else { s with out := k }

/-- The streams that a thread is bound to if it was not given any. -/
def standard : Streams := { out := {}, err := some {}, decoding := .lossy }

end Streams

/-- The kind of a value and what program output shows of it. -/
structure Brief where
  type : String
  display : String

/-- A value in brief. -/
def Brief.of (h : Heap) (v : Value) : Brief := ⟨v.typeName, v.display h⟩

/-- A handler that ran: the function, the argument as the handler got it, and what the argument
was in brief at that time. -/
structure Call where
  label : String
  arg : Arg
  brief : Brief

/-- The shape of the handler that ran. -/
def Call.shape (c : Call) : Shape := c.arg.shape

/-- The state of a program. -/
structure Session where
  heap : Heap
  /-- The variables with their values, the latest first. -/
  bindings : List (String × Value)
  /-- The identity of the next function or foreign value. -/
  nextId : Nat
  /-- The streams that the thread is bound to, once it is. -/
  slot : Option Streams
  /-- The objects that are being written, the innermost first. -/
  active : List ObjectRef
  /-- The handlers that ran since the last report. -/
  calls : List Call
  /-- How many bytes of the two sinks have been reported. -/
  reported : Nat × Nat

/-- An action on a session that may fail as a call fails. -/
abbrev Action (α : Type) := EStateM Fault Session α

/-- What went out since the last report. -/
structure Effects where
  out : List UInt8
  err : List UInt8
  /-- How often each sink was flushed so far. -/
  flushes : Nat × Nat
  calls : List Call

namespace Session

/-- The streams of the thread. -/
def streams (s : Session) : Streams := s.slot.getD .standard

/-- Binds the thread to streams, in place of those that it was bound to. -/
def install (s : Session) (streams : Streams) : Session := { s with slot := some streams }

@[simp] theorem streams_install (s : Session) (streams : Streams) :
    (s.install streams).streams = streams := rfl

/-- The state before the first step. The thread was given streams. -/
def start (streams : Streams) : Session :=
  { heap := .empty, bindings := [], nextId := 0, slot := some streams, active := [], calls := [],
    reported := (0, 0) }

/-- The value of a variable. -/
def lookup? (s : Session) (name : String) : Option Value :=
  (s.bindings.find? (·.1 == name)).map (·.2)

/-- The session with a variable bound. -/
def bind (s : Session) (name : String) (v : Value) : Session :=
  { s with bindings := (name, v) :: s.bindings }

/-- What went out since the last report. Output to a shared sink counts as standard output. -/
def report (s : Session) : Effects × Session :=
  let err := s.streams.err.getD {}
  ({ out := s.streams.out.accepted.drop s.reported.1
     err := err.accepted.drop s.reported.2
     flushes := (s.streams.out.flushes, (s.streams.err.getD s.streams.out).flushes)
     calls := s.calls },
   { s with
     calls := []
     reported := (s.streams.out.accepted.length, err.accepted.length) })

end Session

end ScriptHost.Script
