import ScriptHost.Config.Origin
import ScriptHost.Log.Filter
import ScriptHost.Stream.LineBuffer
import ScriptHost.Stream.Printing

/-!
# A running program

What a program shares between its parts: its files and environment, its standard streams, the log,
and two things that can be fixed only once, the log filter and the decoding of input.

* `Input` — standard input.
* `Thread`, `Bindings` — a thread, and where its streams lead.
* `Program` — the state.
* `Program.log` — an event for the log.
* `Program.bound` — the bindings of a thread.
* `Program.print` — an argument on a stream.
* `Program.tryRead`, `Program.read` — standard input as a text.
-/

namespace ScriptHost

/-- Standard input. -/
inductive Input where
  | bytes (b : List UInt8)
  /-- A directory, which cannot be read. -/
  | directory

/-- What standard input delivers when it is read to its end. -/
def Input.deliveries : Input → List Delivery
  | bytes b => [.bytes b]
  | directory => [.failure .isADirectory]

/-- Standard input after it was read to its end. -/
def Input.consumed : Input → Input
  | bytes _ => bytes []
  | directory => directory

/-- A thread of a program, by its number. -/
structure Thread where
  index : Nat
  deriving Repr, DecidableEq

/-- The thread that a program begins with. -/
def Thread.main : Thread := ⟨0⟩

/-- Where the streams of a thread lead. -/
inductive Destination where
  /-- To standard output and standard error. -/
  | standard
  /-- To sinks that refuse everything. -/
  | failing (message : String)
  deriving Repr, DecidableEq

/-- The streams of a thread, and how it decodes input. -/
structure Bindings where
  destination : Destination
  decoding : Decoding
  deriving Repr, DecidableEq

/-- The state of a program. -/
structure Program where
  files : FileTree
  environment : Environment
  stdin : Input
  stdout : LineBuffer
  stderr : Sink
  /-- The filter of the log, once there is a log. -/
  filter : Option Log.Filter := none
  /-- The decoding of input, once it is fixed. -/
  fixedDecoding : Option Decoding := none
  /-- The bindings of each thread that has any. -/
  bindings : Thread → Option Bindings := fun _ => none
  /-- Every event so far, the first one first, whether or not the log has it. -/
  issued : List Log.Event := []
  /-- What the parser of configurations says of a source that writes no document. -/
  syntaxText : String → String := fun _ => ""

namespace Program

/-! ## The log -/

/-- Whether an event that is issued now gets into the log: there is one, and its filter lets the
event through. -/
def logs (p : Program) (e : Log.Event) : Bool := p.filter.any (·.enables e)

/-- Issues an event. The log goes to standard error, and what cannot be written is lost. -/
def log (p : Program) (e : Log.Event) : Program :=
  { p with
    issued := p.issued ++ [e]
    stderr := if p.logs e then (p.stderr.writeAll (Text.encode e.line)).2 else p.stderr }

/-- Opens the log, unless it is open already. -/
def openLog (p : Program) (level : String) : Bool × Program :=
  match p.filter with
  | some _ => (false, p)
  | none => (true, { p with filter := some (.ofSetting level) })

/-! ## Decoding and bindings -/

/-- The decoding of input where nothing else was said. -/
def decoding (p : Program) : Decoding := p.fixedDecoding.getD .lossy

/-- Fixes the decoding of input, unless it is fixed already. -/
def fixDecoding (p : Program) (d : Decoding) : Bool × Program :=
  match p.fixedDecoding with
  | some _ => (false, p)
  | none => (true, { p with fixedDecoding := some d })

/-- Replaces the bindings of a thread. -/
def bind (p : Program) (t : Thread) (b : Bindings) : Program :=
  { p with bindings := fun u => if u = t then some b else p.bindings u }

/-- The bindings that a thread is given if it needs some. -/
def standardBindings (p : Program) : Bindings := ⟨.standard, p.decoding⟩

/-- The bindings of a thread. It is given some when it first needs them. -/
def bound (p : Program) (t : Thread) : Bindings × Program :=
  match p.bindings t with
  | some b => (b, p)
  | none => (p.standardBindings, p.bind t p.standardBindings)

/-! ## Output -/

/-- Performs a writer on an outlet. -/
def write {σ : Type} (out : σ) (w : Writer σ Unit) : Option IoError × σ :=
  match w ⟨[], out⟩ with
  | .ok _ done => (none, done.outlet)
  | .error e done => (some e, done.outlet)

/-- A sink that refuses everything. -/
def refusing (e : IoError) : Sink := { limit := some 0, fullError := some e }

/-- An argument on a stream of a thread. -/
def print (p : Program) (t : Thread) (stream : Stream) (a : Arg) : Option IoError × Program :=
  let (b, p) := p.bound t
  match b.destination with
  | .failing message =>
    ((write (refusing (.reported message)) (stream.emit (a.item .empty))).1, p)
  | .standard =>
    if stream.isError then
      let (e, stderr) := write p.stderr (stream.emit (a.item .empty))
      (e, { p with stderr })
    else
      let (e, stdout) := write p.stdout (stream.emit (a.item .empty))
      (e, { p with stdout })

/-! ## Input -/

/-- Standard input as a text. -/
def tryRead (p : Program) (t : Thread) : Except ReadError String × Program :=
  let (b, p) := p.bound t
  (b.decoding.read p.stdin.deliveries, { p with stdin := p.stdin.consumed })

/-- Standard input as a text. A failure is logged, reported on standard error, and leaves the
empty text. -/
def read (p : Program) (t : Thread) : String × Program :=
  match p.tryRead t with
  | (.ok text, p) => (text, p)
  | (.error e, p) =>
    let p := p.log ⟨.warn, "tea_std_io", "input read failed, continuing with empty input",
      [("error", e.message)]⟩
    match p.print t .eprintln (.text e.report) with
    | (none, p) => ("", p)
    | (some e', p) =>
      ("", p.log ⟨.error, "tea_std_io", "could not report input read failure",
        [("error", e'.message)]⟩)

end Program

end ScriptHost
