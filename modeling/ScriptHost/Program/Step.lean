import ScriptHost.Program.Startup
import ScriptHost.Script.Compiled

/-!
# Steps of a program

* `Program.Step`, `Program.Answer` — what a thread of a program does, and what comes of it.
* `Program.step`, `Program.run` — one step of a thread, and a sequence of steps of threads.
* `Program.finish` — what the program leaves on its standard streams.
-/

namespace ScriptHost.Program

open Script (RawItem RawPrinter)

/-- What a thread of a program does. -/
inductive Step where
  /-- Applies the settings for the environment. -/
  | start
  /-- Applies settings. -/
  | apply (s : Settings)
  /-- Applies the settings that a source writes. -/
  | configure (source : String)
  | openLog (level : String)
  | fixDecoding (d : Decoding)
  /-- Replaces the bindings of the thread. -/
  | bind (b : Bindings)
  /-- The decoding of the whole program. -/
  | decoding
  /-- The decoding of the thread. -/
  | boundDecoding
  /-- The decoding of a thread that has just begun. -/
  | freshDecoding
  /-- Reads standard input as bytes with their number. -/
  | readCounted
  /-- Asks for standard input without a place for its length. -/
  | readNowhere
  | read
  | tryRead
  /-- Builds a record of so many keys and values. -/
  | makeRecord (keys values : Nat)
  /-- Calls a function that handles only the generic shape. -/
  | callBoxed (a : Arg)
  /-- Calls the function with which compiled code prints such an item on the stream. -/
  | rawPrint (stream : Stream) (item : RawItem)

/-- A call of a function by compiled code. -/
def Step.ofRaw {α : Type} (f : RawPrinter α) (a : α) : Step := .rawPrint f.stream (f.item a)

/-- What comes of a step. -/
inductive Answer where
  | status (ok : Bool)
  | done
  | truth (b : Bool)
  | decoding (d : Decoding)
  | counted (b : CountedBytes)
  | nowhere
  | text (s : String)
  | checked (r : Except ReadError String)
  | record (r : Except SizeMismatch Nat)
  /-- What the function received, under inspection. -/
  | received (inspection : String)
  | misconfigured (e : ConfigError)

/-- The event that two columns of different lengths were offered for a record. -/
def rejectedEvent (e : SizeMismatch) : Log.Event :=
  ⟨.debug, "tea_std_core::record", "rejected record construction",
    [("keys", toString e.keys), ("values", toString e.values)]⟩

/-- The event that an argument is boxed for a function that does not handle its shape. -/
def boxingEvent? : Shape → Option Log.Event
  | .generic => none
  | .text => some ⟨.trace, "tea_std_core::native",
      "no text specialization, boxing into generic call", []⟩
  | .numeric => some ⟨.trace, "tea_std_core::native",
      "no numeric specialization, boxing into generic call", []⟩

/-- The event that a write for compiled code failed. -/
def writeFailedEvent (e : IoError) : Log.Event :=
  ⟨.debug, "tea_std_io", "stream write failed", [("error", e.message)]⟩

/-- One step of a thread. -/
def step (p : Program) (t : Thread) : Step → Answer × Program
  | .start =>
    let (ok, p) := p.start t
    (.status ok, p)
  | .apply s => (.done, p.configure t s)
  | .configure source =>
    match Settings.ofText source with
    | .ok s => (.done, p.configure t s)
    | .error e => (.misconfigured e, p)
  | .openLog level =>
    let (isFirst, p) := p.openLog level
    (.truth isFirst, p)
  | .fixDecoding d =>
    let (isFirst, p) := p.fixDecoding d
    (.truth isFirst, p)
  | .bind b => (.done, p.bind t b)
  | .decoding => (.decoding p.decoding, p)
  | .boundDecoding =>
    let (b, p) := p.bound t
    (.decoding b.decoding, p)
  | .freshDecoding => (.decoding p.standardBindings.decoding, p)
  | .readCounted =>
    let (text, p) := p.read t
    (.counted (.ofText text), p)
  | .readNowhere => (.nowhere, p)
  | .read =>
    let (text, p) := p.read t
    (.text text, p)
  | .tryRead =>
    let (r, p) := p.tryRead t
    (.checked r, p)
  | .makeRecord keys values =>
    match Record.ofColumns (List.replicate keys ()) (List.replicate values ()) with
    | .ok r => (.record (.ok r.size), p)
    | .error e => (.record (.error e), p.log (rejectedEvent e))
  | .callBoxed a =>
    let p := (boxingEvent? a.shape).elim p p.log
    (.received (a.boxed.outline .empty).compact, p)
  | .rawPrint stream item =>
    match p.print t stream item.arg with
    | (none, p) => (.status true, p)
    | (some e, p) => (.status false, p.log (writeFailedEvent e))

/-- A sequence of steps, each of some thread, with the answers in order. -/
def run (p : Program) : List (Thread × Step) → List Answer × Program
  | [] => ([], p)
  | (t, what) :: rest =>
    let (a, p') := p.step t what
    let (as, p'') := p'.run rest
    (a :: as, p'')

/-- What the program leaves on standard output and standard error. At the end the buffer of
standard output is emptied, as far as that is possible. -/
def finish (p : Program) : List UInt8 × List UInt8 :=
  (p.stdout.flush.2.sink.accepted, p.stderr.accepted)

end ScriptHost.Program
