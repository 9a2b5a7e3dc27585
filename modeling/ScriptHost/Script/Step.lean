import ScriptHost.Script.Compiled
import ScriptHost.Script.Invoke
import ScriptHost.Script.Literal

/-!
# Steps

* `Step`, `Answer` — what a program can be told to do, and what it answers.
* `Step.perform` — one step, which is taken or refused.
* `Session.step`, `Session.run` — one step, and a sequence of them.
-/

namespace ScriptHost.Script

open Text (Outline)

/-- What a foreign value may be asked for. -/
inductive ContentKind where
  | bytes
  | int
  | str
  deriving Repr, DecidableEq

/-- What a foreign value holds, if it is of the kind asked for. -/
def Content.ofKind? : ContentKind → Content → Option Content
  | .bytes, .bytes b => some (.bytes b)
  | .int, .int n => some (.int n)
  | .str, .str s => some (.str s)
  | _, _ => none

/-- What a program can be told to do. -/
inductive Step where
  | bind (name : String) (l : Literal)
  | examine (name : String)
  | inspectIndented (name : String)
  | equal (a b : Literal)
  | downcast (name : String) (kind : ContentKind)
  /-- Looks a key up, and binds what is found if a name for it is given. -/
  | get (name key : String) (into : Option String)
  | set (name key : String) (l : Literal)
  | add (name key : String) (l : Literal)
  | contains (name key : String)
  | pairs (name : String)
  /-- A new object with the same pairs. -/
  | copy (name into : String)
  | objectsEqual (a b : String)
  | objectDisplay (name : String)
  | objectInspect (name : String)
  | objectInspectIndented (name : String)
  /-- Examines one variable while the object of another is held. -/
  | examineWhile (held name : String) (exclusive : Bool)
  | call (function : String) (a : ArgLiteral) (entry : Entry)
  | classify (a : ArgLiteral)
  | print (stream : Stream) (a : ArgLiteral) (entry : Entry)
  | streamShapes (stream : Stream)
  /-- Calls the function with which compiled code prints such an item on the stream. -/
  | rawPrint (stream : Stream) (item : RawItem)
  | decoding
  /-- Reads with errors returned. -/
  | tryRead (reader : List Delivery)
  /-- Reads with errors reported. -/
  | read (reader : List Delivery)

/-- A call of a function by compiled code. -/
def Step.ofRaw {α : Type} (f : RawPrinter α) (a : α) : Step := .rawPrint f.stream (f.item a)

/-- What an examination shows of a value. -/
structure Details where
  brief : Brief
  inspection : String
  isNull : Bool
  bool : Option Bool
  number : Option Number
  text : Option String
  size : Option Nat
  /-- The claims about the generic, the text and the numeric shape. -/
  shapes : Option (Bool × Bool × Bool)

/-- What comes of a step with effects. -/
inductive Outcome where
  | returned
  | failed (e : Fault)
  | status (ok : Bool)
  | text (s : String)
  | unreadable (e : ReadError)

/-- What a step answers. -/
inductive Answer where
  | brief (b : Brief)
  | details (d : Details)
  | text (s : String)
  | truth (b : Bool)
  | content (c : Option Content)
  | sized (n : Nat)
  | pairs (ps : List (String × Brief))
  | done
  | missing (e : MissingKey)
  | examined (display inspection : String)
  | effects (o : Outcome) (e : Effects)
  | classified (shape : Shape) (inspection : String)
  | shapes (generic text numeric : Bool)
  | decoding (d : Decoding)
  | refused (e : Refusal)

namespace Details

/-- The details of a value. -/
def of (h : Heap) (v : Value) : Details where
  brief := .of h v
  inspection := (v.outline h).compact
  isNull := match v with
    | .scalar .null => true
    | _ => false
  bool := match v with
    | .scalar (.bool b) => some b
    | _ => none
  number := match v with
    | .scalar (.number x) => some x
    | _ => none
  text := match v with
    | .scalar (.text s) => some s
    | _ => none
  size := match v with
    | .object r => (h.read? r).map (·.size)
    | _ => none
  shapes := match v with
    | .function f => some (f.claims .generic, f.claims .text, f.claims .numeric)
    | _ => none

end Details

namespace Session

/-- The object that a variable refers to, and where it is. -/
def object (name : String) : Evaluation (ObjectRef × Object) := do
  let r ← objectRef name
  match (← getThe Session).heap.read? r with
  | some o => pure (r, o)
  | none => throw (.notObject name)

/-- Puts a changed object in its place. -/
def store (r : ObjectRef) (o : Object) : Evaluation Answer := do
  modify fun s => { s with heap := s.heap.write r o }
  pure (.sized o.size)

/-- Performs an action and reports its effects along with what comes of it. -/
def reporting (action : Action Unit) (outcome : Option Fault → Outcome) : Evaluation Answer :=
  fun s =>
    let (o, s) := match action s with
      | .ok () s => (outcome none, s)
      | .error e s => (outcome (some e), s)
    let (effects, s) := s.report
    .ok (.effects o effects) s

/-- Answers with the given outcome and whatever effects there are to report. -/
def reportingOutcome (o : Outcome) : Evaluation Answer := fun s =>
  let (effects, s) := s.report
  .ok (.effects o effects) s

/-- The claims of a function about itself. -/
def shapesOf (b : Behavior) : Answer :=
  .shapes (b.specializes .generic) (b.specializes .text) (b.specializes .numeric)

/-- A call returned or failed. -/
def callOutcome : Option Fault → Outcome
  | none => .returned
  | some e => .failed e

end Session

open Session in
/-- One step. -/
def Step.perform : Step → Evaluation Answer
  | bind name l => do
    let v ← l.evaluate
    modify (·.bind name v)
    pure (.brief (.of (← getThe Session).heap v))
  | examine name => do pure (.details (.of (← getThe Session).heap (← valueOf name)))
  | inspectIndented name => do
    pure (.text ((← valueOf name).outline (← getThe Session).heap).indented)
  | equal a b => do
    let v ← a.evaluate
    let w ← b.evaluate
    pure (.truth (v == w))
  | downcast name kind => do
    match ← valueOf name with
    | .foreign x => pure (.content (Content.ofKind? kind x.content))
    | _ => pure (.content none)
  | .get name key into => do
    let (_, o) ← object name
    match o.get key with
    | .ok v =>
      match into with
      | some n => modify (·.bind n v)
      | none => pure ()
      pure (.brief (.of (← getThe Session).heap v))
    | .error e => pure (.missing e)
  | .set name key l => do
    let v ← l.evaluate
    let (r, o) ← object name
    match o.set key v with
    | .ok o' => store r o'
    | .error e => pure (.missing e)
  | add name key l => do
    let v ← l.evaluate
    let (r, o) ← object name
    store r (o.add key v)
  | contains name key => do
    let (_, o) ← object name
    pure (.truth (o.contains key))
  | pairs name => do
    let (_, o) ← object name
    let h := (← getThe Session).heap
    pure (.pairs (o.toPairs.map fun (k, v) => (k, .of h v)))
  | copy name into => do
    let (_, o) ← object name
    let r ← newObject o.keys o.values
    modify (·.bind into (.object r))
    pure .done
  | objectsEqual a b => do
    let (_, o) ← object a
    let (_, p) ← object b
    pure (.truth (o == p))
  | objectDisplay name => do
    let (_, o) ← object name
    pure (.text (o.display (← getThe Session).heap))
  | objectInspect name => do
    let (_, o) ← object name
    pure (.text (o.outline (← getThe Session).heap).compact)
  | objectInspectIndented name => do
    let (_, o) ← object name
    pure (.text (o.outline (← getThe Session).heap).indented)
  | examineWhile held name exclusive => do
    let r ← objectRef held
    let v ← valueOf name
    let h := (← getThe Session).heap.hold r (if exclusive then .exclusive else .shared)
    pure (.examined (v.display h) (v.outline h).compact)
  | .call name a entry => do
    let f ← function name
    let a ← a.evaluate
    reporting (Script.call entry f a) callOutcome
  | classify a => do
    let a ← a.evaluate
    pure (.classified a.shape (a.outline (← getThe Session).heap).compact)
  | print stream a entry => do
    let a ← a.evaluate
    reporting (printThrough entry stream a) callOutcome
  | streamShapes stream => pure (shapesOf (wrapper stream))
  | rawPrint stream item =>
    reporting (Session.print stream item.arg) fun e => .status e.isNone
  | decoding => do pure (.decoding (← getThe Session).streams.decoding)
  | tryRead reader => do
    match (← getThe Session).streams.decoding.read reader with
    | .ok text => reportingOutcome (.text text)
    | .error e => reportingOutcome (.unreadable e)
  | read reader => fun s =>
    let (text, s) := s.read reader
    reportingOutcome (.text text) s

namespace Session

/-- One step. What a refused step has made by then stays. -/
def step (s : Session) (t : Step) : Answer × Session :=
  match t.perform s with
  | .ok a s' => (a, s')
  | .error e s' => (.refused e, s')

/-- A sequence of steps, with the answers in order. -/
def run (s : Session) : List Step → List Answer × Session
  | [] => ([], s)
  | t :: ts =>
    let (a, s') := s.step t
    let (as, s'') := s'.run ts
    (a :: as, s'')

end Session

end ScriptHost.Script
