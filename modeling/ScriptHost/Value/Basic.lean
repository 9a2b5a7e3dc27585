import ScriptHost.Call.Native
import ScriptHost.Number.Basic
import ScriptHost.Record.Basic
import ScriptHost.Text.Quoted

/-!
# Values and the heap

A value is a scalar or a reference. Objects are records of values with text keys; they live in the
heap, so that values can share them and a change through one is seen through all. References are
equal when they refer to the same thing, whatever it holds.

* `Scalar` — null, truth values, numbers and texts: no value is shared through them and nothing can
  change them.
* `Foreign` — a value that the host passes along without looking into it.
* `Value`, `Value.beq` — values and their equality.
* `Object` — a record of values.
* `Heap` — the objects, each with how it is borrowed.
* `Heap.read?` — an object, unless someone holds it for a change.
-/

namespace ScriptHost

open Text

/-! ## Scalars -/

/-- A value without identity. -/
inductive Scalar where
  | null
  | bool (b : Bool)
  | number (x : Number)
  | text (s : String)
  deriving Inhabited

namespace Scalar

/-- Equality. Scalars of different kinds differ. -/
def beq : Scalar → Scalar → Bool
  | null, null => true
  | bool a, bool b => a == b
  | number x, number y => x == y
  | text s, text t => s == t
  | _, _ => false

instance : BEq Scalar := ⟨beq⟩

/-- A truth value in words. -/
def boolText (b : Bool) : String := if b then "true" else "false"

/-- A scalar in program output. -/
def display : Scalar → String
  | null => "null"
  | bool b => boolText b
  | number x => x.display
  | text s => s

instance : Display Scalar := ⟨display⟩

/-- A scalar under inspection, marked with its kind. -/
def outline : Scalar → Outline
  | null => .atom "Null"
  | bool b => .tuple "Bool" [.atom (boolText b)]
  | number x => .tuple "Number" [.atom x.inspect]
  | text s => .tuple "Text" [.atom (quote s)]

instance : Inspect Scalar := ⟨outline⟩

/-- The word for the kind of a scalar. -/
def typeName : Scalar → String
  | null => "null"
  | bool _ => "bool"
  | number _ => "number"
  | text _ => "string"

end Scalar

/-! ## References -/

/-- What a foreign value holds. -/
inductive Content where
  | bytes (b : List UInt8)
  | int (n : Int64)
  | str (s : String)

/-- A value of the host's, told from others by its identity. -/
structure Foreign where
  id : Nat
  content : Content

/-- A value of a program. -/
inductive Value where
  | scalar (s : Scalar)
  | object (r : ObjectRef)
  | function (f : Native)
  | foreign (x : Foreign)

namespace Value

/-- The null value. -/
def null : Value := scalar .null

/-- A text as a value. -/
def text (s : String) : Value := scalar (.text s)

/-- A number as a value. -/
def number (x : Number) : Value := scalar (.number x)

/-- Equality: scalars by what they are, references by what they refer to. -/
def beq : Value → Value → Bool
  | scalar a, scalar b => a == b
  | object r, object s => r == s
  | function f, function g => f.id == g.id
  | foreign x, foreign y => x.id == y.id
  | _, _ => false

instance : BEq Value := ⟨beq⟩

/-- The word for the kind of a value. -/
def typeName : Value → String
  | scalar s => s.typeName
  | object _ => "object"
  | function _ => "function"
  | foreign _ => "opaque"

end Value

/-- A record of values. -/
abbrev Object := Record String Value

/-! ## The heap -/

/-- How an object is held at the moment. -/
inductive Borrow where
  | free
  /-- Held by readers. -/
  | shared
  /-- Held for a change: nobody else may look at it. -/
  | exclusive
  deriving Repr, DecidableEq, Inhabited

/-- An object in the heap. -/
structure Cell where
  object : Object
  borrow : Borrow

/-- The objects of a program, in the order in which they were made. -/
structure Heap where
  cells : Array Cell

namespace Heap

/-- The heap without objects. -/
def empty : Heap := ⟨#[]⟩

/-- The number of objects. -/
def size (h : Heap) : Nat := h.cells.size

/-- A new object and the heap that has it. -/
def allocate (h : Heap) (o : Object) : ObjectRef × Heap :=
  (⟨h.size⟩, ⟨h.cells.push ⟨o, .free⟩⟩)

/-- An object, unless it is held for a change. -/
def read? (h : Heap) (r : ObjectRef) : Option Object :=
  match h.cells[r.index]? with
  | some ⟨_, .exclusive⟩ => none
  | some c => some c.object
  | none => none

/-- The heap with another object in one place. -/
def write (h : Heap) (r : ObjectRef) (o : Object) : Heap :=
  ⟨h.cells.modify r.index fun c => { c with object := o }⟩

/-- The heap with one object held in the given way. -/
def hold (h : Heap) (r : ObjectRef) (b : Borrow) : Heap :=
  ⟨h.cells.modify r.index fun c => { c with borrow := b }⟩

end Heap

/-! ## Inspection -/

/-- A function under inspection shows the claims about its two special shapes. -/
def Native.outline (f : Native) : Outline :=
  .fields "NativeRunnable"
    [("text", .atom (Scalar.boolText (f.claims .text))),
     ("numeric", .atom (Scalar.boolText (f.claims .numeric)))]

/-- A value under inspection. An object shows no more than its size. -/
def Value.outline (h : Heap) : Value → Outline
  | .scalar s => s.outline
  | .object r =>
    match h.read? r with
    | some o => .tuple "Record" [.atom (toString o.size)]
    | none => .atom "Record(<borrowed>)"
  | .function f => .tuple "Native" [f.outline]
  | .foreign _ => .atom "Opaque(..)"

/-- An object under inspection. -/
def Object.outline (h : Heap) (o : Object) : Outline :=
  letI : Inspect Value := ⟨Value.outline h⟩
  Inspect.outline o

end ScriptHost
