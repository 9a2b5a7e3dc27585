import ScriptHost.Record.Basic
import ScriptHost.Stream.Basic

/-!
# Native functions

A native function takes one argument through one of three call shapes: any value, an unboxed text
or an unboxed number. It always handles the generic shape and may handle the other two.

* `Shape` — the call shapes.
* `Fault` — how a call fails.
* `Handler` — what a function does with an argument of one shape.
* `Native` — a function: its identity, its label, its handlers, and the shapes it claims.
-/

namespace ScriptHost

/-- The ways to pass an argument. -/
inductive Shape where
  | generic
  | text
  | numeric
  deriving Repr, DecidableEq, Inhabited

/-- The name of a shape under inspection. -/
def Shape.name : Shape → String
  | generic => "Generic"
  | text => "Text"
  | numeric => "Numeric"

/-- How a call of a native function fails. -/
inductive Fault where
  /-- The function refuses its argument. -/
  | refused (reason : String)
  /-- The function fails with a bare text. -/
  | text (message : String)
  | io (e : IoError)
  | missing (e : MissingKey)
  | mismatch (e : SizeMismatch)
  deriving Repr, DecidableEq

/-- The wording of a fault. -/
def Fault.message : Fault → String
  | refused reason => "refused: " ++ reason
  | text message => message
  | io e => e.message
  | missing e => e.message
  | mismatch e => e.message

/-- The place of an object in the heap. -/
structure ObjectRef where
  index : Nat
  deriving Repr, DecidableEq, Inhabited

/-- What a function does with an argument, where `φ` is the type of functions. -/
inductive Handler (φ : Type) where
  | succeed
  | fail (e : Fault)
  /-- Passes the argument on in its own shape and returns what comes back. -/
  | forward (target : φ)
  /-- Writes the argument to a stream. -/
  | print (stream : Stream)
  /-- Appends the boxed argument to an object. -/
  | store (object : ObjectRef) (key : String)

/-- A native function. -/
inductive Native where
  /-- `claims` is what the function says of the shapes it handles, which need not be true. -/
  | mk (id : Nat) (label : String) (generic : Handler Native)
      (text numeric : Option (Handler Native)) (claims : Shape → Bool)

namespace Native

/-- What tells a function from every other. -/
def id : Native → Nat
  | mk i .. => i

/-- The name under which calls are logged. -/
def label : Native → String
  | mk _ l .. => l

/-- What a function does with a value. -/
def generic : Native → Handler Native
  | mk _ _ g _ _ _ => g

/-- What a function does with an unboxed text, if it handles that shape. -/
def text? : Native → Option (Handler Native)
  | mk _ _ _ t _ _ => t

/-- What a function does with an unboxed number, if it handles that shape. -/
def numeric? : Native → Option (Handler Native)
  | mk _ _ _ _ n _ => n

/-- The shapes that a function says it handles. -/
def claims : Native → Shape → Bool
  | mk _ _ _ _ _ c => c

/-- The handler that a call in the given shape reaches, and the shape in which it reaches it. A
shape without a handler of its own reaches the generic one. -/
def select : Native → Shape → Handler Native × Shape
  | mk _ _ g _ _ _, .generic => (g, .generic)
  | mk _ _ _ (some t) _ _, .text => (t, .text)
  | mk _ _ g none _ _, .text => (g, .generic)
  | mk _ _ _ _ (some n) _, .numeric => (n, .numeric)
  | mk _ _ g _ none _, .numeric => (g, .generic)

/-- A function whose claims are true: the generic shape, and each shape with a handler. -/
def ofHandlers (id : Nat) (label : String) (generic : Handler Native)
    (text numeric : Option (Handler Native)) : Native :=
  mk id label generic text numeric fun
    | .generic => true
    | .text => text.isSome
    | .numeric => numeric.isSome

/-- The handlers of a function are smaller than the function. -/
theorem sizeOf_select_lt (f : Native) (s : Shape) : sizeOf (f.select s).1 < sizeOf f := by
  rcases f with ⟨_, _, _, _ | _, _ | _, _⟩ <;> cases s <;> simp [select] <;> omega

end Native

end ScriptHost
