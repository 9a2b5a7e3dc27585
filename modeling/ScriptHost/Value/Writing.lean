import ScriptHost.Stream.Basic
import ScriptHost.Value.Basic

/-!
# How values are written

A value is written piece by piece into an outlet, which may refuse a piece and so end the writing.
Objects may contain themselves. While an object is being written its reference stands in a list;
where that object is met again, three dots are written instead of it. The same is written for an
object that is held for a change.

* `Writing`, `Writer` — an outlet with the list of objects in progress, and actions on it.
* `Writer.within` — an action while one more object is in progress.
* `Writer.object`, `Writer.value` — the forms of objects and values.
* `Value.display`, `Object.display` — those forms as texts.
-/

namespace ScriptHost

/-- An outlet and the objects that are being written to it, the innermost first. -/
structure Writing (σ : Type) where
  active : List ObjectRef
  outlet : σ

/-- An action on an outlet. When it fails it leaves everything as it is at that moment. -/
abbrev Writer (σ : Type) (α : Type) := EStateM IoError (Writing σ) α

namespace Writer

variable {σ : Type} [Outlet σ]

/-- Writes a piece of text. -/
def put (s : String) : Writer σ Unit := fun w =>
  match Outlet.put w.outlet s with
  | (none, out) => .ok () { w with outlet := out }
  | (some e, out) => .error e { w with outlet := out }

/-- What is written for an object that is not to be entered. -/
def elided : String := "\x7b...\x7d"

/-- Performs an action while an object is in progress, and takes it off the list whether the
action succeeds or fails. -/
def within (r : ObjectRef) (body : Writer σ Unit) : Writer σ Unit := fun w =>
  match body { w with active := r :: w.active } with
  | .ok () w' => .ok () { w' with active := w'.active.tail }
  | .error e w' => .error e { w' with active := w'.active.tail }

/-- The pairs of an object after the first, each after a comma. -/
def restOfPairs (value : Value → Writer σ Unit) : List (String × Value) → Writer σ Unit
  | [] => pure ()
  | (k, v) :: ps => do
    put ", "
    put k
    put ": "
    value v
    restOfPairs value ps

/-- An object, with `value` to write the values in it. -/
def object (value : Value → Writer σ Unit) (o : Object) : Writer σ Unit :=
  match o.toPairs with
  | [] => put "\x7b\x7d"
  | (k, v) :: ps => do
    put "\x7b "
    put k
    put ": "
    value v
    restOfPairs value ps
    put " \x7d"

/-- A value, entering at most `n` objects one within the other. -/
def valueWithin (h : Heap) : Nat → Value → Writer σ Unit
  | _, .scalar s => put s.display
  | n, .object r => fun w =>
    if w.active.contains r then put elided w
    else
      match h.read? r, n with
      | some o, n + 1 => within r (object (valueWithin h n) o) w
      | _, _ => put elided w
  | _, .function _ => put "<native fn>"
  | _, .foreign _ => put "<opaque>"

/-- A value. No more objects than the heap has can be in progress at once, so the bound is never
felt. -/
def value (h : Heap) (v : Value) : Writer σ Unit := valueWithin h h.size v

end Writer

/-- The text that an action writes to an empty text. -/
def Writer.text (action : Writer String Unit) : String :=
  match action ⟨[], ""⟩ with
  | .ok _ w => w.outlet
  | .error _ w => w.outlet

/-- A value in program output. -/
def Value.display (h : Heap) (v : Value) : String := (Writer.value h v).text

/-- An object in program output, written on its own: it does not count as being in progress. -/
def Object.display (h : Heap) (o : Object) : String :=
  (Writer.object (Writer.value h) o).text

end ScriptHost
