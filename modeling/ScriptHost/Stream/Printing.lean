import ScriptHost.Stream.Basic
import ScriptHost.Value.Writing

/-!
# Printing

* `Arg`, `Arg.item` — the argument of a call in its shape, and what is written for it.
* `Stream.emit` — an item on a stream.
-/

namespace ScriptHost

/-- An argument, tagged with the shape in which it is passed. -/
inductive Arg where
  | generic (v : Value)
  | text (s : String)
  | numeric (x : Number)

namespace Arg

/-- The shape of an argument. -/
def shape : Arg → Shape
  | generic _ => .generic
  | text _ => .text
  | numeric _ => .numeric

/-- The argument as a value. -/
def boxed : Arg → Value
  | generic v => v
  | text s => .text s
  | numeric x => .number x

/-- The argument as a handler of the given shape takes it: boxed for a generic one, and
otherwise as it is. -/
def inShape (a : Arg) : Shape → Arg
  | .generic => generic a.boxed
  | _ => a

/-- An argument under inspection. -/
def outline (h : Heap) : Arg → Text.Outline
  | generic v => .tuple "Generic" [v.outline h]
  | text s => .tuple "Text" [.atom (Text.quote s)]
  | numeric x => .tuple "Numeric" [.atom x.inspect]

/-- What is written for an argument. -/
def item {σ : Type} [Outlet σ] (h : Heap) : Arg → Writer σ Unit
  | generic v => Writer.value h v
  | text s => Writer.put s
  | numeric x => Writer.put x.display

end Arg

namespace Writer

variable {σ : Type} [Outlet σ]

/-- Flushes the outlet. -/
def flush : Writer σ Unit := fun w =>
  match Outlet.flush w.outlet with
  | (none, out) => .ok () { w with outlet := out }
  | (some e, out) => .error e { w with outlet := out }

end Writer

/-- An item on a stream: followed by a line end, or else flushed. -/
def Stream.emit {σ : Type} [Outlet σ] (s : Stream) (item : Writer σ Unit) : Writer σ Unit := do
  item
  if s.endsLine then Writer.put "\n" else Writer.flush

end ScriptHost
