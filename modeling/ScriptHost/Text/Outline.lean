/-!
# Outlines

What an inspection shows of a value is an outline: atoms, and bracketed blocks of outlines. One
outline is written in two ways, on one line or indented.

* `Text.Outline` — the outline.
* `Text.Outline.compact` — on one line.
* `Text.Outline.indented` — one item a line, each level four spaces deeper.
* `Text.Inspect` — the types whose values have an outline.
-/

namespace ScriptHost.Text

/-- The brackets of a block. -/
inductive Bracket where
  | square
  | round
  | curly
  deriving Repr, DecidableEq

namespace Bracket

/-- The opening bracket. -/
def opening : Bracket → String
  | square => "["
  | round => "("
  | curly => "\x7b"

/-- The closing bracket. -/
def closing : Bracket → String
  | square => "]"
  | round => ")"
  | curly => "\x7d"

/-- What stands between a bracket and the items on one line. -/
def padding : Bracket → String
  | curly => " "
  | _ => ""

end Bracket

/-- The outline of a value. -/
inductive Outline where
  /-- A text without parts. -/
  | atom (text : String)
  /-- A named sequence in brackets. A name may be empty. -/
  | block (name : String) (bracket : Bracket) (items : List Outline)
  /-- An item with a label before it. -/
  | labelled (label : String) (item : Outline)

namespace Outline

/-- A nameless sequence in square brackets. -/
def list (items : List Outline) : Outline := block "" .square items

/-- A name with arguments in parentheses. -/
def tuple (name : String) (items : List Outline) : Outline := block name .round items

/-- A name with labelled fields in curly brackets, apart from the name by a space. -/
def fields (name : String) (items : List (String × Outline)) : Outline :=
  block (name ++ " ") .curly (items.map fun (label, item) => labelled label item)

/-- The outline on one line. -/
def compact : Outline → String
  | atom text => text
  | labelled label item => label ++ ": " ++ item.compact
  | block name bracket items =>
    name ++ bracket.opening ++ bracket.padding
      ++ ", ".intercalate (items.map compact)
      ++ bracket.padding ++ bracket.closing

/-- The outline with every item on a line of its own. `margin` stands before each line but the
first. A block without items stays on one line. -/
def indentedAt (margin : String) : Outline → String
  | atom text => text
  | labelled label item => label ++ ": " ++ item.indentedAt margin
  | block name bracket items =>
    if items.isEmpty then name ++ bracket.opening ++ bracket.closing
    else
      let inner := margin ++ "    "
      name ++ bracket.opening ++ "\n"
        ++ String.join (items.map fun item => inner ++ item.indentedAt inner ++ ",\n")
        ++ margin ++ bracket.closing

/-- The outline with every item on a line of its own. -/
def indented (o : Outline) : String := o.indentedAt ""

end Outline

/-- Types whose values can be inspected. -/
class Inspect (α : Type _) where
  outline : α → Outline

/-- What an inspection shows, on one line. -/
def inspect {α : Type _} [Inspect α] (a : α) : String := (Inspect.outline a).compact

/-- What an inspection shows, indented. -/
def inspectIndented {α : Type _} [Inspect α] (a : α) : String := (Inspect.outline a).indented

/-- Types whose values have a form in program output. -/
class Display (α : Type _) where
  display : α → String

end ScriptHost.Text
