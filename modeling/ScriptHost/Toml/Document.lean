import ScriptHost.Toml.Assembly
import ScriptHost.Toml.Lexical
import ScriptHost.Toml.Quantity

/-!
# Reading documents

* `Toml.valueAround`, `Toml.value` — a value, and how deep its brackets may be nested.
* `Toml.line` — what may stand on a line of a document.
* `Toml.parse?` — the document that a source writes.
-/

namespace ScriptHost.Toml

open Scan

/-! ## Values -/

/-- A leaf and where it stands. -/
def leaf (p : Scan Leaf) : Scan Node := do
  let (value, span) ← spanned p
  pure (.leaf value span)

/-- A moment, a float or an integer, whichever comes first. -/
def quantity : Scan Leaf :=
  (do moment; pure .moment)
  <|> (do pure (.float (← float)))
  <|> (do pure (.integer (← integer)))

/-- Values between square brackets. A comma may follow the last. -/
def array (value : Scan Node) : Scan Node := do
  let (items, span) ← spanned do
    char '['
    let items ← separated (do
      layout
      let v ← value
      layout
      pure v) (char ',')
    if !items.isEmpty then
      let _ ← optional (char ',')
    layout
    char ']'
    pure items
  pure (.array items span)

/-- The pair that dotted keys and a value make. -/
def pairOf? (keys : List Key) (value : Node) : Option Pair := do
  return ⟨keys.dropLast, ← keys.getLast?, value⟩

/-- A dotted key and its value. -/
def pair (value : Scan Node) : Scan Pair := do
  let keys ← dottedKey
  char '='
  blanks
  let v ← value
  match pairOf? keys v with
  | some p => pure p
  | none => failure

/-- Pairs between braces, on one line, with no comma after the last. -/
def inlineTable (value : Scan Node) : Scan Node := do
  let (es, span) ← spanned do
    char '\x7b'
    let pairs ← separated (do
      let p ← pair value
      blanks
      pure p) (char ',')
    blanks
    char '\x7d'
    match insertPairs? [] pairs with
    | some es => pure es
    | none => failure
  pure (.table .inline es (some span))

/-- A value. `nested` are the values between its brackets, if it may have any. -/
def valueAround (nested : Option (Scan Node)) : Scan Node := do
  match ← peek?, nested with
  | some '"', _ | some '\'', _ => leaf do return .string (← stringValue)
  | some '[', some inner => array inner
  | some '\x7b', some inner => inlineTable inner
  | some '[', none | some '\x7b', none => failure
  | some 't', _ => leaf do word "true"; return .boolean true
  | some 'f', _ => leaf do word "false"; return .boolean false
  | _, _ => leaf quantity

/-- A value in which brackets are nested at most `n` deep. -/
def value : Nat → Scan Node
  | 0 => valueAround none
  | n + 1 => valueAround (some (value n))

/-! ## Lines -/

/-- The keys of a header between its brackets. -/
def headerKeys (opening closing : String) : Scan (List Key × Span) :=
  spanned do
    word opening
    let keys ← dottedKey
    word closing
    pure keys

/-- A header on its line. -/
def header : Scan Header := do
  let twoBrackets ← (fun s => some (s.rest.take 2 == ['[', '['], s) : Scan Bool)
  let (keys, span) ← if twoBrackets then headerKeys "[[" "]]" else headerKeys "[" "]"
  restOfLine
  match keys.getLast? with
  | some last => pure ⟨keys.dropLast, last, twoBrackets, span⟩
  | none => failure

/-- What may stand on a line. -/
inductive Line where
  /-- Nothing, or a comment. -/
  | empty
  | header (h : Header)
  | pair (p : Pair)

/-- A line that is not the end of the source. -/
def line : Scan Line := do
  blanks
  match ← peek? with
  | none => failure
  | some '[' => do return .header (← header)
  | some '#' | some '\n' | some '\r' => do
    restOfLine
    pure .empty
  | some _ => do
    let p ← pair (value (nestingLimit - 1))
    restOfLine
    pure (.pair p)

/-! ## Documents -/

/-- The pairs before the first header, and the sections. -/
def sectionsOf : List Line → List Pair × List Section
  | [] => ([], [])
  | .empty :: lines => sectionsOf lines
  | .pair p :: lines =>
    let (pairs, sections) := sectionsOf lines
    (p :: pairs, sections)
  | .header h :: lines =>
    let (pairs, sections) := sectionsOf lines
    ([], ⟨h, pairs⟩ :: sections)

/-- The lines of a source, which may begin with a byte order mark. -/
def lines : Scan (List Line) := do
  let _ ← optional (char '\uFEFF')
  let ls ← repeated line
  blanks
  atEnd
  pure ls

/-- The document that a source writes, if it writes one. -/
def parse? (source : String) : Option Entries := do
  let (ls, _) ← lines ⟨source.toList, 0⟩
  let (pairs, sections) := sectionsOf ls
  assemble? pairs sections

end ScriptHost.Toml
