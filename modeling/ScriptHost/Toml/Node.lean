import ScriptHost.Number.Basic

/-!
# Configuration documents

A document is a table: keys with nodes, in the order in which the keys first appear. Keys and
nodes know where in the source they were written.

* `Toml.Span` — a stretch of the source.
* `Toml.Key`, `Toml.Leaf`, `Toml.Node`, `Toml.Entries` — documents.
* `Toml.Origin` — how a table came to be, which decides what may be added to it.
* `Toml.Entries.find?` — the node of a key.
-/

namespace ScriptHost.Toml

/-- A stretch of the source, by the number of characters before its start and before its end. -/
structure Span where
  start : Nat
  stop : Nat
  deriving Repr, DecidableEq, Inhabited

/-- A key and where it was written. -/
structure Key where
  name : String
  span : Span
  deriving Repr, DecidableEq

/-- A value without parts. -/
inductive Leaf where
  | string (s : String)
  | integer (n : Int64)
  | float (x : Number)
  | boolean (b : Bool)
  /-- A date, a time, or both. -/
  | moment

/-- How a table came to be. -/
inductive Origin where
  /-- Written between braces: complete as it stands. -/
  | inline
  /-- Named by a header, or the document itself. -/
  | header
  /-- Passed through by a header, but not named yet. -/
  | passed
  /-- Passed through by a dotted key. -/
  | dotted
  deriving Repr, DecidableEq

/-- A value of a document. -/
inductive Node where
  | leaf (value : Leaf) (span : Span)
  | array (items : List Node) (span : Span)
  /-- A table. One that was only passed through has no place of its own. -/
  | table (origin : Origin) (entries : List (Key × Node)) (span : Option Span)
  /-- An array of tables, each named by a header of its own. -/
  | tables (elements : List Node)

/-- The content of a table, in the order in which the keys first appear. -/
abbrev Entries := List (Key × Node)

/-- The key and the node of a name. -/
def Entries.find? (es : Entries) (name : String) : Option (Key × Node) :=
  List.find? (fun (k, _) => k.name == name) es

/-- Whether a name is a key. -/
def Entries.contains (es : Entries) (name : String) : Bool :=
  es.any fun (k, _) => k.name == name

/-- The content with another node under a name. -/
def Entries.replace (es : Entries) (name : String) (node : Node) : Entries :=
  es.map fun (k, old) => (k, if k.name == name then node else old)

namespace Node

/-- Where a single node was written. -/
def ownSpan? : Node → Option Span
  | leaf _ s | array _ s => some s
  | table _ _ s => s
  | tables _ => none

/-- Where a node was written. An array of tables reaches from its first element to its last. -/
def span? : Node → Option Span
  | tables elements => do
    let first ← elements.head?
    let last ← elements.getLast?
    return ⟨(← first.ownSpan?).start, (← last.ownSpan?).stop⟩
  | node => node.ownSpan?

end Node

end ScriptHost.Toml
