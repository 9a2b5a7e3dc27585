import ScriptHost.Toml.Node

/-!
# Assembling tables

The pairs of a document are collected into tables. A table may be added to by dotted keys or by
headers, but not by both, and what is written once is not written again.

* `Toml.insertDotted?` — a pair under a dotted key.
* `Toml.alterParent?` — a change of the table that a header passes through last.
* `Toml.Section`, `Toml.Section.attach?` — a header with its pairs.
* `Toml.assemble?` — the document of several sections.
-/

namespace ScriptHost.Toml

/-- A pair: the keys before the last dot, the last key, and the value. -/
structure Pair where
  path : List Key
  key : Key
  value : Node

/-- Adds a value under a dotted key. The tables on the way are made where they are missing. A
dotted key adds only to tables that dotted keys made; on the way to such a table it may go
through any that no header names. -/
def insertDotted? (es : Entries) (key : Key) (value : Node) : List Key → Option Entries
  | [] => if es.contains key.name then none else some (es ++ [(key, value)])
  | k :: ks =>
    match es.find? k.name with
    | none => do
      let inner ← insertDotted? [] key value ks
      return es ++ [(k, .table .dotted inner none)]
    | some (_, .table origin inner span) =>
      if origin == .dotted || (origin == .passed && !ks.isEmpty) then do
        let inner' ← insertDotted? inner key value ks
        return es.replace k.name (.table origin inner' span)
      else none
    | some (_, .tables elements) =>
      match elements.getLast? with
      | some (.table origin inner span) =>
        if ks.isEmpty then none
        else do
          let inner' ← insertDotted? inner key value ks
          return es.replace k.name (.tables (elements.dropLast ++ [.table origin inner' span]))
      | _ => none
    | some _ => none

/-- Adds pairs one after another. -/
def insertPairs? (es : Entries) : List Pair → Option Entries
  | [] => some es
  | p :: ps => do insertPairs? (← insertDotted? es p.key p.value p.path) ps

/-- Changes the table that a header passes through last. The tables on the way are made where they
are missing; of an array of tables the last element counts. -/
def alterParent? (change : Entries → Option Entries) (es : Entries) : List Key → Option Entries
  | [] => change es
  | k :: ks =>
    match es.find? k.name with
    | none => do
      let inner ← alterParent? change [] ks
      return es ++ [(k, .table .passed inner none)]
    | some (_, .table origin inner span) =>
      if origin == .inline then none
      else do
        let inner' ← alterParent? change inner ks
        return es.replace k.name (.table origin inner' span)
    | some (_, .tables elements) =>
      match elements.getLast? with
      | some (.table origin inner span) => do
        let inner' ← alterParent? change inner ks
        return es.replace k.name (.tables (elements.dropLast ++ [.table origin inner' span]))
      | _ => none
    | some _ => none

/-- A header: the keys before the last dot, the last key, whether it adds an element to an array
of tables, and where it stands. -/
structure Header where
  path : List Key
  key : Key
  isElement : Bool
  span : Span

/-- A header and the pairs after it. -/
structure Section where
  header : Header
  pairs : List Pair

namespace Section

/-- Where a section stands: from its header to its last value. -/
def span (s : Section) : Span :=
  match s.pairs.getLast?.bind (·.value.span?) with
  | some last => ⟨s.header.span.start, last.stop⟩
  | none => s.header.span

/-- The table of a section, which may already have entries. -/
def table? (s : Section) (es : Entries) : Option Node := do
  return .table .header (← insertPairs? es s.pairs) (some s.span)

/-- Adds the table of a section to the table it belongs in. A table that was passed through can
still be named, and then takes its place at the end. -/
def addTo? (s : Section) (es : Entries) : Option Entries :=
  let key := s.header.key
  match es.find? key.name, s.header.isElement with
  | none, false => do return es ++ [(key, ← s.table? [])]
  | some (_, .table .passed inner _), false => do
    return es.filter (fun (k, _) => k.name != key.name) ++ [(key, ← s.table? inner)]
  | none, true => do return es ++ [(key, .tables [← s.table? []])]
  | some (_, .tables elements), true => do
    return es.replace key.name (.tables (elements ++ [← s.table? []]))
  | some _, _ => none

/-- Adds the table of a section to a document. -/
def attach? (s : Section) (document : Entries) : Option Entries :=
  alterParent? s.addTo? document s.header.path

end Section

/-- Adds sections one after another. -/
def attachAll? (document : Entries) : List Section → Option Entries
  | [] => some document
  | s :: ss => do attachAll? (← s.attach? document) ss

/-- The document of pairs before the first header, and of sections. -/
def assemble? (pairs : List Pair) (sections : List Section) : Option Entries := do
  attachAll? (← insertPairs? [] pairs) sections

end ScriptHost.Toml
