import ScriptHost.Toml.Node

/-!
# Scanning a source

A scan reads characters from the front of a source and may fail, in which case it has read
nothing.

* `Toml.Source`, `Toml.Scan` — what is left of a source, and scans.
* `Toml.Scan.satisfying`, `Toml.Scan.takeWhile`, `Toml.Scan.word` — single characters and runs.
* `Toml.Scan.repeated`, `Toml.Scan.separated` — scans made of scans.
* `Toml.Scan.spanned` — a scan with the stretch it has read.
-/

namespace ScriptHost.Toml

/-- What is left of a source, and how many characters were before it. -/
structure Source where
  rest : List Char
  position : Nat

/-- A scan for something. -/
abbrev Scan := StateT Source Option

namespace Scan

/-- The next character, which is not read. -/
def peek? : Scan (Option Char) := fun s => some (s.rest.head?, s)

/-- The number of characters read so far. -/
def position : Scan Nat := fun s => some (s.position, s)

/-- The next character, if it has a property. -/
def satisfying (p : Char → Bool) : Scan Char := fun s =>
  match s.rest with
  | c :: rest => if p c then some (c, ⟨rest, s.position + 1⟩) else none
  | [] => none

/-- A given character. -/
def char (c : Char) : Scan Unit := do
  let _ ← satisfying (· == c)

/-- The longest run of characters with a property. -/
def takeWhile (p : Char → Bool) : Scan (List Char) := fun s =>
  let run := s.rest.takeWhile p
  some (run, ⟨s.rest.drop run.length, s.position + run.length⟩)

/-- The longest run of characters with a property, if it is not empty. -/
def takeWhile1 (p : Char → Bool) : Scan (List Char) := do
  let run ← takeWhile p
  if run.isEmpty then failure else pure run

/-- A given sequence of characters. -/
def wordOf : List Char → Scan Unit
  | [] => pure ()
  | c :: cs => do
    char c
    wordOf cs

/-- A given text. -/
def word (s : String) : Scan Unit := wordOf s.toList

/-- The end of the source. -/
def atEnd : Scan Unit := fun s => if s.rest.isEmpty then some ((), s) else none

/-- What a scan finds when it is repeated at most `n` times. -/
def repeatedWithin {α : Type} (p : Scan α) : Nat → Scan (List α)
  | 0 => pure []
  | n + 1 => do
    match ← optional p with
    | none => pure []
    | some a => do
      let as ← repeatedWithin p n
      pure (a :: as)

/-- What a scan finds when it is repeated until it fails. The scan must not succeed without
reading, so it succeeds no more often than there are characters. -/
def repeated {α : Type} (p : Scan α) : Scan (List α) := fun s =>
  repeatedWithin p s.rest.length s

/-- One or more things with something between them. -/
def separated1 {α β : Type} (p : Scan α) (between : Scan β) : Scan (List α) := do
  let a ← p
  let as ← repeated do
    let _ ← between
    p
  pure (a :: as)

/-- Any number of things with something between them. -/
def separated {α β : Type} (p : Scan α) (between : Scan β) : Scan (List α) :=
  separated1 p between <|> pure []

/-- What a scan finds, and where. -/
def spanned {α : Type} (p : Scan α) : Scan (α × Span) := do
  let start ← position
  let a ← p
  let stop ← position
  pure (a, ⟨start, stop⟩)

end Scan

end ScriptHost.Toml
