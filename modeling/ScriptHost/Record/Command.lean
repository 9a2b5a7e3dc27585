import ScriptHost.Record.Basic

/-!
# Commands on a record

A session holds a record of integers and perhaps a saved copy of it, and answers commands one
after another.

* `Record.Command`, `Record.Answer` — what can be asked, and what is answered.
* `Record.Session` — the record and the saved copy.
* `Record.Session.step`, `Record.Session.run` — one command, and a sequence of them.
-/

namespace ScriptHost.Record

open Text

/-- What a session can be asked. -/
inductive Command (κ : Type) where
  | size
  | isEmpty
  | contains (k : κ)
  | get (k : κ)
  /-- Adds to a value in place, modulo `2 ^ 64`. -/
  | increase (k : κ) (amount : Int64)
  | set (k : κ) (a : Int64)
  | add (k : κ) (a : Int64)
  | keys
  | values
  | pairs
  /-- Walks through up to `n` pairs. -/
  | take (n : Nat)
  | display
  | inspect
  | inspectIndented
  /-- Keeps a copy. -/
  | save
  /-- Exchanges the record with the copy. -/
  | swap
  | equalsSaved
  /-- Compares with the record of two sequences. -/
  | equals (keys : List κ) (values : List Int64)

/-- What a session answers. -/
inductive Answer (κ : Type) where
  | count (n : Nat)
  | truth (b : Bool)
  | value (a : Int64)
  /-- The number of pairs after a change. -/
  | sized (n : Nat)
  | keys (ks : List κ)
  | values (as : List Int64)
  | pairs (ps : List (κ × Int64))
  | taken (ps : List (κ × Int64)) (left : Nat)
  | text (s : String)
  | done
  | missing (e : MissingKey)
  | mismatch (e : SizeMismatch)

/-- A record under command and its saved copy. -/
structure Session (κ : Type) where
  current : Record κ Int64
  saved : Record κ Int64

namespace Session

variable {κ : Type} [BEq κ] [Inspect κ] [Display κ]

/-- The session on a record, which is its own saved copy. -/
def start (r : Record κ Int64) : Session κ := ⟨r, r⟩

/-- Answers with a changed record, or with the error and nothing changed. -/
def change (s : Session κ) (answer : Record κ Int64 → Answer κ) :
    Except MissingKey (Record κ Int64) → Answer κ × Session κ
  | .ok r => (answer r, { s with current := r })
  | .error e => (.missing e, s)

/-- One command. -/
def step (s : Session κ) : Command κ → Answer κ × Session κ
  | .size => (.count s.current.size, s)
  | .isEmpty => (.truth s.current.isEmpty, s)
  | .contains k => (.truth (s.current.contains k), s)
  | .get k =>
    match s.current.get k with
    | .ok a => (.value a, s)
    | .error e => (.missing e, s)
  | .increase k n =>
    s.change (fun r => (r.get? k).elim .done .value) (s.current.modify k (· + n))
  | .set k a => s.change (.sized ·.size) (s.current.set k a)
  | .add k a => s.change (.sized ·.size) (.ok (s.current.add k a))
  | .keys => (.keys s.current.keys, s)
  | .values => (.values s.current.values, s)
  | .pairs => (.pairs s.current.toPairs, s)
  | .take n =>
    let (ps, rest) := s.current.cursor.take n
    (.taken ps rest.remaining, s)
  | .display => (.text s.current.display, s)
  | .inspect => (.text (Text.inspect s.current), s)
  | .inspectIndented => (.text (Text.inspectIndented s.current), s)
  | .save => (.done, { s with saved := s.current })
  | .swap => (.sized s.saved.size, ⟨s.saved, s.current⟩)
  | .equalsSaved => (.truth (s.current == s.saved), s)
  | .equals keys values =>
    match ofColumns keys values with
    | .ok r => (.truth (s.current == r), s)
    | .error e => (.mismatch e, s)

/-- A sequence of commands, with the answers in order. -/
def run (s : Session κ) : List (Command κ) → List (Answer κ) × Session κ
  | [] => ([], s)
  | c :: cs =>
    let (a, s') := s.step c
    let (as, s'') := s'.run cs
    (a :: as, s'')

end Session

end ScriptHost.Record
