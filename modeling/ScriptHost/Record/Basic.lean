import ScriptHost.Text.Quoted

/-!
# Records

A record pairs keys with values in the order in which they were added. It is kept as two columns
of equal length. Keys may repeat: every pair has its place, and looking a key up finds the first
pair that has it. Keys are compared by an equality that need not be reflexive.

* `Record` — the two columns.
* `Record.ofColumns` — the record of two sequences, which must be equally long.
* `Record.toPairs` — the pairs, the one view in which every operation can be described.
* `Record.add`, `Record.get`, `Record.modify`, `Record.set` — the operations.
* `Record.display` and the `Inspect` instance — a record in program output, and under inspection.
* `Record.Cursor` — the part of each column that a walk through a record has not reached yet.
* `Record.Cursor.next?`, `Record.Cursor.advance` — the next pair, and the same as a call, which
  leaves a cursor whether or not there is one.
* `Record.Cursor.remaining`, `Record.Cursor.sizeHint`, `Record.Cursor.take` — how many pairs are to
  come, and up to a number of them.
* `SizeMismatch`, `MissingKey` — why a record cannot be built, and why a key is not resolved.
-/

namespace ScriptHost

open Text (Display Inspect)

/-! ## Errors -/

/-- Two sequences of different lengths were offered as the columns of a record. -/
structure SizeMismatch where
  keys : Nat
  values : Nat
  deriving Repr, DecidableEq

/-- The wording of a length mismatch. -/
def SizeMismatch.message (e : SizeMismatch) : String :=
  "Expected keys and values to be the same length (got " ++ toString e.keys ++ " keys and "
    ++ toString e.values ++ " values)"

/-- A key that no pair of a record has, as an inspection shows it. -/
structure MissingKey where
  key : String
  deriving Repr, DecidableEq

namespace MissingKey

/-- The error for a key. -/
def of {κ : Type _} [Inspect κ] (k : κ) : MissingKey := ⟨Text.inspect k⟩

/-- The wording of a missing key. -/
def message (e : MissingKey) : String := "Key not found: " ++ e.key

end MissingKey

/-! ## The record -/

/-- Keys and values in two columns of equal length. -/
structure Record (κ α : Type _) where
  keys : List κ
  values : List α
  length_eq : keys.length = values.length

namespace Record

variable {κ α : Type _}

/-- The record without pairs. -/
def empty : Record κ α := ⟨[], [], rfl⟩

/-- The record of two equally long sequences. -/
def ofColumns (keys : List κ) (values : List α) : Except SizeMismatch (Record κ α) :=
  if h : keys.length = values.length then .ok ⟨keys, values, h⟩
  else .error ⟨keys.length, values.length⟩

/-- The pairs in the order of addition. -/
def toPairs (r : Record κ α) : List (κ × α) := r.keys.zip r.values

/-- The number of pairs. -/
def size (r : Record κ α) : Nat := r.keys.length

/-- Whether there are no pairs. -/
def isEmpty (r : Record κ α) : Bool := r.keys.isEmpty

/-- Appends a pair, whether or not its key is there already. -/
def add (r : Record κ α) (k : κ) (a : α) : Record κ α :=
  ⟨r.keys ++ [k], r.values ++ [a], by simpa using r.length_eq⟩

/-! ## Lookup -/

/-- Where the first pair with the key stands. -/
def position? [BEq κ] (r : Record κ α) (k : κ) : Option Nat := r.keys.findIdx? (· == k)

/-- Whether some pair has the key. -/
def contains [BEq κ] (r : Record κ α) (k : κ) : Bool := (r.position? k).isSome

/-- The value of the first pair with the key, if there is one. -/
def get? [BEq κ] (r : Record κ α) (k : κ) : Option α := (r.position? k).bind (r.values[·]?)

/-- The value of the first pair with the key. -/
def get [BEq κ] [Inspect κ] (r : Record κ α) (k : κ) : Except MissingKey α :=
  match r.get? k with
  | some a => .ok a
  | none => .error (.of k)

/-! ## Change in place -/

/-- Changes the value of the first pair with the key. -/
def modify [BEq κ] [Inspect κ] (r : Record κ α) (k : κ) (f : α → α) :
    Except MissingKey (Record κ α) :=
  match r.position? k with
  | some i => .ok ⟨r.keys, r.values.modify i f, by simpa using r.length_eq⟩
  | none => .error (.of k)

/-- Replaces the value of the first pair with the key. -/
def set [BEq κ] [Inspect κ] (r : Record κ α) (k : κ) (a : α) : Except MissingKey (Record κ α) :=
  r.modify k fun _ => a

/-- Two records are equal if their columns are, place by place. -/
instance [BEq κ] [BEq α] : BEq (Record κ α) :=
  ⟨fun r s => r.keys == s.keys && r.values == s.values⟩

/-! ## The view by pairs -/

@[simp]
theorem toPairs_empty : (empty : Record κ α).toPairs = [] := rfl

@[simp]
theorem length_toPairs (r : Record κ α) : r.toPairs.length = r.size := by
  simp [toPairs, size, ← r.length_eq]

@[simp]
theorem map_fst_toPairs (r : Record κ α) : r.toPairs.map (·.1) = r.keys :=
  List.map_fst_zip (Nat.le_of_eq r.length_eq)

@[simp]
theorem map_snd_toPairs (r : Record κ α) : r.toPairs.map (·.2) = r.values :=
  List.map_snd_zip (Nat.le_of_eq r.length_eq.symm)

@[simp]
theorem toPairs_add (r : Record κ α) (k : κ) (a : α) :
    (r.add k a).toPairs = r.toPairs ++ [(k, a)] := by
  simp [toPairs, add, List.zip_append r.length_eq]

theorem isEmpty_eq (r : Record κ α) : r.isEmpty = r.toPairs.isEmpty := by
  rw [isEmpty, ← map_fst_toPairs, List.isEmpty_map]

/-- A key is present if some pair has it. -/
theorem contains_eq_any [BEq κ] (r : Record κ α) (k : κ) :
    r.contains k = r.toPairs.any (·.1 == k) := by
  rw [contains, position?, List.findIdx?_isSome, ← map_fst_toPairs, List.any_map]
  rfl

/-- Looking a key up reads the first pair that has it. -/
theorem get?_eq_find? [BEq κ] (r : Record κ α) (k : κ) :
    r.get? k = (r.toPairs.find? (·.1 == k)).map (·.2) := by
  obtain ⟨keys, values, h⟩ := r
  simp only [get?, position?, toPairs]
  induction keys generalizing values with
  | nil => rfl
  | cons c cs ih =>
    cases values with
    | nil => cases h
    | cons a as =>
      rw [List.findIdx?_cons, List.zip_cons_cons, List.find?_cons]
      cases c == k with
      | true => rfl
      | false =>
        rw [← ih as (Nat.succ.inj h)]
        cases cs.findIdx? (· == k) <;> rfl

/-! ## How records are written -/

/-- A pair in program output. -/
def displayPair [Display κ] [Display α] : κ × α → String
  | (k, a) => Display.display k ++ ": " ++ Display.display a

/-- The pairs between braces, separated by commas. -/
def display [Display κ] [Display α] (r : Record κ α) : String :=
  if r.isEmpty then "\x7b\x7d"
  else "\x7b " ++ ", ".intercalate (r.toPairs.map displayPair) ++ " \x7d"

instance [Inspect κ] [Inspect α] : Inspect (Record κ α) :=
  ⟨fun r => .fields "Record"
    [("keys", .list (r.keys.map Inspect.outline)),
     ("values", .list (r.values.map Inspect.outline))]⟩

/-! ## Walking through a record -/

/-- What a walk through a record has not reached yet. -/
structure Cursor (κ α : Type _) where
  keys : List κ
  values : List α

/-- The cursor before the first pair. -/
def cursor (r : Record κ α) : Cursor κ α := ⟨r.keys, r.values⟩

namespace Cursor

/-- The next pair and the cursor after it. -/
def next? (c : Cursor κ α) : Option ((κ × α) × Cursor κ α) :=
  match c.keys, c.values with
  | k :: ks, a :: as => some ((k, a), ⟨ks, as⟩)
  | _, _ => none

/-- A call for the next pair: what is answered, and the cursor after it. A key is taken before its
value is looked for, and is gone if there is none. -/
def advance (c : Cursor κ α) : Option (κ × α) × Cursor κ α :=
  match c.keys, c.values with
  | [], _ => (none, c)
  | _ :: ks, [] => (none, ⟨ks, []⟩)
  | k :: ks, a :: as => (some (k, a), ⟨ks, as⟩)

/-- The number of pairs to come, read off the keys. -/
def remaining (c : Cursor κ α) : Nat := c.keys.length

/-- The least and the greatest number of pairs to come. -/
def sizeHint (c : Cursor κ α) : Nat × Option Nat := (c.remaining, some c.remaining)

/-- Up to `n` pairs and the cursor after them. -/
def take (c : Cursor κ α) : Nat → List (κ × α) × Cursor κ α
  | 0 => ([], c)
  | n + 1 =>
    match c.next? with
    | none => ([], c)
    | some (p, c') =>
      let (ps, rest) := c'.take n
      (p :: ps, rest)

end Cursor

end Record

end ScriptHost
