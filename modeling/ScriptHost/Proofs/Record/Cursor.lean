import ScriptHost.Record.Basic

/-!
# A walk yields each pair once

A cursor takes from two columns, one after the other, and counts what is to come by one of them.
What it answers depends on the pairs that both columns still have together, whatever their
lengths. That the count is right, and that nothing is lost at the end, needs that both columns
have equally much left. A record starts a walk so, and every call keeps it so.

- `Cursor.pairs`: the pairs to come.
- `advance_fst`, `pairs_advance`: a call answers the first of them and leaves the others.
- `Cursor.Aligned`: as many keys as values are left. `aligned_advance`: a call keeps it so.
- `Cursor.calls`: a number of calls, and `fst_calls`, `pairs_calls`, `aligned_calls` for them.
- `take_eq_calls`: taking pairs until there are none is making calls.
- `walk_yields_each_pair_once`: any number of calls on the cursor of a record.
-/

namespace ScriptHost

namespace Record

variable {κ α : Type _}

namespace Cursor

/-- The pairs to come. -/
def pairs (c : Cursor κ α) : List (κ × α) := c.keys.zip c.values

/-- As many keys as values are left. -/
def Aligned (c : Cursor κ α) : Prop := c.keys.length = c.values.length

/-- A number of calls: what each is answered, in order, and the cursor after them. -/
def calls (c : Cursor κ α) : Nat → List (Option (κ × α)) × Cursor κ α
  | 0 => ([], c)
  | n + 1 =>
    let (answer, c') := c.advance
    let (answers, rest) := c'.calls n
    (answer :: answers, rest)

/-! ## One call -/

/-- A call answers the first pair to come. -/
theorem advance_fst (c : Cursor κ α) : c.advance.1 = c.pairs.head? := by
  obtain ⟨_ | ⟨k, ks⟩, _ | ⟨a, as⟩⟩ := c <;> rfl

/-- A call leaves the pairs after the first, also where it takes a key that has no value. -/
theorem pairs_advance (c : Cursor κ α) : c.advance.2.pairs = c.pairs.tail := by
  obtain ⟨_ | ⟨k, ks⟩, _ | ⟨a, as⟩⟩ := c
  · rfl
  · rfl
  · exact List.zip_nil_right
  · rfl

/-- The next pair, if there is one, is what a call answers, and the same cursor is left. -/
theorem next?_eq_advance (c : Cursor κ α) : c.next? = c.advance.1.map (·, c.advance.2) := by
  obtain ⟨_ | ⟨k, ks⟩, _ | ⟨a, as⟩⟩ := c <;> rfl

theorem aligned_advance {c : Cursor κ α} (h : c.Aligned) : c.advance.2.Aligned := by
  obtain ⟨_ | ⟨k, ks⟩, _ | ⟨a, as⟩⟩ := c
  · exact h
  · exact h
  · cases h
  · exact Nat.succ.inj h

/-- The keys tell how many pairs are to come, as long as each has a value. -/
theorem remaining_eq_length_pairs {c : Cursor κ α} (h : c.Aligned) :
    c.remaining = c.pairs.length := by
  rw [remaining, pairs, List.length_zip, ← h, Nat.min_self]

/-- When no pairs are to come, a call leaves everything as it is. -/
theorem advance_of_pairs_eq_nil {c : Cursor κ α} (h : c.Aligned) (hpairs : c.pairs = []) :
    c.advance = (none, c) := by
  obtain ⟨_ | ⟨k, ks⟩, _ | ⟨a, as⟩⟩ := c
  · rfl
  · rfl
  · cases h
  · cases hpairs

/-! ## Any number of calls -/

theorem calls_succ (c : Cursor κ α) (n : Nat) :
    c.calls (n + 1) = (c.advance.1 :: (c.advance.2.calls n).1, (c.advance.2.calls n).2) := rfl

/-- Calls answer the pairs in order, and then that there is none. -/
theorem fst_calls (c : Cursor κ α) (n : Nat) :
    (c.calls n).1 = (c.pairs.take n).map some ++ List.replicate (n - c.pairs.length) none := by
  induction n generalizing c with
  | zero => rw [List.take_zero, Nat.zero_sub]; rfl
  | succ n ih =>
    rw [calls_succ, ih, advance_fst, pairs_advance]
    cases c.pairs with
    | nil => simp [List.replicate_succ]
    | cons p ps => simp

theorem pairs_calls (c : Cursor κ α) (n : Nat) : (c.calls n).2.pairs = c.pairs.drop n := by
  induction n generalizing c with
  | zero => rfl
  | succ n ih =>
    rw [calls_succ, ih, pairs_advance, List.drop_tail]

theorem aligned_calls {c : Cursor κ α} (h : c.Aligned) (n : Nat) : (c.calls n).2.Aligned := by
  induction n generalizing c with
  | zero => exact h
  | succ n ih => exact ih (aligned_advance h)

/-- The pairs among the answers are the first of those to come. -/
theorem filterMap_fst_calls (c : Cursor κ α) (n : Nat) :
    (c.calls n).1.filterMap id = c.pairs.take n := by
  rw [fst_calls, List.filterMap_append, List.filterMap_map, List.filterMap_replicate_of_none rfl,
    List.append_nil]
  exact List.filterMap_some

/-- When no pairs are to come, none come any more. -/
theorem calls_of_pairs_eq_nil {c : Cursor κ α} (h : c.Aligned) (hpairs : c.pairs = [])
    (n : Nat) : c.calls n = (List.replicate n none, c) := by
  induction n with
  | zero => rfl
  | succ n ih => rw [calls_succ, advance_of_pairs_eq_nil h hpairs, ih, List.replicate_succ]

/-- Taking pairs until there are none is making calls and keeping the pairs among the answers. -/
theorem take_eq_calls {c : Cursor κ α} (h : c.Aligned) (n : Nat) :
    c.take n = ((c.calls n).1.filterMap id, (c.calls n).2) := by
  induction n generalizing c with
  | zero => rfl
  | succ n ih =>
    rw [take, next?_eq_advance]
    cases hanswer : c.advance.1 with
    | none =>
      rw [advance_fst, List.head?_eq_none_iff] at hanswer
      rw [calls_of_pairs_eq_nil h hanswer, List.filterMap_replicate_of_none rfl]
      rfl
    | some p =>
      have hrest := ih (aligned_advance h)
      rw [calls_succ, hanswer, Option.map_some]
      simp only [hrest]
      rfl

end Cursor

/-! ## The cursor of a record -/

theorem aligned_cursor (r : Record κ α) : r.cursor.Aligned := r.length_eq

theorem pairs_cursor (r : Record κ α) : r.cursor.pairs = r.toPairs := rfl

/-- **A walk yields each pair once.** Whatever record is walked through, and however many calls
are made,
1. the answers are the first pairs of the record, in order, and nothing behind the last;
2. each pair joins the key and the value of one place;
3. the number of pairs to come is given exactly, and as many do come, those behind the first;
4. after the last pair nothing is answered ever again, and no pairs are announced;
5. taking pairs until there are none makes the same calls. -/
theorem walk_yields_each_pair_once (r : Record κ α) (n : Nat) :
    let c := (r.cursor.calls n).2
    (r.cursor.calls n).1 = (r.toPairs.take n).map some ++ List.replicate (n - r.size) none ∧
    (∀ (i : Nat) (hk : i < r.keys.length) (hv : i < r.values.length), i < n →
      (r.cursor.calls n).1[i]? = some (some (r.keys[i], r.values[i]))) ∧
    (c.sizeHint = (r.size - min n r.size, some (r.size - min n r.size)) ∧
      (∀ m, (c.calls m).1.filterMap id = (r.toPairs.drop n).take m) ∧
      (r.toPairs.drop n).length = r.size - min n r.size) ∧
    (r.size ≤ n → ∀ m, c.calls m = (List.replicate m none, c) ∧ c.sizeHint = (0, some 0)) ∧
    r.cursor.take n = ((r.cursor.calls n).1.filterMap id, c) := by
  intro c
  have hpairs : c.pairs = r.toPairs.drop n := r.cursor.pairs_calls n
  have haligned : c.Aligned := Cursor.aligned_calls r.aligned_cursor n
  have hlength : (r.toPairs.drop n).length = r.size - min n r.size := by
    rw [List.length_drop, length_toPairs]
    omega
  have hhint : c.sizeHint = (r.size - min n r.size, some (r.size - min n r.size)) := by
    rw [Cursor.sizeHint, Cursor.remaining_eq_length_pairs haligned, hpairs, hlength]
  have hanswers : (r.cursor.calls n).1
      = (r.toPairs.take n).map some ++ List.replicate (n - r.size) none := by
    rw [Cursor.fst_calls, pairs_cursor, length_toPairs]
  refine ⟨hanswers, ?joined, ⟨hhint, ?remain, hlength⟩, ?exhausted,
    Cursor.take_eq_calls r.aligned_cursor n⟩
  case joined =>
    intro i hk hv hi
    have hplace : i < (r.toPairs.take n).length := by
      rw [List.length_take, length_toPairs]
      exact Nat.lt_min.mpr ⟨hi, hk⟩
    rw [hanswers, List.getElem?_append_left (by rwa [List.length_map]), List.getElem?_map,
      List.getElem?_eq_getElem hplace, List.getElem_take]
    simp [toPairs]
  case remain =>
    intro m
    rw [Cursor.filterMap_fst_calls, hpairs]
  case exhausted =>
    intro hn m
    have hnil : c.pairs = [] := by
      rw [hpairs, List.drop_eq_nil_iff, length_toPairs]
      exact hn
    refine ⟨Cursor.calls_of_pairs_eq_nil haligned hnil m, ?_⟩
    rw [hhint, Nat.min_eq_right hn, Nat.sub_self]

/-- Three calls for two pairs with the same key. -/
theorem walk_yields_each_pair_once_past_the_end :
    let r : Record String Nat := ⟨["a", "a"], [1, 2], rfl⟩
    let c := (r.cursor.calls 3).2
    (r.cursor.calls 3).1[1]? = some (some ("a", 2)) ∧
      ∀ m, c.calls m = (List.replicate m none, c) ∧ c.sizeHint = (0, some 0) := by
  intro r c
  obtain ⟨-, hjoined, -, hexhausted, -⟩ := walk_yields_each_pair_once r 3
  constructor
  · exact hjoined 1 (by decide) (by decide) (by decide)
  · exact hexhausted (by decide)

end Record

end ScriptHost
