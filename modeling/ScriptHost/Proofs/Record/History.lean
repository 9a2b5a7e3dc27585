import ScriptHost.Proofs.Value.Equality
import ScriptHost.Record.Basic

/-!
# What a lookup finds, from the history of a record

A record is built from two columns and then changed, pair by pair. What a lookup finds at the end
can be told from that history alone: the value that came with the first key equal to the one that
is looked up, as later changes under equal keys left it.

Key equality is a partial equivalence. Nothing here needs a key to equal itself, so a NaN is a
key like any other: it is stored and never found.

- `Update`, `Record.apply`, `Record.applyAll`: a change, and what a record is after changes. A
  change that finds no key leaves the record as it was.
- `Update.amend`: what a change does to a value that stands under a key.
- `Update.see`: the same for a lookup, which may have found nothing so far.
- `position?_congr`, `beq_of_position?_eq`: equal keys stand in the same place, and keys that
  stand in the same place are equal. This is where symmetry and transitivity are used.
- `get?_apply`, `get?_applyAll`: a lookup in a changed record sees the changes and nothing else.
- `get_applyAll_iff_history`: the law of lookups.
-/

namespace ScriptHost

open Text (Inspect)

namespace Record

variable {κ α : Type _}

/-! ## Changes -/

/-- A change of a record. -/
inductive Update (κ α : Type _) where
  | add (k : κ) (a : α)
  | set (k : κ) (a : α)
  /-- A change of a value in place. -/
  | modify (k : κ) (f : α → α)

namespace Update

/-- The key that a change names. -/
def key : Update κ α → κ
  | add k _ | set k _ | modify k _ => k

/-- The key that a change brings into a record, if it brings one. -/
def addedKey? : Update κ α → Option κ
  | add k _ => some k
  | set .. | modify .. => none

/-- What a change does to the value that a lookup of `q` finds: nothing, unless the change is
made to a value that is there, under a key equal to `q`. -/
def amend [BEq κ] (q : κ) (a : α) : Update κ α → α
  | add _ _ => a
  | set k b => if k == q then b else a
  | modify k f => if k == q then f a else a

/-- What a change does to the outcome of a lookup of `q`. Only an addition can make a lookup
succeed that failed before. -/
def see [BEq κ] (q : κ) : Option α → Update κ α → Option α
  | some a, u => some (u.amend q a)
  | none, add k a => if k == q then some a else none
  | none, _ => none

end Update

/-- What a changed record is, when a change that finds no key has no effect. -/
def keep (r : Record κ α) : Except MissingKey (Record κ α) → Record κ α
  | .ok r' => r'
  | .error _ => r

/-- A record after one change. -/
def apply [BEq κ] [Inspect κ] (r : Record κ α) : Update κ α → Record κ α
  | .add k a => r.add k a
  | .set k a => r.keep (r.set k a)
  | .modify k f => r.keep (r.modify k f)

/-- A record after changes, one after the other. -/
def applyAll [BEq κ] [Inspect κ] (r : Record κ α) (us : List (Update κ α)) : Record κ α :=
  us.foldl apply r

/-- The pairs that a record is built from, as additions. -/
def additions (keys : List κ) (values : List α) : List (Update κ α) :=
  (keys.zip values).map fun (k, a) => .add k a

/-- The keys that changes bring into a record, in order. -/
def addedKeys (us : List (Update κ α)) : List κ := us.filterMap Update.addedKey?

/-! ## Building -/

/-- A record has the columns that it was built from. -/
theorem columns_ofColumns {keys : List κ} {values : List α} {r : Record κ α}
    (built : ofColumns keys values = .ok r) : r.keys = keys ∧ r.values = values := by
  unfold ofColumns at built
  split at built
  · cases built
    exact ⟨rfl, rfl⟩
  · cases built

theorem toPairs_ofColumns {keys : List κ} {values : List α} {r : Record κ α}
    (built : ofColumns keys values = .ok r) : r.toPairs = keys.zip values := by
  obtain ⟨hkeys, hvalues⟩ := columns_ofColumns built
  rw [toPairs, hkeys, hvalues]

/-! ## Places of keys -/

section Position

variable [BEq κ]

/-- Equal keys stand in the same place. -/
theorem position?_congr [PartialEquivBEq κ] (r : Record κ α) {k q : κ} (h : k == q) :
    r.position? k = r.position? q := by
  show r.keys.findIdx? (· == k) = r.keys.findIdx? (· == q)
  congr 1
  exact funext fun c => BEq.congr_right h

/-- Keys that stand in the same place are equal, by way of the key that is there. -/
theorem beq_of_position?_eq [PartialEquivBEq κ] {r : Record κ α} {k q : κ} {i : Nat}
    (hk : r.position? k = some i) (hq : r.position? q = some i) : k == q := by
  obtain ⟨_, hck, -⟩ := List.findIdx?_eq_some_iff_getElem.mp hk
  obtain ⟨_, hcq, -⟩ := List.findIdx?_eq_some_iff_getElem.mp hq
  exact BEq.trans (BEq.symm hck) hcq

theorem contains_iff_exists_mem_keys (r : Record κ α) (q : κ) :
    r.contains q = true ↔ ∃ k ∈ r.keys, (k == q) = true := by
  rw [contains, position?, List.findIdx?_isSome, List.any_eq_true]

theorem contains_eq_isSome_get? (r : Record κ α) (q : κ) :
    r.contains q = (r.get? q).isSome := by
  rw [contains_eq_any, get?_eq_find?, Option.isSome_map, Bool.eq_iff_iff,
    List.find?_isSome, List.any_eq_true]

/-- Adding a pair is seen by a lookup that found nothing before. -/
theorem get?_add (r : Record κ α) (k q : κ) (a : α) :
    (r.add k a).get? q = (r.get? q).or (if k == q then some a else none) := by
  simp only [get?_eq_find?, toPairs_add, List.find?_append, List.find?_singleton]
  cases r.toPairs.find? (·.1 == q) <;> cases k == q <;> rfl

end Position

/-! ## One change -/

section Change

variable [BEq κ] [Inspect κ]

theorem get_congr {r r' : Record κ α} {q : κ} (h : r.get? q = r'.get? q) :
    r.get q = r'.get q := by
  rw [get, get, h]

theorem get_eq_ok_iff (r : Record κ α) (q : κ) (a : α) :
    r.get q = .ok a ↔ r.get? q = some a := by
  unfold get
  cases r.get? q <;> simp

/-- A set is a change in place that forgets the value that was there. -/
theorem apply_set (r : Record κ α) (k : κ) (a : α) :
    r.apply (.set k a) = r.apply (.modify k fun _ => a) := rfl

/-- No change touches the keys that are there, and only an addition brings one. -/
theorem keys_apply (r : Record κ α) (u : Update κ α) :
    (r.apply u).keys = r.keys ++ u.addedKey?.toList := by
  have hmod (k : κ) (f : α → α) : (r.apply (.modify k f)).keys = r.keys := by
    simp only [apply, modify]
    cases r.position? k <;> rfl
  cases u with
  | add k a => rfl
  | set k a => rw [apply_set, hmod]; exact (List.append_nil _).symm
  | modify k f => rw [hmod]; exact (List.append_nil _).symm

/-- A change in place is seen by the lookups of equal keys and by no other, whether or not the
key is there. -/
theorem get?_apply_modify [PartialEquivBEq κ] (r : Record κ α) (k q : κ) (f : α → α) :
    (r.apply (.modify k f)).get? q = (r.get? q).map fun a => if k == q then f a else a := by
  cases hk : r.position? k with
  | none =>
    -- nothing changes, and nothing is found under an equal key
    have hr : r.apply (.modify k f) = r := by simp [apply, modify, hk, keep]
    rw [hr]
    by_cases hkq : k == q
    · have hq : r.position? q = none := by rw [← position?_congr r hkq, hk]
      simp [get?, hq]
    · simp [hkq]
  | some i =>
    have hr : (r.apply (.modify k f)).get? q
        = (r.position? q).bind ((r.values.modify i f)[·]?) := by
      simp only [apply, modify, hk]
      rfl
    rw [hr, get?]
    by_cases hkq : k == q
    · rw [← position?_congr r hkq, hk]
      simp [hkq]
    · -- the changed place is not the one that is looked up
      cases hq : r.position? q with
      | none => rfl
      | some j =>
        have hij : i ≠ j := by
          rintro rfl
          exact hkq (beq_of_position?_eq hk hq)
        simp [hkq, List.getElem?_modify_ne f r.values hij]

/-- A lookup in a changed record sees the change and nothing else. -/
theorem get?_apply [PartialEquivBEq κ] (r : Record κ α) (u : Update κ α) (q : κ) :
    (r.apply u).get? q = Update.see q (r.get? q) u := by
  cases u with
  | add k a =>
    rw [apply, get?_add]
    cases r.get? q <;> rfl
  | set k b =>
    rw [apply_set, get?_apply_modify]
    cases r.get? q <;> rfl
  | modify k f =>
    rw [get?_apply_modify]
    cases r.get? q <;> rfl

end Change

/-! ## What a lookup sees -/

section Seen

variable [BEq κ]

/-- Once a lookup finds a value, every later change only amends it. -/
theorem foldl_see_some (q : κ) (a : α) (us : List (Update κ α)) :
    us.foldl (Update.see q) (some a) = some (us.foldl (Update.amend q) a) := by
  induction us generalizing a with
  | nil => rfl
  | cons u us ih => exact ih (u.amend q a)

/-- A lookup finds nothing while no equal key has been added. -/
theorem foldl_see_none {q : κ} {us : List (Update κ α)}
    (h : ∀ k ∈ addedKeys us, (k == q) = false) :
    us.foldl (Update.see q) (none : Option α) = none := by
  induction us with
  | nil => rfl
  | cons u us ih =>
    have hu : Update.see q (none : Option α) u = none := by
      cases u with
      | add k a =>
        have hk : (k == q) = false := h k (by simp [addedKeys, Update.addedKey?])
        simp [Update.see, hk]
      | set k a => rfl
      | modify k f => rfl
    show us.foldl (Update.see q) (Update.see q none u) = none
    rw [hu]
    refine ih fun k hk => h k ?_
    obtain ⟨u', hu', hk'⟩ := List.mem_filterMap.mp hk
    exact List.mem_filterMap.mpr ⟨u', List.mem_cons_of_mem _ hu', hk'⟩

/-- A change of a value under another key goes unseen. -/
theorem see_of_ne {q : κ} {o : Option α} {u : Update κ α} (hu : u.addedKey? = none)
    (hne : (u.key == q) = false) : Update.see q o u = o := by
  cases u with
  | add k a => cases hu
  | set k a => cases o <;> simp_all [Update.see, Update.amend, Update.key]
  | modify k f => cases o <;> simp_all [Update.see, Update.amend, Update.key]

/-- The first equal key decides: a lookup sees the value that came with it, as the changes after
it left it. -/
theorem foldl_see_first {q k : κ} {a : α} {before after : List (Update κ α)}
    (hk : k == q) (first : ∀ c ∈ addedKeys before, (c == q) = false) :
    (before ++ .add k a :: after).foldl (Update.see q) none
      = some (after.foldl (Update.amend q) a) := by
  have hsee : Update.see q (none : Option α) (.add k a) = some a := if_pos hk
  rw [List.foldl_append, foldl_see_none first, List.foldl_cons, hsee, foldl_see_some]

/-- Additions amend nothing. -/
theorem foldl_amend_additions (q : κ) (a : α) (ps : List (κ × α)) :
    (ps.map fun (k, b) => Update.add k b).foldl (Update.amend q) a = a := by
  induction ps with
  | nil => rfl
  | cons _ ps ih => exact ih

/-- A lookup in a record that was just built sees its pairs as additions. -/
theorem get?_ofColumns {keys : List κ} {values : List α} {r : Record κ α}
    (built : ofColumns keys values = .ok r) (q : κ) :
    r.get? q = (additions keys values).foldl (Update.see q) none := by
  rw [get?_eq_find?, toPairs_ofColumns built, additions]
  induction keys.zip values with
  | nil => rfl
  | cons p ps ih =>
    rw [List.find?_cons, List.map_cons, List.foldl_cons]
    cases hp : p.1 == q with
    | true =>
      have hsee : Update.see q (none : Option α) (.add p.1 p.2) = some p.2 := if_pos hp
      rw [hsee, foldl_see_some, foldl_amend_additions]
      rfl
    | false =>
      have hsee : Update.see q (none : Option α) (.add p.1 p.2) = none := by
        simp [Update.see, hp]
      rw [hsee]
      exact ih

end Seen

/-! ## A history of changes -/

section History

variable [BEq κ] [Inspect κ]

theorem keys_applyAll (r : Record κ α) (us : List (Update κ α)) :
    (r.applyAll us).keys = r.keys ++ addedKeys us := by
  induction us generalizing r with
  | nil => exact (List.append_nil _).symm
  | cons u us ih =>
    show ((r.apply u).applyAll us).keys = _
    rw [ih, keys_apply, List.append_assoc]
    cases hu : u.addedKey? <;> simp [addedKeys, hu]

theorem get?_applyAll [PartialEquivBEq κ] (r : Record κ α) (us : List (Update κ α)) (q : κ) :
    (r.applyAll us).get? q = us.foldl (Update.see q) (r.get? q) := by
  induction us generalizing r with
  | nil => rfl
  | cons u us ih =>
    show ((r.apply u).applyAll us).get? q = us.foldl (Update.see q) (Update.see q (r.get? q) u)
    rw [ih, get?_apply]

/-- The keys of a record with a history are those it was built from and those added since. -/
theorem contains_applyAll {keys : List κ} {values : List α} {r : Record κ α}
    (built : ofColumns keys values = .ok r) (us : List (Update κ α)) (q : κ) :
    (r.applyAll us).contains q = true ↔ ∃ k ∈ keys ++ addedKeys us, (k == q) = true := by
  rw [contains_iff_exists_mem_keys, keys_applyAll, (columns_ofColumns built).1]

/-- **The law of lookups.** In a record that was built from two columns and then changed:
1. a key is present, and looking it up succeeds, if an equal key was given;
2. what is found came with the first such key, and went through the changes that were made later
   under equal keys, and through no others;
3. adding a pair does not change what is found under a key that is present;
4. nor does a change of a value under another key;
5. a key that is present stays present. -/
theorem get_applyAll_iff_history [PartialEquivBEq κ] {keys : List κ} {values : List α}
    {r : Record κ α} (built : ofColumns keys values = .ok r) (us : List (Update κ α)) (q : κ) :
    (((r.applyAll us).contains q = true ↔ ∃ k ∈ keys ++ addedKeys us, (k == q) = true) ∧
      ((∃ a, (r.applyAll us).get q = .ok a) ↔
        ∃ k ∈ keys ++ addedKeys us, (k == q) = true)) ∧
    (∀ before k a after, additions keys values ++ us = before ++ .add k a :: after →
      (k == q) = true → (∀ c ∈ addedKeys before, (c == q) = false) →
      (r.applyAll us).get q = .ok (after.foldl (Update.amend q) a)) ∧
    (∀ k a, (r.applyAll us).contains q = true →
      ((r.applyAll us).add k a).get q = (r.applyAll us).get q) ∧
    (∀ u, u.addedKey? = none → (u.key == q) = false →
      ((r.applyAll us).apply u).get q = (r.applyAll us).get q) ∧
    (∀ later, (r.applyAll us).contains q = true →
      ((r.applyAll us).applyAll later).contains q = true) := by
  have hcontains := contains_applyAll built us q
  refine ⟨⟨hcontains, ?_⟩, ?_, ?_, ?_, ?_⟩
  · rw [← hcontains, contains_eq_isSome_get?, Option.isSome_iff_exists]
    exact exists_congr fun a => get_eq_ok_iff _ q a
  · intro before k a after hsplit hk first
    rw [get_eq_ok_iff, get?_applyAll, get?_ofColumns built, ← List.foldl_append, hsplit]
    exact foldl_see_first hk first
  · intro k a hq
    rw [contains_eq_isSome_get?, Option.isSome_iff_exists] at hq
    obtain ⟨b, hb⟩ := hq
    refine get_congr ?_
    rw [get?_add, hb]
    rfl
  · intro u hu hne
    refine get_congr ?_
    rw [get?_apply, see_of_ne hu hne]
  · intro later hq
    rw [contains_iff_exists_mem_keys] at hq ⊢
    obtain ⟨k, hk, hkq⟩ := hq
    refine ⟨k, ?_, hkq⟩
    rw [keys_applyAll]
    exact List.mem_append_left _ hk

/-- A NaN and two zeros as keys: the NaN is never found, and the value under one zero is changed
under the other. -/
theorem get_applyAll_iff_history_zeros :
    let nan : Number := ⟨0x7FF8000000000000⟩
    let zero : Number := ⟨0⟩
    let negZero : Number := ⟨0x8000000000000000⟩
    ∃ r : Record Number Nat, ofColumns [nan, zero] [1, 2] = .ok r ∧
      (r.applyAll [.set nan 9, .modify negZero (· + 40), .add zero 5]).get zero = .ok 42 ∧
      (r.applyAll [.add nan 9]).contains nan = false := by
  intro nan zero negZero
  have built : ofColumns (α := Nat) [nan, zero] [1, 2] = .ok ⟨[nan, zero], [1, 2], rfl⟩ := rfl
  refine ⟨_, built, ?_, ?_⟩
  · have law := get_applyAll_iff_history built
      [.set nan 9, .modify negZero (· + 40), .add zero 5] zero
    have found := law.2.1 [.add nan 1] zero 2 _ rfl (by decide) (by decide)
    exact found.trans (congrArg Except.ok (by decide))
  · rw [Bool.eq_false_iff, ne_eq, (get_applyAll_iff_history built _ nan).1.1]
    decide

end History

end Record

end ScriptHost
