import Mathlib.Data.List.Forall2
import ScriptHost.Proofs.Record.History

/-!
# Records that correspond place by place

Two records may hold different things and still correspond: the first key of one to the first key
of the other, the first value to the first value, and so on. If corresponding keys pass the same
tests, then whatever is looked up or changed in one record is looked up or changed in the other
at the same place, and the records go on to correspond.

- `Parallel`: two computations that fail alike or succeed with results that correspond.
- `Record.Related`: two records that correspond, keys by one relation and values by another.
- `Related.position?`: the same tests find the same place. Everything below rests on it.
- `Related.get`, `Related.contains`, `Related.set`, `Related.add`: the operations.
-/

namespace ScriptHost

open Text (Inspect)

/-- Two computations come out alike: with the same error, or with results that correspond. -/
inductive Parallel {ε α β : Type _} (S : α → β → Prop) : Except ε α → Except ε β → Prop
  | ok {a : α} {b : β} (h : S a b) : Parallel S (.ok a) (.ok b)
  | error (e : ε) : Parallel S (.error e) (.error e)

theorem Parallel.imp {ε α β : Type _} {S T : α → β → Prop} {x : Except ε α} {y : Except ε β}
    (h : Parallel S x y) (himp : ∀ a b, S a b → T a b) : Parallel T x y := by
  cases h with
  | ok hab => exact .ok (himp _ _ hab)
  | error e => exact .error e

/-! ## Columns -/

section Columns

variable {α β : Type _} {S : α → β → Prop}

theorem forall₂_getElem? {as : List α} {bs : List β} (h : List.Forall₂ S as bs) (i : Nat) :
    Option.Rel S as[i]? bs[i]? := by
  induction h generalizing i with
  | nil => exact .none
  | cons hab _ ih =>
    cases i with
    | zero => exact .some hab
    | succ i => exact ih i

theorem forall₂_modify {as : List α} {bs : List β} (h : List.Forall₂ S as bs) {f : α → α}
    {g : β → β} (hfg : ∀ a b, S a b → S (f a) (g b)) (i : Nat) :
    List.Forall₂ S (as.modify i f) (bs.modify i g) := by
  induction h generalizing i with
  | nil =>
    rw [List.modify_nil, List.modify_nil]
    exact .nil
  | cons hab htail ih =>
    cases i with
    | zero => exact .cons (hfg _ _ hab) htail
    | succ i => exact .cons hab (ih i)

/-- Columns that correspond have the same image under maps that agree on what corresponds. -/
theorem map_eq_map_of_forall₂ {γ : Type _} {as : List α} {bs : List β} {f : α → γ} {g : β → γ}
    (h : List.Forall₂ S as bs) (hfg : ∀ a b, S a b → f a = g b) : as.map f = bs.map g := by
  induction h with
  | nil => rfl
  | cons hab _ ih => rw [List.map_cons, List.map_cons, hfg _ _ hab, ih]

end Columns

namespace Record

variable {κ κ' α β : Type _}

/-- Two records correspond place by place. -/
structure Related (R : κ → κ' → Prop) (S : α → β → Prop) (r : Record κ α) (s : Record κ' β) :
    Prop where
  keys : List.Forall₂ R r.keys s.keys
  values : List.Forall₂ S r.values s.values

namespace Related

variable {R : κ → κ' → Prop} {S : α → β → Prop} {r : Record κ α} {s : Record κ' β}

theorem size_eq (h : Related R S r s) : r.size = s.size := h.keys.length_eq

theorem imp (h : Related R S r s) {T : α → β → Prop} (himp : ∀ a b, S a b → T a b) :
    Related R T r s :=
  ⟨h.keys, h.values.imp himp⟩

/-- The pairs correspond one by one. -/
theorem toPairs (h : Related R S r s) :
    List.Forall₂ (fun p q => R p.1 q.1 ∧ S p.2 q.2) r.toPairs s.toPairs := by
  have hkeys := h.keys
  have hvalues := h.values
  unfold Record.toPairs
  generalize r.keys = ks, s.keys = ks', r.values = as, s.values = bs at hkeys hvalues
  induction hkeys generalizing as bs with
  | nil => exact .nil
  | cons hk _ ih =>
    cases hvalues with
    | nil => exact .nil
    | cons hab htail => exact .cons ⟨hk, hab⟩ (ih _ _ htail)

/-- Two columns build records that correspond, or none of the two builds one. -/
theorem ofColumns {keys : List κ} {keys' : List κ'} {values : List α} {values' : List β}
    (hkeys : List.Forall₂ R keys keys') (hvalues : List.Forall₂ S values values') :
    Parallel (Related R S) (Record.ofColumns keys values) (Record.ofColumns keys' values') := by
  have hk : keys.length = keys'.length := hkeys.length_eq
  have hv : values.length = values'.length := hvalues.length_eq
  unfold Record.ofColumns
  by_cases h : keys.length = values.length
  · rw [dif_pos h, dif_pos (hk.symm.trans (h.trans hv))]
    exact .ok ⟨hkeys, hvalues⟩
  · rw [dif_neg h, dif_neg fun h' => h (hk.trans (h'.trans hv.symm)), hk, hv]
    exact .error _

theorem add (h : Related R S r s) {k : κ} {k' : κ'} {a : α} {b : β} (hk : R k k')
    (hab : S a b) : Related R S (r.add k a) (s.add k' b) :=
  ⟨List.rel_append h.keys (.cons hk .nil), List.rel_append h.values (.cons hab .nil)⟩

section Lookup

variable [BEq κ] [BEq κ'] {q : κ} {q' : κ'}

/-- If corresponding keys pass the same tests, the first key that passes has the same place in
both records. -/
theorem position? (h : Related R S r s) (test : ∀ k k', R k k' → (k == q) = (k' == q')) :
    r.position? q = s.position? q' := by
  have hkeys := h.keys
  unfold Record.position?
  generalize r.keys = ks, s.keys = ks' at hkeys
  induction hkeys with
  | nil => rfl
  | cons hk _ ih => rw [List.findIdx?_cons, List.findIdx?_cons, test _ _ hk, ih]

theorem contains (h : Related R S r s) (test : ∀ k k', R k k' → (k == q) = (k' == q')) :
    r.contains q = s.contains q' := by
  rw [Record.contains, Record.contains, h.position? test]

theorem get? (h : Related R S r s) (test : ∀ k k', R k k' → (k == q) = (k' == q')) :
    Option.Rel S (r.get? q) (s.get? q') := by
  unfold Record.get?
  rw [h.position? test]
  cases s.position? q' with
  | none => exact .none
  | some i => exact forall₂_getElem? h.values i

end Lookup

section SameKey

variable {R : κ → κ → Prop} {s : Record κ β} [BEq κ] [Inspect κ] {q : κ}

theorem get (h : Related R S r s) (test : ∀ k k', R k k' → (k == q) = (k' == q)) :
    Parallel S (r.get q) (s.get q) := by
  have hfound := h.get? test
  unfold Record.get
  generalize r.get? q = found, s.get? q = found' at hfound
  cases hfound with
  | none => exact .error _
  | some hab => exact .ok hab

theorem set (h : Related R S r s) (test : ∀ k k', R k k' → (k == q) = (k' == q)) {a : α} {b : β}
    (hab : S a b) : Parallel (Related R S) (r.set q a) (s.set q b) := by
  unfold Record.set Record.modify
  rw [h.position? test]
  cases s.position? q with
  | none => exact .error _
  | some i => exact .ok ⟨h.keys, forall₂_modify h.values (fun _ _ _ => hab) i⟩

end SameKey

end Related

end Record

end ScriptHost
