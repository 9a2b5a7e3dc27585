import ScriptHost.Proofs.Value.Correspondence

/-!
# Objects that contain themselves

An object can be written on its own or through a value that refers to it. The one difference is
that on its own it does not count as being in progress. So if it is met again below itself it is
written once more in full, where through a value it is elided, and the two texts part for good at
the first such place. Where it is never met, they are the same.

- `Layout.Shows`: an object stands somewhere in a layout.
- `Heap.ReachesOff`: an object can be reached on a way that keeps off a path.
- `ReachesOff.cut`: such a way can be made to leave an object for good, by cutting it at the last
  visit.
- `Unfolds.shows_iff`: what a layout shows is what can be reached off the path.
- `Diverge`: two texts that differ within both of them, so that nothing behind can make up for it.
- `Unfolds.compare`: layouts with and without one object on the path, side by side.
- `object_display_eq_iff_acyclic`: the two ways to write an object agree just if it does not
  contain itself.
-/

namespace ScriptHost

/-! ## What a layout shows -/

/-- An object stands somewhere in the layout, in full or elided. -/
def Layout.Shows (t : Layout) (r : ObjectRef) : Prop :=
  ∃ path u, t.Occurs path u ∧ u.object? = some r

namespace Layout

variable {r s : ObjectRef}

theorem not_shows_leaf (text : String) : ¬ (leaf text).Shows r := by
  rintro ⟨path, u, hoccurs, hu⟩
  cases hoccurs
  cases hu

theorem shows_elided_iff : (elided s).Shows r ↔ s = r := by
  constructor
  · rintro ⟨path, u, hoccurs, hu⟩
    cases hoccurs
    exact Option.some.inj hu
  · rintro rfl
    exact ⟨[], _, .top _, rfl⟩

theorem shows_full_iff {ts : List (String × Layout)} :
    (full s ts).Shows r ↔ s = r ∨ ∃ p ∈ ts, p.2.Shows r := by
  constructor
  · rintro ⟨path, u, hoccurs, hu⟩
    cases hoccurs with
    | top => exact .inl (Option.some.inj hu)
    | inside mem hoccurs => exact .inr ⟨_, mem, _, u, hoccurs, hu⟩
  · rintro (rfl | ⟨⟨k, t⟩, mem, path, u, hoccurs, hu⟩)
    · exact ⟨[], _, .top _, rfl⟩
    · exact ⟨_, u, .inside mem hoccurs, hu⟩

end Layout

/-! ## Ways through the heap -/

theorem Object.exists_mem_values_iff {o : Object} {P : Value → Prop} :
    (∃ v ∈ o.values, P v) ↔ ∃ p ∈ o.toPairs, P p.2 := by
  rw [← Record.map_snd_toPairs]
  simp only [List.mem_map, exists_exists_and_eq_and]

/-- An object can be reached from a value without meeting an object of the path. -/
inductive Heap.ReachesOff (h : Heap) (path : List ObjectRef) : Value → ObjectRef → Prop
  | here {r : ObjectRef} (off : r ∉ path) : ReachesOff h path (.object r) r
  | inside {r s : ObjectRef} {c : Cell} {v : Value} (off : r ∉ path)
      (cell : h.cells[r.index]? = some c) (mem : v ∈ c.object.values)
      (reaches : ReachesOff h path v s) : ReachesOff h path (.object r) s

namespace Heap

variable {h : Heap} {path : List ObjectRef} {r s : ObjectRef} {c : Cell} {v : Value}

theorem reachesOff_nil_iff : h.ReachesOff [] v r ↔ h.Reaches v r := by
  constructor
  · intro hv
    induction hv with
    | here _ => exact .here _
    | inside _ cell mem _ ih => exact .inside cell mem ih
  · intro hv
    induction hv with
    | here _ => exact .here List.not_mem_nil
    | inside cell mem _ ih => exact .inside List.not_mem_nil cell mem ih

theorem ReachesOff.mono {path' : List ObjectRef} (hv : h.ReachesOff path v r)
    (hsub : path' ⊆ path) : h.ReachesOff path' v r := by
  induction hv with
  | here off => exact .here fun hmem => off (hsub hmem)
  | inside off cell mem _ ih => exact .inside (fun hmem => off (hsub hmem)) cell mem ih

/-- A way keeps off an object, or else what follows the last visit to that object does. -/
theorem ReachesOff.cut (hv : h.ReachesOff path v r) (hne : s ≠ r)
    (cell : h.cells[s.index]? = some c) :
    h.ReachesOff (s :: path) v r ∨ ∃ w ∈ c.object.values, h.ReachesOff (s :: path) w r := by
  induction hv with
  | here off => exact .inl (.here (List.not_mem_cons_of_ne_of_not_mem hne.symm off))
  | @inside a _ _ w off cell' mem _ ih =>
    rcases ih hne with hw | hlater
    · by_cases ha : a = s
      · subst ha
        cases cell.symm.trans cell'
        exact .inr ⟨w, mem, hw⟩
      · exact .inl (.inside (List.not_mem_cons_of_ne_of_not_mem ha off) cell' mem hw)
    · exact .inr hlater

/-- What can be reached from an object other than itself, can be reached from a value in it without
coming back. -/
theorem reachesOff_object_iff (hs : s ∉ path) (hne : s ≠ r) (cell : h.cells[s.index]? = some c) :
    h.ReachesOff path (.object s) r ↔ ∃ w ∈ c.object.values, h.ReachesOff (s :: path) w r := by
  constructor
  · intro hreach
    rcases hreach.cut hne cell with hoff | hinside
    · cases hoff with
      | here => exact absurd rfl hne
      | inside off => exact absurd List.mem_cons_self off
    · exact hinside
  · rintro ⟨w, mem, hw⟩
    exact .inside hs cell mem (hw.mono (List.subset_cons_self s path))

end Heap

section Showing

variable {h : Heap} {r : ObjectRef}

mutual

/-- A layout shows what can be reached off the path, if no object is held for a change. By
recursion along the unfolding: an object that is entered is met on no way that goes on below it. -/
theorem Unfolds.shows_iff (unheld : ∀ c ∈ h.cells, c.borrow ≠ .exclusive)
    {path : List ObjectRef} {v : Value} {t : Layout} (hr : r ∉ path) :
    Unfolds h path v t → (t.Shows r ↔ h.ReachesOff path v r)
  | .leaf hs => by
    refine iff_of_false (Layout.not_shows_leaf _) fun hreach => ?_
    cases hreach <;> cases hs
  | .elided hs => by
    rw [Layout.shows_elided_iff]
    constructor
    · rintro rfl
      exact .here hr
    · intro hreach
      cases hreach with
      | here => rfl
      | inside off cell =>
        have hheld := hs.resolve_left off _ cell
        exact absurd hheld (unheld _ (Array.mem_of_getElem? cell))
  | .full (r := s) hs cell _ inner => by
    rw [Layout.shows_full_iff]
    by_cases hsr : s = r
    · subst hsr
      exact iff_of_true (.inl rfl) (.here hs)
    · have hr' : r ∉ s :: path := List.not_mem_cons_of_ne_of_not_mem (Ne.symm hsr) hr
      rw [or_iff_right hsr, inner.shows_iff unheld hr', Heap.reachesOff_object_iff hs hsr cell,
        Object.exists_mem_values_iff]

/-- The same for pairs. -/
theorem UnfoldsPairs.shows_iff (unheld : ∀ c ∈ h.cells, c.borrow ≠ .exclusive)
    {path : List ObjectRef} {ps : List (String × Value)} {ts : List (String × Layout)}
    (hr : r ∉ path) : UnfoldsPairs h path ps ts →
      ((∃ p ∈ ts, p.2.Shows r) ↔ ∃ p ∈ ps, h.ReachesOff path p.2 r)
  | .nil => by simp
  | .cons ht hts => by
    rw [List.exists_mem_cons_iff, List.exists_mem_cons_iff, ht.shows_iff unheld hr,
      hts.shows_iff unheld hr]

end

end Showing

/-! ## Texts that part -/

/-- Neither text begins with the other, so they differ at a place that both have. -/
structure Diverge (s t : String) : Prop where
  not_prefix : ¬ s.toList <+: t.toList
  not_extension : ¬ t.toList <+: s.toList

namespace Diverge

variable {s t : String}

theorem ne (h : Diverge s t) : s ≠ t := by
  rintro rfl
  exact h.not_prefix List.prefix_rfl

/-- What stands before the place is common to both. -/
theorem prepend (h : Diverge s t) (x : String) : Diverge (x ++ s) (x ++ t) where
  not_prefix hp := h.not_prefix (by
    rw [String.toList_append, String.toList_append] at hp
    exact (List.prefix_append_right_inj _).mp hp)
  not_extension hp := h.not_extension (by
    rw [String.toList_append, String.toList_append] at hp
    exact (List.prefix_append_right_inj _).mp hp)

/-- What stands behind the place does not matter. -/
theorem append (h : Diverge s t) (x y : String) : Diverge (s ++ x) (t ++ y) := by
  have hs : s.toList <+: (s ++ x).toList := by
    rw [String.toList_append]
    exact List.prefix_append ..
  have ht : t.toList <+: (t ++ y).toList := by
    rw [String.toList_append]
    exact List.prefix_append ..
  constructor
  · intro hp
    exact (List.prefix_or_prefix_of_prefix (hs.trans hp) ht).elim h.not_prefix h.not_extension
  · intro hp
    exact (List.prefix_or_prefix_of_prefix hs (ht.trans hp)).elim h.not_prefix h.not_extension

/-- Texts of pairs that part make the texts of the objects part. -/
theorem full {ts us : List (String × Layout)} {r s : ObjectRef}
    (h : Diverge (", ".intercalate (Layout.pairTexts ts))
      (", ".intercalate (Layout.pairTexts us))) :
    Diverge (Layout.full r ts).text (Layout.full s us).text := by
  cases ts with
  | nil => exact absurd List.nil_prefix h.not_prefix
  | cons p ts =>
    cases us with
    | nil => exact absurd List.nil_prefix h.not_extension
    | cons q us =>
      rw [Layout.text, Layout.text]
      exact (h.prepend "\x7b ").append _ _

end Diverge

/-- The text of several pairs is that of the first and that of the others, behind a comma. -/
theorem Layout.intercalate_pairTexts_cons (k : String) (t : Layout) (p : String × Layout)
    (ts : List (String × Layout)) :
    ", ".intercalate (pairTexts ((k, t) :: p :: ts))
      = k ++ ": " ++ t.text ++ ", " ++ ", ".intercalate (pairTexts (p :: ts)) := by
  rw [pairTexts, pairTexts, String.intercalate_cons_cons, ← pairTexts]

/-- An object in full and an elided one differ at the second character. -/
theorem Layout.diverge_full_elided (r s : ObjectRef) (ts : List (String × Layout)) :
    Diverge (full r ts).text (elided s).text := by
  cases ts with
  | nil =>
    rw [text, text]
    constructor <;> decide
  | cons p ts =>
    have hdots : Diverge "\x7b " "\x7b...\x7d" := by constructor <;> decide
    rw [text, text, String.append_assoc]
    exact hdots.append _ ""

/-! ## One object more on the path -/

section Comparing

variable {h : Heap} {r : ObjectRef}

mutual

/-- With one object more at the far end of the path, a layout that does not show the object stays
as it is, and the text of one that does becomes another one for good. By recursion along the
unfolding: every other object is entered in both cases or in none. -/
theorem Unfolds.compare (unheld : ¬ h.HeldForChange r) {path : List ObjectRef} {v : Value}
    {t u : Layout} (hr : r ∉ path) : Unfolds h path v t → Unfolds h (path ++ [r]) v u →
      ¬ t.Shows r ∧ u = t ∨ t.Shows r ∧ Diverge t.text u.text
  | .leaf hs, hu => .inl ⟨Layout.not_shows_leaf _, unfolds_unique hu (.leaf hs)⟩
  | .elided (r := s) hs, hu => by
    have hs' : s ∈ path ++ [r] ∨ h.HeldForChange s := hs.imp_left (List.mem_append_left _)
    have hsr : s ≠ r := by
      rintro rfl
      exact hs.elim hr unheld
    exact .inl ⟨fun hshows => hsr (Layout.shows_elided_iff.mp hshows),
      unfolds_unique hu (.elided hs')⟩
  | .full (r := s) hs cell hopen inner, hu => by
    rw [Layout.shows_full_iff]
    by_cases hsr : s = r
    · subst hsr
      -- the object itself: in full without it on the path, and elided with it
      have helided : u = .elided s := unfolds_unique hu (.elided (.inl (by simp)))
      rw [helided]
      exact .inr ⟨.inl rfl, Layout.diverge_full_elided s s _⟩
    · have hr' : r ∉ s :: path := List.not_mem_cons_of_ne_of_not_mem (Ne.symm hsr) hr
      have hs' : s ∉ path ++ [r] := by
        rw [List.mem_append, not_or, List.mem_singleton]
        exact ⟨hs, hsr⟩
      rw [or_iff_right hsr]
      cases hu with
      | leaf hs => cases hs
      | elided held => exact (held.elim hs' fun held => hopen (held _ cell)).elim
      | full _ cell' _ inner' =>
        cases cell.symm.trans cell'
        rcases inner.compare unheld hr' inner' with ⟨hshows, rfl⟩ | ⟨hshows, hdiverge⟩
        · exact .inl ⟨hshows, rfl⟩
        · exact .inr ⟨hshows, hdiverge.full⟩

/-- The same for pairs. The texts of two lists of pairs part at the first pair that differs. -/
theorem UnfoldsPairs.compare (unheld : ¬ h.HeldForChange r) {path : List ObjectRef}
    {ps : List (String × Value)} {ts us : List (String × Layout)} (hr : r ∉ path) :
    UnfoldsPairs h path ps ts → UnfoldsPairs h (path ++ [r]) ps us →
      (¬ ∃ p ∈ ts, p.2.Shows r) ∧ us = ts ∨
      (∃ p ∈ ts, p.2.Shows r) ∧ Diverge (", ".intercalate (Layout.pairTexts ts))
        (", ".intercalate (Layout.pairTexts us))
  | .nil, .nil => .inl ⟨by simp, rfl⟩
  | .cons (k := k) ht hts, .cons hu hus => by
    rw [List.exists_mem_cons_iff]
    rcases ht.compare unheld hr hu with ⟨hshows, rfl⟩ | ⟨hshows, hdiverge⟩
    · rw [or_iff_right hshows]
      rcases hts.compare unheld hr hus with ⟨hnone, rfl⟩ | ⟨hsome, hdiverge⟩
      · exact .inl ⟨hnone, rfl⟩
      · refine .inr ⟨hsome, ?_⟩
        cases hts with
        | nil => simp at hsome
        | cons _ _ =>
          cases hus with
          | cons _ _ =>
            rw [Layout.intercalate_pairTexts_cons, Layout.intercalate_pairTexts_cons]
            exact hdiverge.prepend _
    · refine .inr ⟨.inl hshows, ?_⟩
      rw [Layout.intercalate_pairTexts, Layout.intercalate_pairTexts]
      exact ((hdiverge.append _ _).prepend ": ").prepend k

end

end Comparing

/-! ## An object on its own and through a value -/

/-- **An object displays as a value that refers to it does, exactly if it is not below itself.**
As long as no object is held for a change, what an object displays as on its own and what a value
that refers to it displays as are the same text if the object cannot be reached from a value in
it. If it can, they are different texts. -/
theorem object_display_eq_iff_acyclic (h : Heap) (unheld : ∀ c ∈ h.cells, c.borrow ≠ .exclusive)
    (r : ObjectRef) (c : Cell) (cell : h.cells[r.index]? = some c) :
    c.object.display h = (Value.object r).display h ↔
      ¬ ∃ v ∈ c.object.values, h.Reaches v r := by
  have hopen : c.borrow ≠ .exclusive := unheld c (Array.mem_of_getElem? cell)
  have hfree : ¬ h.HeldForChange r := fun held => hopen (held c cell)
  -- the same pairs, below no object and below the one that they are of
  obtain ⟨ts, hts⟩ := exists_unfoldsPairs (exists_unfolds h []) c.object.toPairs
  obtain ⟨us, hus⟩ := exists_unfoldsPairs (exists_unfolds h [r]) c.object.toPairs
  have hobject : c.object.display h = (Layout.full r ts).text := by
    have hwrites := Writer.object_writes (σ := String) Writer.value_writes hts r
    rw [Object.display, Writer.text_of_writes hwrites, Layout.join_pieces]
  have hvalue : (Value.object r).display h = (Layout.full r us).text :=
    display_eq_text_of_unfolds (.full List.not_mem_nil cell hopen hus)
  have hshows : (∃ p ∈ ts, p.2.Shows r) ↔ ∃ v ∈ c.object.values, h.Reaches v r := by
    rw [hts.shows_iff unheld List.not_mem_nil, Object.exists_mem_values_iff]
    simp only [Heap.reachesOff_nil_iff]
  rw [hobject, hvalue, ← hshows]
  rcases hts.compare hfree List.not_mem_nil hus with ⟨hnone, rfl⟩ | ⟨hsome, hdiverge⟩
  · exact iff_of_true rfl hnone
  · exact iff_of_false hdiverge.full.ne fun hnone => hnone hsome

/-- Of a ring of two objects and a third one that leads to it, the third displays alike in both
ways, and those of the ring do not. -/
theorem object_display_eq_iff_acyclic_ring :
    let first : Cell := ⟨⟨["next"], [.object ⟨1⟩], rfl⟩, .shared⟩
    let second : Cell := ⟨⟨["next"], [.object ⟨0⟩], rfl⟩, .free⟩
    let outer : Cell := ⟨⟨["ring"], [.object ⟨0⟩], rfl⟩, .free⟩
    let h : Heap := ⟨#[first, second, outer]⟩
    (∀ c ∈ h.cells, c.borrow ≠ .exclusive) ∧
    first.object.display h ≠ (Value.object ⟨0⟩).display h ∧
    outer.object.display h = (Value.object ⟨2⟩).display h := by
  intro first second outer h
  have unheld : ∀ c ∈ h.cells, c.borrow ≠ .exclusive := by decide
  have hring : h.Reaches (.object ⟨1⟩) ⟨0⟩ :=
    .inside (c := second) rfl (List.mem_singleton_self _) (.here _)
  have hnowhere : ∀ c ∈ h.cells, .object ⟨2⟩ ∉ c.object.values := by
    simp [h, first, second, outer]
  have houter {v : Value} {s : ObjectRef} (hreach : h.Reaches v s) :
      s = ⟨2⟩ → v = .object ⟨2⟩ := by
    induction hreach with
    | here s => rintro rfl; rfl
    | @inside r _ c w cell mem _ ih =>
      intro hs
      rw [ih hs] at mem
      exact absurd mem (hnowhere c (Array.mem_of_getElem? cell))
  refine ⟨unheld, fun heq => ?_, ?_⟩
  · exact (object_display_eq_iff_acyclic h unheld ⟨0⟩ first rfl).mp heq
      ⟨_, List.mem_singleton_self _, hring⟩
  · refine (object_display_eq_iff_acyclic h unheld ⟨2⟩ outer rfl).mpr ?_
    rintro ⟨v, mem, hreach⟩
    cases houter hreach rfl
    cases List.mem_singleton.mp mem

end ScriptHost
