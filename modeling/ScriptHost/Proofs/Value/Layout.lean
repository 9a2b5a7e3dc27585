import Mathlib.Data.Finset.Card
import Mathlib.Data.Finset.Range
import ScriptHost.Value.Basic

/-!
# Layouts: what a value unfolds to

Following references from a value through the heap gives a tree. Where objects contain themselves
the tree would have no end, so an object is not entered again below itself, nor is it entered
while someone holds it for a change. What is left of the tree is the layout of the value: finite,
and determined by the heap and the value.

- `Layout`, `Layout.text`: a tree, and its text.
- `Unfolds`: a value unfolds to a layout, below the objects of a path.
- `Layout.Occurs`: a tree stands in another one, below the objects of a path.
- `unfolds_unique`, `exists_unfolds`: every value has exactly one layout.
- `elided_iff_of_occurs`: an object is left out in one place of a layout exactly if it lies on the
  path to that place or is held for a change. What was met elsewhere in the tree plays no part.
- `Unfolds.withoutReaders`: objects held by readers unfold as free ones do.
- `Heap.offPath`: how many objects of the heap lie off a path. A path gets longer by an object
  that is off it, so this number bounds how deep a layout is.
-/

namespace ScriptHost

/-! ## Layouts -/

/-- What there is to write for a value. -/
inductive Layout where
  /-- A value that is no object. -/
  | leaf (text : String)
  /-- An object that is not entered. -/
  | elided (r : ObjectRef)
  /-- An object in full: its pairs in the order of addition. -/
  | full (r : ObjectRef) (pairs : List (String × Layout))

namespace Layout

/-- The object that a layout is of, if it is of an object. -/
def object? : Layout → Option ObjectRef
  | leaf _ => none
  | elided r | full r _ => some r

mutual

/-- The text of a layout. -/
def text : Layout → String
  | leaf s => s
  | elided _ => "\x7b...\x7d"
  | full _ [] => "\x7b\x7d"
  | full _ (p :: ps) => "\x7b " ++ ", ".intercalate (pairTexts (p :: ps)) ++ " \x7d"

/-- The texts of pairs. -/
def pairTexts : List (String × Layout) → List String
  | [] => []
  | (k, t) :: ps => (k ++ ": " ++ text t) :: pairTexts ps

end

/-- `t.Occurs path u` says that `u` stands somewhere in `t`, and that the objects of `path` are
those on the way from the top of `t` to that place, the innermost first. -/
inductive Occurs : Layout → List ObjectRef → Layout → Prop
  | top (t : Layout) : Occurs t [] t
  | inside {r : ObjectRef} {pairs : List (String × Layout)} {k : String} {t u : Layout}
      {path : List ObjectRef} (mem : (k, t) ∈ pairs) (occurs : Occurs t path u) :
      Occurs (full r pairs) (path ++ [r]) u

end Layout

/-! ## Unfolding -/

/-- The text of a value that is no object. -/
def Value.leafText? : Value → Option String
  | .scalar s => some s.display
  | .object _ => none
  | .function _ => some "<native fn>"
  | .foreign _ => some "<opaque>"

namespace Heap

/-- Someone holds the object for a change. A reference that leads nowhere counts as well. -/
def HeldForChange (h : Heap) (r : ObjectRef) : Prop :=
  ∀ c, h.cells[r.index]? = some c → c.borrow = .exclusive

/-- The heap when nobody reads any more. -/
def withoutReaders (h : Heap) : Heap :=
  ⟨h.cells.map fun c => { c with borrow := if c.borrow = .shared then .free else c.borrow }⟩

theorem heldForChange_iff_read? {h : Heap} {r : ObjectRef} :
    h.HeldForChange r ↔ h.read? r = none := by
  unfold HeldForChange read?
  cases h.cells[r.index]? with
  | none => simp
  | some c => rcases c with ⟨o, _ | _ | _⟩ <;> simp

theorem read?_eq_some_iff {h : Heap} {r : ObjectRef} {o : Object} :
    h.read? r = some o ↔
      ∃ c, h.cells[r.index]? = some c ∧ c.borrow ≠ .exclusive ∧ c.object = o := by
  unfold read?
  cases h.cells[r.index]? with
  | none => simp
  | some c => rcases c with ⟨o, _ | _ | _⟩ <;> simp

@[simp] theorem read?_withoutReaders (h : Heap) (r : ObjectRef) :
    h.withoutReaders.read? r = h.read? r := by
  simp only [read?, withoutReaders, Array.getElem?_map]
  cases h.cells[r.index]? with
  | none => rfl
  | some c => rcases c with ⟨o, _ | _ | _⟩ <;> rfl

theorem lt_size_of_read? {h : Heap} {r : ObjectRef} {o : Object} (hr : h.read? r = some o) :
    r.index < h.size := by
  obtain ⟨c, hc, -⟩ := read?_eq_some_iff.mp hr
  exact (Array.getElem?_eq_some_iff.mp hc).1

end Heap

mutual

/-- `Unfolds h path v t` says that the value `v` unfolds to `t` below the objects of `path`. An
object that lies on the path or is held for a change is elided, and every other one is there in
full. -/
inductive Unfolds (h : Heap) : List ObjectRef → Value → Layout → Prop
  | leaf {path : List ObjectRef} {v : Value} {s : String} (text : v.leafText? = some s) :
      Unfolds h path v (.leaf s)
  | elided {path : List ObjectRef} {r : ObjectRef} (hr : r ∈ path ∨ h.HeldForChange r) :
      Unfolds h path (.object r) (.elided r)
  | full {path : List ObjectRef} {r : ObjectRef} {c : Cell} {pairs : List (String × Layout)}
      (hr : r ∉ path) (cell : h.cells[r.index]? = some c) (open_ : c.borrow ≠ .exclusive)
      (inner : UnfoldsPairs h (r :: path) c.object.toPairs pairs) :
      Unfolds h path (.object r) (.full r pairs)

/-- The same for the values of pairs, key by key. -/
inductive UnfoldsPairs (h : Heap) :
    List ObjectRef → List (String × Value) → List (String × Layout) → Prop
  | nil {path : List ObjectRef} : UnfoldsPairs h path [] []
  | cons {path : List ObjectRef} {k : String} {v : Value} {t : Layout}
      {ps : List (String × Value)} {ts : List (String × Layout)}
      (head : Unfolds h path v t) (tail : UnfoldsPairs h path ps ts) :
      UnfoldsPairs h path ((k, v) :: ps) ((k, t) :: ts)

end

mutual

/-- A value has no more than one layout. -/
theorem unfolds_unique {h : Heap} {path : List ObjectRef} {v : Value} {t u : Layout} :
    Unfolds h path v t → Unfolds h path v u → t = u
  | .leaf ht, .leaf hu => by
    cases ht.symm.trans hu
    rfl
  | .leaf ht, .elided _ => nomatch ht
  | .leaf ht, .full .. => nomatch ht
  | .elided _, .leaf hu => nomatch hu
  | .elided _, .elided _ => rfl
  | .elided ht, .full hr cell hc _ => (ht.elim hr fun held => hc (held _ cell)).elim
  | .full .., .leaf hu => nomatch hu
  | .full hr cell hc _, .elided hu => (hu.elim hr fun held => hc (held _ cell)).elim
  | .full _ cell _ hts, .full _ cell' _ hus => by
    cases cell.symm.trans cell'
    rw [unfoldsPairs_unique hts hus]

theorem unfoldsPairs_unique {h : Heap} {path : List ObjectRef} {ps : List (String × Value)}
    {ts us : List (String × Layout)} :
    UnfoldsPairs h path ps ts → UnfoldsPairs h path ps us → ts = us
  | .nil, .nil => rfl
  | .cons ht hts, .cons hu hus => by
    rw [unfolds_unique ht hu, unfoldsPairs_unique hts hus]

end

/-! ## Every value has a layout -/

namespace Heap

/-- How many objects of the heap lie off the path. -/
def offPath (h : Heap) (path : List ObjectRef) : Nat :=
  ((Finset.range h.size).filter fun i => ObjectRef.mk i ∉ path).card

theorem offPath_le_size (h : Heap) (path : List ObjectRef) : h.offPath path ≤ h.size :=
  (Finset.card_filter_le _ _).trans_eq (Finset.card_range _)

/-- Entering an object that lies off the path leaves fewer to enter. -/
theorem offPath_cons_lt {h : Heap} {path : List ObjectRef} {r : ObjectRef}
    (hsize : r.index < h.size) (hr : r ∉ path) : h.offPath (r :: path) < h.offPath path := by
  refine Finset.card_lt_card (Finset.ssubset_iff_of_subset ?_ |>.mpr ⟨r.index, ?_, ?_⟩)
  · intro i hi
    obtain ⟨hi, hpath⟩ := Finset.mem_filter.mp hi
    exact Finset.mem_filter.mpr ⟨hi, fun hmem => hpath (List.mem_cons_of_mem _ hmem)⟩
  · exact Finset.mem_filter.mpr ⟨Finset.mem_range.mpr hsize, hr⟩
  · intro hmem
    exact (Finset.mem_filter.mp hmem).2 (List.mem_cons_self ..)

end Heap

theorem exists_unfoldsPairs {h : Heap} {path : List ObjectRef}
    (each : ∀ v, ∃ t, Unfolds h path v t) (ps : List (String × Value)) :
    ∃ ts, UnfoldsPairs h path ps ts := by
  induction ps with
  | nil => exact ⟨[], .nil⟩
  | cons p ps ih =>
    obtain ⟨t, ht⟩ := each p.2
    obtain ⟨ts, hts⟩ := ih
    exact ⟨(p.1, t) :: ts, .cons ht hts⟩

/-- Every value has a layout below every path, by induction on the number of objects off it. -/
theorem exists_unfolds (h : Heap) (path : List ObjectRef) (v : Value) :
    ∃ t, Unfolds h path v t := by
  induction hn : h.offPath path using Nat.strongRecOn generalizing path v with
  | ind n ih =>
    cases v with
    | scalar s => exact ⟨_, .leaf rfl⟩
    | function f => exact ⟨_, .leaf rfl⟩
    | foreign x => exact ⟨_, .leaf rfl⟩
    | object r =>
      by_cases hr : r ∈ path
      · exact ⟨_, .elided (.inl hr)⟩
      · cases ho : h.read? r with
        | none => exact ⟨_, .elided (.inr (Heap.heldForChange_iff_read?.mpr ho))⟩
        | some o =>
          obtain ⟨c, cell, hc, -⟩ := Heap.read?_eq_some_iff.mp ho
          have hlt : h.offPath (r :: path) < n := by
            rw [← hn]
            exact Heap.offPath_cons_lt (Heap.lt_size_of_read? ho) hr
          obtain ⟨ts, hts⟩ := exists_unfoldsPairs (fun w => ih _ hlt (r :: path) w rfl)
            c.object.toPairs
          exact ⟨_, .full hr cell hc hts⟩

/-! ## Places in a layout -/

/-- Every layout among those of pairs is the layout of a value. -/
theorem UnfoldsPairs.exists_unfolds_of_mem {h : Heap} {path : List ObjectRef}
    {ps : List (String × Value)} {ts : List (String × Layout)} {k : String} {t : Layout}
    (hts : UnfoldsPairs h path ps ts) (mem : (k, t) ∈ ts) : ∃ v, Unfolds h path v t := by
  induction ts generalizing ps with
  | nil => cases mem
  | cons _ ts ih =>
    cases hts with
    | cons ht hts =>
      rcases List.mem_cons.mp mem with heq | mem
      · cases heq
        exact ⟨_, ht⟩
      · exact ih hts mem

/-- Whatever stands in the layout of a value is itself the layout of a value, below the path to
its place. -/
theorem Unfolds.exists_of_occurs {h : Heap} {above path : List ObjectRef} {v : Value}
    {t u : Layout} (ht : Unfolds h above v t) (occurs : t.Occurs path u) :
    ∃ w, Unfolds h (path ++ above) w u := by
  induction occurs generalizing above v with
  | top t => exact ⟨v, ht⟩
  | inside mem _ ih =>
    cases ht with
    | full _ _ _ inner =>
      obtain ⟨w, hw⟩ := inner.exists_unfolds_of_mem mem
      rw [List.append_assoc]
      exact ih hw

/-- The layout of an object leaves it out exactly if it lies on the path or is held for a
change. -/
theorem Unfolds.elided_iff {h : Heap} {path : List ObjectRef} {v : Value} {t : Layout}
    {r : ObjectRef} (ht : Unfolds h path v t) (hr : t.object? = some r) :
    t = .elided r ↔ r ∈ path ∨ h.HeldForChange r := by
  cases ht with
  | leaf _ => cases hr
  | elided hmem =>
    cases hr
    exact iff_of_true rfl hmem
  | full hpath cell hc _ =>
    cases hr
    exact iff_of_false nofun fun hmem => hmem.elim hpath fun held => hc (held _ cell)

theorem elided_iff_of_occurs {h : Heap} {v : Value} {t u : Layout} {path : List ObjectRef}
    {r : ObjectRef} (ht : Unfolds h [] v t) (occurs : t.Occurs path u)
    (hr : u.object? = some r) : u = .elided r ↔ r ∈ path ∨ h.HeldForChange r := by
  obtain ⟨w, hw⟩ := ht.exists_of_occurs occurs
  rw [List.append_nil] at hw
  exact hw.elided_iff hr

/-! ## Readers -/

mutual

/-- An object that is held by readers unfolds as a free one does. -/
theorem Unfolds.withoutReaders {h : Heap} {path : List ObjectRef} {v : Value} {t : Layout} :
    Unfolds h path v t → Unfolds h.withoutReaders path v t
  | .leaf ht => .leaf ht
  | .elided hr => by
    refine .elided (hr.imp_right fun held => ?_)
    rw [Heap.heldForChange_iff_read?] at held ⊢
    rw [Heap.read?_withoutReaders, held]
  | .full (c := c) (r := r) hr cell hc inner => by
    have hread : h.withoutReaders.read? r = some c.object := by
      rw [Heap.read?_withoutReaders]
      exact Heap.read?_eq_some_iff.mpr ⟨c, cell, hc, rfl⟩
    obtain ⟨c', cell', hc', hobject⟩ := Heap.read?_eq_some_iff.mp hread
    refine .full hr cell' hc' ?_
    rw [hobject]
    exact inner.withoutReaders

theorem UnfoldsPairs.withoutReaders {h : Heap} {path : List ObjectRef}
    {ps : List (String × Value)} {ts : List (String × Layout)} :
    UnfoldsPairs h path ps ts → UnfoldsPairs h.withoutReaders path ps ts
  | .nil => .nil
  | .cons ht hts => .cons ht.withoutReaders hts.withoutReaders

end

end ScriptHost
