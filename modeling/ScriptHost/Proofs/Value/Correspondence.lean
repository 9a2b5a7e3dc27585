import ScriptHost.Proofs.Record.Related
import ScriptHost.Proofs.Value.Display

/-!
# What a display depends on

References have no order and no number that a program could see: all that can be done with two of
them is to find out whether they are the same. So the display of a value depends on the shape of
what can be reached from it, and on nothing else in the heap. To say this, the references of one
heap are put in correspondence with those of another one.

- `Correspondence`: which references of one heap stand for which of another.
- `Value.Matches`, `Object.Matches`, `Cell.Matches`: values and objects that are the same but for
  the references in them, which correspond.
- `Heap.Matches`: corresponding references lead to objects that match, and no two to one.
- `Unfolds.of_matches`: values that match have layouts with the same pieces, below paths that
  correspond. `display_eq_of_matches` is the same for displays.
- `Heap.Reaches`: an object can be reached from a value.
- `display_depends_on_reachable_shape`: the display of a value and what it depends on.
-/

namespace ScriptHost

/-! ## Places in the heap -/

namespace Heap

variable (h : Heap) (o : Object) (r : ObjectRef) (i : Nat)

theorem cells_allocate :
    (h.allocate o).2.cells[i]? = if i = h.size then some ⟨o, .free⟩ else h.cells[i]? :=
  Array.getElem?_push

theorem cells_write :
    (h.write r o).cells[i]?
      = if r.index = i then (h.cells[i]?).map fun c => { c with object := o }
        else h.cells[i]? :=
  Array.getElem?_modify

theorem cells_hold (b : Borrow) :
    (h.hold r b).cells[i]?
      = if r.index = i then (h.cells[i]?).map fun c => { c with borrow := b }
        else h.cells[i]? :=
  Array.getElem?_modify

end Heap

/-! ## Correspondences -/

/-- Which references of one heap stand for which of another one. -/
structure Correspondence where
  objects : ObjectRef → ObjectRef → Prop
  functions : Native → Native → Prop
  foreigns : Foreign → Foreign → Prop

/-- Two values are the same, but for references, which correspond. -/
inductive Value.Matches (m : Correspondence) : Value → Value → Prop
  | scalar (s : Scalar) : Matches m (.scalar s) (.scalar s)
  | object {r r' : ObjectRef} (h : m.objects r r') : Matches m (.object r) (.object r')
  | function {f f' : Native} (h : m.functions f f') : Matches m (.function f) (.function f')
  | foreign {x x' : Foreign} (h : m.foreigns x x') : Matches m (.foreign x) (.foreign x')

/-- Two objects have the same keys, in the same order, and values that match. -/
abbrev Object.Matches (m : Correspondence) : Object → Object → Prop :=
  Record.Related (· = ·) (Value.Matches m)

/-- Two objects match and are held in the same way. -/
structure Cell.Matches (m : Correspondence) (c d : Cell) : Prop where
  object : Object.Matches m c.object d.object
  borrow : c.borrow = d.borrow

/-- Corresponding references lead to objects that match, or nowhere at all. Each stands for no
more than one. -/
structure Heap.Matches (m : Correspondence) (h k : Heap) : Prop where
  one_to_one : ∀ {r r' s s'}, m.objects r r' → m.objects s s' → (r = s ↔ r' = s')
  cells : ∀ {r r'}, m.objects r r' →
    Option.Rel (Cell.Matches m) h.cells[r.index]? k.cells[r'.index]?

section Matching

variable {m : Correspondence} {h k : Heap} {v w : Value}

theorem Value.Matches.typeName_eq (hv : v.Matches m w) : v.typeName = w.typeName := by
  cases hv <;> rfl

theorem Value.Matches.leafText?_eq (hv : v.Matches m w) : v.leafText? = w.leafText? := by
  cases hv <;> rfl

namespace Heap.Matches

variable {r r' : ObjectRef} {path path' : List ObjectRef}

theorem read? (hm : Heap.Matches m h k) (hr : m.objects r r') :
    Option.Rel (Object.Matches m) (h.read? r) (k.read? r') := by
  have hcells := hm.cells hr
  unfold Heap.read?
  generalize h.cells[r.index]? = c, k.cells[r'.index]? = d at hcells
  cases hcells with
  | none => exact .none
  | some hcd =>
    rename_i c d
    obtain ⟨o, b⟩ := c
    obtain ⟨p, b'⟩ := d
    obtain ⟨hop, hb⟩ := hcd
    -- both are held in the same way, so one can be read exactly if the other can
    dsimp only at hb
    subst hb
    cases b with
    | exclusive => exact .none
    | free => exact .some hop
    | shared => exact .some hop

theorem heldForChange (hm : Heap.Matches m h k) (hr : m.objects r r')
    (held : h.HeldForChange r) : k.HeldForChange r' := by
  have hread := hm.read? hr
  rw [Heap.heldForChange_iff_read?] at held ⊢
  rw [held] at hread
  generalize k.read? r' = o at hread
  cases hread
  rfl

/-- A reference lies on a path exactly if the one that it stands for lies on the path that
corresponds. -/
theorem mem_path_iff (hm : Heap.Matches m h k) (hpath : List.Forall₂ m.objects path path')
    (hr : m.objects r r') : r ∈ path ↔ r' ∈ path' := by
  induction hpath with
  | nil => exact iff_of_false List.not_mem_nil List.not_mem_nil
  | cons hs _ ih => rw [List.mem_cons, List.mem_cons, hm.one_to_one hr hs, ih]

end Heap.Matches

/-! ## Layouts -/

mutual

/-- Values that match unfold to layouts with the same pieces, below paths that correspond. By
recursion along the unfolding: entering an object puts it on both paths. -/
theorem Unfolds.of_matches (hm : Heap.Matches m h k) {path path' : List ObjectRef} {v w : Value}
    {t : Layout} : Unfolds h path v t → List.Forall₂ m.objects path path' → v.Matches m w →
      ∃ u, Unfolds k path' w u ∧ u.pieces = t.pieces
  | .leaf hs, _, hv => ⟨_, .leaf (hv.leafText?_eq.symm.trans hs), rfl⟩
  | .elided hr, hpath, .object ho =>
    ⟨_, .elided (hr.imp (hm.mem_path_iff hpath ho).mp (hm.heldForChange ho)), rfl⟩
  | .full (r := r) (c := c) hr cell hc inner, hpath, @Value.Matches.object _ _ r' ho => by
    have hread := hm.read? ho
    rw [Heap.read?_eq_some_iff.mpr ⟨c, cell, hc, rfl⟩] at hread
    cases hp : k.read? r' with
    | none =>
      rw [hp] at hread
      cases hread
    | some p =>
      rw [hp] at hread
      cases hread with
      | some hop =>
        obtain ⟨d, cell', hd, rfl⟩ := Heap.read?_eq_some_iff.mp hp
        obtain ⟨us, hus, -, hfull⟩ := inner.of_matches hm (.cons ho hpath) hop.toPairs
        exact ⟨_, .full (fun hmem => hr ((hm.mem_path_iff hpath ho).mpr hmem)) cell' hd hus,
          hfull r' r⟩

theorem UnfoldsPairs.of_matches (hm : Heap.Matches m h k) {path path' : List ObjectRef}
    {ps qs : List (String × Value)} {ts : List (String × Layout)} :
    UnfoldsPairs h path ps ts → List.Forall₂ m.objects path path' →
      List.Forall₂ (fun p q => p.1 = q.1 ∧ p.2.Matches m q.2) ps qs →
        ∃ us, UnfoldsPairs k path' qs us ∧ Layout.restPieces us = Layout.restPieces ts ∧
          ∀ r s, (Layout.full r us).pieces = (Layout.full s ts).pieces
  | .nil, _, .nil => ⟨[], .nil, rfl, fun _ _ => rfl⟩
  | .cons (k := key) ht hts, hpath, .cons (b := (key', _)) ⟨hkey, hv⟩ hps => by
    obtain rfl : key = key' := hkey
    obtain ⟨u, hu, hpieces⟩ := ht.of_matches hm hpath hv
    obtain ⟨us, hus, hrest, -⟩ := hts.of_matches hm hpath hps
    refine ⟨(key, u) :: us, .cons hu hus, ?_, fun r s => ?_⟩
    · rw [Layout.restPieces, Layout.restPieces, hpieces, hrest]
    · rw [Layout.pieces, Layout.pieces, hpieces, hrest]

end

/-- Values that match have the same display. -/
theorem display_eq_of_matches (hm : Heap.Matches m h k) (hv : v.Matches m w) :
    v.display h = w.display k := by
  obtain ⟨t, ht⟩ := exists_unfolds h [] v
  obtain ⟨u, hu, hpieces⟩ := ht.of_matches hm .nil hv
  rw [display_eq_text_of_unfolds ht, display_eq_text_of_unfolds hu, ← t.join_pieces,
    ← u.join_pieces, hpieces]

/-- So do objects that match, when they are written on their own. -/
theorem object_display_eq_of_matches (hm : Heap.Matches m h k) {o p : Object}
    (hop : Object.Matches m o p) : o.display h = p.display k := by
  obtain ⟨ts, hts⟩ := exists_unfoldsPairs (exists_unfolds h []) o.toPairs
  obtain ⟨us, hus, -, hfull⟩ := hts.of_matches hm .nil hop.toPairs
  have hwrites := Writer.object_writes (σ := String) Writer.value_writes hts ⟨0⟩
  have hwrites' := Writer.object_writes (σ := String) Writer.value_writes hus ⟨0⟩
  rw [Object.display, Object.display, Writer.text_of_writes hwrites,
    Writer.text_of_writes hwrites', hfull ⟨0⟩ ⟨0⟩]

end Matching

/-! ## What can be reached -/

/-- An object can be reached from a value: it is the object that the value refers to, or it can be
reached from a value in that object, however the object is held. -/
inductive Heap.Reaches (h : Heap) : Value → ObjectRef → Prop
  | here (r : ObjectRef) : Reaches h (.object r) r
  | inside {r s : ObjectRef} {c : Cell} {v : Value} (cell : h.cells[r.index]? = some c)
      (mem : v ∈ c.object.values) (reaches : Reaches h v s) : Reaches h (.object r) s

theorem Heap.Reaches.trans {h : Heap} {v w : Value} {r s : ObjectRef} {c : Cell}
    (hr : h.Reaches v r) (cell : h.cells[r.index]? = some c) (mem : w ∈ c.object.values)
    (hs : h.Reaches w s) : h.Reaches v s := by
  induction hr with
  | here r => exact .inside cell mem hs
  | inside cell' mem' _ ih => exact .inside cell' mem' (ih cell)

namespace Correspondence

/-- References to objects are renamed. Functions and foreign values may stand for any others. -/
def renamed (ρ : ObjectRef → ObjectRef) : Correspondence where
  objects r r' := r' = ρ r
  functions _ _ := True
  foreigns _ _ := True

/-- The same for the objects that can be reached from a value, and for no others. -/
def renamedFrom (h : Heap) (v : Value) (ρ : ObjectRef → ObjectRef) : Correspondence where
  objects r r' := h.Reaches v r ∧ r' = ρ r
  functions _ _ := True
  foreigns _ _ := True

end Correspondence

open Correspondence

variable {h h' : Heap} {v w w' : Value} {ρ : ObjectRef → ObjectRef}

theorem Value.Matches.of_renamed (hw : w.Matches (renamed ρ) w')
    (hreach : ∀ r, h.Reaches w r → h.Reaches v r) : w.Matches (renamedFrom h v ρ) w' := by
  cases hw with
  | scalar s => exact .scalar s
  | object hr => exact .object ⟨hreach _ (.here _), hr⟩
  | function _ => exact .function trivial
  | foreign _ => exact .foreign trivial

/-- A renaming under which all that can be reached matches is a correspondence of the heaps, as
far as they can be reached. -/
theorem Heap.Matches.of_renamed
    (one_to_one : ∀ r s, h.Reaches v r → h.Reaches v s → ρ r = ρ s → r = s)
    (cells : ∀ r, h.Reaches v r →
      Option.Rel (Cell.Matches (renamed ρ)) h.cells[r.index]? h'.cells[(ρ r).index]?) :
    Heap.Matches (renamedFrom h v ρ) h h' where
  one_to_one := by
    rintro r _ s _ ⟨hr, rfl⟩ ⟨hs, rfl⟩
    exact ⟨congrArg ρ, one_to_one r s hr hs⟩
  cells := by
    rintro r _ ⟨hr, rfl⟩
    have hcells := cells r hr
    cases hc : h.cells[r.index]? with
    | none =>
      rw [hc] at hcells
      generalize h'.cells[(ρ r).index]? = d at hcells ⊢
      cases hcells
      exact .none
    | some c =>
      rw [hc] at hcells
      generalize h'.cells[(ρ r).index]? = d at hcells ⊢
      cases hcells with
      | some hcd =>
        refine .some ⟨⟨hcd.object.keys, ?_⟩, hcd.borrow⟩
        -- what a value in the object reaches, the object reaches
        refine List.forall₂_iff_zip.mpr ⟨hcd.object.values.length_eq, ?_⟩
        intro w w' hmem
        have hw := List.forall₂_zip hcd.object.values hmem
        exact hw.of_renamed fun s hs => hr.trans hc (List.of_mem_zip hmem).1 hs

/-- Two heaps in which the same can be reached from a value display it alike. -/
theorem display_eq_of_cells_eq
    (same : ∀ r, h.Reaches v r → h'.cells[r.index]? = h.cells[r.index]?) :
    v.display h' = v.display h := by
  have hself (w : Value) : w.Matches (renamed id) w := by
    cases w with
    | scalar s => exact .scalar s
    | object r => exact .object rfl
    | function f => exact .function trivial
    | foreign x => exact .foreign trivial
  have hm : Heap.Matches (renamedFrom h v id) h h' := by
    refine .of_renamed (fun _ _ _ _ heq => heq) fun r hr => ?_
    show Option.Rel _ h.cells[r.index]? h'.cells[r.index]?
    rw [same r hr]
    cases h.cells[r.index]? with
    | none => exact .none
    | some c =>
      exact .some ⟨⟨List.forall₂_same.mpr fun _ _ => rfl,
        List.forall₂_same.mpr fun w _ => hself w⟩, rfl⟩
  exact (display_eq_of_matches hm ((hself v).of_renamed fun _ hr => hr)).symm

/-- **A display depends on the shape of what can be reached.**
1. If the objects that can be reached from a value can be renamed, no two to the same name, to
   objects of another heap that have the same keys, corresponding values, and are held in the
   same way, the value and the one that corresponds to it display alike.
2. Nothing that happens to other objects changes a display,
3. whether they are made, changed or held.
4. References that are equal display alike. -/
theorem display_depends_on_reachable_shape :
    (∀ (h h' : Heap) (v v' : Value) (ρ : ObjectRef → ObjectRef),
      (∀ r s, h.Reaches v r → h.Reaches v s → ρ r = ρ s → r = s) →
      v.Matches (renamed ρ) v' →
      (∀ r, h.Reaches v r →
        Option.Rel (Cell.Matches (renamed ρ)) h.cells[r.index]? h'.cells[(ρ r).index]?) →
      v.display h = v'.display h') ∧
    (∀ (h h' : Heap) (v : Value),
      (∀ r, h.Reaches v r → h'.cells[r.index]? = h.cells[r.index]?) →
      v.display h' = v.display h) ∧
    (∀ (h : Heap) (v : Value) (o : Object),
      (¬h.Reaches v ⟨h.size⟩ → v.display (h.allocate o).2 = v.display h) ∧
      ∀ r, ¬h.Reaches v r →
        v.display (h.write r o) = v.display h ∧ ∀ b, v.display (h.hold r b) = v.display h) ∧
    (∀ (h : Heap) (v w : Value), (v == w) = true → (∀ s, v ≠ .scalar s) →
      v.display h = w.display h) := by
  have hindex {r s : ObjectRef} (hne : r ≠ s) : r.index ≠ s.index := fun heq =>
    hne (congrArg ObjectRef.mk heq)
  refine ⟨?shape, fun h h' v => display_eq_of_cells_eq, ?others, ?aliases⟩
  case shape =>
    intro h h' v v' ρ one_to_one hv cells
    exact display_eq_of_matches (.of_renamed one_to_one cells) (hv.of_renamed fun _ hr => hr)
  case others =>
    intro h v o
    refine ⟨fun hnew => display_eq_of_cells_eq fun s hs => ?_, fun r hr => ⟨?_, fun b => ?_⟩⟩
    · have hne : s ≠ ⟨h.size⟩ := fun heq => hnew (heq ▸ hs)
      rw [Heap.cells_allocate, if_neg (hindex hne)]
    · refine display_eq_of_cells_eq fun s hs => ?_
      have hne : r ≠ s := fun heq => hr (heq ▸ hs)
      rw [Heap.cells_write, if_neg (hindex hne)]
    · refine display_eq_of_cells_eq fun s hs => ?_
      have hne : r ≠ s := fun heq => hr (heq ▸ hs)
      rw [Heap.cells_hold, if_neg (hindex hne)]
  case aliases =>
    intro h v w hvw href
    have hleaf {u : Value} {s : String} (hu : u.leafText? = some s) : u.display h = s :=
      display_eq_text_of_unfolds (.leaf hu)
    cases v with
    | scalar s => exact absurd rfl (href s)
    | object r =>
      cases w with
      | object s => rw [show r = s from beq_iff_eq.mp hvw]
      | _ => cases hvw
    | function f =>
      cases w with
      | function g => exact (hleaf rfl).trans (hleaf rfl).symm
      | _ => cases hvw
    | foreign x =>
      cases w with
      | foreign y => exact (hleaf rfl).trans (hleaf rfl).symm
      | _ => cases hvw

/-- Two objects that contain each other, one of which someone reads, and the same two behind an
object that has nothing to do with them. -/
theorem display_depends_on_reachable_shape_ring :
    let first (inner : ObjectRef) : Cell := ⟨⟨["a"], [.object inner], rfl⟩, .free⟩
    let second (inner : ObjectRef) : Cell := ⟨⟨["b"], [.object inner], rfl⟩, .shared⟩
    let h : Heap := ⟨#[first ⟨1⟩, second ⟨0⟩]⟩
    let h' : Heap := ⟨#[⟨.empty, .free⟩, first ⟨2⟩, second ⟨1⟩]⟩
    (Value.object ⟨0⟩).display h = (Value.object ⟨1⟩).display h' ∧
      (Value.object ⟨1⟩).display (h'.write ⟨0⟩ ⟨["c"], [.object ⟨1⟩], rfl⟩)
        = (Value.object ⟨1⟩).display h' := by
  intro first second h h'
  obtain ⟨hshape, -, hothers, -⟩ := display_depends_on_reachable_shape
  refine ⟨?shape, ?other⟩
  case shape =>
    refine hshape h h' (.object ⟨0⟩) (.object ⟨1⟩) (fun r => ⟨r.index + 1⟩) ?_ (.object rfl) ?_
    · rintro ⟨i⟩ ⟨j⟩ - - heq
      rw [ObjectRef.mk.injEq] at heq ⊢
      exact Nat.succ.inj heq
    · -- whether or not they can be reached, the objects match the ones in the next place
      rintro ⟨i⟩ -
      match i with
      | 0 => exact .some ⟨⟨.cons rfl .nil, .cons (.object rfl) .nil⟩, rfl⟩
      | 1 => exact .some ⟨⟨.cons rfl .nil, .cons (.object rfl) .nil⟩, rfl⟩
      | _ + 2 => exact .none
  case other =>
    -- from the ring there is no way to the place before it
    have hring {v : Value} {r : ObjectRef} (hr : h'.Reaches v r) :
        v = .object ⟨1⟩ ∨ v = .object ⟨2⟩ → r ≠ ⟨0⟩ := by
      induction hr with
      | here r =>
        rintro (heq | heq) <;>
        · cases heq
          exact fun hzero => nomatch hzero
      | inside cell mem _ ih =>
        rintro (heq | heq)
        · cases heq
          cases cell
          exact ih (.inr (List.mem_singleton.mp mem))
        · cases heq
          cases cell
          exact ih (.inl (List.mem_singleton.mp mem))
    exact ((hothers h' (.object ⟨1⟩) ⟨["c"], [.object ⟨1⟩], rfl⟩).2 ⟨0⟩
      fun hr => hring hr (.inl rfl) rfl).1

end ScriptHost
