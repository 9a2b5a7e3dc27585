import ScriptHost.Proofs.Script.Chain
import ScriptHost.Proofs.Value.Correspondence

/-!
# Sessions side by side

Two programs that do nearly the same can be run side by side. Their sessions need not be equal: one
of them may have made things that the other one never made, so that the same object has another
place and the same function another identity; and functions may differ in what they claim about
themselves. A pairing says which objects and identities of one session stand for which of the
other. Everything that a session holds is compared along it.

- `Pairing`: which places and identities belong together, one to one. `Pairing.upTo` keeps those
  that are in use.
- `Native.Pairs`, `Handler.Pairs`: functions that do the same with paired objects and functions.
- `Outline.Agree`: inspections that differ at most in what functions claim.
- `Heap.Matches.modify`, `Heap.Matches.allocate`: heaps go on to match.
- `Session.Matches`: two sessions in which all that is in use matches. `Session.Matches.allocate`,
  `Session.Matches.bind`, ... are what a session does to itself.
-/

namespace ScriptHost

/-! ## Pairings -/

/-- Which places and which identities of one session stand for which of another one. Each stands
for no more than one. -/
structure Pairing where
  objects : ObjectRef → ObjectRef → Prop
  ids : Nat → Nat → Prop
  /-- Whether functions that are paired make the same claims. -/
  exact : Prop
  objects_iff : ∀ {r r' s s'}, objects r r' → objects s s' → (r = s ↔ r' = s')
  ids_iff : ∀ {i i' j j'}, ids i i' → ids j j' → (i = j ↔ i' = j')

namespace Pairing

/-- Every object and every identity stands for itself. -/
def same (exact : Prop) : Pairing where
  objects r r' := r = r'
  ids i i' := i = i'
  exact := exact
  objects_iff := by
    rintro r _ s _ rfl rfl
    rfl
  ids_iff := by
    rintro i _ j _ rfl rfl
    rfl

/-- The pairing of what is in use, if the first session has so many objects and identities. -/
def upTo (p : Pairing) (w : Nat × Nat) : Pairing where
  objects r r' := r.index < w.1 ∧ p.objects r r'
  ids i i' := i < w.2 ∧ p.ids i i'
  exact := p.exact
  objects_iff hr hs := p.objects_iff hr.2 hs.2
  ids_iff hi hj := p.ids_iff hi.2 hj.2

/-- One pairing pairs whatever another one does. -/
instance : LE Pairing where
  le p q := (∀ r r', p.objects r r' → q.objects r r') ∧ (∀ i i', p.ids i i' → q.ids i i') ∧
    (q.exact → p.exact)

theorem upTo_le (p : Pairing) (w : Nat × Nat) : p.upTo w ≤ p :=
  ⟨fun _ _ h => h.2, fun _ _ h => h.2, id⟩

theorem upTo_mono (p : Pairing) {w w' : Nat × Nat} (h : w ≤ w') : p.upTo w ≤ p.upTo w' :=
  ⟨fun _ _ hr => ⟨Nat.lt_of_lt_of_le hr.1 h.1, hr.2⟩,
    fun _ _ hi => ⟨Nat.lt_of_lt_of_le hi.1 h.2, hi.2⟩, id⟩

end Pairing

/-! ## Functions -/

mutual

/-- Two functions are paired: they have the same label and handlers for the same shapes, and these
are paired. -/
inductive Native.Pairs (p : Pairing) : Native → Native → Prop
  | mk {f g : Native} (id : p.ids f.id g.id) (label : f.label = g.label)
      (handles : ∀ s, f.handles s = g.handles s)
      (handlers : ∀ s, Handler.Pairs p (f.handlerFor s) (g.handlerFor s))
      (claims : p.exact → f.claims = g.claims) : Native.Pairs p f g

/-- Two handlers do the same, with functions and objects that are paired. -/
inductive Handler.Pairs (p : Pairing) : Handler Native → Handler Native → Prop
  | succeed : Handler.Pairs p .succeed .succeed
  | fail (e : Fault) : Handler.Pairs p (.fail e) (.fail e)
  | forward {f g : Native} (h : Native.Pairs p f g) : Handler.Pairs p (.forward f) (.forward g)
  | print (stream : Stream) : Handler.Pairs p (.print stream) (.print stream)
  | store {r r' : ObjectRef} (key : String) (h : p.objects r r') :
      Handler.Pairs p (.store r key) (.store r' key)

end

namespace Native.Pairs

variable {p : Pairing} {f g : Native}

theorem id (h : Native.Pairs p f g) : p.ids f.id g.id := by
  cases h with
  | mk id => exact id

theorem handles_eq (h : Native.Pairs p f g) (s : Shape) : f.handles s = g.handles s := by
  cases h with
  | mk _ _ handles => exact handles s

theorem claims_eq (h : Native.Pairs p f g) (exact : p.exact) : f.claims = g.claims := by
  cases h with
  | mk _ _ _ _ claims => exact claims exact

/-- Functions with handlers that are paired. -/
theorem of_handlers {i j : Nat} {label : String} {generic generic' : Handler Native}
    {text text' numeric numeric' : Option (Handler Native)} {claims claims' : Shape → Bool}
    (id : p.ids i j) (hgeneric : Handler.Pairs p generic generic')
    (htext : Option.Rel (Handler.Pairs p) text text')
    (hnumeric : Option.Rel (Handler.Pairs p) numeric numeric')
    (hclaims : p.exact → claims = claims') :
    Native.Pairs p (.mk i label generic text numeric claims)
      (.mk j label generic' text' numeric' claims') := by
  refine .mk id rfl (fun s => ?_) (fun s => ?_) hclaims
  · cases s with
    | generic => rfl
    | text => cases htext <;> rfl
    | numeric => cases hnumeric <;> rfl
  · -- a shape without a handler of its own has none on either side
    cases s with
    | generic => cases htext <;> cases hnumeric <;> exact hgeneric
    | text =>
      cases htext with
      | none => cases hnumeric <;> exact hgeneric
      | some h => cases hnumeric <;> exact h
    | numeric =>
      cases hnumeric with
      | none => cases htext <;> exact hgeneric
      | some h => cases htext <;> exact h

end Native.Pairs

mutual

theorem Native.Pairs.mono {p q : Pairing} (hpq : p ≤ q) {f g : Native} :
    Native.Pairs p f g → Native.Pairs q f g
  | .mk id label handles handlers claims =>
    .mk (hpq.2.1 _ _ id) label handles (fun s => (handlers s).mono hpq) fun h => claims (hpq.2.2 h)

theorem Handler.Pairs.mono {p q : Pairing} (hpq : p ≤ q) {h k : Handler Native} :
    Handler.Pairs p h k → Handler.Pairs q h k
  | .succeed => .succeed
  | .fail e => .fail e
  | .forward hfg => .forward (hfg.mono hpq)
  | .print stream => .print stream
  | .store key hr => .store key (hpq.1 _ _ hr)

end

/-! ## Values -/

/-- A pairing as a correspondence of references. -/
def Pairing.correspondence (p : Pairing) : Correspondence where
  objects := p.objects
  functions := Native.Pairs p
  foreigns x y := p.ids x.id y.id ∧ x.content = y.content

variable {p q : Pairing} {v v' u u' : Value} {h k : Heap}

theorem Value.Matches.mono (hpq : p ≤ q) (hv : v.Matches p.correspondence v') :
    v.Matches q.correspondence v' := by
  cases hv with
  | scalar s => exact .scalar s
  | object hr => exact .object (hpq.1 _ _ hr)
  | function hf => exact .function (Native.Pairs.mono hpq hf)
  | foreign hx => exact .foreign ⟨hpq.2.1 _ _ hx.1, hx.2⟩

/-- Values that match are told from others in the same way. -/
theorem Value.Matches.beq_eq (hv : v.Matches p.correspondence v')
    (hu : u.Matches p.correspondence u') : (v == u) = (v' == u') := by
  cases hv with
  | scalar s => cases hu <;> rfl
  | object hr =>
    cases hu with
    | object hs =>
      have hrefs := p.objects_iff hr hs
      exact (beq_eq_beq (α := ObjectRef) (β := ObjectRef)).mpr hrefs
    | _ => rfl
  | function hf =>
    cases hu with
    | function hg =>
      have hids := p.ids_iff hf.id hg.id
      exact (beq_eq_beq (α := Nat) (β := Nat)).mpr hids
    | _ => rfl
  | foreign hx =>
    cases hu with
    | foreign hy =>
      have hids := p.ids_iff hx.1 hy.1
      exact (beq_eq_beq (α := Nat) (β := Nat)).mpr hids
    | _ => rfl

theorem values_beq_eq {vs vs' us us' : List Value}
    (hvs : List.Forall₂ (Value.Matches p.correspondence) vs vs')
    (hus : List.Forall₂ (Value.Matches p.correspondence) us us') :
    (vs == us) = (vs' == us') := by
  induction hvs generalizing us us' with
  | nil => cases hus <;> rfl
  | cons hv _ ih =>
    cases hus with
    | nil => rfl
    | cons hu hus => rw [List.cons_beq_cons, List.cons_beq_cons, hv.beq_eq hu, ih hus]

namespace Object.Matches

variable {m : Correspondence} {o o' : Object}

theorem mono (hpq : p ≤ q) (ho : Object.Matches p.correspondence o o') :
    Object.Matches q.correspondence o o' :=
  Record.Related.imp ho fun _ _ hv => hv.mono hpq

theorem keys_eq (ho : Object.Matches m o o') : o.keys = o'.keys := by
  have hkeys := ho.keys
  rwa [List.forall₂_eq_eq_eq] at hkeys

theorem size_eq (ho : Object.Matches m o o') : o.size = o'.size := Record.Related.size_eq ho

theorem contains_eq (ho : Object.Matches m o o') (key : String) :
    o.contains key = o'.contains key :=
  Record.Related.contains ho fun _ _ h => h ▸ rfl

theorem get (ho : Object.Matches m o o') (key : String) :
    Parallel (Value.Matches m) (o.get key) (o'.get key) :=
  Record.Related.get ho fun _ _ h => h ▸ rfl

theorem set (ho : Object.Matches m o o') (key : String) (hv : v.Matches m v') :
    Parallel (Object.Matches m) (o.set key v) (o'.set key v') :=
  Record.Related.set ho (fun _ _ h => h ▸ rfl) hv

theorem add (ho : Object.Matches m o o') (key : String) (hv : v.Matches m v') :
    Object.Matches m (o.add key v) (o'.add key v') :=
  Record.Related.add ho rfl hv

theorem beq_eq {a a' b b' : Object} (ha : Object.Matches p.correspondence a a')
    (hb : Object.Matches p.correspondence b b') : (a == b) = (a' == b') := by
  show (a.keys == b.keys && a.values == b.values) = (a'.keys == b'.keys && a'.values == b'.values)
  rw [ha.keys_eq, hb.keys_eq, values_beq_eq ha.values hb.values]

end Object.Matches

/-- Two arguments have the same shape, and match. -/
inductive Arg.Matches (m : Correspondence) : Arg → Arg → Prop
  | generic {v w : Value} (h : v.Matches m w) : Matches m (.generic v) (.generic w)
  | text (s : String) : Matches m (.text s) (.text s)
  | numeric (x : Number) : Matches m (.numeric x) (.numeric x)

namespace Arg.Matches

variable {m : Correspondence} {a b : Arg}

theorem mono (hpq : p ≤ q) (hab : a.Matches p.correspondence b) :
    a.Matches q.correspondence b := by
  cases hab with
  | generic hv => exact .generic (hv.mono hpq)
  | text s => exact .text s
  | numeric x => exact .numeric x

theorem shape_eq (hab : a.Matches m b) : a.shape = b.shape := by
  cases hab <;> rfl

theorem boxed (hab : a.Matches m b) : a.boxed.Matches m b.boxed := by
  cases hab with
  | generic hv => exact hv
  | text s => exact .scalar _
  | numeric x => exact .scalar _

/-- Functions that are paired leave arguments alike. -/
theorem through {f g : Native} (hab : a.Matches m b) (hfg : Native.Pairs p f g) :
    (a.through [f]).Matches m (b.through [g]) := by
  rw [Arg.through_singleton, Arg.through_singleton, Native.select_snd, Native.select_snd,
    ← hab.shape_eq, ← hfg.handles_eq]
  by_cases hshape : f.handles a.shape = true
  · rw [if_pos hshape, Arg.inShape_shape, hab.shape_eq, Arg.inShape_shape]
    exact hab
  · rw [if_neg hshape]
    exact .generic hab.boxed

end Arg.Matches

/-! ## Inspections -/

namespace Text

/-- Two inspections differ at most in what functions claim. -/
inductive Outline.Agree (exact : Prop) : Outline → Outline → Prop
  | same (o : Outline) : Agree exact o o
  | claims (f g : Native) (h : exact → f.claims = g.claims) : Agree exact f.outline g.outline
  | labelled (label : String) {o o' : Outline} (h : Agree exact o o') :
      Agree exact (.labelled label o) (.labelled label o')
  | block (name : String) (bracket : Bracket) {os os' : List Outline}
      (length : os.length = os'.length) (h : ∀ o ∈ os.zip os', Agree exact o.1 o.2) :
      Agree exact (.block name bracket os) (.block name bracket os')

namespace Outline.Agree

variable {exact : Prop} {o o' : Outline}

/-- If functions make the same claims nothing differs. -/
theorem eq (h : o.Agree exact o') (hexact : exact) : o = o' := by
  induction h with
  | same o => rfl
  | claims f g hclaims => rw [Native.outline, Native.outline, hclaims hexact]
  | labelled label _ ih => rw [ih]
  | block name bracket length _ ih =>
    have hitems : List.Forall₂ (· = ·) _ _ :=
      List.forall₂_iff_zip.mpr ⟨length, fun hmem => ih _ hmem⟩
    rw [List.forall₂_eq_eq_eq] at hitems
    rw [hitems]

theorem items (name : String) (bracket : Bracket) {os os' : List Outline}
    (h : List.Forall₂ (Agree exact) os os') :
    (Outline.block name bracket os).Agree exact (.block name bracket os') :=
  .block name bracket h.length_eq fun _ hmem => List.forall₂_zip h hmem

end Outline.Agree

/-- Two texts are inspections, both on one line or both indented, that differ at most in what
functions claim. -/
inductive Inspections.Agree (exact : Prop) : String → String → Prop
  | compact {o o' : Outline} (h : o.Agree exact o') : Agree exact o.compact o'.compact
  | indented {o o' : Outline} (h : o.Agree exact o') : Agree exact o.indented o'.indented

theorem Inspections.Agree.eq {exact : Prop} {s s' : String} (h : Agree exact s s')
    (hexact : exact) : s = s' := by
  cases h with
  | compact ho => rw [ho.eq hexact]
  | indented ho => rw [ho.eq hexact]

end Text

section Outlines

open Text

variable {exact : Prop} (hexact : exact → p.exact) (hm : Heap.Matches p.correspondence h k)
include hexact hm

theorem Value.Matches.outline_agree (hv : v.Matches p.correspondence v') :
    (v.outline h).Agree exact (v'.outline k) := by
  cases hv with
  | scalar s => exact .same _
  | object hr =>
    rename_i r r'
    have hread := hm.read? hr
    simp only [Value.outline]
    generalize h.read? r = o, k.read? r' = o' at hread
    cases hread with
    | none => exact .same _
    | some ho =>
      simp only [Object.Matches.size_eq ho]
      exact .same _
  | function hf => exact .items _ _ (.cons (.claims _ _ fun h => hf.claims_eq (hexact h)) .nil)
  | foreign _ => exact .same _

theorem Object.Matches.outline_agree {o o' : Object} (ho : Object.Matches p.correspondence o o') :
    (o.outline h).Agree exact (o'.outline k) := by
  have hvalues : List.Forall₂ (Outline.Agree exact) (o.values.map (Value.outline h))
      (o'.values.map (Value.outline k)) :=
    List.forall₂_map_left_iff.mpr (List.forall₂_map_right_iff.mpr
      (ho.values.imp fun _ _ hv => hv.outline_agree hexact hm))
  refine .items _ _ (.cons (.labelled _ ?_) (.cons (.labelled _ ?_) .nil))
  · rw [ho.keys_eq]
    exact .same _
  · exact .items _ _ hvalues

theorem Arg.Matches.outline_agree {a b : Arg} (hab : a.Matches p.correspondence b) :
    (a.outline h).Agree exact (b.outline k) := by
  cases hab with
  | generic hv => exact .items _ _ (.cons (hv.outline_agree hexact hm) .nil)
  | text s => exact .same _
  | numeric x => exact .same _

end Outlines

/-! ## Heaps -/

namespace Heap.Matches

variable {m : Correspondence} {r r' : ObjectRef}

/-- What is done alike to two corresponding places leaves the heaps matching. -/
theorem modify (hm : Heap.Matches m h k) (hr : m.objects r r') {f g : Cell → Cell}
    (hfg : ∀ c d, Cell.Matches m c d → Cell.Matches m (f c) (g d)) :
    Heap.Matches m ⟨h.cells.modify r.index f⟩ ⟨k.cells.modify r'.index g⟩ where
  one_to_one := hm.one_to_one
  cells := by
    intro s s' hs
    have hcells := hm.cells hs
    rw [Array.getElem?_modify, Array.getElem?_modify]
    by_cases heq : r = s
    · have heq' : r' = s' := (hm.one_to_one hr hs).mp heq
      rw [if_pos (congrArg ObjectRef.index heq), if_pos (congrArg ObjectRef.index heq')]
      generalize h.cells[s.index]? = c, k.cells[s'.index]? = d at hcells
      cases hcells with
      | none => exact .none
      | some hcd => exact .some (hfg _ _ hcd)
    · have hne' : r' ≠ s' := fun heq' => heq ((hm.one_to_one hr hs).mpr heq')
      rw [if_neg fun hi => heq (congrArg ObjectRef.mk hi),
        if_neg fun hi => hne' (congrArg ObjectRef.mk hi)]
      exact hcells

theorem write (hm : Heap.Matches m h k) (hr : m.objects r r') {o o' : Object}
    (ho : Object.Matches m o o') : Heap.Matches m (h.write r o) (k.write r' o') :=
  hm.modify hr fun _ _ hcd => ⟨ho, hcd.borrow⟩

theorem hold (hm : Heap.Matches m h k) (hr : m.objects r r') (b : Borrow) :
    Heap.Matches m (h.hold r b) (k.hold r' b) :=
  hm.modify hr fun _ _ hcd => ⟨hcd.object, rfl⟩

end Heap.Matches

theorem cells_mono (hpq : p ≤ q) {c d : Option Cell}
    (hcd : Option.Rel (Cell.Matches p.correspondence) c d) :
    Option.Rel (Cell.Matches q.correspondence) c d := by
  cases hcd with
  | none => exact .none
  | some hcd => exact .some ⟨hcd.object.mono hpq, hcd.borrow⟩

/-- Objects that are made at the same time are paired, if the pairing has it so. -/
theorem Heap.Matches.allocate {o o' : Object} {n : Nat}
    (hm : Heap.Matches (p.upTo (h.size, n)).correspondence h k)
    (hnew : p.objects ⟨h.size⟩ ⟨k.size⟩)
    (ho : Object.Matches (p.upTo (h.size, n)).correspondence o o') :
    Heap.Matches (p.upTo (h.size + 1, n)).correspondence (h.allocate o).2 (k.allocate o').2 where
  one_to_one := (p.upTo (h.size + 1, n)).objects_iff
  cells := by
    have hmore : p.upTo (h.size, n) ≤ p.upTo (h.size + 1, n) :=
      p.upTo_mono ⟨Nat.le_succ _, Nat.le_refl _⟩
    rintro s s' ⟨hlt, hs⟩
    rw [cells_allocate, cells_allocate]
    by_cases heq : s = ⟨h.size⟩
    · have heq' : s' = ⟨k.size⟩ := (p.objects_iff hs hnew).mp heq
      rw [heq, heq', if_pos rfl, if_pos rfl]
      exact .some ⟨ho.mono hmore, rfl⟩
    · have hne' : s' ≠ ⟨k.size⟩ := fun heq' => heq ((p.objects_iff hs hnew).mpr heq')
      have hindex : s.index ≠ h.size := fun hi => heq (congrArg ObjectRef.mk hi)
      rw [if_neg hindex, if_neg fun hi => hne' (congrArg ObjectRef.mk hi)]
      exact cells_mono hmore (hm.cells ⟨Nat.lt_of_le_of_ne (Nat.lt_succ_iff.mp hlt) hindex, hs⟩)

namespace Script

/-! ## Sessions -/

/-- Two calls ran the same handler with arguments that match and were the same in brief. -/
structure Call.Matches (m : Correspondence) (c d : Call) : Prop where
  label : c.label = d.label
  arg : c.arg.Matches m d.arg
  brief : c.brief = d.brief

/-- Two sessions match: all that the first one has in use is paired, nothing is being written, and
what either makes next will be paired. `w` says how much the first one has in use. -/
structure Session.Matches (p : Pairing) (w : Nat × Nat) (s t : Session) : Prop where
  size_eq : s.heap.size = w.1
  nextId_eq : s.nextId = w.2
  heap : Heap.Matches (p.upTo w).correspondence s.heap t.heap
  bindings : List.Forall₂
    (fun b c => b.1 = c.1 ∧ b.2.Matches (p.upTo w).correspondence c.2) s.bindings t.bindings
  streams : s.streams = t.streams
  idle : s.active = [] ∧ t.active = []
  calls : List.Forall₂ (Call.Matches (p.upTo w).correspondence) s.calls t.calls
  reported : s.reported = t.reported
  freshObjects : ∀ i, p.objects ⟨w.1 + i⟩ ⟨t.heap.size + i⟩
  freshIds : ∀ i, p.ids (w.2 + i) (t.nextId + i)

namespace Session.Matches

variable {w : Nat × Nat} {s t : Session}

/-- Before the first step a session matches itself. -/
theorem start (streams : Streams) (exact : Prop) :
    Session.Matches (.same exact) (0, 0) (.start streams) (.start streams) where
  size_eq := rfl
  nextId_eq := rfl
  heap :=
    ⟨((Pairing.same exact).upTo (0, 0)).objects_iff, fun hr => absurd hr.1 (Nat.not_lt_zero _)⟩
  bindings := .nil
  streams := rfl
  idle := ⟨rfl, rfl⟩
  calls := .nil
  reported := rfl
  freshObjects _ := rfl
  freshIds _ := rfl

/-- A name stands for values that match, or for none. -/
theorem lookup? (hst : Session.Matches p w s t) (name : String) :
    Option.Rel (Value.Matches (p.upTo w).correspondence) (s.lookup? name) (t.lookup? name) := by
  have hbindings := hst.bindings
  unfold Session.lookup?
  generalize s.bindings = bs, t.bindings = cs at hbindings
  induction hbindings with
  | nil => exact .none
  | cons hbc _ ih =>
    rw [List.find?_cons, List.find?_cons, ← hbc.1]
    split
    · exact .some hbc.2
    · exact ih

theorem brief_eq (hst : Session.Matches p w s t) (hv : v.Matches (p.upTo w).correspondence v') :
    Brief.of s.heap v = Brief.of t.heap v' := by
  rw [Brief.of, Brief.of, hv.typeName_eq, display_eq_of_matches hst.heap hv]

theorem bind (hst : Session.Matches p w s t) (name : String)
    (hv : v.Matches (p.upTo w).correspondence v') :
    Session.Matches p w (s.bind name v) (t.bind name v') :=
  { hst with bindings := .cons ⟨rfl, hv⟩ hst.bindings }

/-- A change of an object. -/
theorem write (hst : Session.Matches p w s t) {r r' : ObjectRef} {o o' : Object}
    (hr : (p.upTo w).objects r r') (ho : Object.Matches (p.upTo w).correspondence o o') :
    Session.Matches p w { s with heap := s.heap.write r o } { t with heap := t.heap.write r' o' } :=
  { hst with
    size_eq := (Array.size_modify ..).trans hst.size_eq
    heap := hst.heap.write hr ho
    freshObjects := fun i => by
      rw [show (t.heap.write r' o').size = t.heap.size from Array.size_modify ..]
      exact hst.freshObjects i }

/-- What variables and calls refer to is paired all the more if more is paired. -/
theorem rest_mono (hst : Session.Matches p w s t) (hq : p.upTo w ≤ q) :
    List.Forall₂ (fun b c => b.1 = c.1 ∧ b.2.Matches q.correspondence c.2)
        s.bindings t.bindings ∧
      List.Forall₂ (Call.Matches q.correspondence) s.calls t.calls :=
  ⟨hst.bindings.imp fun _ _ h => ⟨h.1, h.2.mono hq⟩,
    hst.calls.imp fun _ _ h => ⟨h.label, h.arg.mono hq, h.brief⟩⟩

/-- A new object. -/
theorem allocate (hst : Session.Matches p w s t) {o o' : Object}
    (ho : Object.Matches (p.upTo w).correspondence o o') :
    Session.Matches p (w.1 + 1, w.2) { s with heap := (s.heap.allocate o).2 }
      { t with heap := (t.heap.allocate o').2 } := by
  have hw : w ≤ (w.1 + 1, w.2) := ⟨Nat.le_succ _, Nat.le_refl _⟩
  obtain ⟨hbindings, hcalls⟩ := hst.rest_mono (p.upTo_mono hw)
  obtain ⟨n, i⟩ := w
  obtain rfl : s.heap.size = n := hst.size_eq
  exact
    { hst with
      size_eq := Array.size_push ..
      heap := hst.heap.allocate (hst.freshObjects 0) ho
      bindings := hbindings
      calls := hcalls
      freshObjects := fun i => by
        have hnext := hst.freshObjects (1 + i)
        rw [← Nat.add_assoc, ← Nat.add_assoc] at hnext
        rw [show (t.heap.allocate o').2.size = t.heap.size + 1 from Array.size_push ..]
        exact hnext }

/-- A new identity. -/
theorem skipId (hst : Session.Matches p w s t) :
    Session.Matches p (w.1, w.2 + 1) { s with nextId := s.nextId + 1 }
      { t with nextId := t.nextId + 1 } := by
  have hw : w ≤ (w.1, w.2 + 1) := ⟨Nat.le_refl _, Nat.le_succ _⟩
  obtain ⟨hbindings, hcalls⟩ := hst.rest_mono (p.upTo_mono hw)
  exact
    { hst with
      nextId_eq := congrArg (· + 1) hst.nextId_eq
      heap :=
        ⟨(p.upTo _).objects_iff, fun hr => cells_mono (p.upTo_mono hw) (hst.heap.cells hr)⟩
      bindings := hbindings
      calls := hcalls
      freshIds := fun i => by
        have hnext := hst.freshIds (1 + i)
        rw [← Nat.add_assoc, ← Nat.add_assoc] at hnext
        exact hnext }

end Session.Matches

end Script

end ScriptHost
