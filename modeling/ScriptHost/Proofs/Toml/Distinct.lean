import Mathlib.Data.List.Nodup
import ScriptHost.Toml.Document

/-!
# No key twice

A document that could be read has no key twice in any of its tables, however these were put
together: between braces, by dotted keys, or by headers that add to what is there.

- `Node.Distinct`, `Entries.Distinct`: no key twice, in a node and in the content of a table.
- `Entries.find?_eq_some_iff`: what stands under a key is what is found under it.
- `Distinct.insertDotted?`, `Distinct.alterParent?`, `Distinct.attachAll?`: what is added to a table
  brings in no key that is there.
- `Scan.Finds`: what a scan finds has a property, with a rule for each way to make scans of scans.
- `finds_value`, `finds_lines`, `distinct_of_parse?`: values, lines and documents.
-/

namespace ScriptHost.Toml

/-! ## Keys of a table -/

/-- No table in a node has a key twice. -/
inductive Node.Distinct : Node → Prop where
  | leaf (value : Leaf) (span : Span) : Distinct (.leaf value span)
  | array {items : List Node} (span : Span) (hitems : ∀ node ∈ items, Distinct node) :
      Distinct (.array items span)
  | table (origin : Origin) {entries : List (Key × Node)} (span : Option Span)
      (hkeys : (entries.map (·.1.name)).Nodup) (hnodes : ∀ entry ∈ entries, Distinct entry.2) :
      Distinct (.table origin entries span)
  | tables {elements : List Node} (helements : ∀ node ∈ elements, Distinct node) :
      Distinct (.tables elements)

namespace Entries

/-- The keys of a table by their names. -/
def names (es : Entries) : List String := es.map (·.1.name)

/-- A table has no key twice, and no table in it has. -/
structure Distinct (es : Entries) : Prop where
  names : es.names.Nodup
  nodes : ∀ entry ∈ es, entry.2.Distinct

variable {es : Entries} {name : String} {entry : Key × Node}

theorem mem_names (hentry : entry ∈ es) : entry.1.name ∈ es.names :=
  List.mem_map.2 ⟨entry, hentry, rfl⟩

/-- What is found is there, under the name that was looked for. -/
theorem mem_of_find? (hfind : es.find? name = some entry) : entry ∈ es ∧ entry.1.name = name := by
  have hname : (entry.1.name == name) = true :=
    List.find?_some (p := fun entry : Key × Node => entry.1.name == name) hfind
  exact ⟨List.mem_of_find?_eq_some hfind, eq_of_beq hname⟩

theorem find?_eq_none_iff : es.find? name = none ↔ name ∉ es.names := by
  rw [find?, List.find?_eq_none, names, List.mem_map]
  constructor
  · rintro hnone ⟨entry, hentry, rfl⟩
    exact hnone entry hentry (beq_self_eq_true _)
  · intro hname entry hentry heq
    exact hname ⟨entry, hentry, eq_of_beq heq⟩

theorem contains_eq_false_iff : es.contains name = false ↔ name ∉ es.names := by
  rw [← find?_eq_none_iff, ← Option.isNone_iff_eq_none, ← Option.isSome_eq_false_iff]
  exact Iff.of_eq (congrArg (· = false) List.isSome_find?.symm)

/-- Where no key is there twice, every entry is found under its name. -/
theorem find?_eq_some_iff (hes : es.Distinct) :
    es.find? name = some entry ↔ entry ∈ es ∧ entry.1.name = name := by
  refine ⟨mem_of_find?, ?_⟩
  rintro ⟨hentry, rfl⟩
  cases hfind : es.find? entry.1.name with
  | none => exact absurd (mem_names hentry) (find?_eq_none_iff.1 hfind)
  | some found =>
    obtain ⟨hfound, hname⟩ := mem_of_find? hfind
    rw [List.inj_on_of_nodup_map hes.names hfound hentry hname]

theorem names_replace (es : Entries) (name : String) (node : Node) :
    (es.replace name node).names = es.names := by
  rw [names, names, replace, List.map_map]
  rfl

end Entries

theorem Node.distinct_table_iff {origin : Origin} {es : Entries} {span : Option Span} :
    (Node.table origin es span).Distinct ↔ es.Distinct := by
  constructor
  · rintro (_ | _ | ⟨_, _, hkeys, hnodes⟩)
    exact ⟨hkeys, hnodes⟩
  · intro hes
    exact .table origin span hes.names hes.nodes

/-! ## Adding to a table -/

namespace Entries.Distinct

variable {es es' : Entries} {k key : Key} {node value : Node}

theorem nil : Distinct [] := ⟨List.nodup_nil, fun _ hentry => nomatch hentry⟩

/-- A new key at the end. -/
theorem add (hes : es.Distinct) (hnew : key.name ∉ es.names) (hnode : node.Distinct) :
    Distinct (es ++ [(key, node)]) := by
  constructor
  · rw [Entries.names, List.map_append, List.nodup_append]
    refine ⟨hes.names, List.nodup_singleton _, ?_⟩
    rintro name hname _ hkey rfl
    rw [List.mem_singleton.1 hkey] at hname
    exact hnew hname
  · intro entry hentry
    rcases List.mem_append.1 hentry with hold | hlast
    · exact hes.nodes entry hold
    · rw [List.mem_singleton.1 hlast]
      exact hnode

/-- Another node under a key. -/
theorem replace (hes : es.Distinct) (name : String) (hnode : node.Distinct) :
    (es.replace name node).Distinct := by
  constructor
  · rw [names_replace]
    exact hes.names
  · intro entry hentry
    obtain ⟨old, hold, rfl⟩ := List.mem_map.1 hentry
    show (if old.1.name == name then node else old.2).Distinct
    split
    · exact hnode
    · exact hes.nodes old hold

/-- Some of the entries. -/
theorem filter (hes : es.Distinct) (p : Key × Node → Bool) : Distinct (es.filter p) :=
  ⟨hes.names.sublist (List.filter_sublist.map _), fun entry hentry =>
    hes.nodes entry ((List.mem_filter.1 hentry).1)⟩

/-- The node of a key. -/
theorem found (hes : es.Distinct) {name : String} (hfind : es.find? name = some (k, node)) :
    node.Distinct :=
  hes.nodes _ (mem_of_find? hfind).1

/-- The table of a key. -/
theorem table (hes : es.Distinct) {name : String} {origin : Origin} {inner : Entries}
    {span : Option Span} (hfind : es.find? name = some (k, .table origin inner span)) :
    inner.Distinct :=
  Node.distinct_table_iff.1 (hes.found hfind)

/-- The array of tables of a key, with another last element. -/
theorem tables {name : String} {elements : List Node} (hes : es.Distinct)
    (hfind : es.find? name = some (k, .tables elements)) (hnode : node.Distinct) :
    (es.replace name (.tables (elements.dropLast ++ [node]))).Distinct := by
  refine hes.replace name (.tables fun element helement => ?_)
  cases hes.found hfind with
  | tables helements =>
    rcases List.mem_append.1 helement with hold | hlast
    · exact helements element (List.dropLast_subset _ hold)
    · rw [List.mem_singleton.1 hlast]
      exact hnode

/-- The table that is the last element of the array of tables of a key. -/
theorem lastElement {name : String} {elements : List Node} {origin : Origin} {inner : Entries}
    {span : Option Span} (hes : es.Distinct) (hfind : es.find? name = some (k, .tables elements))
    (hlast : elements.getLast? = some (.table origin inner span)) : inner.Distinct := by
  cases hes.found hfind with
  | tables helements =>
    exact Node.distinct_table_iff.1 (helements _ (List.mem_of_getLast? hlast))

/-- A pair under a dotted key, whose table may have to be made. -/
theorem insertDotted? {path : List Key} (hes : es.Distinct) (hvalue : value.Distinct)
    (hinsert : Toml.insertDotted? es key value path = some es') : es'.Distinct := by
  induction path generalizing es es' with
  | nil =>
    rw [Toml.insertDotted?] at hinsert
    split at hinsert
    · cases hinsert
    · rename_i hcontains
      cases hinsert
      exact hes.add (contains_eq_false_iff.1 (Bool.eq_false_iff.2 hcontains)) hvalue
  | cons k ks ih =>
    rw [Toml.insertDotted?] at hinsert
    split at hinsert
    · rename_i hfind
      obtain ⟨inner, hinner, hes'⟩ := Option.bind_eq_some_iff.1 hinsert
      cases hes'
      exact hes.add (find?_eq_none_iff.1 hfind) (Node.distinct_table_iff.2 (ih nil hinner))
    · rename_i hfind
      split at hinsert
      · obtain ⟨inner, hinner, hes'⟩ := Option.bind_eq_some_iff.1 hinsert
        cases hes'
        exact hes.replace _ (Node.distinct_table_iff.2 (ih (hes.table hfind) hinner))
      · cases hinsert
    · rename_i hfind
      split at hinsert
      · rename_i hlast
        split at hinsert
        · cases hinsert
        · obtain ⟨inner, hinner, hes'⟩ := Option.bind_eq_some_iff.1 hinsert
          cases hes'
          have hinner' := ih (hes.lastElement hfind hlast) hinner
          exact hes.tables hfind (Node.distinct_table_iff.2 hinner')
      · cases hinsert
    · cases hinsert

/-- Pairs one after another. -/
theorem insertPairs? {pairs : List Pair} (hes : es.Distinct)
    (hpairs : ∀ pair ∈ pairs, pair.value.Distinct)
    (hinsert : Toml.insertPairs? es pairs = some es') : es'.Distinct := by
  induction pairs generalizing es with
  | nil =>
    cases hinsert
    exact hes
  | cons pair pairs ih =>
    obtain ⟨inner, hinner, hrest⟩ := Option.bind_eq_some_iff.1 hinsert
    obtain ⟨hpair, hpairs⟩ := List.forall_mem_cons.1 hpairs
    exact ih (hes.insertDotted? hpair hinner) hpairs hrest

/-- A change of the table that a header passes through last, if the change itself brings in no key
twice. -/
theorem alterParent? {change : Entries → Option Entries} {path : List Key} (hes : es.Distinct)
    (hchange : ∀ {es es' : Entries}, es.Distinct → change es = some es' → es'.Distinct)
    (halter : Toml.alterParent? change es path = some es') : es'.Distinct := by
  induction path generalizing es es' with
  | nil => exact hchange hes halter
  | cons k ks ih =>
    rw [Toml.alterParent?] at halter
    split at halter
    · rename_i hfind
      obtain ⟨inner, hinner, hes'⟩ := Option.bind_eq_some_iff.1 halter
      cases hes'
      exact hes.add (find?_eq_none_iff.1 hfind) (Node.distinct_table_iff.2 (ih nil hinner))
    · rename_i hfind
      split at halter
      · cases halter
      · obtain ⟨inner, hinner, hes'⟩ := Option.bind_eq_some_iff.1 halter
        cases hes'
        exact hes.replace _ (Node.distinct_table_iff.2 (ih (hes.table hfind) hinner))
    · rename_i hfind
      split at halter
      · rename_i hlast
        obtain ⟨inner, hinner, hes'⟩ := Option.bind_eq_some_iff.1 halter
        cases hes'
        have hinner' := ih (hes.lastElement hfind hlast) hinner
        exact hes.tables hfind (Node.distinct_table_iff.2 hinner')
      · cases halter
    · cases halter

/-! ## Headers -/

/-- The table of a section goes where its header says. -/
theorem addTo? {s : Section} (hes : es.Distinct) (hpairs : ∀ pair ∈ s.pairs, pair.value.Distinct)
    (hadd : s.addTo? es = some es') : es'.Distinct := by
  have htable {inner : Entries} {node : Node} (hinner : inner.Distinct)
      (hnode : s.table? inner = some node) : node.Distinct := by
    obtain ⟨full, hfull, hnode'⟩ := Option.bind_eq_some_iff.1 hnode
    cases hnode'
    exact Node.distinct_table_iff.2 (hinner.insertPairs? hpairs hfull)
  rw [Section.addTo?] at hadd
  split at hadd
  · rename_i hfind _
    obtain ⟨node, hnode, hes'⟩ := Option.bind_eq_some_iff.1 hadd
    cases hes'
    exact hes.add (find?_eq_none_iff.1 hfind) (htable nil hnode)
  · rename_i hfind _
    obtain ⟨node, hnode, hes'⟩ := Option.bind_eq_some_iff.1 hadd
    cases hes'
    refine (hes.filter _).add (fun hmem => ?_) (htable (hes.table hfind) hnode)
    obtain ⟨entry, hentry, hname⟩ := List.mem_map.1 hmem
    exact bne_iff_ne.1 (List.mem_filter.1 hentry).2 hname
  · rename_i hfind _
    obtain ⟨node, hnode, hes'⟩ := Option.bind_eq_some_iff.1 hadd
    cases hes'
    refine hes.add (find?_eq_none_iff.1 hfind) (.tables fun element helement => ?_)
    rw [List.mem_singleton.1 helement]
    exact htable nil hnode
  · rename_i elements hfind _
    obtain ⟨node, hnode, hes'⟩ := Option.bind_eq_some_iff.1 hadd
    cases hes'
    cases hes.found hfind with
    | tables helements =>
      refine hes.replace _ (.tables fun element helement => ?_)
      rcases List.mem_append.1 helement with hold | hlast
      · exact helements element hold
      · rw [List.mem_singleton.1 hlast]
        exact htable nil hnode
  · cases hadd

/-- Sections one after another. -/
theorem attachAll? {sections : List Section} (hes : es.Distinct)
    (hsections : ∀ s ∈ sections, ∀ pair ∈ s.pairs, pair.value.Distinct)
    (hattach : Toml.attachAll? es sections = some es') : es'.Distinct := by
  induction sections generalizing es with
  | nil =>
    cases hattach
    exact hes
  | cons s sections ih =>
    obtain ⟨inner, hinner, hrest⟩ := Option.bind_eq_some_iff.1 hattach
    obtain ⟨hpairs, hsections⟩ := List.forall_mem_cons.1 hsections
    exact ih (hes.alterParent? (fun hes hadd => hes.addTo? hpairs hadd) hinner) hsections hrest

/-- The pairs before the first header, and then the sections. -/
theorem assemble? {pairs : List Pair} {sections : List Section}
    (hpairs : ∀ pair ∈ pairs, pair.value.Distinct)
    (hsections : ∀ s ∈ sections, ∀ pair ∈ s.pairs, pair.value.Distinct)
    (hassemble : Toml.assemble? pairs sections = some es') : es'.Distinct := by
  obtain ⟨inner, hinner, hrest⟩ := Option.bind_eq_some_iff.1 hassemble
  exact (nil.insertPairs? hpairs hinner).attachAll? hsections hrest

end Entries.Distinct

/-! ## What scans find -/

namespace Scan

variable {α β : Type} {P : α → Prop} {Q : β → Prop}

/-- Whatever a scan finds has a property. -/
def Finds (p : Scan α) (P : α → Prop) : Prop := ∀ s a s', p s = some (a, s') → P a

theorem finds_pure {a : α} (ha : P a) : (pure a : Scan α).Finds P := by
  rintro s _ _ ⟨⟩
  exact ha

theorem finds_failure : (failure : Scan α).Finds P := by
  rintro s _ _ ⟨⟩

/-- Nothing need be known of a scan whose findings do not matter. -/
theorem finds_any (p : Scan α) : p.Finds fun _ => True := fun _ _ _ _ => trivial

theorem Finds.bind {p : Scan α} {f : α → Scan β} (hp : p.Finds P) (hf : ∀ a, P a → (f a).Finds Q) :
    (p >>= f).Finds Q := by
  intro s b s' hb
  obtain ⟨⟨a, next⟩, ha, hb'⟩ := Option.bind_eq_some_iff.1 hb
  exact hf a (hp s a next ha) next b s' hb'

/-- A scan whose findings do not matter goes before another. -/
theorem Finds.after (p : Scan α) {f : α → Scan β} (hf : ∀ a, (f a).Finds Q) : (p >>= f).Finds Q :=
  (finds_any p).bind fun a _ => hf a

theorem Finds.orElse {p p' : Scan α} (hp : p.Finds P) (hp' : p'.Finds P) :
    (p <|> p').Finds P := by
  intro s a s' ha
  change (p s <|> p' s) = some (a, s') at ha
  cases hs : p s with
  | some found =>
    rw [hs] at ha
    cases ha
    exact hp s a s' hs
  | none =>
    rw [hs] at ha
    exact hp' s a s' ha

theorem Finds.map {p : Scan α} {f : α → β} (hp : p.Finds P) (hf : ∀ a, P a → Q (f a)) :
    (f <$> p).Finds Q := by
  intro s b s' hb
  obtain ⟨⟨a, next⟩, ha, hb'⟩ := Option.bind_eq_some_iff.1 hb
  cases hb'
  exact hf a (hp s a s' ha)

theorem Finds.optional {p : Scan α} (hp : p.Finds P) :
    (optional p).Finds fun found => ∀ a ∈ found, P a := by
  refine (hp.map fun a ha => ?_).orElse (finds_pure fun _ ha => nomatch ha)
  rintro _ ⟨⟩
  exact ha

theorem Finds.repeatedWithin {p : Scan α} (hp : p.Finds P) (n : Nat) :
    (repeatedWithin p n).Finds fun as => ∀ a ∈ as, P a := by
  induction n with
  | zero => exact finds_pure fun _ ha => nomatch ha
  | succ n ih =>
    refine hp.optional.bind fun found hfound => ?_
    cases found with
    | none => exact finds_pure fun _ ha => nomatch ha
    | some a =>
      exact ih.bind fun as has => finds_pure (List.forall_mem_cons.2 ⟨hfound a rfl, has⟩)

theorem Finds.repeated {p : Scan α} (hp : p.Finds P) :
    (repeated p).Finds fun as => ∀ a ∈ as, P a :=
  fun s => hp.repeatedWithin s.rest.length s

theorem Finds.separated {p : Scan α} (hp : p.Finds P) (between : Scan β) :
    (separated p between).Finds fun as => ∀ a ∈ as, P a := by
  refine Finds.orElse (hp.bind fun a ha => ?_) (finds_pure fun _ ha => nomatch ha)
  refine (Finds.after between fun _ => hp).repeated.bind fun as has => ?_
  exact finds_pure (List.forall_mem_cons.2 ⟨ha, has⟩)

theorem Finds.spanned {p : Scan α} (hp : p.Finds P) : (spanned p).Finds fun found => P found.1 :=
  .after _ fun _ => hp.bind fun _ ha => .after _ fun _ => finds_pure ha

end Scan

open Scan

/-! ## Documents -/

theorem finds_leaf (p : Scan Leaf) : (leaf p).Finds Node.Distinct :=
  .after _ fun found => finds_pure (.leaf found.1 found.2)

theorem finds_array {value : Scan Node} (hvalue : value.Finds Node.Distinct) :
    (array value).Finds Node.Distinct := by
  have hitem : Scan.Finds (do layout; let v ← value; layout; pure v) Node.Distinct :=
    .after _ fun _ => hvalue.bind fun v hv => .after _ fun _ => finds_pure hv
  have hitems := hitem.separated (char ',')
  refine (Finds.spanned (P := fun items => ∀ node ∈ items, node.Distinct) ?_).bind
    fun found hfound => finds_pure (.array found.2 hfound)
  refine .after _ fun _ => hitems.bind fun items hitems => ?_
  split
  · exact .after _ fun _ => .after _ fun _ => .after _ fun _ => finds_pure hitems
  · exact .after _ fun _ => .after _ fun _ => finds_pure hitems

theorem finds_pair {value : Scan Node} (hvalue : value.Finds Node.Distinct) :
    (pair value).Finds fun found => found.value.Distinct := by
  refine .after _ fun keys => .after _ fun _ => .after _ fun _ => hvalue.bind fun v hv => ?_
  split
  · rename_i hpair
    obtain ⟨last, -, hfound⟩ := Option.bind_eq_some_iff.1 hpair
    cases hfound
    exact finds_pure hv
  · exact finds_failure

theorem finds_inlineTable {value : Scan Node} (hvalue : value.Finds Node.Distinct) :
    (inlineTable value).Finds Node.Distinct := by
  have hpair : Scan.Finds (do let p ← pair value; blanks; pure p)
      fun found => found.value.Distinct :=
    (finds_pair hvalue).bind fun p hp => .after _ fun _ => finds_pure hp
  have hpairs := hpair.separated (char ',')
  refine (Finds.spanned (P := Entries.Distinct) ?_).bind
    fun found hfound => finds_pure (Node.distinct_table_iff.2 hfound)
  refine .after _ fun _ => hpairs.bind fun pairs hpairs => .after _ fun _ => .after _ fun _ => ?_
  split
  · rename_i hinsert
    exact finds_pure (Entries.Distinct.nil.insertPairs? hpairs hinsert)
  · exact finds_failure

theorem finds_valueAround {nested : Option (Scan Node)}
    (hnested : ∀ inner ∈ nested, inner.Finds Node.Distinct) :
    (valueAround nested).Finds Node.Distinct := by
  refine .after _ fun next => ?_
  split
  · exact finds_leaf _
  · exact finds_leaf _
  · exact finds_array (hnested _ rfl)
  · exact finds_inlineTable (hnested _ rfl)
  · exact finds_failure
  · exact finds_failure
  · exact finds_leaf _
  · exact finds_leaf _
  · exact finds_leaf _

/-- By induction on how deep brackets may be nested. -/
theorem finds_value (n : Nat) : (value n).Finds Node.Distinct := by
  induction n with
  | zero => exact finds_valueAround fun _ hinner => nomatch hinner
  | succ n ih =>
    refine finds_valueAround ?_
    rintro _ ⟨⟩
    exact ih

/-- The values on a line have no key twice. -/
def Line.Distinct : Line → Prop
  | empty | header _ => True
  | pair p => p.value.Distinct

theorem finds_line : line.Finds Line.Distinct := by
  refine .after _ fun _ => .after _ fun next => ?_
  split
  · exact finds_failure
  · exact .after _ fun _ => finds_pure trivial
  · exact .after _ fun _ => finds_pure trivial
  · exact .after _ fun _ => finds_pure trivial
  · exact .after _ fun _ => finds_pure trivial
  · exact (finds_pair (finds_value _)).bind fun p hp => .after _ fun _ => finds_pure hp

theorem finds_lines : lines.Finds fun ls => ∀ l ∈ ls, l.Distinct :=
  .after _ fun _ => finds_line.repeated.bind fun _ hls =>
    .after _ fun _ => .after _ fun _ => finds_pure hls

/-- What is on the lines is in the pairs before the first header and in those of the sections. -/
theorem forall_sectionsOf {ls : List Line} (hls : ∀ l ∈ ls, l.Distinct) :
    (∀ pair ∈ (sectionsOf ls).1, pair.value.Distinct)
      ∧ ∀ s ∈ (sectionsOf ls).2, ∀ pair ∈ s.pairs, pair.value.Distinct := by
  induction ls with
  | nil => exact ⟨fun _ hpair => (nomatch hpair), fun _ hs => nomatch hs⟩
  | cons l ls ih =>
    obtain ⟨hl, hls⟩ := List.forall_mem_cons.1 hls
    obtain ⟨hpairs, hsections⟩ := ih hls
    cases l with
    | empty => exact ⟨hpairs, hsections⟩
    | pair p => exact ⟨List.forall_mem_cons.2 ⟨hl, hpairs⟩, hsections⟩
    | header h =>
      exact ⟨fun _ hpair => (nomatch hpair), List.forall_mem_cons.2 ⟨hpairs, hsections⟩⟩

/-- A document that could be read has no key twice. -/
theorem distinct_of_parse? {source : String} {document : Entries}
    (hparse : parse? source = some document) : document.Distinct := by
  obtain ⟨⟨ls, rest⟩, hls, hassemble⟩ := Option.bind_eq_some_iff.1 hparse
  obtain ⟨hpairs, hsections⟩ := forall_sectionsOf (finds_lines _ ls rest hls)
  exact Entries.Distinct.assemble? hpairs hsections hassemble

end ScriptHost.Toml
