import ScriptHost.Config.Error
import ScriptHost.Proofs.Toml.Distinct

/-!
# What a document says

Two nodes of a document decide on the settings. Each gives its setting, or the default of this
setting if it is not there; whatever else there is in the document, and in which order, makes no
difference.

- `Entries.at?`: the node at the end of a path of keys.
- `Entries.logLevel?`, `Entries.decoding?`, `Entries.Conforms`: the two nodes, and documents in
  which what is around them has the form that it should have.
- `Entries.readAt`: what is read from a node, or what stands in for it.
- `toOption_entries_inputField`, `toOption_entries_settingsField`: the entries of a table, read in
  any order.
- `toOption_ofDocument`, `fault_of_ofDocument`: the settings of a document, and what is wrong if
  there are none.
- `settings_of_two_nodes`: a source, and any two sources that agree on the two nodes.
-/

namespace ScriptHost

open Toml

/-! ## Nodes of a document -/

namespace Toml

namespace Node

/-- The text of a node that is a string. -/
def text? : Node → Option String
  | leaf (.string s) _ => some s
  | _ => none

def isTable : Node → Bool
  | table _ _ _ => true
  | _ => false

end Node

namespace Entries

/-- The node at the end of a path of keys that leads through tables. -/
def at? (es : Entries) : List String → Option Node
  | [] => none
  | [name] => (es.find? name).map (·.2)
  | name :: next :: rest =>
    match es.find? name with
    | some (_, .table _ inner _) => at? inner (next :: rest)
    | _ => none

/-- Where the log level is written. -/
def logLevel? (document : Entries) : Option Node := document.at? ["runtime", "log_level"]

/-- Where the decoding of input is written. -/
def decoding? (document : Entries) : Option Node := document.at? ["runtime", "input", "decoding"]

/-- The settings are in tables as far as they are there, and the decoding is a string. -/
structure Conforms (document : Entries) : Prop where
  runtime : ∀ node, document.at? ["runtime"] = some node → node.isTable = true
  input : ∀ node, document.at? ["runtime", "input"] = some node → node.isTable = true
  decoding : ∀ node, document.decoding? = some node → node.text?.isSome = true

variable {es inner : Entries} {k : Key} {name next : String} {rest : List String} {node : Node}

theorem at?_singleton (hfind : es.find? name = some (k, node)) : es.at? [name] = some node := by
  rw [at?, hfind, Option.map_some]

theorem exists_find?_of_at? (hat : es.at? [name] = some node) :
    ∃ k, es.find? name = some (k, node) := by
  obtain ⟨⟨k, _⟩, hfind, rfl⟩ := Option.map_eq_some_iff.1 hat
  exact ⟨k, hfind⟩

theorem at?_of_find?_eq_none (hfind : es.find? name = none) : es.at? (name :: rest) = none := by
  cases rest with
  | nil => rw [at?, hfind, Option.map_none]
  | cons _ _ => rw [at?, hfind]

theorem at?_of_table {origin : Origin} {span : Option Span}
    (hfind : es.find? name = some (k, .table origin inner span)) :
    es.at? (name :: next :: rest) = inner.at? (next :: rest) := by
  rw [at?, hfind]

end Entries

instance (document : Entries) : Decidable document.Conforms :=
  decidable_of_iff
    ((document.at? ["runtime"]).all Node.isTable = true
      ∧ (document.at? ["runtime", "input"]).all Node.isTable = true
      ∧ document.decoding?.all (·.text?.isSome) = true) <| by
    simp only [Option.all_eq_true]
    exact ⟨fun ⟨hruntime, hinput, hdecoding⟩ => ⟨hruntime, hinput, hdecoding⟩,
      fun hconforms => ⟨hconforms.runtime, hconforms.input, hconforms.decoding⟩⟩

theorem Node.text?_eq_some_iff {node : Node} {s : String} :
    node.text? = some s ↔ ∃ span, node = .leaf (.string s) span := by
  constructor
  · intro hnode
    cases node with
    | leaf value span =>
      cases value with
      | string text =>
        cases hnode
        exact ⟨span, rfl⟩
      | _ => cases hnode
    | _ => cases hnode
  · rintro ⟨span, rfl⟩
    rfl

theorem Node.exists_of_isTable {node : Node} (hnode : node.isTable = true) :
    ∃ (origin : Origin) (es : Entries) (span : Option Span), node = .table origin es span := by
  cases node with
  | table origin es span => exact ⟨origin, es, span, rfl⟩
  | _ => cases hnode

end Toml

/-- No two decodings have the same word. -/
theorem Decoding.word_injective : Function.Injective Decoding.word := by
  intro d d' hword
  cases d <;> cases d' <;> simp_all [Decoding.word]

/-! ## Reading, whatever the error -/

namespace Schema

variable {α β : Type}

@[simp] theorem toOption_located (span : Option Span) (r : Schema α) :
    (located span r).toOption = r.toOption := by
  cases r <;> rfl

theorem toOption_bind (r : Schema α) (f : α → Schema β) :
    (r >>= f).toOption = r.toOption.bind fun a => (f a).toOption := by
  cases r <;> rfl

theorem toOption_string (node : Node) : (string node).toOption = node.text? := by
  cases node with
  | leaf value span => cases value <;> rfl
  | _ => rfl

/-- Only the words for decodings name one. -/
theorem toOption_decodingNamed {name : String} {d : Decoding} :
    (decodingNamed name).toOption = some d ↔ name = d.word := by
  unfold decodingNamed
  split
  · cases d <;> simp [Decoding.word, Except.toOption]
  · cases d <;> simp [Decoding.word, Except.toOption]
  · rename_i hlossy hstrict
    refine iff_of_false (fun heq => nomatch heq) ?_
    rintro rfl
    cases d with
    | lossy => exact hlossy rfl
    | strict => exact hstrict rfl

theorem toOption_decoding {node : Node} {name : String} (hnode : node.text? = some name) :
    (decoding node).toOption = (decodingNamed name).toOption := by
  obtain ⟨span, rfl⟩ := Node.text?_eq_some_iff.1 hnode
  rw [decoding, toOption_located]

end Schema

/-- What is read from the node at the end of a path, and without a node the default. -/
def Toml.Entries.readAt {α : Type} (es : Entries) (path : List String) (read : Node → Schema α)
    (default : α) : Option α :=
  (es.at? path).elim (some default) fun node => (read node).toOption

namespace Toml.Entries

variable {α : Type} {es rest : Entries} {k : Key} {name : String} {node : Node}
  (read : Node → Schema α) (default : α)

theorem readAt_cons_self :
    readAt ((k, node) :: rest) [k.name] read default = (read node).toOption := by
  rw [readAt, at?_singleton (List.find?_cons_of_pos (beq_self_eq_true _)), Option.elim_some]

theorem readAt_cons_of_ne (hname : k.name ≠ name) :
    readAt ((k, node) :: rest) [name] read default = readAt rest [name] read default := by
  have hfind : find? ((k, node) :: rest) name = find? rest name :=
    List.find?_cons_of_neg (mt eq_of_beq hname)
  rw [readAt, readAt, at?, at?, hfind]

theorem readAt_of_find?_eq_none {path : List String} (hfind : es.find? name = none) :
    es.readAt (name :: path) read default = some default := by
  rw [readAt, at?_of_find?_eq_none hfind, Option.elim_none]

theorem readAt_of_not_mem (hname : name ∉ es.names) :
    es.readAt [name] read default = some default :=
  readAt_of_find?_eq_none read default (find?_eq_none_iff.2 hname)

theorem readAt_of_table {origin : Origin} {inner : Entries} {span : Option Span} {next : String}
    {path : List String} (hfind : es.find? name = some (k, .table origin inner span)) :
    es.readAt (name :: next :: path) read default = inner.readAt (next :: path) read default := by
  rw [readAt, at?_of_table hfind, readAt]

/-- In a table without a key twice, the key of the first entry is not there again. -/
theorem Distinct.of_cons (hes : Distinct ((k, node) :: rest)) :
    k.name ∉ rest.names ∧ rest.Distinct := by
  obtain ⟨hname, hnames⟩ := List.nodup_cons.1 hes.names
  exact ⟨hname, hnames, fun entry hentry => hes.nodes entry (List.mem_cons_of_mem _ hentry)⟩

end Toml.Entries

namespace Schema

variable {es : Entries}

theorem toOption_entries_cons {α : Type} (field : α → String → Node → Schema α) (start : α)
    (k : Key) (node : Node) (rest : Entries) :
    (entries field start ((k, node) :: rest)).toOption
      = (field start k.name node).toOption.bind fun a => (entries field a rest).toOption := by
  rw [entries, toOption_bind, toOption_located]

/-- The entries of the input settings are read in any order. -/
theorem toOption_entries_inputField (hes : es.Distinct) (start : InputSettings) :
    (entries inputField start es).toOption
      = (es.readAt ["decoding"] decoding start.decoding).map fun d => { decoding := d } := by
  induction es generalizing start with
  | nil => rfl
  | cons entry rest ih =>
    obtain ⟨k, node⟩ := entry
    obtain ⟨hnew, hrest⟩ := hes.of_cons
    rw [toOption_entries_cons]
    by_cases hname : k.name = "decoding"
    · rw [← hname, Entries.readAt_cons_self, hname, inputField, if_pos (beq_self_eq_true _),
        toOption_bind, Option.bind_assoc]
      cases (decoding node).toOption with
      | none => rfl
      | some d =>
        refine (ih hrest ⟨d⟩).trans ?_
        rw [Entries.readAt_of_not_mem _ _ (hname ▸ hnew)]
    · rw [Entries.readAt_cons_of_ne _ _ hname, inputField, if_neg (mt eq_of_beq hname)]
      exact ih hrest start

/-- So are those of the settings. -/
theorem toOption_entries_settingsField (hes : es.Distinct) (start : Settings) :
    (entries settingsField start es).toOption
      = (es.readAt ["log_level"] string start.logLevel).bind fun level =>
          (es.readAt ["input"] input start.input).map fun i =>
            { logLevel := level, input := i } := by
  induction es generalizing start with
  | nil => rfl
  | cons entry rest ih =>
    obtain ⟨k, node⟩ := entry
    obtain ⟨hnew, hrest⟩ := hes.of_cons
    rw [toOption_entries_cons]
    by_cases hlevel : k.name = "log_level"
    · have hinput : k.name ≠ "input" := by
        rw [hlevel]
        decide
      rw [Entries.readAt_cons_of_ne _ _ hinput, ← hlevel, Entries.readAt_cons_self, hlevel,
        settingsField, if_pos (beq_self_eq_true _), toOption_bind, Option.bind_assoc]
      cases (string node).toOption with
      | none => rfl
      | some level =>
        refine (ih hrest { start with logLevel := level }).trans ?_
        rw [Entries.readAt_of_not_mem _ _ (hlevel ▸ hnew)]
    · rw [Entries.readAt_cons_of_ne _ _ hlevel, settingsField, if_neg (mt eq_of_beq hlevel)]
      by_cases hinput : k.name = "input"
      · rw [← hinput, Entries.readAt_cons_self, hinput, if_pos (beq_self_eq_true _),
          toOption_bind, Option.bind_assoc]
        cases (input node).toOption with
        | none => cases Entries.readAt rest ["log_level"] string start.logLevel <;> rfl
        | some i =>
          refine (ih hrest { start with input := i }).trans ?_
          rw [Entries.readAt_of_not_mem input _ (hinput ▸ hnew)]
      · rw [Entries.readAt_cons_of_ne _ _ hinput, if_neg (mt eq_of_beq hinput)]
        exact ih hrest start

end Schema

/-! ## The settings of a document -/

namespace Toml.Entries

variable {document : Entries}

/-- What is around the two settings is read without an error. -/
theorem Conforms.toOption_input (hdocument : document.Distinct) (hconforms : document.Conforms)
    {k : Key} {origin : Origin} {es : Entries} {span : Option Span}
    (hruntime : document.find? "runtime" = some (k, .table origin es span)) :
    es.readAt ["input"] Schema.input {}
      = (es.readAt ["input", "decoding"] Schema.decoding .lossy).map
          fun d => { decoding := d } := by
  cases hinput : es.find? "input" with
  | none =>
    rw [readAt_of_find?_eq_none _ _ hinput, readAt_of_find?_eq_none _ _ hinput, Option.map_some]
  | some entry =>
    obtain ⟨k', node⟩ := entry
    have hat : document.at? ["runtime", "input"] = some node := by
      rw [at?_of_table hruntime, at?_singleton hinput]
    obtain ⟨origin', inner, span', rfl⟩ := Node.exists_of_isTable (hconforms.input _ hat)
    have hinner : inner.Distinct := (hdocument.table hruntime).table hinput
    rw [readAt_of_table _ _ hinput, readAt, at?_singleton hinput, Option.elim_some]
    have hentries := Schema.toOption_entries_inputField hinner {}
    rw [Schema.input, Schema.structured, Schema.toOption_located]
    exact hentries

end Toml.Entries

/-- The settings of a document come from its two nodes. -/
theorem toOption_ofDocument {document : Entries} (hdocument : document.Distinct)
    (hconforms : document.Conforms) :
    (Settings.ofDocument document).toOption
      = (document.readAt ["runtime", "log_level"] Schema.string "warn").bind fun level =>
          (document.readAt ["runtime", "input", "decoding"] Schema.decoding .lossy).map fun d =>
            { logLevel := level, input := { decoding := d } } := by
  cases hruntime : document.find? "runtime" with
  | none =>
    rw [Settings.ofDocument, hruntime, Entries.readAt_of_find?_eq_none _ _ hruntime,
      Entries.readAt_of_find?_eq_none _ _ hruntime]
    rfl
  | some entry =>
    obtain ⟨k, node⟩ := entry
    obtain ⟨origin, es, span, rfl⟩ :=
      Node.exists_of_isTable (hconforms.runtime _ (Entries.at?_singleton hruntime))
    have hsettings : (Settings.ofDocument document).toOption
        = (Schema.entries Schema.settingsField {} es).toOption := by
      rw [Settings.ofDocument, hruntime]
      simp only [Schema.toOption_located, Schema.settings, Schema.structured]
    rw [hsettings, Schema.toOption_entries_settingsField (hdocument.table hruntime),
      hconforms.toOption_input hdocument hruntime, Entries.readAt_of_table _ _ hruntime,
      Entries.readAt_of_table _ _ hruntime]
    simp only [Option.map_map]
    rfl

/-! ## What is wrong -/

namespace Schema

theorem fault_of_located {α : Type} {span : Option Span} {r : Schema α} {e : SchemaError}
    (herror : located span r = .error e) : ∃ e', r = .error e' ∧ e'.fault = e.fault := by
  cases r with
  | error e' =>
    cases herror
    exact ⟨e', rfl, rfl⟩
  | ok a => cases herror

/-- What is wrong with a table is wrong with one of its entries. -/
theorem exists_of_entries_eq_error {α : Type} {field : α → String → Node → Schema α} {start : α}
    {es : Entries} {e : SchemaError} (herror : entries field start es = .error e) :
    ∃ entry ∈ es, ∃ a e', field a entry.1.name entry.2 = .error e' ∧ e'.fault = e.fault := by
  induction es generalizing start with
  | nil => cases herror
  | cons entry rest ih =>
    obtain ⟨k, node⟩ := entry
    rw [entries] at herror
    cases hfield : field start k.name node with
    | error e' =>
      rw [hfield] at herror
      cases herror
      exact ⟨(k, node), List.mem_cons_self, start, e', hfield, rfl⟩
    | ok a =>
      rw [hfield] at herror
      obtain ⟨entry, hentry, hrest⟩ := ih herror
      exact ⟨entry, List.mem_cons_of_mem _ hentry, hrest⟩

theorem eq_error_of_bind_pure {α β : Type} {r : Schema α} {f : α → β} {e : SchemaError}
    (herror : (r >>= fun a => pure (f a)) = .error e) : r = .error e := by
  cases r with
  | error e' =>
    cases herror
    rfl
  | ok a => cases herror

theorem fault_of_string {node : Node} {e : SchemaError} (herror : string node = .error e) :
    node.text? = none ∧ e.fault = .wrongType node.found "a string" := by
  have htext : node.text? = none := by
    rw [← toOption_string, herror]
    rfl
  refine ⟨htext, ?_⟩
  unfold string at herror
  split at herror
  · cases herror
  · obtain ⟨_, hfault, heq⟩ := fault_of_located herror
    cases hfault
    exact heq.symm

theorem fault_of_decoding {node : Node} {name : String} {e : SchemaError}
    (hnode : node.text? = some name) (herror : decoding node = .error e) :
    (∀ d : Decoding, name ≠ d.word) ∧ e.fault = .unknownVariant name := by
  obtain ⟨span, rfl⟩ := Node.text?_eq_some_iff.1 hnode
  obtain ⟨e', hnamed, heq⟩ := fault_of_located herror
  replace hnamed : decodingNamed name = .error e' := hnamed
  constructor
  · intro d hd
    have hsome := toOption_decodingNamed.2 hd
    rw [hnamed] at hsome
    cases hsome
  · unfold decodingNamed at hnamed
    split at hnamed
    · cases hnamed
    · cases hnamed
    · cases hnamed
      exact heq.symm

section Tables

variable {origin : Origin} {es : Entries} {span : Option Span} {e : SchemaError}

theorem exists_of_input_eq_error (hes : es.Distinct)
    (herror : input (.table origin es span) = .error e) :
    ∃ node e', es.at? ["decoding"] = some node ∧ decoding node = .error e'
      ∧ e'.fault = e.fault := by
  obtain ⟨e₁, hentries, heq₁⟩ := fault_of_located herror
  obtain ⟨⟨k, node⟩, hentry, start, e₂, hfield, heq₂⟩ := exists_of_entries_eq_error hentries
  rw [inputField] at hfield
  split at hfield
  · rename_i hname
    have hfind := (Entries.find?_eq_some_iff hes).2 ⟨hentry, eq_of_beq hname⟩
    exact ⟨node, e₂, Entries.at?_singleton hfind, eq_error_of_bind_pure hfield, heq₂.trans heq₁⟩
  · cases hfield

theorem exists_of_settings_eq_error (hes : es.Distinct)
    (herror : settings (.table origin es span) = .error e) :
    (∃ node e', es.at? ["log_level"] = some node ∧ string node = .error e'
        ∧ e'.fault = e.fault)
      ∨ ∃ node e', es.at? ["input"] = some node ∧ input node = .error e'
        ∧ e'.fault = e.fault := by
  obtain ⟨e₁, hentries, heq₁⟩ := fault_of_located herror
  obtain ⟨⟨k, node⟩, hentry, start, e₂, hfield, heq₂⟩ := exists_of_entries_eq_error hentries
  have hat {name : String} (hname : (k.name == name) = true) : es.at? [name] = some node :=
    Entries.at?_singleton ((Entries.find?_eq_some_iff hes).2 ⟨hentry, eq_of_beq hname⟩)
  rw [settingsField] at hfield
  split at hfield
  · rename_i hname
    exact .inl ⟨node, e₂, hat hname, eq_error_of_bind_pure hfield, heq₂.trans heq₁⟩
  · split at hfield
    · rename_i hname
      exact .inr ⟨node, e₂, hat hname, eq_error_of_bind_pure hfield, heq₂.trans heq₁⟩
    · cases hfield

end Tables

end Schema

/-- What is wrong with a document is wrong with one of its two nodes. -/
theorem fault_of_ofDocument {document : Entries} {e : SchemaError}
    (hdocument : document.Distinct) (hconforms : document.Conforms)
    (herror : Settings.ofDocument document = .error e) :
    (∃ node, document.logLevel? = some node ∧ node.text? = none
        ∧ e.fault = .wrongType node.found "a string")
      ∨ ∃ node name, document.decoding? = some node ∧ node.text? = some name
        ∧ (∀ d : Decoding, name ≠ d.word) ∧ e.fault = .unknownVariant name := by
  cases hruntime : document.find? "runtime" with
  | none =>
    rw [Settings.ofDocument, hruntime] at herror
    cases herror
  | some entry =>
    obtain ⟨k, node⟩ := entry
    obtain ⟨origin, es, span, rfl⟩ :=
      Node.exists_of_isTable (hconforms.runtime _ (Entries.at?_singleton hruntime))
    have hes := hdocument.table hruntime
    rw [Settings.ofDocument, hruntime] at herror
    obtain ⟨e₁, hsettings, heq₁⟩ := Schema.fault_of_located herror
    rcases Schema.exists_of_settings_eq_error hes hsettings with
      ⟨node, e₂, hat, hstring, heq₂⟩ | ⟨node, e₂, hat, hinput, heq₂⟩
    · obtain ⟨htext, hfault⟩ := Schema.fault_of_string hstring
      refine .inl ⟨node, ?_, htext, ?_⟩
      · rw [Entries.logLevel?, Entries.at?_of_table hruntime, hat]
      · rw [← heq₁, ← heq₂, hfault]
    · have hat' : document.at? ["runtime", "input"] = some node := by
        rw [Entries.at?_of_table hruntime, hat]
      obtain ⟨origin', inner, span', rfl⟩ := Node.exists_of_isTable (hconforms.input _ hat')
      obtain ⟨k', hfind⟩ := Entries.exists_find?_of_at? hat
      obtain ⟨node', e₃, hat'', hdecoding, heq₃⟩ :=
        Schema.exists_of_input_eq_error (hes.table hfind) hinput
      have hnode' : document.decoding? = some node' := by
        rw [Entries.decoding?, Entries.at?_of_table hruntime, Entries.at?_of_table hfind, hat'']
      obtain ⟨name, htext⟩ := Option.isSome_iff_exists.1 (hconforms.decoding _ hnode')
      obtain ⟨hname, hfault⟩ := Schema.fault_of_decoding htext hdecoding
      refine .inr ⟨node', name, hnode', htext, hname, ?_⟩
      rw [← heq₁, ← heq₂, ← heq₃, hfault]

/-! ## The settings of a source -/

/-- The settings that two texts give. Either may be missing, and what is there may be no text. -/
def Settings.ofTexts? (level decoding : Option (Option String)) : Option Settings := do
  let level ← level.getD (some "warn")
  let name ← decoding.getD (some "lossy")
  let d ← (Schema.decodingNamed name).toOption
  return { logLevel := level, input := { decoding := d } }

theorem Settings.ofTexts?_eq_some_iff {level decoding : Option (Option String)} {s : Settings} :
    ofTexts? level decoding = some s ↔
      level.getD (some "warn") = some s.logLevel
        ∧ decoding.getD (some "lossy") = some s.input.decoding.word := by
  rw [ofTexts?, Option.bind_eq_bind, Option.bind_eq_some_iff]
  constructor
  · rintro ⟨l, hl, hrest⟩
    obtain ⟨name, hname, hrest⟩ := Option.bind_eq_some_iff.1 hrest
    obtain ⟨d, hd, hs⟩ := Option.bind_eq_some_iff.1 hrest
    cases hs
    rw [hl, hname, Schema.toOption_decodingNamed.1 hd]
    exact ⟨rfl, rfl⟩
  · rintro ⟨hl, hname⟩
    rw [hname]
    refine ⟨_, hl, Option.bind_eq_some_iff.2 ⟨_, rfl, Option.bind_eq_some_iff.2 ⟨_, ?_, rfl⟩⟩⟩
    exact Schema.toOption_decodingNamed.2 rfl

section Sources

variable {source : String} {document : Entries} (hparse : parse? source = some document)
  (hconforms : document.Conforms)

include hparse

theorem ofText_eq : Settings.ofText source
    = (Settings.ofDocument document).mapError (.schema source) := by
  rw [Settings.ofText, hparse]

include hconforms

/-- The settings of a source come from the texts of the two nodes of its document. -/
theorem toOption_ofText :
    (Settings.ofText source).toOption
      = Settings.ofTexts? (document.logLevel?.map Node.text?)
          (document.decoding?.map Node.text?) := by
  have htoOption : (Settings.ofText source).toOption = (Settings.ofDocument document).toOption := by
    rw [ofText_eq hparse]
    cases Settings.ofDocument document <;> rfl
  have hlevel : document.readAt ["runtime", "log_level"] Schema.string "warn"
      = (document.logLevel?.map Node.text?).getD (some "warn") := by
    rw [Entries.readAt, ← Entries.logLevel?]
    cases document.logLevel? with
    | none => rfl
    | some node => exact Schema.toOption_string node
  have hdecoding : document.readAt ["runtime", "input", "decoding"] Schema.decoding .lossy
      = ((document.decoding?.map Node.text?).getD (some "lossy")).bind fun name =>
          (Schema.decodingNamed name).toOption := by
    rw [Entries.readAt, ← Entries.decoding?]
    cases hnode : document.decoding? with
    | none => rfl
    | some node =>
      obtain ⟨name, htext⟩ := Option.isSome_iff_exists.1 (hconforms.decoding node hnode)
      rw [Option.map_some, Option.getD_some, htext]
      exact Schema.toOption_decoding htext
  rw [htoOption, toOption_ofDocument (distinct_of_parse? hparse) hconforms, hlevel, hdecoding,
    Settings.ofTexts?]
  simp only [Option.bind_eq_bind, Option.map_eq_bind, Option.bind_assoc, Function.comp_def]
  rfl

/-- There are settings if they are those of the texts. -/
theorem ofText_eq_ok_iff {s : Settings} :
    Settings.ofText source = .ok s ↔
      (document.logLevel?.map Node.text?).getD (some "warn") = some s.logLevel
        ∧ (document.decoding?.map Node.text?).getD (some "lossy")
          = some s.input.decoding.word := by
  rw [← Settings.ofTexts?_eq_some_iff, ← toOption_ofText hparse hconforms]
  cases Settings.ofText source <;> simp [Except.toOption]

end Sources

/-- What becomes of a source with a document: there are settings if its two nodes are well written,
and each is then as it is written or as it is by default. -/
structure Settings.ComesOf (document : Entries) (r : Except ConfigError Settings) : Prop where
  /-- There are settings if neither node is wrong. -/
  succeeds : (∃ s, r = .ok s) ↔
    (∀ node, document.logLevel? = some node → ∃ level, node.text? = some level)
      ∧ ∀ node, document.decoding? = some node →
        node.text? = some "lossy" ∨ node.text? = some "strict"
  /-- If there are none, then for what is wrong with one of the nodes. -/
  fails : ∀ e, r = .error e → ∃ source fault, e = .schema source fault
    ∧ ((∃ node, document.logLevel? = some node ∧ node.text? = none
          ∧ fault.fault = .wrongType node.found "a string")
      ∨ ∃ node name, document.decoding? = some node ∧ node.text? = some name
        ∧ (∀ d : Decoding, name ≠ d.word) ∧ fault.fault = .unknownVariant name)
  /-- The log level is the one that is written. -/
  level : ∀ s, r = .ok s → ∀ node, document.logLevel? = some node → node.text? = some s.logLevel
  /-- If none is written it is the one of warnings. -/
  levelDefault : ∀ s, r = .ok s → document.logLevel? = none → s.logLevel = "warn"
  /-- The decoding is the one that is written. -/
  decoding : ∀ s, r = .ok s → ∀ node, document.decoding? = some node →
    node.text? = some s.input.decoding.word
  /-- If none is written it is lossy. -/
  decodingDefault : ∀ s, r = .ok s → document.decoding? = none → s.input.decoding = .lossy

/-- Two nodes of a document decide on the settings, each on its own. Two sources that agree on them
give the same settings, or both give none. -/
theorem settings_of_two_nodes (source : String) (document : Entries)
    (hparse : parse? source = some document) (hconforms : document.Conforms) :
    Settings.ComesOf document (Settings.ofText source)
      ∧ ∀ (source' : String) (document' : Entries), parse? source' = some document' →
        document'.Conforms →
        document'.logLevel?.map Node.text? = document.logLevel?.map Node.text? →
        document'.decoding?.map Node.text? = document.decoding?.map Node.text? →
        (Settings.ofText source').toOption = (Settings.ofText source).toOption := by
  have hok (s : Settings) := ofText_eq_ok_iff hparse hconforms (s := s)
  refine ⟨⟨?succeeds, ?fails, ?level, ?levelDefault, ?decoding, ?decodingDefault⟩, ?same⟩
  case succeeds =>
    constructor
    · rintro ⟨s, hs⟩
      obtain ⟨hlevel, hdecoding⟩ := (hok s).1 hs
      refine ⟨fun node hnode => ⟨s.logLevel, ?_⟩, fun node hnode => ?_⟩
      · rw [hnode] at hlevel
        exact hlevel
      · rw [hnode] at hdecoding
        rw [show node.text? = some s.input.decoding.word from hdecoding]
        cases s.input.decoding with
        | lossy => exact .inl rfl
        | strict => exact .inr rfl
    · rintro ⟨hlevel, hdecoding⟩
      obtain ⟨level, hlevel'⟩ : ∃ level,
          (document.logLevel?.map Node.text?).getD (some "warn") = some level := by
        cases hnode : document.logLevel? with
        | none => exact ⟨"warn", rfl⟩
        | some node => exact hlevel node hnode
      obtain ⟨d, hdecoding'⟩ : ∃ d : Decoding,
          (document.decoding?.map Node.text?).getD (some "lossy") = some d.word := by
        cases hnode : document.decoding? with
        | none => exact ⟨.lossy, rfl⟩
        | some node =>
          rcases hdecoding node hnode with hlossy | hstrict
          · exact ⟨.lossy, hlossy⟩
          · exact ⟨.strict, hstrict⟩
      exact ⟨⟨level, ⟨d⟩⟩, (hok _).2 ⟨hlevel', hdecoding'⟩⟩
  case fails =>
    intro e he
    rw [ofText_eq hparse] at he
    cases herror : Settings.ofDocument document with
    | ok s =>
      rw [herror] at he
      cases he
    | error fault =>
      rw [herror] at he
      cases he
      exact ⟨source, fault, rfl, fault_of_ofDocument (distinct_of_parse? hparse) hconforms herror⟩
  case level =>
    intro s hs node hnode
    have hlevel := ((hok s).1 hs).1
    rw [hnode] at hlevel
    exact hlevel
  case levelDefault =>
    intro s hs hnone
    have hlevel := ((hok s).1 hs).1
    rw [hnone] at hlevel
    exact (Option.some.inj hlevel).symm
  case decoding =>
    intro s hs node hnode
    have hdecoding := ((hok s).1 hs).2
    rw [hnode] at hdecoding
    exact hdecoding
  case decodingDefault =>
    intro s hs hnone
    have hdecoding := ((hok s).1 hs).2
    rw [hnone] at hdecoding
    have hword : Decoding.lossy.word = s.input.decoding.word := Option.some.inj hdecoding
    exact (Decoding.word_injective hword).symm
  case same =>
    intro source' document' hparse' hconforms' hlevel hdecoding
    rw [toOption_ofText hparse' hconforms', toOption_ofText hparse hconforms, hlevel, hdecoding]

/-- The same settings in tables of other forms, among other keys, with other quotes, and in another
order. -/
theorem settings_of_two_nodes_in_any_order :
    let source := "a = [1]\n[runtime]\nlog_level = 'info'\ninput.decoding = 'strict'\n"
    let source' :=
      "runtime = \x7binput = \x7bb = 2, decoding = \"strict\"\x7d, log_level = \"info\"\x7d"
    ∃ document document', parse? source = some document ∧ document.Conforms
      ∧ parse? source' = some document' ∧ document'.Conforms
      ∧ (Settings.ofText source').toOption = (Settings.ofText source).toOption
      ∧ ∀ s, Settings.ofText source = .ok s → s.logLevel = "info" := by
  intro source source'
  let document := (parse? source).getD []
  let document' := (parse? source').getD []
  have hparse : parse? source = some document := by
    obtain ⟨found, hfound⟩ : ∃ found, parse? source = some found :=
      Option.isSome_iff_exists.1 (by decide +kernel)
    simp only [document, hfound, Option.getD_some]
  have hparse' : parse? source' = some document' := by
    obtain ⟨found, hfound⟩ : ∃ found, parse? source' = some found :=
      Option.isSome_iff_exists.1 (by decide +kernel)
    simp only [document', hfound, Option.getD_some]
  have hconforms : document.Conforms := by decide +kernel
  have hconforms' : document'.Conforms := by decide +kernel
  obtain ⟨hcomes, hsame⟩ := settings_of_two_nodes source document hparse hconforms
  refine ⟨document, document', hparse, hconforms, hparse', hconforms', ?_, fun s hs => ?_⟩
  · exact hsame source' document' hparse' hconforms' (by decide +kernel) (by decide +kernel)
  · obtain ⟨node, hnode, htext⟩ : ∃ node, document.logLevel? = some node
        ∧ node.text? = some "info" := Option.map_eq_some_iff.1 (by decide +kernel)
    have hlevel := hcomes.level s hs node hnode
    rw [htext] at hlevel
    exact (Option.some.inj hlevel).symm

end ScriptHost
