import ScriptHost.Number.Basic
import ScriptHost.Stream.Reading
import ScriptHost.Text.CharClass
import ScriptHost.Text.Outline
import ScriptHost.Text.Quoted
import ScriptHost.Toml.Node

/-!
# Settings

Only the table `runtime` of a document matters, and of it only two settings; whatever else there
is may have any form. The first wrong setting in the order of the document is reported.

* `InputSettings`, `Settings` — what can be configured, with defaults.
* `Settings.overrideLog` — the settings with another log level.
* `SchemaFault` — what is wrong with a setting.
* `SchemaError` — a fault and where it is.
* `Settings.ofDocument` — the settings of a document.
-/

namespace ScriptHost

open Text Toml

/-- How input is read. -/
structure InputSettings where
  decoding : Decoding := .lossy
  deriving Repr, DecidableEq

/-- What can be configured. -/
structure Settings where
  /-- Which log events are written. -/
  logLevel : String := "warn"
  input : InputSettings := {}
  deriving Repr, DecidableEq

namespace Settings

/-- The settings with the log level of the environment. Blank text is no level. -/
def overrideLog (s : Settings) (level : Option String) : Settings :=
  match level with
  | some l => if isBlank l then s else { s with logLevel := l }
  | none => s

instance : Inspect Settings :=
  ⟨fun s => .fields "RuntimeConfig"
    [("log_level", Inspect.outline s.logLevel),
     ("input", .fields "InputConfig" [("decoding", .atom s.input.decoding.name)])]⟩

end Settings

/-! ## Wrong settings -/

/-- What is wrong with a setting. -/
inductive SchemaFault where
  | wrongType (found expected : String)
  | unknownVariant (name : String)
  | notStringOrTable
  | noVariant
  | manyVariants
  | contentOfVariant (expected : String)
  | notTable (found : String)
  deriving Repr, DecidableEq

/-- The wording of a fault. -/
def SchemaFault.message : SchemaFault → String
  | wrongType found expected => "invalid type: " ++ found ++ ", expected " ++ expected
  | unknownVariant name =>
    "unknown variant \x60" ++ name ++ "\x60, expected \x60lossy\x60 or \x60strict\x60"
  | notStringOrTable => "wanted string or table"
  | noVariant => "wanted exactly 1 element, found 0 elements"
  | manyVariants => "wanted exactly 1 element, more than 1 element"
  | contentOfVariant expected => "expected " ++ expected
  | notTable found => "expected table, found " ++ found

/-- A fault and where it is, as far as that is known. -/
structure SchemaError where
  fault : SchemaFault
  span : Option Span
  deriving Repr, DecidableEq

namespace SchemaError

/-- Gives an error a place if it has none. -/
def orAt (e : SchemaError) (span : Option Span) : SchemaError :=
  { e with span := e.span <|> span }

end SchemaError

/-- A reading of a node. -/
abbrev Schema (α : Type) := Except SchemaError α

namespace Schema

/-- Gives an error a place if it has none. -/
def located {α : Type} (span : Option Span) (r : Schema α) : Schema α :=
  r.mapError (·.orAt span)

/-- A fault without a place. -/
def fault {α : Type} (f : SchemaFault) : Schema α := .error ⟨f, none⟩

end Schema

/-! ## What is found -/

/-- A float in positional notation, with a decimal point. -/
def floatText (x : Number) : String := x.render ⟨fun _ => false, true⟩

/-- Words between grave accents. -/
def accented (s : String) : String := "\x60" ++ s ++ "\x60"

/-- A leaf as an error names it. -/
def Toml.Leaf.found : Leaf → String
  | string s => "string " ++ Text.quote s
  | integer n => "integer " ++ accented (toString n.toInt)
  | float x => "floating point " ++ accented (floatText x)
  | boolean b => "boolean " ++ accented (if b then "true" else "false")
  | moment => "map"

/-- A node as an error names it. -/
def Toml.Node.found : Node → String
  | leaf value _ => value.found
  | array _ _ | tables _ => "sequence"
  | table _ _ _ => "map"

/-- The kind of a leaf. -/
def Toml.Leaf.kind : Leaf → String
  | string _ => "string"
  | integer _ => "integer"
  | float _ => "float"
  | boolean _ => "boolean"
  | moment => "datetime"

/-! ## Settings -/

namespace Schema

/-- A string. -/
def string (node : Node) : Schema String :=
  match node with
  | .leaf (.string s) _ => .ok s
  | _ => Schema.located node.span? (fault (.wrongType node.found "a string"))

/-- A decoding by its name. -/
def decodingNamed (name : String) : Schema Decoding :=
  match name with
  | "lossy" => .ok .lossy
  | "strict" => .ok .strict
  | _ => fault (.unknownVariant name)

/-- What a variant written as a key must have for a value: an empty table. -/
def emptyContent (node : Node) : Schema Unit :=
  Schema.located node.span? <|
    match node with
    | .table _ [] _ | .array [] _ | .tables [] => .ok ()
    | .table _ _ _ | .array _ _ => fault (.contentOfVariant "empty table")
    | .tables _ => fault (.contentOfVariant "empty array")
    | .leaf value _ => fault (.notTable value.kind)

/-- A decoding: its name, or a table with its name as the only key and an empty table in it. -/
def decoding (node : Node) : Schema Decoding :=
  Schema.located node.span? <|
    match node with
    | .leaf (.string s) _ => decodingNamed s
    | .table _ [] _ => fault .noVariant
    | .table _ [(k, content)] _ => do
      let d ← Schema.located (some k.span) (decodingNamed k.name)
      emptyContent content
      return d
    | .table _ _ _ => fault .manyVariants
    | _ => fault .notStringOrTable

/-- Reads the entries of a table in order. `field` takes what is read so far, a key and its
node. -/
def entries {α : Type} (field : α → String → Node → Schema α) (start : α) :
    Entries → Schema α
  | [] => .ok start
  | (k, node) :: rest => do
    let a ← Schema.located (node.span? <|> some k.span) (field start k.name node)
    entries field a rest

/-- Reads a structure: a table by its keys, an array by the places of its items, and a date as a
table without any known key. `names` are the keys in the order of the places. -/
def structured {α : Type} (name : String) (names : List String)
    (field : α → String → Node → Schema α) (start : α) (node : Node) : Schema α :=
  Schema.located node.span? <|
    match node with
    | .table _ es _ => entries field start es
    | .array items _ | .tables items =>
      (names.zip items).foldlM (fun a (key, item) => field a key item) start
    | .leaf .moment _ => .ok start
    | .leaf value _ => fault (.wrongType value.found ("struct " ++ name))

/-- One setting of the input. -/
def inputField (s : InputSettings) (key : String) (node : Node) : Schema InputSettings :=
  if key == "decoding" then return { s with decoding := ← decoding node } else .ok s

/-- The settings of the input. -/
def input (node : Node) : Schema InputSettings :=
  structured "InputConfig" ["decoding"] inputField {} node

/-- One setting. -/
def settingsField (s : Settings) (key : String) (node : Node) : Schema Settings :=
  if key == "log_level" then return { s with logLevel := ← string node }
  else if key == "input" then return { s with input := ← input node }
  else .ok s

/-- The settings. -/
def settings (node : Node) : Schema Settings :=
  structured "RuntimeConfig" ["log_level", "input"] settingsField {} node

end Schema

/-- The settings of a document. -/
def Settings.ofDocument (document : Entries) : Schema Settings :=
  match document.find? "runtime" with
  | some (k, node) => Schema.located (node.span? <|> some k.span) (Schema.settings node)
  | none => .ok {}

end ScriptHost
