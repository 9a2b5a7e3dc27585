import ScriptHost.Log.Pattern

/-!
# Log events and filters

A filter is a list of directives separated by commas. Of the directives that speak of an event the
most specific one decides whether it is written; an event of which none speaks is not.

A directive is a level, a target, or a target and a level with an equals sign between. Behind the
target there may be brackets with the name of a span and, in braces, a field, perhaps with a value.
A directive speaks of the events whose target begins with its own and that have its field; it never
speaks of an event if it names a span or a value, since there are no spans.

* `Log.Level`, `Log.Event` — what happened, where, and how much it matters.
* `Log.Event.hasField`, `Log.Event.line` — the names by which an event can be told, and the line of
  an event.
* `Log.Directive`, `Log.Directive.parse?` — whom a directive speaks of, and what it lets through.
* `Log.Directive.speaksOf`, `Log.Directive.yieldsTo` — the events of a directive, and which of two
  directives is the more specific one.
* `Log.Filter`, `Log.Filter.parse?` — the directives.
* `Log.Filter.enables` — whether an event is written.
* `Log.Filter.ofSetting` — the filter of a log level, whatever is written there.
-/

namespace ScriptHost.Log

/-! ## Events -/

/-- How much an event matters. -/
inductive Level where
  | error
  | warn
  | info
  | debug
  | trace
  deriving Repr, DecidableEq

namespace Level

/-- How many levels matter at least as much. -/
def rank : Level → Nat
  | error => 1
  | warn => 2
  | info => 3
  | debug => 4
  | trace => 5

/-- A level at the head of a line, five characters wide. -/
def label : Level → String
  | error => "ERROR"
  | warn => " WARN"
  | info => " INFO"
  | debug => "DEBUG"
  | trace => "TRACE"

end Level

/-- What happened, in the part of the program that `target` names. -/
structure Event where
  level : Level
  target : String
  message : String
  fields : List (String × String)
  deriving Repr, DecidableEq

/-- Whether an event has a field. The message is one. -/
def Event.hasField (e : Event) (name : String) : Bool :=
  name == "message" || e.fields.any (·.1 == name)

/-- An event as a line of the log, without its time. -/
def Event.line (e : Event) : String :=
  e.level.label ++ " " ++ e.target ++ ": " ++ e.message
    ++ String.join (e.fields.map fun (name, value) => " " ++ name ++ "=" ++ value) ++ "\n"

/-! ## Directives -/

/-- Lets events of some rank through. -/
structure Directive where
  /-- How the target of an event must begin; without it any target will do. -/
  target : Option String
  /-- A field that an event must have; without it any fields will do. -/
  field : Option String
  /-- Whether the directive speaks only of what happens within a span: one that it names, or one
  with a value that it names. -/
  inSpan : Bool
  /-- The greatest rank of an event that is let through. -/
  rank : Nat
  deriving Repr, DecidableEq

/-! ### Levels -/

/-- The names of the levels, each in the place of its rank. -/
def levelNames : List String := ["off", "error", "warn", "info", "debug", "trace"]

/-- A rank in decimal digits, perhaps after a plus sign. -/
def rankOfDigits? (s : String) : Option Nat :=
  let digits := match s.toList with
    | '+' :: rest => rest
    | cs => cs
  if digits.isEmpty || !digits.all Char.isDigit then none
  else
    let n := digits.foldl (fun n c => n * 10 + (c.toNat - '0'.toNat)) 0
    if n < levelNames.length then some n else none

/-- The rank of a level, by its number or by its name in any case. -/
def rank? (s : String) : Option Nat :=
  rankOfDigits? s <|> levelNames.findIdx? (· == String.ofList (s.toList.map Char.toLower))

/-! ### Reading -/

/-- The bytes that characters take. -/
def width (cs : List Char) : Nat := cs.foldr (·.utf8Size + ·) 0

/-- The characters of the first `n` bytes, and the rest; nothing if there are fewer bytes or a
character lies across the end. -/
def cut? : List Char → Nat → Option (List Char × List Char)
  | cs, 0 => some ([], cs)
  | [], _ + 1 => none
  | c :: cs, n + 1 =>
    if c.utf8Size ≤ n + 1 then
      (cut? cs (n + 1 - c.utf8Size)).map fun (front, rest) => (c :: front, rest)
    else none

/-- What is left to read of a part of a filter. Places are counted in bytes and without the white
space around the part, while the text between two places is cut from the part with it. So white
space at the end belongs to the last piece, and white space at the start puts every piece off. -/
structure Remainder where
  /-- The part as it is written. -/
  part : List Char
  /-- How far it has been read. -/
  place : Nat
  /-- What is left, without the white space at the end. -/
  rest : List Char

namespace Remainder

/-- All of a part. -/
def ofPart (s : String) : Remainder := ⟨s.toList, 0, (Text.trim s).toList⟩

/-- The piece over the longest run of characters with a property. -/
def take? (r : Remainder) (p : Char → Bool) : Option (List Char × Remainder) := do
  let run := r.rest.takeWhile p
  let (_, tail) ← cut? r.part r.place
  let (piece, _) ← cut? tail (width run)
  return (piece, ⟨r.part, r.place + width run, r.rest.drop run.length⟩)

/-- What is left after a given character. -/
def skip? (r : Remainder) (c : Char) : Option Remainder :=
  match r.rest with
  | d :: rest => if d == c then some ⟨r.part, r.place + c.utf8Size, rest⟩ else none
  | [] => none

/-- The rank at the end of a directive. Where there is no level it is the last one. -/
def rank? (r : Remainder) : Option Nat := do
  if r.rest.isEmpty then return Level.trace.rank
  let r ← r.skip? '='
  let (_, level) ← cut? r.part r.place
  if level.isEmpty then return Level.trace.rank
  Log.rank? (String.ofList level)

/-- What the braces of a directive hold: a field, and whether it has a value. The value ends at a
second equals sign. -/
def field? (r : Remainder) : Option ((String × Bool) × Remainder) := do
  let (piece, r) ← (← r.skip? '\x7b').take? (· != '\x7d')
  let r ← r.skip? '\x7d'
  let name := String.ofList (piece.takeWhile (· != '='))
  match piece, piece.dropWhile (· != '=') with
  | [], _ => none
  | _, [] => some ((name, false), r)
  | _, _ :: value =>
    if Pattern.isValue (value.takeWhile (· != '=')) then some ((name, true), r) else none

/-- What the brackets of a directive hold: a field, and whether a span or a value is named. Brackets
without braces name a span, even when they are empty. -/
def scope? (r : Remainder) : Option ((Option String × Bool) × Remainder) := do
  let (span, r) ← (← r.skip? '[').take? fun c => c != ']' && c != '\x7b'
  if r.rest.head? == some ']' then return ((none, true), ← r.skip? ']')
  let ((name, hasValue), r) ← r.field?
  return ((some name, !span.isEmpty || hasValue), ← r.skip? ']')

end Remainder

namespace Directive

/-- Whether a directive may begin with a character. -/
def canBegin (c : Char) : Bool :=
  c == '[' || c == '-' || c == ':' || c == '_' || Text.alphanumeric.contains c

/-- Whether a character may stand in a level or a target. -/
def isWordChar (c : Char) : Bool := c != '=' && c != '['

/-- A part without brackets and equals signs: a level, or else a target. -/
def ofWord (s : String) : Directive :=
  match rank? s with
  | some rank => ⟨none, none, false, rank⟩
  | none => ⟨some s, none, false, Level.trace.rank⟩

/-- A part of a filter as a directive. -/
def parse? (s : String) : Option Directive := do
  let r := Remainder.ofPart s
  if !r.rest.head?.any canBegin then failure
  if r.rest.all isWordChar then return ofWord s
  let (word, r) ← r.take? isWordChar
  let target := if word.isEmpty then none else some (String.ofList word)
  if r.rest.head? == some '=' then return ⟨target, none, false, ← r.rank?⟩
  let ((field, inSpan), r) ← r.scope?
  return ⟨target, field, inSpan, ← r.rank?⟩

/-! ### Meaning -/

/-- Whether the directive speaks of an event. -/
def speaksOf (d : Directive) (e : Event) : Bool :=
  !d.inSpan && d.target.all (·.toList.isPrefixOf e.target.toList) && d.field.all e.hasField

/-- How much of a target the directive names. -/
def length (d : Directive) : Nat := d.target.elim 0 (·.utf8ByteSize + 1)

/-- Whether another directive is at least as specific, where both speak of one event: it names more
of the target, or as much and a field, or as much and a field that does not come before. -/
def yieldsTo (d other : Directive) : Bool :=
  d.length < other.length || d.length == other.length &&
    match d.field, other.field with
    | none, _ => true
    | some _, none => false
    | some field, some otherField => field ≤ otherField

end Directive

/-! ## Filters -/

/-- Directives in the order in which they were given. -/
structure Filter where
  directives : List Directive
  deriving Repr, DecidableEq

namespace Filter

/-- The more specific of two directives, the later one if they are equally so. -/
def prefer (best : Option Directive) (d : Directive) : Option Directive :=
  match best with
  | none => some d
  | some b => if b.yieldsTo d then some d else some b

/-- The directive that decides about an event. -/
def decisive? (f : Filter) (e : Event) : Option Directive :=
  (f.directives.filter (·.speaksOf e)).foldl prefer none

/-- Whether an event is written. -/
def enables (f : Filter) (e : Event) : Bool :=
  match f.decisive? e with
  | some d => e.level.rank ≤ d.rank
  | none => false

/-- The directives of a text. Empty parts do not count. -/
def parse? (s : String) : Option Filter := do
  let ds ← ((s.splitOn ",").filter (· != "")).mapM Directive.parse?
  return ⟨ds⟩

/-- The filter of warnings. -/
def warnings : Filter := ⟨[⟨none, none, false, Level.warn.rank⟩]⟩

/-- The filter of a log level. What is no filter stands for warnings. -/
def ofSetting (s : String) : Filter := (parse? s).getD warnings

end Filter

end ScriptHost.Log
