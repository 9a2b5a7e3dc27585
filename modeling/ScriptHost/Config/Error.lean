import ScriptHost.Config.Schema
import ScriptHost.IoError
import ScriptHost.Toml.Document

/-!
# Configuration errors

* `Excerpt` — the line of a source that an error points at, and what it marks in it.
* `ConfigError`, `ConfigError.messageWith` — why there are no settings, and how that is worded.
* `Settings.ofText` — the settings that a source writes.
-/

namespace ScriptHost

open Toml

/-! ## Excerpts -/

/-- A line of a source and a stretch of it. -/
structure Excerpt where
  /-- The number of the line, from one. -/
  line : Nat
  /-- The number of characters in the line before the stretch. -/
  column : Nat
  /-- The line, without its line feed. -/
  content : List Char
  /-- The length of the stretch in bytes; it may go past the line. -/
  length : Nat

/-- The number of bytes of characters. -/
def byteLength (cs : List Char) : Nat := cs.foldr (·.utf8Size + ·) 0

namespace Excerpt

/-- The excerpt of a source at a span. -/
def of (source : String) (span : Span) : Excerpt :=
  let cs := source.toList
  let before := cs.take span.start
  let lineStart := (before.reverse.takeWhile (· != '\n')).reverse
  { line := before.count '\n' + 1
    column := lineStart.length
    content := lineStart ++ (cs.drop span.start).takeWhile (· != '\n')
    length := byteLength ((cs.drop span.start).take (span.stop - span.start)) }

/-- How many marks stand under the stretch: one for each byte of it, as far as the line has bytes
for them, and at least one. -/
def marks (x : Excerpt) : Nat :=
  max 1 (min x.length (byteLength x.content - x.column))

/-- The excerpt with its place, its line and the marks under it. -/
def render (x : Excerpt) : String :=
  let number := toString x.line
  let gutter := String.ofList (List.replicate (number.length + 1) ' ')
  "TOML parse error at line " ++ number ++ ", column " ++ toString (x.column + 1) ++ "\n"
    ++ gutter ++ "|\n"
    ++ number ++ " | " ++ String.ofList x.content ++ "\n"
    ++ gutter ++ "|" ++ String.ofList (List.replicate (x.column + 1) ' ')
    ++ String.ofList (List.replicate x.marks '^') ++ "\n"

end Excerpt

/-! ## Errors -/

/-- Why there are no settings. -/
inductive ConfigError where
  /-- A file cannot be read. -/
  | read (path : List UInt8) (e : IoError)
  /-- A source writes no document. -/
  | malformed {source : String}
  /-- A document has a wrong setting. -/
  | schema (source : String) (e : SchemaError)

/-- The wording of an error. What is wrong with a source that writes no document is for the parser
to say: `syntaxText` is its wording. -/
def ConfigError.messageWith (syntaxText : String → String) : ConfigError → String
  | read path e => "Failed to read config at " ++ Text.decodeLossy path ++ ": " ++ e.message
  | @malformed source => "TOML parse error: " ++ syntaxText source
  | schema source e =>
    "TOML parse error: " ++ e.span.elim "" (fun span => (Excerpt.of source span).render)
      ++ e.fault.message ++ "\n"

/-- The wording of an error, without what only the parser can say. -/
def ConfigError.message (e : ConfigError) : String := e.messageWith fun _ => ""

/-- The settings that a source writes. -/
def Settings.ofText (source : String) : Except ConfigError Settings :=
  match Toml.parse? source with
  | none => .error (@ConfigError.malformed source)
  | some document => (Settings.ofDocument document).mapError (.schema source)

end ScriptHost
