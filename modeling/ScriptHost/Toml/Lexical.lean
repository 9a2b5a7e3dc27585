import ScriptHost.Text.CharClass
import ScriptHost.Toml.Scan

/-!
# Blanks, comments and strings

* `Toml.blanks`, `Toml.lineEnd`, `Toml.restOfLine`, `Toml.layout` — what stands between values.
* `Toml.stringValue` — the four kinds of strings.
* `Toml.key`, `Toml.dottedKey` — keys.
-/

namespace ScriptHost.Toml

open Scan

/-! ## Blanks and comments -/

/-- Spaces and tabs. -/
def isBlank (c : Char) : Bool := c == ' ' || c == '\t'

/-- Any run of spaces and tabs. -/
def blanks : Scan Unit := do
  let _ ← takeWhile isBlank

/-- A line feed, perhaps after a carriage return. -/
def lineEnd : Scan Unit := word "\n" <|> word "\r\n"

/-- Any character but the controls; a tab is none. -/
def isVisible (c : Char) : Bool := c == '\t' || (' ' ≤ c && c != '\x7f')

/-- A comment, up to the end of its line. -/
def comment : Scan Unit := do
  char '#'
  let _ ← takeWhile isVisible

/-- What may follow something that must stand last on its line. -/
def restOfLine : Scan Unit := do
  blanks
  let _ ← optional comment
  lineEnd <|> atEnd

/-- Blanks, line ends, and comments with their line ends. -/
def layout : Scan Unit := do
  let _ ← repeated do
    let run ← takeWhile isBlank
    let c ← optional do
      let _ ← optional comment
      lineEnd
    if run.isEmpty && c.isNone then failure else pure ()

/-! ## Strings -/

/-- The number of exactly `n` hexadecimal digits, after `value`. -/
def hexDigits : Nat → Nat → Scan Nat
  | 0, value => pure value
  | n + 1, value => do
    let c ← satisfying fun c => (Text.hexValue? c).isSome
    hexDigits n (value * 16 + (Text.hexValue? c).getD 0)

/-- A character by its code point, in `n` digits. Surrogates are no characters. -/
def codePoint (n : Nat) : Scan Char := do
  let value ← hexDigits n 0
  if value.isValidChar then pure (Char.ofNat value) else failure

/-- The character of an escape, after the backslash. -/
def escaped : Scan Char := do
  match ← satisfying fun _ => true with
  | 'b' => pure '\x08'
  | 't' => pure '\t'
  | 'n' => pure '\n'
  | 'f' => pure '\x0c'
  | 'r' => pure '\r'
  | '"' => pure '"'
  | '\\' => pure '\\'
  | 'u' => codePoint 4
  | 'U' => codePoint 8
  | _ => failure

/-- A character that stands for itself in a string with escapes. -/
def isPlain (c : Char) : Bool := isVisible c && c != '"' && c != '\\'

/-- A character that stands for itself in a string without escapes. -/
def isLiteral (c : Char) : Bool := isVisible c && c != '\''

/-- A string with escapes, on one line. -/
def basicString : Scan String := do
  char '"'
  let runs ← repeated (takeWhile1 isPlain <|> do
    char '\\'
    pure [← escaped])
  char '"'
  pure (String.ofList runs.flatten)

/-- A string without escapes, on one line. -/
def literalString : Scan String := do
  char '\''
  let run ← takeWhile isLiteral
  char '\''
  pure (String.ofList run)

/-- One or two quotes that more content follows. -/
def innerQuotes (quote : Char) : Scan (List Char) := do
  let run ← takeWhile1 (· == quote)
  if run.length ≤ 2 then pure run else failure

/-- The end of a string of several lines: three quotes, and up to two before them that belong to
the content. -/
def closingQuotes (quote : Char) : Scan (List Char) := do
  let run ← takeWhile (· == quote)
  if 3 ≤ run.length && run.length ≤ 5 then pure (run.drop 3) else failure

/-- A backslash at the end of a line hides the line end and the white space after it. -/
def hiddenLineEnd : Scan (List Char) := do
  char '\\'
  blanks
  lineEnd
  let _ ← repeated ((do let _ ← takeWhile1 isBlank) <|> lineEnd)
  pure []

/-- A line end within a string, which counts as a line feed. -/
def innerLineEnd : Scan (List Char) := do
  lineEnd
  pure ['\n']

/-- A string of several lines with the given kinds of content. A line end right after the opening
quotes does not belong to it. -/
def longString (quote : Char) (content : Scan (List Char)) : Scan String := do
  wordOf [quote, quote, quote]
  let _ ← optional lineEnd
  let runs ← repeated (content <|> innerLineEnd <|> innerQuotes quote)
  let last ← closingQuotes quote
  pure (String.ofList (runs.flatten ++ last))

/-- A string with escapes, on several lines. -/
def longBasicString : Scan String :=
  longString '"' (takeWhile1 isPlain <|> hiddenLineEnd <|> do
    char '\\'
    pure [← escaped])

/-- A string without escapes, on several lines. -/
def longLiteralString : Scan String := longString '\'' (takeWhile1 isLiteral)

/-- Whether three quotes of the given kind come next. -/
def startsLong (quote : Char) : Scan Bool := fun s =>
  some (s.rest.take 3 == [quote, quote, quote], s)

/-- A string of any kind. -/
def stringValue : Scan String := do
  match ← peek? with
  | some '"' => if ← startsLong '"' then longBasicString else basicString
  | some '\'' => if ← startsLong '\'' then longLiteralString else literalString
  | _ => failure

/-! ## Keys -/

/-- A character of a key without quotes. -/
def isBare (c : Char) : Bool := c.isAlphanum || c == '_' || c == '-'

/-- A key: quoted on one line, or bare. -/
def key : Scan Key := do
  let (name, span) ← spanned (basicString <|> literalString <|> do
    pure (String.ofList (← takeWhile1 isBare)))
  pure ⟨name, span⟩

/-- Keys have fewer parts, and brackets are nested less deeply, than this. -/
def nestingLimit : Nat := 80

/-- Keys with dots between them, and blanks around each. -/
def dottedKey : Scan (List Key) := do
  let keys ← separated1 (do
    blanks
    let k ← key
    blanks
    pure k) (char '.')
  if keys.length < nestingLimit then pure keys else failure

end ScriptHost.Toml
