import ScriptHost.Text.CharClass
import ScriptHost.Text.Outline
import ScriptHost.Text.Unprintable
import ScriptHost.Text.Utf8

/-!
# Quoted texts

How an inspection shows a text: between double quotes, with escapes for whatever would not be
seen as itself. Byte sequences are shown the same way, a byte that belongs to no character by its
value.

* `Text.escapeChar` — one character.
* `Text.quote` — a text between quotes.
* `Text.escapeByte` — a byte outside the multi-byte characters.
* `Text.ByteText`, `Text.ByteText.quote` — byte sequences without a zero byte, and their form.
-/

namespace ScriptHost.Text

/-- Whether a character is shown by its code point: it has no visible form, or it would join the
one before. -/
def isHidden (c : Char) : Bool :=
  unprintable.contains c || fillers.contains c
    || (extending.contains c && !halfwidthMarks.contains c)

/-- A character by its code point. -/
def escapeCode (c : Char) : String := "\\u\x7b" ++ hexText c.toNat ++ "\x7d"

/-- A character within a quoted text. -/
def escapeChar (c : Char) : String :=
  if c == '\x00' then "\\0"
  else if c == '\t' then "\\t"
  else if c == '\r' then "\\r"
  else if c == '\n' then "\\n"
  else if c == '"' then "\\\""
  else if c == '\\' then "\\\\"
  else if isHidden c then escapeCode c
  else c.toString

/-- A text between double quotes. -/
def quote (s : String) : String :=
  "\"" ++ String.join (s.toList.map escapeChar) ++ "\""

instance : Inspect String := ⟨fun s => .atom (quote s)⟩
instance : Display String := ⟨id⟩

/-! ## Bytes -/

/-- A byte by its value, in two digits. -/
def escapeCodeByte (b : UInt8) : String :=
  "\\x" ++ String.ofList [Nat.digitChar (b.toNat / 16), Nat.digitChar (b.toNat % 16)]

/-- A byte within a quoted byte sequence. ASCII alone stands for itself, and not all of it. -/
def escapeByte (b : UInt8) : String :=
  if b == 0x09 then "\\t"
  else if b == 0x0D then "\\r"
  else if b == 0x0A then "\\n"
  else if b == 0x27 then "\\'"
  else if b == 0x22 then "\\\""
  else if b == 0x5C then "\\\\"
  else if 0x20 ≤ b && b < 0x7F then (Char.ofNat b.toNat).toString
  else escapeCodeByte b

/-- A segment of a byte sequence within quotes. -/
def Segment.escaped : Segment → String
  | .scalar c => if c.toNat < 0x80 then escapeByte c.toUInt8 else escapeChar c
  | .invalid bytes | .incomplete bytes => String.join (bytes.map escapeByte)

/-- A byte sequence that ends before its first zero byte. -/
structure ByteText where
  bytes : List UInt8
  deriving Repr, DecidableEq, Inhabited

namespace ByteText

/-- The bytes up to the first zero byte. -/
def upToZero (bytes : List UInt8) : ByteText := ⟨bytes.takeWhile (· != 0)⟩

/-- A byte sequence between double quotes. -/
def quote (t : ByteText) : String :=
  "\"" ++ String.join ((segments t.bytes).map Segment.escaped) ++ "\""

instance : Inspect ByteText := ⟨fun t => .atom t.quote⟩
instance : Display ByteText := ⟨fun t => decodeLossy t.bytes⟩

end ByteText

/-! ## Integers and numbers -/

instance : Inspect Int64 := ⟨fun n => .atom (toString n.toInt)⟩
instance : Display Int64 := ⟨fun n => toString n.toInt⟩

end ScriptHost.Text
