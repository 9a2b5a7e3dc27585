/-!
# UTF-8

Bytes are cut into segments: characters, and stretches that can be part of no character. A faulty
stretch is as long as it agrees with the beginning of some character and no longer, so what
follows it is read afresh.

* `Text.encode` — the bytes of a text.
* `Text.Segment` — a character, a faulty stretch, or a character that the end of input cuts off.
* `Text.segments` — the segments of a byte sequence.
* `Text.decodeLossy` — a text from any bytes, with a replacement character for each fault.
* `Text.decodeStrict` — a text from well-formed bytes, or the first fault.
-/

namespace ScriptHost.Text

/-- The UTF-8 bytes of a text. -/
def encode (s : String) : List UInt8 := s.toList.flatMap String.utf8EncodeChar

/-! ## Segments -/

/-- One stretch of a byte sequence. -/
inductive Segment where
  /-- The encoding of a character. -/
  | scalar (c : Char)
  /-- Bytes that begin a character, perhaps, but do not go on as it must. -/
  | invalid (bytes : List UInt8)
  /-- Bytes that begin a character, at the end of the input. -/
  | incomplete (bytes : List UInt8)
  deriving Repr, DecidableEq

/-- The bytes that may follow in a character after its first two: `0x80` to `0xBF`. -/
def isContinuation (b : UInt8) : Bool := 0x80 ≤ b && b ≤ 0xBF

/-- The number of bytes after the first, and the range of the second byte, for each byte that
can begin a character of more than one byte. The ranges leave out longer encodings of smaller
characters, surrogates, and what lies beyond the last character. -/
def leadOf? (b : UInt8) : Option (Nat × UInt8 × UInt8) :=
  if 0xC2 ≤ b && b ≤ 0xDF then some (1, 0x80, 0xBF)
  else if b == 0xE0 then some (2, 0xA0, 0xBF)
  else if b == 0xED then some (2, 0x80, 0x9F)
  else if 0xE1 ≤ b && b ≤ 0xEF then some (2, 0x80, 0xBF)
  else if b == 0xF0 then some (3, 0x90, 0xBF)
  else if 0xF1 ≤ b && b ≤ 0xF3 then some (3, 0x80, 0xBF)
  else if b == 0xF4 then some (3, 0x80, 0x8F)
  else none

/-- The six bits that a byte after the first carries. -/
def payload (b : UInt8) : Nat := b.toNat % 64

/-- The bits that the first byte carries when `n` bytes follow it. -/
def leadPayload (n : Nat) (b : UInt8) : Nat := b.toNat % Nat.pow 2 (6 - n)

/-- Reads `n` more bytes of a character. `seen` holds its bytes so far, the last one first, and
`code` their bits. -/
def continueScalar : Nat → List UInt8 → Nat → List UInt8 → Segment × List UInt8
  | 0, _, code, rest => (.scalar (Char.ofNat code), rest)
  | _ + 1, seen, _, [] => (.incomplete seen.reverse, [])
  | n + 1, seen, code, b :: rest =>
    if isContinuation b then continueScalar n (b :: seen) (code * 64 + payload b) rest
    else (.invalid seen.reverse, b :: rest)

/-- The first segment of a byte sequence that begins with `b`, and the bytes after it. -/
def firstSegment (b : UInt8) (rest : List UInt8) : Segment × List UInt8 :=
  if b < 0x80 then (.scalar (Char.ofNat b.toNat), rest)
  else
    match leadOf? b, rest with
    | none, _ => (.invalid [b], rest)
    | some _, [] => (.incomplete [b], [])
    | some (n, low, high), b₂ :: rest₂ =>
      if low ≤ b₂ && b₂ ≤ high then
        continueScalar (n - 1) [b₂, b] (leadPayload n b * 64 + payload b₂) rest₂
      else (.invalid [b], rest)

theorem continueScalar_length_le (n : Nat) (seen : List UInt8) (code : Nat) (rest : List UInt8) :
    (continueScalar n seen code rest).2.length ≤ rest.length := by
  fun_induction continueScalar n seen code rest <;> simp_all
  omega

theorem firstSegment_length_le (b : UInt8) (rest : List UInt8) :
    (firstSegment b rest).2.length ≤ rest.length := by
  unfold firstSegment
  split
  · simp
  · split
    · simp
    · simp
    · split
      · exact Nat.le_succ_of_le (continueScalar_length_le ..)
      · simp

/-- The segments of a byte sequence, in order. -/
def segments : List UInt8 → List Segment
  | [] => []
  | b :: rest =>
    match h : firstSegment b rest with
    | (s, rest') =>
      have : rest'.length ≤ rest.length := by
        have := firstSegment_length_le b rest
        simpa [h] using this
      s :: segments rest'
termination_by bytes => bytes.length
decreasing_by simp only [List.length_cons]; omega

/-! ## Decoding -/

/-- Stands in a text for each faulty stretch. -/
def replacement : Char := '\uFFFD'

/-- A segment in a text that may have faults. -/
def Segment.lossy : Segment → Char
  | .scalar c => c
  | .invalid _ | .incomplete _ => replacement

/-- The text of any bytes. -/
def decodeLossy (bytes : List UInt8) : String :=
  String.ofList ((segments bytes).map Segment.lossy)

/-- Why bytes are not a text. -/
inductive DecodeError where
  /-- The bytes from `index` on begin with `length` bytes that no character begins with, the
  last of them aside. -/
  | invalid (index length : Nat)
  /-- The input ends within the character that begins at `index`. -/
  | incomplete (index : Nat)
  deriving Repr, DecidableEq

/-- The wording of a decoding error. -/
def DecodeError.message : DecodeError → String
  | .invalid index length =>
    s!"invalid utf-8 sequence of {length} bytes from index {index}"
  | .incomplete index => s!"incomplete utf-8 byte sequence from index {index}"

/-- The characters of segments without a fault, or the first fault. `index` is the number of
bytes before the segments. -/
def charactersFrom (index : Nat) : List Segment → Except DecodeError (List Char)
  | [] => .ok []
  | .scalar c :: rest =>
    (charactersFrom (index + (String.utf8EncodeChar c).length) rest).map (c :: ·)
  | .invalid bytes :: _ => .error (.invalid index bytes.length)
  | .incomplete _ :: _ => .error (.incomplete index)

/-- The text of well-formed bytes. -/
def decodeStrict (bytes : List UInt8) : Except DecodeError String :=
  (charactersFrom 0 (segments bytes)).map String.ofList

end ScriptHost.Text
