import ScriptHost.IoError
import ScriptHost.Text.Utf8

/-!
# Reading input

Input is read to its end and then turned into a text.

* `Delivery`, `readToEnd` — what a reader hands out, and all of its bytes.
* `Decoding` — how bytes become a text.
* `ReadError` — why there is no text.
* `Decoding.decode`, `Decoding.read` — bytes, and a reader, as a text.
* `CountedBytes` — a text as compiled code receives it.
-/

namespace ScriptHost

/-- What a reader hands out when it is asked for more. -/
inductive Delivery where
  | bytes (b : List UInt8)
  /-- Asking again helps. -/
  | interrupted
  | failure (e : IoError)

/-- All bytes that a reader hands out. A failure loses those before it. -/
def readToEnd : List Delivery → Except IoError (List UInt8)
  | [] => .ok []
  | .bytes b :: rest => (readToEnd rest).map (b ++ ·)
  | .interrupted :: rest => readToEnd rest
  | .failure e :: _ => .error e

/-- How bytes become a text. -/
inductive Decoding where
  /-- Every fault becomes a replacement character. -/
  | lossy
  /-- A fault is an error. -/
  | strict
  deriving Repr, DecidableEq, Inhabited

/-- The word for a decoding in a configuration. -/
def Decoding.word : Decoding → String
  | lossy => "lossy"
  | strict => "strict"

/-- The name of a decoding under inspection. -/
def Decoding.name : Decoding → String
  | lossy => "Lossy"
  | strict => "Strict"

/-- Why reading gave no text. -/
inductive ReadError where
  | io (e : IoError)
  | decode (e : Text.DecodeError)
  deriving Repr, DecidableEq

/-- The wording of a read error. -/
def ReadError.message : ReadError → String
  | io e => e.message
  | decode e => "input is not valid UTF-8: " ++ e.message

namespace Decoding

/-- The text of bytes. -/
def decode : Decoding → List UInt8 → Except ReadError String
  | lossy, bytes => .ok (Text.decodeLossy bytes)
  | strict, bytes => (Text.decodeStrict bytes).mapError .decode

/-- The text that a reader delivers. -/
def read (d : Decoding) (reader : List Delivery) : Except ReadError String :=
  match readToEnd reader with
  | .ok bytes => d.decode bytes
  | .error e => .error (.io e)

end Decoding

/-- Bytes with their number, since a zero byte does not end them. -/
structure CountedBytes where
  bytes : List UInt8
  length : Nat

/-- The bytes of a text. -/
def CountedBytes.ofText (s : String) : CountedBytes := ⟨Text.encode s, (Text.encode s).length⟩

/-- What is said on standard error when input cannot be read. -/
def ReadError.report (e : ReadError) : String :=
  "Error reading input from user -- " ++ e.message

end ScriptHost
