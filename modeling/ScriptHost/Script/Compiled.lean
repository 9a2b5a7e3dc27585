import ScriptHost.Script.Behavior

/-!
# Compiled code

Compiled code has no values. It hands bytes or a number to a function that it knows by name, which
goes by the streams that the thread is bound to, and it learns from a status whether that went
through. What it reads comes as bytes with their number.

* `RawItem` — what compiled code hands over, and the argument that it stands for.
* `RawPrinter` — a function that compiled code prints with.
* `RawPrinter.printlnStr`, `RawPrinter.printStr`, ... — the six of them.
* `Session.readCounted` — input for compiled code.
-/

namespace ScriptHost.Script

/-- What compiled code may hand to a stream: bytes, if any, or a number. -/
inductive RawItem where
  | bytes (b : Option (List UInt8))
  | number (x : Number)

/-- The item of compiled code as an argument. Bytes count up to the first zero byte; no bytes at
all are the empty text. -/
def RawItem.arg : RawItem → Arg
  | bytes none => .text ""
  | bytes (some b) => .text (Text.decodeLossy (Text.ByteText.upToZero b).bytes)
  | number x => .numeric x

/-- A function that compiled code prints with: the name by which it is found, the stream on which
it prints, and what it makes of what it is handed. -/
structure RawPrinter (α : Type) where
  name : String
  stream : Stream
  item : α → RawItem

namespace RawPrinter

/-- A function that prints bytes. -/
def str (name : String) (stream : Stream) : RawPrinter (Option (List UInt8)) :=
  ⟨name, stream, .bytes⟩

/-- A function that prints a number. -/
def number (name : String) (stream : Stream) : RawPrinter Number := ⟨name, stream, .number⟩

def printlnStr : RawPrinter (Option (List UInt8)) := str "tea_println_str" .println

def printStr : RawPrinter (Option (List UInt8)) := str "tea_print_str" .print

def eprintlnStr : RawPrinter (Option (List UInt8)) := str "tea_eprintln_str" .eprintln

def eprintStr : RawPrinter (Option (List UInt8)) := str "tea_eprint_str" .eprint

def printlnNumber : RawPrinter Number := number "tea_println_number" .println

def printNumber : RawPrinter Number := number "tea_print_number" .print

/-- The functions that print bytes. -/
def strs : List (RawPrinter (Option (List UInt8))) :=
  [printlnStr, printStr, eprintlnStr, eprintStr]

/-- The functions that print a number. On standard error there are none. -/
def numbers : List (RawPrinter Number) := [printlnNumber, printNumber]

end RawPrinter

/-- The text that a reader delivers, for compiled code. -/
def Session.readCounted (s : Session) (reader : List Delivery) : CountedBytes × Session :=
  let (text, s') := s.read reader
  (.ofText text, s')

end ScriptHost.Script
