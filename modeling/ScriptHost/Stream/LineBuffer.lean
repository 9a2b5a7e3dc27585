import ScriptHost.Stream.Sink

/-!
# Line buffers

Standard output is written line by line: what belongs to an unfinished line is kept back until
the line ends, the buffer is full, or a flush is asked for. What cannot be passed on stays in the
buffer.

* `LineBuffer` — the bytes kept back, and the sink behind them.
* `LineBuffer.passOn` — empties the buffer into the sink.
* `LineBuffer.keep` — bytes that end no line.
* `LineBuffer.write` — any bytes.
-/

namespace ScriptHost

/-- A sink with a buffer before it. -/
structure LineBuffer where
  pending : List UInt8 := []
  sink : Sink := {}

namespace LineBuffer

/-- The most bytes that are kept back. -/
def capacity : Nat := 1024

/-- The byte that ends a line. -/
def lineFeed : UInt8 := 0x0A

/-- Empties the buffer into the sink. -/
def passOn (b : LineBuffer) : Option IoError × LineBuffer :=
  match b.sink.writeAll b.pending with
  | (none, sink) => (none, ⟨[], sink⟩)
  | (some e, sink) => (some e, { b with sink })

/-- Writes bytes to the sink, past the buffer. -/
def writeThrough (b : LineBuffer) (bytes : List UInt8) : Option IoError × LineBuffer :=
  let (e, sink) := b.sink.writeAll bytes
  (e, { b with sink })

/-- Keeps bytes back where there is room for them. What does not fit makes room by passing on
what was there, and what would fill the buffer goes past it. -/
def keep (b : LineBuffer) (bytes : List UInt8) : Option IoError × LineBuffer :=
  let place (b : LineBuffer) : Option IoError × LineBuffer :=
    if capacity ≤ bytes.length then b.writeThrough bytes
    else (none, { b with pending := b.pending ++ bytes })
  if b.pending.length + bytes.length ≤ capacity then place b
  else
    match b.passOn with
    | (none, b') => place b'
    | failed => failed

/-- Bytes up to their last line end, and those after it. -/
def splitLines (bytes : List UInt8) : List UInt8 × List UInt8 :=
  let tail := (bytes.reverse.takeWhile (· != lineFeed)).reverse
  (bytes.take (bytes.length - tail.length), tail)

/-- Passes on a line that ended without having been passed on. -/
def passOnLine (b : LineBuffer) : Option IoError × LineBuffer :=
  if b.pending.getLast? == some lineFeed then b.passOn else (none, b)

/-- Passes on the ends of lines, and keeps back the rest. -/
def write (b : LineBuffer) (bytes : List UInt8) : Option IoError × LineBuffer :=
  let (lines, tail) := splitLines bytes
  let ended :=
    if lines.isEmpty then b.passOnLine
    else if b.pending.isEmpty then b.writeThrough lines
    else
      match b.keep lines with
      | (none, b') => b'.passOn
      | failed => failed
  match ended with
  | (none, b') => b'.keep tail
  | failed => failed

/-- Passes on everything and flushes the sink. -/
def flush (b : LineBuffer) : Option IoError × LineBuffer :=
  match b.passOn with
  | (none, b') =>
    let (e, sink) := b'.sink.flush
    (e, { b' with sink })
  | failed => failed

end LineBuffer

instance : Outlet LineBuffer where
  put b s := b.write (Text.encode s)
  flush := LineBuffer.flush

end ScriptHost
