import ScriptHost.Stream.Basic
import ScriptHost.Text.Utf8

/-!
# Sinks

A sink collects bytes in memory and behaves as badly as it is told to: it may have room for so
many bytes only, take few bytes at a time, be interrupted, and fail to flush.

* `Sink` — what a sink is told, and what it has taken.
* `Sink.room` — how many bytes it still takes.
* `Sink.attempt` — one attempt to write.
* `Sink.writeAll` — attempts until all is written or one fails.
-/

namespace ScriptHost

/-- A collector of bytes. -/
structure Sink where
  /-- The most bytes it ever takes. -/
  limit : Option Nat := none
  /-- The most bytes it takes in one attempt. -/
  chunk : Option Nat := none
  /-- How many attempts will still be interrupted. -/
  interrupts : Nat := 0
  /-- What it says when it is full. A sink without words for it takes nothing then. -/
  fullError : Option IoError := none
  /-- What it says whenever it is flushed. -/
  flushError : Option IoError := none
  /-- What it has taken. -/
  accepted : List UInt8 := []
  /-- How often it was flushed. -/
  flushes : Nat := 0

namespace Sink

/-- How many bytes the sink still takes, if there is a limit. -/
def room (k : Sink) : Option Nat := k.limit.map (· - k.accepted.length)

/-- What comes of one attempt. -/
inductive Attempt where
  | interrupted
  | refused (e : IoError)
  | took (n : Nat)
  deriving Repr, DecidableEq

/-- The least of a number and a bound, if there is one. -/
def capped (n : Nat) : Option Nat → Nat
  | some m => min n m
  | none => n

/-- One attempt to write bytes. -/
def attempt (k : Sink) (bytes : List UInt8) : Attempt :=
  if 0 < k.interrupts then .interrupted
  else
    match k.room, k.fullError with
    | some 0, some e => .refused e
    | room, _ => .took (capped (capped bytes.length room) k.chunk)

/-- Writes bytes, trying again after an interruption and going on after a partial success. An
attempt that takes nothing counts as a failure. -/
def writeAll (k : Sink) (bytes : List UInt8) : Option IoError × Sink :=
  match bytes with
  | [] => (none, k)
  | b :: rest =>
    match _h : k.attempt (b :: rest) with
    | .interrupted => writeAll { k with interrupts := k.interrupts - 1 } (b :: rest)
    | .refused e => (some e, k)
    | .took 0 => (some .shortWrite, k)
    | .took (n + 1) =>
      writeAll { k with accepted := k.accepted ++ (b :: rest).take (n + 1) } (rest.drop n)
termination_by k.interrupts + bytes.length
decreasing_by
  · have : 0 < k.interrupts := by
      unfold attempt at _h
      split at _h
      · assumption
      · split at _h <;> simp at _h
    simp only [List.length_cons]
    omega
  · simp only [List.length_cons, List.length_drop]
    omega

/-- Counts a flush and reports whether it failed. -/
def flush (k : Sink) : Option IoError × Sink :=
  (k.flushError, { k with flushes := k.flushes + 1 })

end Sink

instance : Outlet Sink where
  put k s := k.writeAll (Text.encode s)
  flush := Sink.flush

end ScriptHost
