import ScriptHost.IoError

/-!
# Streams

* `Stream` — the four output streams.
* `Outlet` — whatever takes pieces of text one after another and may refuse one.
-/

namespace ScriptHost

/-- The output streams: standard output and standard error, each with and without a line end
after the item. -/
inductive Stream where
  | println
  | print
  | eprintln
  | eprint
  deriving Repr, DecidableEq, Inhabited

/-- Whether the stream ends every item with a line end. -/
def Stream.endsLine : Stream → Bool
  | println | eprintln => true
  | print | eprint => false

/-- Whether the stream is one of standard error. -/
def Stream.isError : Stream → Bool
  | println | print => false
  | eprintln | eprint => true

/-- Something to write to. Both operations report a failure, if there is one, and how they leave
the outlet. -/
class Outlet (σ : Type) where
  /-- Writes a piece of text. -/
  put : σ → String → Option IoError × σ
  /-- Passes on whatever is kept back. -/
  flush : σ → Option IoError × σ

/-- A text takes every piece at its end. -/
instance : Outlet String where
  put out s := (none, out ++ s)
  flush out := (none, out)

end ScriptHost
