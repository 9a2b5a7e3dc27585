import ScriptHost.Proofs.Script.Chain
import ScriptHost.Proofs.Script.Output
import ScriptHost.Proofs.Text.Utf8
import ScriptHost.Script.Step

/-!
# One effect in every shape

A stream takes a text, a number, or a value, by an entry point for each of these or by one for
all. Compiled code has entry points of its own, which take bytes or a number and say by a status
whether the call went through. None of this can be told from the sinks: a text and a number do
what they do as values, and compiled code does what others do with the text that its bytes read
as.

- `Session.sent`: what comes of a text that goes to a stream in one piece.
- `perform_text`, `perform_numeric`, `perform_boxed`: arguments in each shape are sent as texts.
- `Session.answered`: the answer of a step that reports its effects.
- `step_print`, `step_rawPrint`: a step that prints, for a program and for compiled code.
- `step_rawPrint_of_unbound`: a thread that is bound to no streams yet.
- `ofRaw_strs`, `ofRaw_numbers`: the functions that compiled code calls.
- `print_same_in_every_shape`: all of them side by side.
-/

namespace ScriptHost

/-! ## Items -/

namespace Arg

variable {σ : Type} [Outlet σ]

/-- Boxing an argument makes no difference to what is written for it. -/
theorem item_boxed (h : Heap) (a : Arg) : (Arg.generic a.boxed).item (σ := σ) h = a.item h := by
  cases a with
  | generic v => rfl
  | text s => exact Writer.valueWithin_leaf rfl
  | numeric x => exact Writer.valueWithin_leaf rfl

end Arg

namespace Script

/-! ## Printing -/

/-- What comes of a text that goes to a stream in one piece: the error, if there is one, and the
session after it. -/
def Session.sent (s : Session) (st : Stream) (text : String) : Option Fault × Session :=
  ((st.deliver (s.streams.sink st) [text]).1.map .io,
   s.install (s.streams.withSink st (st.deliver (s.streams.sink st) [text]).2))

namespace Utterance

/-- However an argument is printed, it is its item that is performed. -/
theorem perform_print_eq_of_item {entry entry' : Entry} {st : Stream} {a b : Arg} {s : Session}
    (h : a.item (σ := Sink) s.heap = b.item s.heap) :
    (print entry st a).perform s = (print entry' st b).perform s := by
  simp only [perform, Session.printThrough_eq_writing, h]

/-- An argument and the same argument boxed, each by either entry point. -/
theorem perform_boxed (entry entry' : Entry) (st : Stream) (a : Arg) (s : Session) :
    (print entry st (.generic a.boxed)).perform s = (print entry' st a).perform s :=
  perform_print_eq_of_item (a.item_boxed s.heap)

theorem perform_text (entry : Entry) (st : Stream) (text : String) (s : Session) :
    (print entry st (.text text)).perform s = s.sent st text := by
  have hone : Writer.Writes s.active ((Arg.text text).item (σ := Sink) s.heap) [text] :=
    Writer.writes_put text
  rw [perform, Session.printThrough_eq_writing, Session.writing, Stream.emit_of_writes st hone,
    Session.sent]
  rcases st.deliver (s.streams.sink st) [text] with ⟨_ | e, k⟩ <;> rfl

/-- A number is sent as its digits. -/
theorem perform_numeric (entry : Entry) (st : Stream) (x : Number) (s : Session) :
    (print entry st (.numeric x)).perform s = s.sent st x.display := by
  have htext : (print entry st (.numeric x)).perform s
      = (print entry st (.text x.display)).perform s := perform_print_eq_of_item rfl
  rw [htext, perform_text]

end Utterance

/-! ## Steps -/

/-- The answer of a step that reports its effects along with an outcome, and the session after
it. -/
def Session.answered (s : Session) (o : Outcome) : Answer × Session :=
  (.effects o s.report.1, s.report.2)

namespace Session

variable (s : Session) (st : Stream)

/-- A step that is not refused. -/
theorem step_of_perform {t : Step} {a : Answer} {s' : Session} (h : t.perform s = .ok a s') :
    s.step t = (a, s') := by
  rw [step, h]

theorem reporting_printThrough (entry : Entry) (a : Arg) (outcome : Option Fault → Outcome) :
    reporting (printThrough entry st a) outcome s
      = .ok
          (((Utterance.print entry st a).perform s).2.answered
            (outcome ((Utterance.print entry st a).perform s).1)).1
          (((Utterance.print entry st a).perform s).2.answered
            (outcome ((Utterance.print entry st a).perform s).1)).2 := by
  rw [reporting, Utterance.perform]
  rcases printThrough entry st a s with ⟨_, s'⟩ | ⟨e, s'⟩ <;> rfl

/-- A step that prints an argument. -/
theorem step_print (entry : Entry) {l : ArgLiteral} {a : Arg} (hl : l.evaluate s = .ok a s) :
    s.step (.print st l entry)
      = ((Utterance.print entry st a).perform s).2.answered
          (callOutcome ((Utterance.print entry st a).perform s).1) := by
  have hperform : (Step.print st l entry).perform s
      = reporting (printThrough entry st a) callOutcome s := Evaluation.bind_of_ok hl
  exact s.step_of_perform (hperform.trans (s.reporting_printThrough st entry a callOutcome))

/-- A step that prints for compiled code. -/
theorem step_rawPrint (item : RawItem) :
    s.step (.rawPrint st item)
      = ((Utterance.print .tagged st item.arg).perform s).2.answered
          (.status ((Utterance.print .tagged st item.arg).perform s).1.isNone) := by
  have hperform : (Step.rawPrint st item).perform s
      = reporting (printThrough .tagged st item.arg) (fun e => .status e.isNone) s := rfl
  exact s.step_of_perform (hperform.trans (s.reporting_printThrough st .tagged item.arg _))

end Session

/-- The text of what compiled code hands over is the one that its bytes up to a zero byte read
as. -/
theorem exists_arg_eq_text (b : Option (List UInt8)) :
    ∃ t : String, (RawItem.bytes b).arg = .text t ∧
      ∀ u : String, Text.Repairs ((b.getD []).takeWhile (· != 0)) u.toList ↔ u = t := by
  refine ⟨Text.decodeLossy ((b.getD []).takeWhile (· != 0)), ?_, fun u => ?_⟩
  · cases b with
    | none => exact congrArg Arg.text (Text.decodeLossy_encode "").symm
    | some b => rfl
  · rw [Text.repairs_iff]
    exact eq_comm

/-- A thread that is bound to no streams is bound to the standard ones when compiled code first
prints. -/
theorem step_rawPrint_of_unbound {s : Session} (hs : s.slot = none) (st : Stream)
    (item : RawItem) :
    s.step (.rawPrint st item) = (s.install .standard).step (.rawPrint st item) := by
  have hstreams : s.streams = .standard := by
    rw [Session.streams, hs]
    rfl
  rw [← hstreams, Session.step_rawPrint, Session.step_rawPrint]
  -- printing binds the thread in any case
  have hsame : (Utterance.print .tagged st item.arg).perform (s.install s.streams)
      = (Utterance.print .tagged st item.arg).perform s := by
    simp only [Utterance.perform, Session.printThrough_eq_writing]
    rfl
  rw [hsame]

/-- The functions that print bytes, each on the stream of its name. -/
theorem ofRaw_strs :
    List.Forall₂ (fun f st => ∀ b, Step.ofRaw f b = .rawPrint st (.bytes b))
      RawPrinter.strs [.println, .print, .eprintln, .eprint] :=
  .cons (fun _ => rfl) <| .cons (fun _ => rfl) <| .cons (fun _ => rfl) <|
    .cons (fun _ => rfl) .nil

/-- The functions that print a number. -/
theorem ofRaw_numbers :
    List.Forall₂ (fun f st => ∀ x, Step.ofRaw f x = .rawPrint st (.number x))
      RawPrinter.numbers [.println, .print] :=
  .cons (fun _ => rfl) <| .cons (fun _ => rfl) .nil

/-- What stands behind a zero byte is not looked at. -/
example : (RawItem.bytes (some [0x61, 0xFF, 0x00, 0xFF])).arg = .text "a\uFFFD" := by cbv

/-- **A stream does the same in every shape.** Whatever its sink does, a text and a number have
the effect and the result that they have as values, through either entry point; it is that of
their text, sent in one piece. Bytes from compiled code have those of the text that they read as,
up to the first zero byte, where no bytes at all are the empty text; and numbers from compiled
code have those of numbers. The status says whether the call went through. Of the functions that
compiled code calls, each does this on the stream of its name. -/
theorem print_same_in_every_shape (s : Session) (st : Stream) :
    (∀ entry text,
      (Utterance.print entry st (.text text)).perform s = s.sent st text ∧
      (Utterance.print entry st (.generic (.text text))).perform s = s.sent st text) ∧
    (∀ entry x,
      (Utterance.print entry st (.numeric x)).perform s = s.sent st x.display ∧
      (Utterance.print entry st (.generic (.number x))).perform s = s.sent st x.display) ∧
    (∀ b : Option (List UInt8), ∃ t : String,
      (∀ u : String, Text.Repairs ((b.getD []).takeWhile (· != 0)) u.toList ↔ u = t) ∧
      s.step (.rawPrint st (.bytes b))
        = (s.sent st t).2.answered (.status (s.sent st t).1.isNone) ∧
      ∀ entry, s.step (.print st (.text t) entry)
        = (s.sent st t).2.answered (Session.callOutcome (s.sent st t).1)) ∧
    (∀ x : Number,
      s.step (.rawPrint st (.number x))
        = (s.sent st x.display).2.answered (.status (s.sent st x.display).1.isNone) ∧
      ∀ entry, s.step (.print st (.numeric x) entry)
        = (s.sent st x.display).2.answered (Session.callOutcome (s.sent st x.display).1)) ∧
    List.Forall₂ (fun f st => ∀ b, s.step (.ofRaw f b) = s.step (.rawPrint st (.bytes b)))
      RawPrinter.strs [.println, .print, .eprintln, .eprint] ∧
    List.Forall₂ (fun f st => ∀ x, s.step (.ofRaw f x) = s.step (.rawPrint st (.number x)))
      RawPrinter.numbers [.println, .print] := by
  refine ⟨fun entry text => ⟨?_, ?_⟩, fun entry x => ⟨?_, ?_⟩, fun b => ?_, fun x => ⟨?_, ?_⟩,
    ofRaw_strs.imp fun _ _ hf b => ?_, ofRaw_numbers.imp fun _ _ hf x => ?_⟩
  · exact Utterance.perform_text entry st text s
  · exact (Utterance.perform_boxed entry entry st (.text text) s).trans
      (Utterance.perform_text entry st text s)
  · exact Utterance.perform_numeric entry st x s
  · exact (Utterance.perform_boxed entry entry st (.numeric x) s).trans
      (Utterance.perform_numeric entry st x s)
  · obtain ⟨t, harg, ht⟩ := exists_arg_eq_text b
    refine ⟨t, ht, ?_, fun entry => ?_⟩
    · rw [Session.step_rawPrint, harg, Utterance.perform_text]
    · rw [Session.step_print s st entry (a := .text t) rfl, Utterance.perform_text]
  · rw [Session.step_rawPrint]
    show ((Utterance.print .tagged st (.numeric x)).perform s).2.answered
      (.status ((Utterance.print .tagged st (.numeric x)).perform s).1.isNone) = _
    rw [Utterance.perform_numeric]
  · intro entry
    rw [Session.step_print s st entry (a := .numeric x) rfl, Utterance.perform_numeric]
  · rw [hf]
  · rw [hf]

end Script

end ScriptHost
