import ScriptHost.Proofs.Script.Shapes
import ScriptHost.Proofs.Stream.Reading

/-!
# Reading within a program

A program reads input in two ways. The checked one answers with the text or with the error and
touches nothing. The other one always answers with a text: it speaks of an error on standard error
and goes on with the empty text, even if what it says there does not get through.

- `Decoding.read_eq`: what a reader delivers, in terms of its first failure and its bytes.
- `flushes_deliver`, `flushes_sent`: to say something on a line of its own flushes nothing.
- `Session.read_eq`: the swallowing reading in terms of the checked one.
- `step_tryRead`, `step_read`: the two ways as steps.
- `failed_reading_is_reported`: both of them, whatever the reader and the sinks do.
-/

namespace ScriptHost

/-- A text depends on the first failure of its reader, and if there is none on all of its bytes.
How they are cut and how often the reader is interrupted plays no part. -/
theorem Decoding.read_eq (d : Decoding) (reader : List Delivery) :
    d.read reader =
      match reader.findSome? Delivery.fault? with
      | some e => .error (.io e)
      | none => d.decode (delivered reader) := by
  rw [read, readToEnd_eq]
  cases reader.findSome? Delivery.fault? <;> rfl

/-- On a stream that ends its lines nothing is flushed. -/
theorem Stream.flushes_deliver {st : Stream} (hst : st.endsLine = true) (k : Sink)
    (ss : List String) : (st.deliver k ss).2.flushes = k.flushes := by
  rw [deliver, if_pos hst]
  exact k.flushes_putAll _

namespace Script

namespace Session

/-- A text on a stream that ends its lines flushes neither sink. -/
theorem flushes_sent {st : Stream} (hst : st.endsLine = true) (s : Session) (text : String)
    (st' : Stream) :
    ((s.sent st text).2.streams.sink st').flushes = (s.streams.sink st').flushes := by
  show ((s.streams.withSink st (st.deliver (s.streams.sink st) [text]).2).sink st').flushes = _
  rw [Streams.sink_withSink]
  by_cases hapart : s.streams.apart st = s.streams.apart st'
  · rw [if_pos hapart, Stream.flushes_deliver hst, Streams.sink_eq_of_apart_eq hapart]
  · rw [if_neg hapart]

/-- A text on standard error does not reach a sink that only standard output has. -/
theorem out_sent {st : Stream} (hst : st.isError = true) (s : Session) (text : String) {k : Sink}
    (hk : s.streams.err = some k) : (s.sent st text).2.streams.out = s.streams.out := by
  have happlies : (st.isError && s.streams.err.isSome) = true := by rw [hst, hk]; rfl
  show (s.streams.withSink st _).out = _
  rw [Streams.withSink, if_pos happlies]

/-- What the swallowing reading does is known from the checked one. -/
theorem read_eq (s : Session) (reader : List Delivery) :
    s.read reader =
      match s.streams.decoding.read reader with
      | .ok text => (text, s)
      | .error e => ("", (s.sent .eprintln e.report).2) := by
  rcases hr : s.streams.decoding.read reader with e | text
  · have hspoken : (Utterance.read reader).spoken? s.streams.decoding
        = some (.eprintln, .text e.report) := by rw [Utterance.spoken?, hr]
    have hafter := Utterance.perform_snd_of_spoken hspoken
    rw [Utterance.perform_text] at hafter
    refine Prod.ext ?_ hafter
    -- the answer is the same whether or not the report goes through
    simp only [read, hr]
    rcases (wrapper .eprintln).callText e.report s with ⟨_, s'⟩ | ⟨e', s'⟩ <;> rfl
  · rw [read, hr]

/-- The outcome of a checked reading. -/
def checkedOutcome : Except ReadError String → Outcome
  | .ok text => .text text
  | .error e => .unreadable e

theorem step_tryRead (s : Session) (reader : List Delivery) :
    s.step (.tryRead reader) = s.answered (checkedOutcome (s.streams.decoding.read reader)) := by
  have hperform : (Step.tryRead reader).perform s
      = reportingOutcome (checkedOutcome (s.streams.decoding.read reader)) s := by
    show (match s.streams.decoding.read reader with
      | .ok text => reportingOutcome (.text text)
      | .error e => reportingOutcome (.unreadable e) : Evaluation Answer) s = _
    rcases s.streams.decoding.read reader with e | text <;> rfl
  exact s.step_of_perform hperform

theorem step_read (s : Session) (reader : List Delivery) :
    s.step (.read reader) = (s.read reader).2.answered (.text (s.read reader).1) := rfl

end Session

/-- **A failed reading is reported and comes to nothing else.**
1. What a reader delivers is decided by its first failure, which loses the bytes before it, and
   otherwise by all of its bytes together.
2. The checked reading answers with that and writes nothing.
3. The other reading answers with the text, if there is one, and writes nothing.
4. Otherwise it answers with the empty text. All it does is to print one line on standard error,
   whether or not that succeeds; nothing is flushed, and a sink that only standard output has
   stays as it is. -/
theorem failed_reading_is_reported (s : Session) (reader : List Delivery) :
    let result := s.streams.decoding.read reader
    (result =
      match reader.findSome? Delivery.fault? with
      | some e => .error (.io e)
      | none => s.streams.decoding.decode (delivered reader)) ∧
    (s.step (.tryRead reader) = s.answered (Session.checkedOutcome result) ∧
      (s.step (.tryRead reader)).2.streams = s.streams) ∧
    s.step (.read reader) = (s.read reader).2.answered (.text (s.read reader).1) ∧
    match result with
    | .ok text => s.read reader = (text, s)
    | .error e =>
      let report := "Error reading input from user -- " ++ e.message
      ∃ s', s.read reader = ("", s') ∧
        (∀ entry, ((Utterance.print entry .eprintln (.text report)).perform s).2 = s') ∧
        (∀ st, (s'.streams.sink st).flushes = (s.streams.sink st).flushes) ∧
        ∀ k, s.streams.err = some k → s'.streams.out = s.streams.out := by
  intro result
  have htry := s.step_tryRead reader
  refine ⟨Decoding.read_eq _ reader, ⟨htry, ?_⟩, s.step_read reader, ?_⟩
  · rw [htry]
    rfl
  have hread := s.read_eq reader
  rcases hresult : result with e | text
  · rw [show s.streams.decoding.read reader = .error e from hresult] at hread
    refine ⟨_, hread, fun entry => ?_, fun st => ?_, fun k hk => ?_⟩
    · rw [Utterance.perform_text]
      rfl
    · exact s.flushes_sent rfl _ st
    · exact s.out_sent rfl _ hk
  · rw [show s.streams.decoding.read reader = .ok text from hresult] at hread
    exact hread

/-- A reader that fails between its bytes, and a sink for standard error that takes nothing. -/
theorem failed_reading_is_reported_unheard :
    let reader : List Delivery := [.bytes [0x61], .failure .isADirectory, .bytes [0x62]]
    let s := Session.start ⟨{}, some { limit := some 0 }, .strict⟩
    s.streams.decoding.read reader = .error (.io .isADirectory) ∧
      ∃ s', s.read reader = ("", s') ∧ s'.streams.out = s.streams.out ∧
        (s'.streams.sink .eprintln).flushes = 0 := by
  intro reader s
  obtain ⟨hresult, -, -, hread⟩ := failed_reading_is_reported s reader
  refine ⟨hresult, ?_⟩
  rw [hresult] at hread
  obtain ⟨s', hs', -, hflushes, hout⟩ := hread
  exact ⟨s', hs', hout _ rfl, hflushes .eprintln⟩

end Script

end ScriptHost
