import Mathlib.Data.List.TakeWhile
import ScriptHost.Program.Step
import ScriptHost.Proofs.Script.Reading

/-!
# What is printed reads back

Compiled code may print any bytes up to a zero byte. What reaches the sink is a text, which differs
from the bytes just if they are none. From then on nothing is lost: both decodings read the text
back, and printed again it comes out the same. Input reaches compiled code with its length, so that
there a zero byte is like any other.

- `Sink.Unfailing`: a sink that takes whatever it is offered.
- `deliver_of_unfailing`: one call on such a sink.
- `Repairs.zero_not_mem`: replacing faulty stretches brings in no zero byte.
- `Session.Puts`, `Puts.of_sent`: a step that puts bytes on a stream, and the steps that do.
- `readCounted_of_valid`, `step_readCounted_of_valid`: input for compiled code, from any reader and
  from standard input.
- `printed_bytes_read_back`: printing and reading, side by side.
-/

namespace ScriptHost

/-! ## Sinks that take everything -/

/-- There is room for everything, an attempt takes something, and a flush does not fail. -/
structure Sink.Unfailing (k : Sink) : Prop where
  limit : k.limit = none
  chunk : k.chunk ≠ some 0
  flushError : k.flushError = none

namespace Sink.Unfailing

variable {k : Sink}

/-- Such a sink is what becomes of it when it is offered what it holds. -/
theorem eq_after (hk : k.Unfailing) : k = k.after k.accepted k.flushes k.interrupts := by
  have hfitting : k.fitting k.accepted = k.accepted := by rw [fitting, hk.limit]
  rw [after, hfitting]

/-- Nothing is refused. -/
theorem reply_eq_none (hk : k.Unfailing) (st : Stream) (before bytes : List UInt8) :
    k.reply st before bytes = none := by
  rw [reply_eq_none_iff]
  refine ⟨.inr fun n hn => ?_, fun _ => hk.flushError⟩
  rw [hk.limit] at hn
  cases hn

end Sink.Unfailing

/-- A text on a sink that takes everything. The sink is again one, and holds the text behind what
it held before. -/
theorem Stream.deliver_of_unfailing {k : Sink} (hk : k.Unfailing) (st : Stream) (text : String) :
    ∃ k', st.deliver k [text] = (none, k') ∧ k'.Unfailing ∧
      k'.accepted = k.accepted ++ Text.encode (text ++ st.lineEnd) := by
  have hbytes : Text.encode (text ++ st.lineEnd)
      = Text.encode (String.join [text] ++ st.lineEnd) := by simp
  obtain ⟨j, hj⟩ := deliver_after (f := k.flushes) (i := k.interrupts) hk.chunk k.accepted [text]
    hbytes
  rw [← hk.eq_after, hk.reply_eq_none] at hj
  refine ⟨_, hj, ⟨hk.limit, hk.chunk, hk.flushError⟩, ?_⟩
  rw [Sink.after, Sink.fitting, hk.limit]

/-! ## Zero bytes -/

/-- Where there is no zero byte, there is none after faulty stretches were replaced. -/
theorem Text.Repairs.zero_not_mem {bytes : List UInt8} {cs : List Char} (h : Repairs bytes cs)
    (hzero : 0 ∉ bytes) : 0 ∉ cs.flatMap String.utf8EncodeChar := by
  induction h with
  | nil => exact List.not_mem_nil
  | char c _ ih =>
    rw [List.mem_append, not_or] at hzero
    rw [List.flatMap_cons, List.mem_append, not_or]
    exact ⟨hzero.1, ih hzero.2⟩
  | fault _ _ ih =>
    have hreplacement : 0 ∉ String.utf8EncodeChar replacement := by decide
    rw [List.mem_append, not_or] at hzero
    rw [List.flatMap_cons, List.mem_append, not_or]
    exact ⟨hreplacement, ih hzero.2⟩

namespace Script

/-- Bytes without a zero byte are handed over whole. -/
theorem RawItem.arg_of_zero_not_mem {b : List UInt8} (hzero : 0 ∉ b) :
    (RawItem.bytes (some b)).arg = .text (Text.decodeLossy b) := by
  have hwhole : b.takeWhile (· != 0) = b := by
    refine List.takeWhile_eq_self_iff.mpr fun x hx => ?_
    rw [bne_iff_ne]
    rintro rfl
    exact hzero hx
  rw [arg, Text.ByteText.upToZero, hwhole]

/-! ## Steps that print -/

/-- A step comes to an outcome and puts bytes on a stream, behind what is there. -/
structure Session.Puts (s : Session) (what : Step) (o : Outcome) (st : Stream) (w : List UInt8) :
    Prop where
  outcome : ∃ e, (s.step what).1 = .effects o e
  accepted : ((s.step what).2.streams.sink st).accepted = (s.streams.sink st).accepted ++ w

namespace Session

variable {s : Session} {st : Stream}

/-- A step that sends a text to a sink that takes everything goes through, and the sink stays
one. -/
theorem Puts.of_sent {what : Step} {text : String} {f : Option Fault → Outcome}
    (hk : (s.streams.sink st).Unfailing)
    (hstep : s.step what = (s.sent st text).2.answered (f (s.sent st text).1)) :
    s.Puts what (f none) st (Text.encode (text ++ st.lineEnd)) ∧
      ((s.step what).2.streams.sink st).Unfailing := by
  obtain ⟨k', hdeliver, hk', haccepted⟩ := Stream.deliver_of_unfailing hk st text
  have hsent : s.sent st text = (none, s.install (s.streams.withSink st k')) := by
    rw [sent, hdeliver]
    rfl
  have hsink : (s.step what).2.streams.sink st = k' := by
    rw [hstep, hsent]
    exact (s.streams.sink_withSink st st k').trans (if_pos rfl)
  refine ⟨⟨?_, ?_⟩, ?_⟩
  · rw [hstep, hsent]
    exact ⟨_, rfl⟩
  · rw [hsink, haccepted]
  · rw [hsink]
    exact hk'

/-- Compiled code prints bytes. -/
theorem step_rawPrint_bytes (s : Session) (st : Stream) {b : List UInt8} (hzero : 0 ∉ b) :
    s.step (.rawPrint st (.bytes (some b)))
      = (s.sent st (Text.decodeLossy b)).2.answered
          (.status (s.sent st (Text.decodeLossy b)).1.isNone) := by
  rw [step_rawPrint, RawItem.arg_of_zero_not_mem hzero, Utterance.perform_text]

/-- A program prints a text. -/
theorem step_print_text (s : Session) (st : Stream) (entry : Entry) (text : String) :
    s.step (.print st (.text text) entry)
      = (s.sent st text).2.answered (callOutcome (s.sent st text).1) := by
  rw [step_print s st entry (a := .text text) rfl, Utterance.perform_text]

/-! ## Input for compiled code -/

/-- The bytes of a text come back as they are, whichever way input is decoded. -/
theorem readCounted_of_valid (s : Session) {reader : List Delivery}
    (steady : ∀ e, .failure e ∉ reader) (valid : (delivered reader).toByteArray.IsValidUTF8) :
    s.readCounted reader = (⟨delivered reader, (delivered reader).length⟩, s) := by
  obtain ⟨t, ht⟩ := Text.isValidUTF8_iff.mp valid
  have hread : s.streams.decoding.read reader = .ok t := by
    rw [Decoding.read_of_steady steady, ← ht, Decoding.decode_encode]
  rw [readCounted, read, hread, ← ht]
  rfl

end Session

end Script

/-- The same for standard input. -/
theorem Program.step_readCounted_of_valid (p : Program) (t : Thread) {b : List UInt8}
    (hstdin : p.stdin = .bytes b) (valid : b.toByteArray.IsValidUTF8) :
    (p.step t .readCounted).1 = .counted ⟨b, b.length⟩ := by
  obtain ⟨text, rfl⟩ := Text.isValidUTF8_iff.mp valid
  have hread (d : Decoding) : d.read p.stdin.deliveries = .ok text := by
    have steady : ∀ e, .failure e ∉ p.stdin.deliveries := by simp [hstdin, Input.deliveries]
    have hbytes : delivered p.stdin.deliveries = Text.encode text := by
      rw [hstdin]
      exact List.append_nil _
    rw [Decoding.read_of_steady steady, hbytes, Decoding.decode_encode]
  have hkept : (p.bound t).2.stdin = p.stdin := by
    rw [bound]
    cases p.bindings t <;> rfl
  have htry : (p.tryRead t).1 = .ok text := by
    show (p.bound t).1.decoding.read (p.bound t).2.stdin.deliveries = _
    rw [hkept, hread]
  have htext : (p.read t).1 = text := by
    rw [read]
    rcases hp : p.tryRead t with ⟨_ | u, p'⟩
    · rw [hp] at htry
      cases htry
    · rw [hp] at htry
      cases htry
      rfl
  show Answer.counted (.ofText (p.read t).1) = _
  rw [htext]
  rfl

namespace Script

/-! ## Printing and reading -/

/-- **What compiled code prints reads back.** For bytes without a zero byte there is one text, which
they become when each faulty stretch is replaced:
1. Its bytes are well-formed, and are those that were printed just if these are well-formed.
2. On a sink that takes everything, to print the bytes succeeds and puts those of the text there.
   To print the text, or again its bytes, puts there the same once more.
3. From its bytes both decodings read the text.

And compiled code gets what it reads whole:
4. the bytes of the text that is read, with their number,
5. which are the bytes of the input if these are well-formed, zero bytes or not, under both
   decodings, while nothing else changes;
6. and likewise those of standard input. -/
theorem printed_bytes_read_back :
    (∀ b : List UInt8, 0 ∉ b → ∃ t : String,
      let w := Text.encode t
      (∀ u : String, Text.Repairs b u.toList ↔ u = t) ∧
      (w.toByteArray.IsValidUTF8 ∧ (w = b ↔ b.toByteArray.IsValidUTF8)) ∧
      (∀ s : Session, (s.streams.sink .print).Unfailing →
        let s' := (s.step (.ofRaw .printStr (some b))).2
        s.Puts (.ofRaw .printStr (some b)) (.status true) .print w ∧
        (∀ entry, s'.Puts (.print .print (.text t) entry) .returned .print w) ∧
        s'.Puts (.ofRaw .printStr (some w)) (.status true) .print w) ∧
      ∀ (d : Decoding) (reader : List Delivery), (∀ e, .failure e ∉ reader) →
        delivered reader = w → d.read reader = .ok t) ∧
    (∀ (s : Session) (reader : List Delivery),
      let bytes := Text.encode (s.read reader).1
      s.readCounted reader = (⟨bytes, bytes.length⟩, (s.read reader).2)) ∧
    (∀ (s : Session) (reader : List Delivery), (∀ e, .failure e ∉ reader) →
      (delivered reader).toByteArray.IsValidUTF8 →
        s.readCounted reader = (⟨delivered reader, (delivered reader).length⟩, s)) ∧
    (∀ (p : Program) (t : Thread) (b : List UInt8), p.stdin = .bytes b →
      b.toByteArray.IsValidUTF8 → (p.step t .readCounted).1 = .counted ⟨b, b.length⟩) := by
  refine ⟨fun b hzero => ⟨Text.decodeLossy b, ?repairs, ⟨?valid, ?exact⟩, ?printed, ?read⟩,
    fun s reader => rfl, fun s reader => s.readCounted_of_valid,
    fun p t b => p.step_readCounted_of_valid t⟩
  case repairs =>
    intro u
    rw [Text.repairs_iff]
    exact eq_comm
  case valid => exact Text.isValidUTF8_iff.mpr ⟨_, rfl⟩
  case exact =>
    rw [Text.isValidUTF8_iff]
    constructor
    · intro hw
      exact ⟨_, hw⟩
    · rintro ⟨u, rfl⟩
      rw [Text.decodeLossy_encode]
  case printed =>
    intro s hk s'
    -- the stream ends no lines, so that its renderings are the bytes of the texts
    have hend (t : String) : t ++ Stream.print.lineEnd = t := String.append_empty
    have hzero' : 0 ∉ Text.encode (Text.decodeLossy b) :=
      (Text.repairs_iff.mpr rfl : Text.Repairs b (Text.decodeLossy b).toList).zero_not_mem hzero
    obtain ⟨hputs, hk'⟩ := Session.Puts.of_sent (f := fun e => .status e.isNone) hk
      (s.step_rawPrint_bytes .print hzero)
    rw [hend] at hputs
    refine ⟨hputs, fun entry => ?_, ?_⟩
    · have hagain := (Session.Puts.of_sent hk'
        (s'.step_print_text .print entry (Text.decodeLossy b))).1
      rw [hend] at hagain
      exact hagain
    · have hagain := (Session.Puts.of_sent (f := fun e => .status e.isNone) hk'
        (s'.step_rawPrint_bytes .print hzero')).1
      rw [hend, Text.decodeLossy_encode] at hagain
      exact hagain
  case read =>
    intro d reader steady hbytes
    rw [Decoding.read_of_steady steady, hbytes, Decoding.decode_encode]

/-- A byte that is no text, on a sink that takes one byte at a time, and a zero byte within input
that is cut in the middle of a character. -/
theorem printed_bytes_read_back_in_parts :
    let s := Session.start ⟨{ chunk := some 1, interrupts := 2 }, none, .strict⟩
    let reader : List Delivery := [.bytes [0x61, 0x00, 0xC3], .interrupted, .bytes [0xA9]]
    let p : Program :=
      { files := ⟨[]⟩, environment := {}, stdin := .bytes [0x00], stdout := {}, stderr := {} }
    s.Puts (.ofRaw .printStr (some [0x61, 0xFF])) (.status true) .print
      [0x61, 0xEF, 0xBF, 0xBD] ∧
    s.readCounted reader = (⟨[0x61, 0x00, 0xC3, 0xA9], 4⟩, s) ∧
    (p.step .main .readCounted).1 = .counted ⟨[0x00], 1⟩ := by
  intro s reader p
  have hk : (s.streams.sink .print).Unfailing := ⟨rfl, by decide, rfl⟩
  have steady : ∀ e, .failure e ∉ reader := by simp [reader]
  obtain ⟨hprinted, -, hread, hstdin⟩ := printed_bytes_read_back
  obtain ⟨t, ht, -, hputs, -⟩ := hprinted [0x61, 0xFF] (by decide)
  obtain rfl : "a\uFFFD" = t := (ht _).mp (Text.repairs_iff.mpr (by decide +kernel))
  refine ⟨(hputs s hk).1, ?_, ?_⟩
  · exact hread s reader steady (Text.isValidUTF8_iff.mpr ⟨"a\x00é", by decide⟩)
  · exact hstdin p .main [0x00] rfl (Text.isValidUTF8_iff.mpr ⟨"\x00", by decide⟩)

end Script

end ScriptHost
