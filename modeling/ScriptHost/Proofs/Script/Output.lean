import ScriptHost.Proofs.Stream.Printing
import ScriptHost.Proofs.Stream.Sink
import ScriptHost.Script.Invoke

/-!
# What a program has put out

A program prints on four streams, which lead to two sinks or to one, and failures to read are
reported on one of the four. However the calls are made and whatever the sinks refuse, all that
becomes of a sink is decided by the renderings of the calls on it, one after the other.

- `Stream.rendering`: the bytes of a call in full, with the line end.
- `Sink.reply`: what a call is told, from what its sink was offered before.
- `deliver_after`: one call on one sink.
- `Streams.apart`: which of the two sinks a stream leads to.
- `Utterance`, `Utterance.perform`: a call on a stream or a reading, and what comes of it.
- `Session.sayAll`: utterances one after another, while the objects change between them.
- `Streams.said`: the renderings of all calls on one sink.
- `perform_frame`: an utterance changes nothing but the sinks.
- `Session.Said`: where a session stands after utterances. `Said.perform` is one step and
  `Said.sayAll` a run.
- `sayAll_output`, `printing_leaves_no_trace`: what the sinks hold and what calls are told, and
  that nothing else remains of a call.
-/

namespace ScriptHost

/-! ## One call on one sink -/

namespace Stream

/-- What a stream puts after an item. -/
def lineEnd (st : Stream) : String := if st.endsLine then "\n" else ""

/-- The bytes of an argument on a stream, all of them. -/
def rendering (st : Stream) (h : Heap) (a : Arg) : List UInt8 :=
  Text.encode (a.display h ++ st.lineEnd)

end Stream

/-- What a call that offers `bytes` is told by a sink that was offered `before`: the word on the
bytes, and if they were all taken and no line end followed them, the word on the flush. -/
def Sink.reply (k : Sink) (st : Stream) (before bytes : List UInt8) : Option IoError :=
  (k.verdict before bytes).or (if st.endsLine then none else k.flushError)

/-- Whether a call that offers `bytes` gets to flush a sink that was offered `before`. -/
def Sink.getsFlush (k : Sink) (st : Stream) (before bytes : List UInt8) : Bool :=
  !st.endsLine && k.takes before bytes

theorem Sink.reply_eq_none_iff {k : Sink} {st : Stream} {before bytes : List UInt8} :
    k.reply st before bytes = none ↔
      (bytes = [] ∨ ∀ n, k.limit = some n → (before ++ bytes).length ≤ n) ∧
        (st.endsLine = false → k.flushError = none) := by
  rw [reply, Option.or_eq_none_iff]
  refine and_congr ?_ ?_
  · rw [← takes_iff]
    cases htakes : k.takes before bytes with
    | true => rw [verdict_of_takes htakes]; simp
    | false => rw [verdict_of_not_takes htakes]; simp
  · cases st.endsLine <;> simp

/-- The pieces of a call, the line end and the flush are all of its bytes being offered at
once. -/
theorem Stream.deliver_after {k : Sink} {st : Stream} {bytes : List UInt8} {f i : Nat}
    (hk : k.chunk ≠ some 0) (offered : List UInt8) (ss : List String)
    (hbytes : bytes = Text.encode (String.join ss ++ st.lineEnd)) :
    ∃ j, st.deliver (k.after offered f i) ss
      = (k.reply st offered bytes,
         k.after (offered ++ bytes) (f + (k.getsFlush st offered bytes).toNat) j) := by
  subst hbytes
  cases hst : st.endsLine with
  | true =>
    have hjoin : String.join ss ++ st.lineEnd = String.join (ss ++ ["\n"]) := by
      simp [String.join_append, lineEnd, hst]
    rw [deliver, if_pos hst, hjoin]
    simp only [Sink.reply, Sink.getsFlush, hst, if_true, Option.or_none]
    exact Sink.putAll_after hk (ss ++ ["\n"])
  | false =>
    have hjoin : String.join ss ++ st.lineEnd = String.join ss := by
      simp [lineEnd, hst]
    have hput : ∃ j, Outlet.putAll (k.after offered f i) ss
        = (k.verdict offered (Text.encode (String.join ss)),
           k.after (offered ++ Text.encode (String.join ss)) f j) := Sink.putAll_after hk ss
    obtain ⟨j, hj⟩ := hput
    refine ⟨j, ?_⟩
    rw [deliver, if_neg (by simp [hst]), hj, hjoin]
    cases htakes : k.takes offered (Text.encode (String.join ss)) with
    | true =>
      simp only [Sink.reply, Sink.getsFlush, hst, htakes, Sink.verdict_of_takes htakes]
      rfl
    | false =>
      simp only [Sink.reply, Sink.getsFlush, hst, htakes, Sink.verdict_of_not_takes htakes]
      rfl

namespace Script

/-! ## Streams that lead to one sink -/

namespace Streams

/-- Whether a stream leads to a sink that only standard error has. -/
def apart (s : Streams) (st : Stream) : Bool := st.isError && s.err.isSome

variable (s : Streams) (a b : Stream) (k : Sink)

theorem sink_eq_of_apart_eq {s : Streams} {a b : Stream} (h : s.apart a = s.apart b) :
    s.sink a = s.sink b := by
  obtain ⟨out, err, d⟩ := s
  cases a <;> cases b <;> cases err <;> first | rfl | cases h

/-- Whichever sink a stream leads to, nothing was offered to it yet. -/
theorem sink_fresh {s : Streams} (hout : s.out.Fresh) (herr : ∀ k, s.err = some k → k.Fresh)
    (st : Stream) : (s.sink st).Fresh := by
  obtain ⟨out, err, d⟩ := s
  cases err with
  | none => cases st <;> exact hout
  | some k => cases st <;> first | exact hout | exact herr k rfl

@[simp] theorem apart_withSink : (s.withSink a k).apart b = s.apart b := by
  obtain ⟨out, err, d⟩ := s
  cases a <;> cases b <;> cases err <;> rfl

@[simp] theorem decoding_withSink : (s.withSink a k).decoding = s.decoding := by
  unfold withSink
  split <;> rfl

/-- A sink that is replaced is replaced for all streams that lead to it, and for no others. -/
theorem sink_withSink :
    (s.withSink a k).sink b = if s.apart a = s.apart b then k else s.sink b := by
  obtain ⟨out, err, d⟩ := s
  cases a <;> cases b <;> cases err <;> rfl

end Streams

/-! ## Utterances -/

/-- What makes a program write to its streams. -/
inductive Utterance where
  /-- An argument is printed on a stream. -/
  | print (entry : Entry) (stream : Stream) (a : Arg)
  /-- Input is read. -/
  | read (reader : List Delivery)

namespace Utterance

/-- What is to be written, and on which stream. A reading says nothing unless it fails. -/
def spoken? (d : Decoding) : Utterance → Option (Stream × Arg)
  | print _ stream a => some (stream, a)
  | read reader =>
    match d.read reader with
    | .ok _ => none
    | .error e => some (.eprintln, .text e.report)

/-- Performs an utterance: the error of the call and the session after it. A report that cannot
be written is no error. -/
def perform (u : Utterance) (s : Session) : Option Fault × Session :=
  match u with
  | print entry stream a =>
    match Session.printThrough entry stream a s with
    | .ok () s' => (none, s')
    | .error e s' => (some e, s')
  | read reader => (none, (s.read reader).2)

end Utterance

/-- Performs utterances one after another, whether they go through or not. In between, the
objects may become any others. -/
def Session.sayAll (s : Session) (us : List (Heap × Utterance)) : Session :=
  us.foldl (fun s c => (c.2.perform { s with heap := c.1 }).2) s

/-- The bytes of all calls that lead to the same sink as a stream. -/
def Streams.said (s : Streams) (st : Stream) (us : List (Heap × Utterance)) : List UInt8 :=
  us.flatMap fun c =>
    match c.2.spoken? s.decoding with
    | some (st', a) => if s.apart st' = s.apart st then st'.rendering c.1 a else []
    | none => []

namespace Streams

variable (s : Streams)

theorem said_append (st : Stream) (us vs : List (Heap × Utterance)) :
    s.said st (us ++ vs) = s.said st us ++ s.said st vs :=
  List.flatMap_append

theorem said_of_spoken {u : Utterance} {st' : Stream} {a : Arg}
    (hu : u.spoken? s.decoding = some (st', a)) (st : Stream) (h : Heap) :
    s.said st [(h, u)] = if s.apart st' = s.apart st then st'.rendering h a else [] := by
  simp only [said, List.flatMap_singleton, hu]

theorem said_of_silent {u : Utterance} (hu : u.spoken? s.decoding = none) (st : Stream)
    (h : Heap) : s.said st [(h, u)] = [] := by
  simp only [said, List.flatMap_singleton, hu]

theorem said_congr {a b : Stream} (h : s.apart a = s.apart b) (us : List (Heap × Utterance)) :
    s.said a us = s.said b us := by
  rw [said, said, h]

end Streams

/-! ## One utterance -/

/-- Every way to print an argument performs its item on the sink of the stream. -/
theorem Session.printThrough_eq_writing (entry : Entry) (st : Stream) (a : Arg) (s : Session) :
    printThrough entry st a s = writing st (st.emit (a.item s.heap)) s := by
  cases entry <;> cases a <;> rfl

namespace Utterance

/-- An argument on a stream is its pieces on the sink of the stream. -/
theorem perform_print (entry : Entry) (st : Stream) (a : Arg) (s : Session) :
    ∃ ss, (s.active = [] → String.join ss = a.display s.heap) ∧
      (print entry st a).perform s
        = ((st.deliver (s.streams.sink st) ss).1.map .io,
           s.install (s.streams.withSink st (st.deliver (s.streams.sink st) ss).2)) := by
  obtain ⟨ss, hss, hjoin⟩ := a.exists_item_writes s.heap s.active
  refine ⟨ss, hjoin, ?_⟩
  rw [perform, Session.printThrough_eq_writing, Session.writing,
    Stream.emit_of_writes st (hss Sink)]
  rcases st.deliver (s.streams.sink st) ss with ⟨_ | e, k⟩ <;> rfl

/-- What an utterance leaves behind is what printing leaves behind. -/
theorem perform_snd_of_spoken {u : Utterance} {s : Session} {st : Stream} {a : Arg}
    (hu : u.spoken? s.streams.decoding = some (st, a)) :
    (u.perform s).2 = ((print .direct st a).perform s).2 := by
  cases u with
  | print entry stream b =>
    cases hu
    simp only [perform, Session.printThrough_eq_writing]
  | read reader =>
    simp only [spoken?] at hu
    rcases hr : s.streams.decoding.read reader with e | t
    · rw [hr] at hu
      cases hu
      simp only [perform, Session.read, Session.printThrough, hr]
      rcases (Session.wrapper .eprintln).callText e.report s with ⟨_, s'⟩ | ⟨_, s'⟩ <;> rfl
    · rw [hr] at hu
      cases hu

theorem perform_snd_of_silent {u : Utterance} {s : Session}
    (hu : u.spoken? s.streams.decoding = none) : (u.perform s).2 = s := by
  cases u with
  | print entry stream b => cases hu
  | read reader =>
    simp only [spoken?] at hu
    rcases hr : s.streams.decoding.read reader with e | t
    · rw [hr] at hu
      cases hu
    · simp only [perform, Session.read, hr]

/-- Nothing but the sinks changes. -/
theorem perform_frame (u : Utterance) (s : Session) :
    (u.perform s).2 = { s with slot := (u.perform s).2.slot } := by
  cases hu : u.spoken? s.streams.decoding with
  | none => rw [perform_snd_of_silent hu]
  | some c =>
    obtain ⟨st, a⟩ := c
    obtain ⟨ss, -, hperform⟩ := perform_print .direct st a s
    rw [perform_snd_of_spoken hu, hperform]
    rfl

end Utterance

/-! ## Runs -/

@[simp] theorem Session.active_sayAll (s : Session) (us : List (Heap × Utterance)) :
    (s.sayAll us).active = s.active := by
  induction us generalizing s with
  | nil => rfl
  | cons c us ih =>
    show (((c.2.perform { s with heap := c.1 }).2).sayAll us).active = s.active
    rw [ih, c.2.perform_frame]

/-- Where a session stands that began with some streams and made utterances. -/
structure Session.Said (streams : Streams) (us : List (Heap × Utterance)) (s : Session) :
    Prop where
  active : s.active = []
  decoding : s.streams.decoding = streams.decoding
  apart : ∀ st, s.streams.apart st = streams.apart st
  /-- A sink is what it began as, after it was offered all that was said. -/
  sink : ∀ st, ∃ f i, s.streams.sink st = (streams.sink st).after (streams.said st us) f i

namespace Session.Said

variable {streams : Streams} {us : List (Heap × Utterance)} {s : Session}

/-- What comes of a call after some utterances. -/
theorem perform_print (hs : Said streams us s) (hk : ∀ st, (streams.sink st).chunk ≠ some 0)
    (entry : Entry) (st : Stream) (a : Arg) :
    ∃ j, (Utterance.print entry st a).perform s
      = (((streams.sink st).reply st (streams.said st us) (st.rendering s.heap a)).map .io,
         s.install (s.streams.withSink st
             ((streams.sink st).after (streams.said st us ++ st.rendering s.heap a)
               ((s.streams.sink st).flushes
                 + ((streams.sink st).getsFlush st (streams.said st us)
                     (st.rendering s.heap a)).toNat) j))) := by
  obtain ⟨ss, hjoin, hperform⟩ := Utterance.perform_print entry st a s
  obtain ⟨f, i, hsink⟩ := hs.sink st
  have hbytes : st.rendering s.heap a = Text.encode (String.join ss ++ st.lineEnd) := by
    rw [hjoin hs.active, Stream.rendering]
  obtain ⟨j, hj⟩ := Stream.deliver_after (f := f) (i := i) (hk st) (streams.said st us) ss hbytes
  refine ⟨j, ?_⟩
  rw [hperform, hsink, hj]
  rfl

/-- The objects play no part in where a session stands. -/
theorem withHeap (hs : Said streams us s) (h : Heap) : Said streams us { s with heap := h } :=
  ⟨hs.active, hs.decoding, hs.apart, hs.sink⟩

/-- One more utterance. Of the sinks only that of the stream changes; the others were offered
nothing new. -/
theorem perform (hs : Said streams us s) (hk : ∀ st, (streams.sink st).chunk ≠ some 0)
    (u : Utterance) : Said streams (us ++ [(s.heap, u)]) (u.perform s).2 := by
  cases hu : u.spoken? streams.decoding with
  | none =>
    rw [Utterance.perform_snd_of_silent ((congrArg u.spoken? hs.decoding).trans hu)]
    refine ⟨hs.active, hs.decoding, hs.apart, fun st => ?_⟩
    rw [Streams.said_append, Streams.said_of_silent streams hu, List.append_nil]
    exact hs.sink st
  | some c =>
    obtain ⟨st, a⟩ := c
    obtain ⟨j, hj⟩ := hs.perform_print hk .direct st a
    rw [Utterance.perform_snd_of_spoken ((congrArg u.spoken? hs.decoding).trans hu), hj]
    refine ⟨hs.active, ?_, fun st' => ?_, fun st' => ?_⟩
    · rw [Session.streams_install, Streams.decoding_withSink]
      exact hs.decoding
    · rw [Session.streams_install, Streams.apart_withSink]
      exact hs.apart st'
    · rw [Session.streams_install, Streams.sink_withSink, hs.apart, hs.apart, Streams.said_append,
        Streams.said_of_spoken streams hu]
      -- the sink is replaced, and something said on it, for the same streams
      by_cases hst : streams.apart st = streams.apart st'
      · rw [if_pos hst, if_pos hst, Streams.sink_eq_of_apart_eq hst, streams.said_congr hst]
        exact ⟨_, j, rfl⟩
      · rw [if_neg hst, if_neg hst, List.append_nil]
        exact hs.sink st'

/-- Any number of further utterances. -/
theorem sayAll (hk : ∀ st, (streams.sink st).chunk ≠ some 0) (vs : List (Heap × Utterance)) :
    ∀ {us : List (Heap × Utterance)} {s : Session}, Said streams us s →
      Said streams (us ++ vs) (s.sayAll vs) := by
  induction vs with
  | nil =>
    intro us s hs
    rw [List.append_nil]
    exact hs
  | cons c vs ih =>
    intro us s hs
    have hall := ih ((hs.withHeap c.1).perform hk c.2)
    rw [List.append_assoc] at hall
    exact hall

theorem start (hout : streams.out.Fresh) (herr : ∀ k, streams.err = some k → k.Fresh) :
    Said streams [] (Session.start streams) := by
  refine ⟨rfl, rfl, fun _ => rfl, fun st => ⟨0, (streams.sink st).interrupts, ?_⟩⟩
  exact (Streams.sink_fresh hout herr st).eq_after

end Session.Said

/-- How often a call after some utterances flushes the sink of a stream: once or not at all. -/
def Streams.flushesAt (s : Streams) (st : Stream) (us : List (Heap × Utterance)) (h : Heap)
    (u : Utterance) : Nat :=
  match u.spoken? s.decoding with
  | some (st', a) =>
    if s.apart st' = s.apart st then
      ((s.sink st').getsFlush st' (s.said st' us) (st'.rendering h a)).toNat
    else 0
  | none => 0

theorem Session.Said.flushes_perform {streams : Streams} {us : List (Heap × Utterance)}
    {s : Session} (hs : Said streams us s) (hk : ∀ st, (streams.sink st).chunk ≠ some 0)
    (u : Utterance) (st : Stream) :
    ((u.perform s).2.streams.sink st).flushes
      = (s.streams.sink st).flushes + streams.flushesAt st us s.heap u := by
  unfold Streams.flushesAt
  cases hu : u.spoken? streams.decoding with
  | none =>
    rw [Utterance.perform_snd_of_silent ((congrArg u.spoken? hs.decoding).trans hu)]
    rfl
  | some c =>
    obtain ⟨st', a⟩ := c
    obtain ⟨j, hj⟩ := hs.perform_print hk .direct st' a
    rw [Utterance.perform_snd_of_spoken ((congrArg u.spoken? hs.decoding).trans hu), hj]
    show ((s.streams.withSink st' _).sink st).flushes = _ + (if _ then _ else _)
    rw [Streams.sink_withSink, hs.apart, hs.apart]
    by_cases hst : streams.apart st' = streams.apart st
    · rw [if_pos hst, if_pos hst]
      have hsame : s.streams.sink st' = s.streams.sink st :=
        Streams.sink_eq_of_apart_eq ((hs.apart st').trans (hst.trans (hs.apart st).symm))
      rw [← hsame]
      rfl
    · rw [if_neg hst, if_neg hst]
      rfl

/-! ## What was put out, and what calls are told -/

/-- **All that becomes of the sinks is decided by what was said.** After any utterances a sink
holds the first bytes of all calls on it, as many as it has room for. The next call succeeds
exactly if its bytes still fit, or are none, and a flush succeeds if the stream calls for one;
otherwise it is told the error of the write, or else of the flush. Only a call without a line end
flushes, once, and only after its bytes were all taken. -/
theorem sayAll_output (streams : Streams) (hout : streams.out.Fresh)
    (herr : ∀ k, streams.err = some k → k.Fresh) (us : List (Heap × Utterance)) :
    let s := (Session.start streams).sayAll us
    (∀ st, (s.streams.sink st).accepted = (streams.sink st).fitting (streams.said st us)) ∧
    (∀ h entry st a,
      let told := ((Utterance.print entry st a).perform { s with heap := h }).1
      let before := streams.said st us
      let bytes := st.rendering h a
      (told = none ↔
        (bytes = [] ∨ ∀ n, (streams.sink st).limit = some n → (before ++ bytes).length ≤ n) ∧
          (st.endsLine = false → (streams.sink st).flushError = none)) ∧
      told = ((streams.sink st).reply st before bytes).map .io) ∧
    (∀ h u st,
      ((u.perform { s with heap := h }).2.streams.sink st).flushes
        = (s.streams.sink st).flushes + streams.flushesAt st us h u) := by
  have hk : ∀ st, (streams.sink st).chunk ≠ some 0 := fun st =>
    (Streams.sink_fresh hout herr st).chunk
  have hs : Session.Said streams us ((Session.start streams).sayAll us) :=
    (Session.Said.start hout herr).sayAll hk us
  refine ⟨fun st => ?_, fun h entry st a => ?_, fun h u st => ?_⟩
  · obtain ⟨f, i, hsink⟩ := hs.sink st
    rw [hsink]
    rfl
  · -- the error is an equation; that there is none is read off it
    obtain ⟨j, hj⟩ := (hs.withHeap h).perform_print hk entry st a
    have htold := congrArg Prod.fst hj
    refine ⟨?_, htold⟩
    show ((Utterance.print entry st a).perform _).1 = none ↔ _
    rw [htold, Option.map_eq_none_iff]
    exact Sink.reply_eq_none_iff
  · exact (hs.withHeap h).flushes_perform hk u st

/-- A sink that both standard streams share, with room for nine bytes, is offered an object that
contains itself. It is cut in the middle, nothing after it is taken, and to write nothing at all
still works. -/
theorem sayAll_output_cramped :
    let out : Sink := { limit := some 9, chunk := some 2, interrupts := 1 }
    let ring : Heap := ⟨#[⟨⟨["a"], [.object ⟨0⟩], rfl⟩, .free⟩]⟩
    let s := (Session.start ⟨out, none, .strict⟩).sayAll
      [(ring, .print .tagged .println (.generic (.object ⟨0⟩))), (ring, .read [.bytes [0xff]])]
    (s.streams.sink .eprint).accepted = Text.encode "\x7b a: \x7b..." ∧
    ((Utterance.print .direct .eprint (.text "b")).perform { s with heap := ring }).1
      = some (.io .shortWrite) ∧
    ((Utterance.print .direct .eprint (.text "")).perform { s with heap := ring }).1 = none := by
  have hout : Sink.Fresh { limit := some 9, chunk := some 2, interrupts := 1 } :=
    ⟨rfl, rfl, by decide⟩
  obtain ⟨hheld, htold, -⟩ := sayAll_output
    ⟨{ limit := some 9, chunk := some 2, interrupts := 1 }, none, .strict⟩ hout
    (fun _ hnone => nomatch hnone)
    [(⟨#[⟨⟨["a"], [.object ⟨0⟩], rfl⟩, .free⟩]⟩,
        .print .tagged .println (.generic (.object ⟨0⟩))),
      (⟨#[⟨⟨["a"], [.object ⟨0⟩], rfl⟩, .free⟩]⟩, .read [.bytes [0xff]])]
  refine ⟨(hheld .eprint).trans ?_, (htold _ .direct .eprint (.text "b")).2.trans ?_,
    (htold _ .direct .eprint (.text "")).2.trans ?_⟩
  · decide
  · decide
  · decide

/-- **Printing leaves no trace but the output.** Whatever an outlet refuses, and however deep in
an object, the objects in progress are the same before and after, and so are the objects in the
heap. What a value displays as never depends on what was printed before. -/
theorem printing_leaves_no_trace :
    (∀ (σ : Type) [Outlet σ] (w : Writing σ) (cs : List (Heap × Stream × Arg)),
      (Stream.printAll w cs).active = w.active) ∧
    (∀ (σ : Type) [Outlet σ] (out : σ) (cs : List (Heap × Stream × Arg)) (h : Heap) (v : Value),
      v.displayBelow h (Stream.printAll ⟨[], out⟩ cs).active = v.display h) ∧
    (∀ (u : Utterance) (s : Session),
      (u.perform s).2.active = s.active ∧ (u.perform s).2.heap = s.heap) ∧
    (∀ (streams : Streams) (us : List (Heap × Utterance)) (h : Heap) (v : Value),
      v.displayBelow h ((Session.start streams).sayAll us).active = v.display h) := by
  refine ⟨fun σ _ w cs => Stream.active_printAll w cs, fun σ _ out cs h v => ?_, fun u s => ?_,
    fun streams us h v => ?_⟩
  · rw [Stream.active_printAll]
    rfl
  · rw [u.perform_frame]
    exact ⟨rfl, rfl⟩
  · rw [Session.active_sayAll]
    rfl

end Script

end ScriptHost
