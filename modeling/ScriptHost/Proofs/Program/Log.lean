import ScriptHost.Proofs.Program.Settings
import ScriptHost.Proofs.Script.ReadBack

/-!
# What the log of a start shows

The level of the log is one of the settings, so the log cannot be open while the settings are looked
for. A file was read before, and the event for it goes to the log that was open then, if any.
Everything later goes to the log with the level of the settings.

- `Sink.writeLines`: a sink after events were written to it.
- `Issues`, `Issues.trans`: parts of a run that leave the log as it is, one after another.
- `earlyEvents`, `lateEvents`, `issued_start`, `stderr_start`: the events of a start before and
  after the log is opened, and what is written of them.
- `log_of_start_from_file`, `not_every_event_is_written`: a start with the settings of a file.
-/

namespace ScriptHost

/-! ## Lines of the log -/

/-- A sink after events were written to it, one after another. What it refuses is lost. -/
def Sink.writeLines (k : Sink) (es : List Log.Event) : Sink :=
  es.foldl (fun k e => (k.writeAll (Text.encode e.line)).2) k

namespace Sink

theorem writeLines_append (k : Sink) (es es' : List Log.Event) :
    k.writeLines (es ++ es') = (k.writeLines es).writeLines es' := List.foldl_append

/-- A sink that takes everything has all lines in the end. -/
theorem accepted_writeLines {k : Sink} (hk : k.Unfailing) (es : List Log.Event) :
    (k.writeLines es).accepted = k.accepted ++ es.flatMap fun e => Text.encode e.line := by
  induction es generalizing k with
  | nil => exact (List.append_nil _).symm
  | cons e rest ih =>
    obtain ⟨j, hj⟩ : ∃ j, (k.after k.accepted k.flushes k.interrupts).writeAll (Text.encode e.line)
        = (k.verdict k.accepted (Text.encode e.line),
           k.after (k.accepted ++ Text.encode e.line) k.flushes j) := writeAll_after hk.chunk
    rw [← hk.eq_after] at hj
    have haccepted : (k.writeAll (Text.encode e.line)).2.accepted
        = k.accepted ++ Text.encode e.line := by
      rw [hj, after, fitting, hk.limit]
    have hunfailing : (k.writeAll (Text.encode e.line)).2.Unfailing := by
      rw [hj]
      exact ⟨hk.limit, hk.chunk, hk.flushError⟩
    show ((k.writeAll (Text.encode e.line)).2.writeLines rest).accepted = _
    rw [ih hunfailing, haccepted, List.append_assoc, List.flatMap_cons]

end Sink

namespace Program

/-! ## Parts of a run that leave the log as it is -/

/-- From `p` on the events `es` are issued, in this order, until `q`. The log is neither opened nor
closed in between, and no one else writes to standard error. -/
structure Issues (p : Program) (es : List Log.Event) (q : Program) : Prop where
  issued : q.issued = p.issued ++ es
  filter : q.filter = p.filter
  stderr : q.stderr = p.stderr.writeLines (es.filter p.logs)

namespace Issues

theorem refl (p : Program) : Issues p [] p := ⟨(List.append_nil _).symm, rfl, rfl⟩

theorem trans {p q r : Program} {es es' : List Log.Event} (hfirst : Issues p es q)
    (hsecond : Issues q es' r) : Issues p (es ++ es') r := by
  have hlogs : q.logs = p.logs := by
    funext e
    rw [logs, logs, hfirst.filter]
  refine ⟨?_, hsecond.filter.trans hfirst.filter, ?_⟩
  · rw [hsecond.issued, hfirst.issued, List.append_assoc]
  · rw [hsecond.stderr, hlogs, hfirst.stderr, List.filter_append, Sink.writeLines_append]

end Issues

section Parts

variable (p : Program) (t : Thread)

theorem issues_log (e : Log.Event) : Issues p [e] (p.log e) := by
  refine ⟨rfl, rfl, ?_⟩
  rw [log]
  by_cases he : p.logs e = true
  · rw [if_pos he, List.filter_cons_of_pos he]
    rfl
  · rw [if_neg he, List.filter_cons_of_neg he]
    rfl

theorem issues_fixDecoding (d : Decoding) : Issues p [] (p.fixDecoding d).2 := by
  obtain ⟨_, _, _, _, _, _, fixedDecoding, _, _⟩ := p
  cases fixedDecoding <;> exact ⟨(List.append_nil _).symm, rfl, rfl⟩

theorem issues_bind (b : Bindings) : Issues p [] (p.bind t b) :=
  ⟨(List.append_nil _).symm, rfl, rfl⟩

theorem issues_logLoaded (loaded : Option Path) :
    Issues p (loaded.toList.map loadedEvent) (p.logLoaded loaded) := by
  cases loaded with
  | none => exact .refl p
  | some path => exact issues_log p (loadedEvent path)

theorem issues_warned (s : Settings) :
    Issues (p.prepared s) (conflictEvents s.input.decoding (p.prepared s).decoding)
      (p.warned s) := by
  rw [warned, conflictEvents]
  split
  · exact .refl _
  · exact issues_log _ _

/-- Once it has opened the log, an initialization does nothing to it but issue its events. -/
theorem issues_configure (s : Settings) :
    Issues (p.openLog s.logLevel).2
      (conflictEvents s.input.decoding (p.configure t s).decoding ++ [startedEvent s])
      (p.configure t s) := by
  have hprepared : Issues (p.openLog s.logLevel).2 [] (p.prepared s) :=
    issues_fixDecoding _ s.input.decoding
  -- The warning is about the decoding in force when it is issued, and no other comes after it.
  have hdecoding : (p.configure t s).decoding = (p.prepared s).decoding := by
    rw [configure_eq]
    show (p.warned s).decoding = (p.prepared s).decoding
    rw [warned]
    split <;> rfl
  have hbound : Issues (p.openLog s.logLevel).2
      (conflictEvents s.input.decoding (p.prepared s).decoding)
      ((p.warned s).bind t ⟨.standard, (p.warned s).decoding⟩) := by
    simpa using hprepared.trans ((issues_warned p s).trans (issues_bind _ t _))
  rw [hdecoding, configure_eq]
  exact hbound.trans (issues_log _ _)

end Parts

/-! ## The events of a start -/

section Start

variable (p : Program) (t : Thread)

/-- The events of a start before the log is opened. -/
def earlyEvents : List Log.Event := p.found.loaded.toList.map loadedEvent

/-- The events of a start after the log is opened. -/
def lateEvents : List Log.Event :=
  conflictEvents p.environmentSettings.input.decoding (p.start t).2.decoding
    ++ [startedEvent p.environmentSettings]
    ++ match p.found.settings with
      | .ok _ => []
      | .error e => [p.defaultsEvent e]

/-- A start reads a file, if it does, then opens the log, and then does the rest. -/
theorem issues_start :
    Issues p p.earlyEvents (p.logLoaded p.found.loaded)
      ∧ Issues ((p.logLoaded p.found.loaded).openLog p.environmentSettings.logLevel).2
          (p.lateEvents t) (p.start t).2 := by
  refine ⟨issues_logLoaded p _, ?_⟩
  cases hfound : p.found.settings with
  | ok s =>
    rw [lateEvents, environmentSettings_of_ok p hfound, start_of_ok p t hfound, hfound]
    simpa using issues_configure (p.logLoaded p.found.loaded) t s
  | error e =>
    have hdefaults := issues_configure (p.logLoaded p.found.loaded) t {}
    rw [lateEvents, environmentSettings_of_error p hfound, start_of_error p t hfound, hfound]
    exact hdefaults.trans (issues_log _ (p.defaultsEvent e))

theorem issued_openLog (level : String) : (p.openLog level).2.issued = p.issued := by
  obtain ⟨_, _, _, _, _, filter, _, _, _, _⟩ := p
  cases filter <;> rfl

theorem stderr_openLog (level : String) : (p.openLog level).2.stderr = p.stderr := by
  obtain ⟨_, _, _, _, _, filter, _, _, _, _⟩ := p
  cases filter <;> rfl

theorem issued_start : (p.start t).2.issued = p.issued ++ (p.earlyEvents ++ p.lateEvents t) := by
  obtain ⟨hearly, hlate⟩ := p.issues_start t
  rw [hlate.issued, issued_openLog, hearly.issued, List.append_assoc]

/-- The log that was open before, if any, decides on the early events, and the one that is open in
the end on the late ones. -/
theorem stderr_start :
    (p.start t).2.stderr = p.stderr.writeLines
      (p.earlyEvents.filter p.logs ++ (p.lateEvents t).filter (p.start t).2.logs) := by
  obtain ⟨hearly, hlate⟩ := p.issues_start t
  -- Once it is open the log keeps its filter, so the final state tells what it lets through.
  have hlogs : (p.start t).2.logs
      = ((p.logLoaded p.found.loaded).openLog p.environmentSettings.logLevel).2.logs := by
    funext e
    rw [logs, logs, hlate.filter]
  rw [hlate.stderr, stderr_openLog, hearly.stderr, hlogs, Sink.writeLines_append]

/-- If there is no log yet, nothing of the early events is written. -/
theorem stderr_start_of_closed (hclosed : p.filter = none) :
    (p.start t).2.stderr = p.stderr.writeLines
      ((p.lateEvents t).filter (Log.Filter.ofSetting p.environmentSettings.logLevel).enables) := by
  have hbefore : p.logs = fun _ => false := by
    funext e
    rw [logs, hclosed, Option.any_none]
  have hafter : (p.start t).2.logs
      = (Log.Filter.ofSetting p.environmentSettings.logLevel).enables := by
    funext e
    rw [logs, filter_start p t hclosed, Option.any_some]
  rw [stderr_start, hbefore, hafter, List.filter_false, List.nil_append]

theorem lateEvents_of_ok (hok : (p.start t).1 = true) :
    p.lateEvents t
      = conflictEvents p.environmentSettings.input.decoding (p.start t).2.decoding
        ++ [startedEvent p.environmentSettings] := by
  rw [lateEvents, found_of_start_fst p t hok, List.append_nil]

end Start

/-- The first start of a program, with the settings of a file. It issues the event that the file was
read, and the log does not get it, whatever its level. Of all later events it gets those that its
filter lets through. -/
theorem log_of_start_from_file (p : Program) (t : Thread) (path : Path) (hclosed : p.filter = none)
    (hok : (p.start t).1 = true) (hloaded : p.found.loaded = some path) :
    let late := conflictEvents p.environmentSettings.input.decoding (p.start t).2.decoding
      ++ [startedEvent p.environmentSettings]
    let lines := late.filter (Log.Filter.ofSetting p.environmentSettings.logLevel).enables
    (p.start t).2.issued = p.issued ++ loadedEvent path :: late
      ∧ loadedEvent path ∉ late
      ∧ (p.start t).2.stderr = p.stderr.writeLines lines
      ∧ (p.stderr.Unfailing → (p.start t).2.stderr.accepted
          = p.stderr.accepted ++ lines.flatMap fun e => Text.encode e.line) := by
  intro late lines
  have hlate : p.lateEvents t = late := p.lateEvents_of_ok t hok
  have hstderr : (p.start t).2.stderr = p.stderr.writeLines lines := by
    rw [p.stderr_start_of_closed t hclosed, hlate]
  refine ⟨?issued, ?missing, hstderr, fun hk => ?accepted⟩
  case issued =>
    rw [issued_start, hlate, earlyEvents, hloaded]
    rfl
  case missing =>
    simp [late, conflictEvents, loadedEvent, conflictEvent, startedEvent]
  case accepted =>
    rw [hstderr, Sink.accepted_writeLines hk]

/-- A program with a file for settings that asks for all debug events. -/
def debugged : Program :=
  begun ⟨[([Lookup.fileName], some (Text.encode "[runtime]\nlog_level = \"debug\"\n"))]⟩ {}
    (.bytes []) {} {}

theorem start_debugged : (debugged.start .main).1 = true := by decide +kernel

theorem loaded_debugged : debugged.found.loaded = some Lookup.besideProgram := by decide +kernel

theorem environmentSettings_debugged :
    debugged.environmentSettings = { logLevel := Log.Level.debug.name } := by decide +kernel

/-- After the log is opened there is one event, and its level is that of the log. -/
theorem lines_debugged :
    ((conflictEvents debugged.environmentSettings.input.decoding
          (debugged.start .main).2.decoding ++ [startedEvent debugged.environmentSettings]).filter
        (Log.Filter.ofSetting debugged.environmentSettings.logLevel).enables).flatMap
      (fun e => Text.encode e.line)
      = Text.encode "DEBUG tea_runtime: runtime initialized log_level=debug decoding=Lossy\n" := by
  have henabled : (Log.Filter.ofSetting Log.Level.debug.name).enables
      (startedEvent { logLevel := Log.Level.debug.name }) = true :=
    Log.Filter.enables_ofSetting_name .debug _
  rw [decoding_start debugged .main rfl, conflictEvents, if_pos rfl, List.nil_append,
    environmentSettings_debugged, List.filter_cons_of_pos henabled]
  decide +kernel

/-- The log of this program gets one line, which is not about the file. -/
theorem log_of_start_from_file_debugged :
    loadedEvent Lookup.besideProgram ∈ (debugged.start .main).2.issued
      ∧ (debugged.start .main).2.stderr.accepted = Text.encode
        "DEBUG tea_runtime: runtime initialized log_level=debug decoding=Lossy\n" := by
  obtain ⟨hissued, -, -, haccepted⟩ := log_of_start_from_file debugged .main
    Lookup.besideProgram rfl start_debugged loaded_debugged
  constructor
  · rw [hissued]
    exact List.mem_append_right _ List.mem_cons_self
  · rw [haccepted ⟨rfl, by decide, rfl⟩, lines_debugged]
    rfl

/-- Not every event is written that the log would let through. -/
theorem not_every_event_is_written :
    ¬ ∀ (files : FileTree) (environment : Environment) (t : Thread) (path : Path),
      let p := begun files environment (.bytes []) {} {}
      (p.start t).1 = true → p.found.loaded = some path →
      (∀ e : Log.Event, e.level = .debug → "tea_runtime".toList <+: e.target.toList →
        (Log.Filter.ofSetting p.environmentSettings.logLevel).enables e = true) →
      ∀ e ∈ (p.start t).2.issued, e.level = .debug →
        Text.encode e.line <:+: (p.start t).2.stderr.accepted := by
  intro hwritten
  -- The filter lets every debug event through, and the event for the file is one.
  have henables (e : Log.Event) (he : e.level = .debug) :
      (Log.Filter.ofSetting debugged.environmentSettings.logLevel).enables e = true := by
    rw [environmentSettings_debugged, Log.Filter.enables_ofSetting_name, he]
    rfl
  have hissued : loadedEvent Lookup.besideProgram ∈ (debugged.start .main).2.issued := by
    rw [issued_start, earlyEvents, loaded_debugged]
    exact List.mem_append_right _ List.mem_cons_self
  -- But its line is no part of what there is on standard error.
  have haccepted : (debugged.start .main).2.stderr.accepted = Text.encode
      "DEBUG tea_runtime: runtime initialized log_level=debug decoding=Lossy\n" := by
    rw [stderr_start_of_closed _ _ rfl, Sink.accepted_writeLines ⟨rfl, by decide, rfl⟩,
      lateEvents_of_ok _ _ start_debugged, lines_debugged]
    rfl
  have hline := hwritten debugged.files {} .main Lookup.besideProgram start_debugged
    loaded_debugged (fun e he _ => henables e he) _ hissued rfl
  have hpart : Text.encode (loadedEvent Lookup.besideProgram).line
      <:+: (debugged.start .main).2.stderr.accepted := hline
  rw [haccepted] at hpart
  exact absurd hpart (by decide +kernel)

end Program

end ScriptHost
