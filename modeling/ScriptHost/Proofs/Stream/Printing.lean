import ScriptHost.Proofs.Value.Display
import ScriptHost.Stream.Printing

/-!
# Printing on any outlet

What a stream does to an outlet depends on the pieces of the item alone, and the objects in
progress are the same before and after, whatever the outlet refuses.

- `Arg.display`: the text of an argument in program output.
- `Stream.deliver`: what comes of pieces on a stream.
- `Stream.emit_of_writes`: an item on a stream is its pieces on that stream.
- `Arg.exists_item_writes`: every argument writes pieces, and they make up its text while no
  object is in progress.
- `Value.displayBelow`: the text of a value while objects are in progress.
- `Stream.printAll`: arguments on streams, one after another, and failures passed over.
-/

namespace ScriptHost

/-! ## Items -/

/-- The text of an argument in program output. -/
def Arg.display (h : Heap) : Arg → String
  | generic v => v.display h
  | text s => s
  | numeric x => x.display

/-- Every argument writes pieces, the same on every outlet. -/
theorem Arg.exists_item_writes (h : Heap) (path : List ObjectRef) (a : Arg) :
    ∃ ss, (∀ (σ : Type) [Outlet σ], Writer.Writes path (a.item (σ := σ) h) ss) ∧
      (path = [] → String.join ss = a.display h) := by
  cases a with
  | generic v =>
    obtain ⟨t, ht⟩ := exists_unfolds h path v
    refine ⟨t.pieces, fun σ _ => Writer.value_writes ht, ?_⟩
    rintro rfl
    rw [t.join_pieces]
    exact (display_eq_text_of_unfolds ht).symm
  | text s => exact ⟨[s], fun σ _ => Writer.writes_put s, fun _ => by simp [display]⟩
  | numeric x => exact ⟨[x.display], fun σ _ => Writer.writes_put _, fun _ => by simp [display]⟩

/-! ## Streams -/

theorem Writer.flush_eq_settle {σ : Type} [Outlet σ] (path : List ObjectRef) (out : σ) :
    Writer.flush ⟨path, out⟩ = Writer.settle path (Outlet.flush out) := by
  rw [Writer.flush]
  dsimp only
  rcases Outlet.flush out with ⟨_ | e, out'⟩ <;> rfl

namespace Stream

variable {σ : Type} [Outlet σ]

/-- What comes of pieces on a stream: a line end follows them, or a flush if none was refused. -/
def deliver (s : Stream) (out : σ) (ss : List String) : Option IoError × σ :=
  if s.endsLine then Outlet.putAll out (ss ++ ["\n"])
  else
    match Outlet.putAll out ss with
    | (none, out') => Outlet.flush out'
    | refused => refused

/-- An item on a stream is its pieces on that stream. -/
theorem emit_of_writes (s : Stream) {path : List ObjectRef} {item : Writer σ Unit}
    {ss : List String} (h : Writer.Writes path item ss) (out : σ) :
    s.emit item ⟨path, out⟩ = Writer.settle path (s.deliver out ss) := by
  by_cases hs : s.endsLine = true
  · rw [emit, deliver, if_pos hs, if_pos hs]
    exact (h.bind (Writer.writes_put "\n")) out
  · rw [emit, deliver, if_neg hs, if_neg hs]
    show EStateM.bind item (fun _ => Writer.flush) ⟨path, out⟩ = _
    rw [EStateM.bind, h out]
    rcases Outlet.putAll out ss with ⟨_ | e, out'⟩
    · exact Writer.flush_eq_settle path out'
    · rfl

/-- An argument on a stream, whether it goes through or not. -/
def printed (w : Writing σ) (c : Heap × Stream × Arg) : Writing σ :=
  match c.2.1.emit (c.2.2.item c.1) w with
  | .ok () w' => w'
  | .error _ w' => w'

/-- Arguments on streams, one after another, whether they go through or not. In between, the
objects may become any others. -/
def printAll (w : Writing σ) (cs : List (Heap × Stream × Arg)) : Writing σ := cs.foldl printed w

/-- Printing leaves the objects in progress as they were. -/
@[simp] theorem active_printed (w : Writing σ) (c : Heap × Stream × Arg) :
    (printed w c).active = w.active := by
  obtain ⟨path, out⟩ := w
  obtain ⟨h, st, a⟩ := c
  obtain ⟨ss, hss, -⟩ := a.exists_item_writes h path
  rw [printed, emit_of_writes st (hss σ)]
  rcases st.deliver out ss with ⟨_ | e, out'⟩ <;> rfl

@[simp] theorem active_printAll (w : Writing σ) (cs : List (Heap × Stream × Arg)) :
    (printAll w cs).active = w.active := by
  induction cs generalizing w with
  | nil => rfl
  | cons c cs ih =>
    show (printAll (printed w c) cs).active = w.active
    rw [ih, active_printed]

end Stream

/-- The text of a value while the objects of a path are in progress. -/
def Value.displayBelow (h : Heap) (path : List ObjectRef) (v : Value) : String :=
  match Writer.value h v ⟨path, ""⟩ with
  | .ok _ w => w.outlet
  | .error _ w => w.outlet

end ScriptHost
