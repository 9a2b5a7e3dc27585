import ScriptHost.Proofs.Value.Layout
import ScriptHost.Value.Writing

/-!
# Writing a value writes its layout

A value is written piece by piece by actions that keep a list of the objects in progress, and the
outlet may refuse any piece. Seen from outside such an action does two things only: it offers the
pieces of the layout one after another until one is refused, and it leaves the list as it was.

- `Layout.pieces`: the pieces of text of which a layout is written.
- `Outlet.putAll`: pieces are put into an outlet until one is refused.
- `Writer.Writes`: the action writes just these pieces while the objects of a path are in
  progress.
- `Writes.bind`, `Writes.within`: how actions compose. An object that is put on the list is
  taken off it again whether or not a piece was refused.
- `valueWithin_writes`: a value writes the pieces of its layout, as long as there is room to
  enter all objects off the path; `value_writes`: there always is.
- `display_eq_text_of_unfolds`: the text of a value is that of its layout.
-/

namespace ScriptHost

/-! ## Pieces -/

namespace Layout

mutual

/-- The pieces in which a layout is written. -/
def pieces : Layout → List String
  | leaf s => [s]
  | elided _ => ["\x7b...\x7d"]
  | full _ [] => ["\x7b\x7d"]
  | full _ ((k, t) :: ps) => "\x7b " :: k :: ": " :: (pieces t ++ (restPieces ps ++ [" \x7d"]))

/-- The pieces of pairs that stand behind another one. -/
def restPieces : List (String × Layout) → List String
  | [] => []
  | (k, t) :: ps => ", " :: k :: ": " :: (pieces t ++ restPieces ps)

end

mutual

/-- The pieces of a layout make up its text. -/
theorem join_pieces : ∀ t : Layout, String.join t.pieces = t.text
  | leaf s => by simp [pieces, text]
  | elided _ => by simp [pieces, text]
  | full _ [] => by simp [pieces, text]
  | full _ ((k, t) :: ps) => by
    simp [pieces, text, String.join_append, String.append_assoc, join_pieces t,
      intercalate_pairTexts k t ps]

theorem intercalate_pairTexts (k : String) (t : Layout) :
    ∀ ps : List (String × Layout), ", ".intercalate (pairTexts ((k, t) :: ps))
      = k ++ (": " ++ (t.text ++ String.join (restPieces ps)))
  | [] => by simp [pairTexts, restPieces, String.append_assoc]
  | (l, u) :: ps => by
    have ih := intercalate_pairTexts l u ps
    rw [pairTexts] at ih ⊢
    rw [pairTexts, String.intercalate_cons_cons, ih]
    simp [restPieces, String.join_append, String.append_assoc, join_pieces u]

end

end Layout

namespace Outlet

variable {σ : Type} [Outlet σ]

/-- Puts pieces into an outlet, one after another, until one is refused. -/
def putAll (out : σ) : List String → Option IoError × σ
  | [] => (none, out)
  | s :: ss =>
    match put out s with
    | (none, out') => putAll out' ss
    | refused => refused

theorem putAll_singleton (out : σ) (s : String) : putAll out [s] = put out s := by
  unfold putAll
  rcases put out s with ⟨_ | e, out'⟩ <;> rfl

/-- What follows is put only if everything before went through. -/
theorem putAll_append (out : σ) (ss ts : List String) :
    putAll out (ss ++ ts) =
      match putAll out ss with
      | (none, out') => putAll out' ts
      | refused => refused := by
  induction ss generalizing out with
  | nil => rfl
  | cons s ss ih =>
    rw [List.cons_append, putAll, putAll]
    rcases put out s with ⟨_ | e, out'⟩
    · exact ih out'
    · rfl

/-- A text refuses nothing. -/
theorem putAll_string (out : String) (ss : List String) :
    putAll out ss = (none, out ++ String.join ss) := by
  induction ss generalizing out with
  | nil => simp [putAll]
  | cons s ss ih =>
    show putAll (out ++ s) ss = _
    rw [ih, String.join_cons, String.append_assoc]

end Outlet

/-! ## What an action writes -/

namespace Writer

variable {σ : Type} [Outlet σ]

/-- The result of an action that leaves the objects of `path` in progress, from what the outlet
said. -/
def settle (path : List ObjectRef) :
    Option IoError × σ → EStateM.Result IoError (Writing σ) Unit
  | (none, out) => .ok () ⟨path, out⟩
  | (some e, out) => .error e ⟨path, out⟩

/-- The action writes the pieces `ss` and nothing else while the objects of `path` are in
progress, and whether it succeeds or fails, those same objects are in progress afterwards. -/
def Writes (path : List ObjectRef) (action : Writer σ Unit) (ss : List String) : Prop :=
  ∀ out, action ⟨path, out⟩ = settle path (Outlet.putAll out ss)

variable {path : List ObjectRef} {action next : Writer σ Unit} {ss ts : List String}

theorem writes_pure : Writes path (pure () : Writer σ Unit) [] := fun _ => rfl

theorem writes_put (s : String) : Writes path (put s : Writer σ Unit) [s] := by
  intro out
  rw [Outlet.putAll_singleton, put]
  dsimp only
  rcases Outlet.put out s with ⟨_ | e, out'⟩ <;> rfl

/-- One action after another writes the pieces of both. The second does not run if a piece of
the first was refused. -/
theorem Writes.bind (h : Writes path action ss) (h' : Writes path next ts) :
    Writes path (do action; next) (ss ++ ts) := by
  intro out
  show EStateM.bind action (fun _ => next) ⟨path, out⟩ = _
  rw [EStateM.bind, h out, Outlet.putAll_append]
  rcases Outlet.putAll out ss with ⟨_ | e, out'⟩
  · exact h' out'
  · rfl

/-- An object that is put on the list for the time of an action is off it afterwards. -/
theorem Writes.within {r : ObjectRef} (h : Writes (r :: path) action ss) :
    Writes path (within r action) ss := by
  intro out
  rw [Writer.within, h out]
  rcases Outlet.putAll out ss with ⟨_ | e, out'⟩ <;> rfl

/-! ## Objects and values -/

theorem restOfPairs_writes {h : Heap} {value : Value → Writer σ Unit}
    (each : ∀ {v t}, Unfolds h path v t → Writes path (value v) t.pieces) :
    ∀ {ps : List (String × Value)} {ts : List (String × Layout)},
      UnfoldsPairs h path ps ts → Writes path (restOfPairs value ps) (Layout.restPieces ts)
  | _, _, .nil => writes_pure
  | _, _, .cons ht hts =>
    (writes_put ", ").bind <| (writes_put _).bind <| (writes_put ": ").bind <|
      (each ht).bind (restOfPairs_writes each hts)

/-- An object is written in full if each value in it is written as it unfolds. -/
theorem object_writes {h : Heap} {value : Value → Writer σ Unit}
    (each : ∀ {v t}, Unfolds h path v t → Writes path (value v) t.pieces)
    {o : Object} {ts : List (String × Layout)} (hts : UnfoldsPairs h path o.toPairs ts)
    (r : ObjectRef) : Writes path (object value o) (Layout.full r ts).pieces := by
  unfold object
  generalize o.toPairs = ps at hts
  cases hts with
  | nil => exact writes_put _
  | cons ht hts =>
    exact (writes_put "\x7b ").bind <| (writes_put _).bind <| (writes_put ": ").bind <|
      (each ht).bind <| (restOfPairs_writes each hts).bind (writes_put " \x7d")

theorem valueWithin_leaf {h : Heap} {n : Nat} {v : Value} {s : String}
    (hs : v.leafText? = some s) : valueWithin (σ := σ) h n v = put s := by
  cases v with
  | scalar _ => cases hs; rw [valueWithin]
  | object _ => cases hs
  | function _ => cases hs; rw [valueWithin]
  | foreign _ => cases hs; rw [valueWithin]

theorem valueWithin_elided {h : Heap} {n : Nat} {r : ObjectRef}
    (hr : r ∈ path ∨ h.HeldForChange r) :
    Writes path (valueWithin (σ := σ) h n (.object r)) ["{...}"] := by
  intro out
  rw [← writes_put, valueWithin]
  by_cases hmem : r ∈ path
  · exact if_pos (List.contains_iff_mem.mpr hmem)
  · have hnone : h.read? r = none := Heap.heldForChange_iff_read?.mp (hr.resolve_left hmem)
    refine (if_neg fun hc => hmem (List.contains_iff_mem.mp hc)).trans ?_
    rw [hnone]
    rfl

theorem valueWithin_entered {h : Heap} {n : Nat} {r : ObjectRef} {o : Object} (hr : r ∉ path)
    (ho : h.read? r = some o) (out : σ) :
    valueWithin h (n + 1) (.object r) ⟨path, out⟩
      = within r (object (valueWithin h n) o) ⟨path, out⟩ := by
  rw [valueWithin]
  refine (if_neg fun hc => hr (List.contains_iff_mem.mp hc)).trans ?_
  rw [ho]

/-- A value writes the pieces of its layout, if it may enter as many objects as lie off the
path. By induction on that number: entering an object takes one off it. -/
theorem valueWithin_writes {h : Heap} :
    ∀ {n : Nat} {path : List ObjectRef} {v : Value} {t : Layout}, h.offPath path ≤ n →
      Unfolds h path v t → Writes path (valueWithin (σ := σ) h n v) t.pieces
  | _, _, _, _, _, .leaf hs => by
    rw [valueWithin_leaf hs]
    exact writes_put _
  | _, _, _, _, _, .elided hr => valueWithin_elided hr
  | 0, _, _, _, hn, .full hr cell hc _ => by
    -- an object that can be entered lies off the path, so there is room for one at least
    have hsize := (Array.getElem?_eq_some_iff.mp cell).1
    exact absurd (Heap.offPath_cons_lt hsize hr) (by omega)
  | n + 1, path, _, _, hn, .full (r := r) (c := c) hr cell hc inner => by
    have hsize := (Array.getElem?_eq_some_iff.mp cell).1
    have hlt : h.offPath (r :: path) ≤ n := by
      have := Heap.offPath_cons_lt hsize hr
      omega
    have ho : h.read? r = some c.object := Heap.read?_eq_some_iff.mpr ⟨c, cell, hc, rfl⟩
    intro out
    rw [valueWithin_entered hr ho]
    exact (object_writes (valueWithin_writes hlt) inner r).within out

/-- The bound on the depth is never felt: a value writes the pieces of its layout. -/
theorem value_writes {h : Heap} {v : Value} {t : Layout} (ht : Unfolds h path v t) :
    Writes path (value (σ := σ) h v) t.pieces :=
  valueWithin_writes (h.offPath_le_size path) ht

/-- The text of an action is made up of the pieces it writes. -/
theorem text_of_writes {action : Writer String Unit} (h : Writes [] action ss) :
    action.text = String.join ss := by
  rw [Writer.text, h, Outlet.putAll_string]
  exact String.empty_append

end Writer

/-! ## Display -/

/-- A value displays as the text of its layout. -/
theorem display_eq_text_of_unfolds {h : Heap} {v : Value} {t : Layout} (ht : Unfolds h [] v t) :
    v.display h = t.text :=
  (Writer.text_of_writes (Writer.value_writes ht)).trans t.join_pieces

/-- **A value displays as what it unfolds to**, and it unfolds to one layout only. In that
layout an object is left out in one place exactly if it is an ancestor of that place or is held
for a change, so that an object which is met twice, but not below itself, is there in full both
times. Readers of an object make no difference. -/
theorem display_eq_text_of_unique_layout (h : Heap) (v : Value) :
    ∃ t, Unfolds h [] v t ∧ (∀ u, Unfolds h [] v u → u = t) ∧ v.display h = t.text ∧
      (∀ path u r, t.Occurs path u → u.object? = some r →
        (u = .elided r ↔ r ∈ path ∨ h.HeldForChange r)) ∧
      v.display h.withoutReaders = v.display h := by
  obtain ⟨t, ht⟩ := exists_unfolds h [] v
  refine ⟨t, ht, fun u hu => unfolds_unique hu ht, display_eq_text_of_unfolds ht, ?_, ?_⟩
  · intro path u r occurs hr
    exact elided_iff_of_occurs ht occurs hr
  · rw [display_eq_text_of_unfolds ht, display_eq_text_of_unfolds ht.withoutReaders]

/-- Two objects, each below the other, and the second met twice. It is in full both times, as it is
not below itself and nobody changes it. -/
theorem display_eq_text_of_unique_layout_twice :
    let h : Heap := ⟨#[⟨⟨["a", "b"], [.object ⟨1⟩, .object ⟨1⟩], rfl⟩, .shared⟩,
      ⟨⟨["up"], [.object ⟨0⟩], rfl⟩, .free⟩]⟩
    let inner : Layout := .full ⟨1⟩ [("up", .elided ⟨0⟩)]
    (Value.object ⟨0⟩).display h
        = "\x7b a: \x7b up: \x7b...\x7d \x7d, b: \x7b up: \x7b...\x7d \x7d \x7d" ∧
      (inner = .elided ⟨1⟩ ↔ ⟨1⟩ ∈ [(⟨0⟩ : ObjectRef)] ∨ h.HeldForChange ⟨1⟩) := by
  intro h inner
  obtain ⟨t, -, hunique, hdisplay, helided, -⟩ := display_eq_text_of_unique_layout h (.object ⟨0⟩)
  have hinner : Unfolds h [⟨0⟩] (.object ⟨1⟩) inner :=
    .full (by decide) rfl (by decide) (.cons (.elided (.inl (by decide))) .nil)
  have houter : Unfolds h [] (.object ⟨0⟩) (.full ⟨0⟩ [("a", inner), ("b", inner)]) :=
    .full (by decide) rfl (by decide) (.cons hinner (.cons hinner .nil))
  obtain rfl := hunique _ houter
  refine ⟨?_, ?_⟩
  · rw [hdisplay]
    rfl
  · exact helided [⟨0⟩] inner ⟨1⟩ (.inside List.mem_cons_self (.top _)) rfl

end ScriptHost
