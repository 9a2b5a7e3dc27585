import ScriptHost.Proofs.Script.Drafts
import ScriptHost.Proofs.Script.Pairing
import ScriptHost.Proofs.Script.Reading

/-!
# Taking a step on both sides

If two sessions match, what is done to both of them keeps them so, and comes out alike. This holds
of every action and of every evaluation, and so of every literal.

- `Result.Matches`: two actions come out alike. `Native.Pairs.invoke_matches` is the case of a
  call, by recursion along the pairing of the functions.
- `Likewise`: two evaluations come out alike. `Likewise.bind` puts them together.
- `Draft.Alike.resolve_alike`: drafts with the same handlers make functions that are paired.
- `Literal.Like.evaluate_alike`: literals that differ in such drafts have values that match.
-/

namespace ScriptHost

open Script

variable {p : Pairing} {w : Nat × Nat} {s t : Session} {a b : Arg}

namespace Script

/-! ## Actions -/

/-- Two actions come out alike: with the same fault, if there is one, and in sessions that match,
with no more in use than before. -/
inductive Result.Matches (p : Pairing) (w : Nat × Nat) :
    EStateM.Result Fault Session Unit → EStateM.Result Fault Session Unit → Prop
  | ok {s t : Session} (h : Session.Matches p w s t) : Matches p w (.ok () s) (.ok () t)
  | error (e : Fault) {s t : Session} (h : Session.Matches p w s t) :
      Matches p w (.error e s) (.error e t)

namespace Session.Matches

/-- Both sides are bound to the same streams. -/
theorem install (hst : Session.Matches p w s t) (streams : Streams) :
    Session.Matches p w (s.install streams) (t.install streams) :=
  { hst with streams := rfl }

/-- Arguments that match write the same pieces. -/
theorem exists_item_writes (hst : Session.Matches p w s t)
    (hab : a.Matches (p.upTo w).correspondence b) :
    ∃ ss, Writer.Writes s.active (a.item (σ := Sink) s.heap) ss ∧
      Writer.Writes t.active (b.item (σ := Sink) t.heap) ss := by
  rw [hst.idle.1, hst.idle.2]
  cases hab with
  | generic hv =>
    obtain ⟨l, hl⟩ := exists_unfolds s.heap [] _
    obtain ⟨l', hl', hpieces⟩ := hl.of_matches hst.heap .nil hv
    exact ⟨l.pieces, Writer.value_writes hl, hpieces ▸ Writer.value_writes hl'⟩
  | text text => exact ⟨[text], Writer.writes_put text, Writer.writes_put text⟩
  | numeric x => exact ⟨[x.display], Writer.writes_put _, Writer.writes_put _⟩

/-- Arguments that match go to a stream alike. -/
theorem printThrough_matches (hst : Session.Matches p w s t) (entry : Entry) (st : Stream)
    (hab : a.Matches (p.upTo w).correspondence b) :
    Result.Matches p w (Session.printThrough entry st a s) (Session.printThrough entry st b t) := by
  obtain ⟨ss, hs, ht⟩ := hst.exists_item_writes hab
  rw [Session.printThrough_eq_writing, Session.printThrough_eq_writing, Session.writing,
    Session.writing, Stream.emit_of_writes st hs, Stream.emit_of_writes st ht, hst.streams]
  have hafter := hst.install
    (t.streams.withSink st (st.deliver (t.streams.sink st) ss).2)
  generalize st.deliver (t.streams.sink st) ss = delivered at hafter ⊢
  rcases delivered with ⟨_ | e, k⟩
  · exact .ok hafter
  · exact .error (.io e) hafter

/-- A pair is appended to objects that are paired. -/
theorem append_matches (hst : Session.Matches p w s t) {r r' : ObjectRef} (key : String)
    {v v' : Value} (hr : (p.upTo w).objects r r') (hv : v.Matches (p.upTo w).correspondence v') :
    Result.Matches p w (Session.append r key v s) (Session.append r' key v' t) := by
  have hread := hst.heap.read? hr
  show Result.Matches p w (.ok () _) (.ok () _)
  beta_reduce
  generalize s.heap.read? r = o, t.heap.read? r' = o' at hread
  cases hread with
  | none => exact .ok hst
  | some ho => exact .ok (hst.write hr (Object.Matches.add ho key hv))

/-- Both sides note that a handler runs. -/
theorem logCall (hst : Session.Matches p w s t) (label : String)
    (hab : a.Matches (p.upTo w).correspondence b) :
    Session.Matches p w
      { s with calls := s.calls ++ [⟨label, a, Brief.of s.heap a.boxed⟩] }
      { t with calls := t.calls ++ [⟨label, b, Brief.of t.heap b.boxed⟩] } :=
  { hst with
    calls := List.rel_append hst.calls (.cons ⟨rfl, hab, hst.brief_eq hab.boxed⟩ .nil) }

end Session.Matches

end Script

mutual

/-- Functions that are paired are called alike. By recursion along the pairing: a handler may
forward to another function, which is paired in its turn. -/
theorem Native.Pairs.invoke_matches {f g : Native} :
    Native.Pairs (p.upTo w) f g → ∀ {s t : Session} {a b : Arg}, Session.Matches p w s t →
      a.Matches (p.upTo w).correspondence b →
        Result.Matches p w (invoke f a s) (invoke g b t)
  | .mk hid hlabel hhandles hhandlers hclaims, s, t, a, b, hst, hab => by
    have hthrough := hab.through (.mk hid hlabel hhandles hhandlers hclaims)
    rw [invoke_apply, invoke_apply, ← hthrough.shape_eq, ← hlabel]
    have hlogged := hst.logCall f.label hthrough
    rw [Arg.boxed_through, Arg.boxed_through] at hlogged
    exact (hhandlers _).effect_matches hlogged hthrough

theorem Handler.Pairs.effect_matches {h h' : Handler Native} :
    Handler.Pairs (p.upTo w) h h' → ∀ {s t : Session} {a b : Arg}, Session.Matches p w s t →
      a.Matches (p.upTo w).correspondence b →
        Result.Matches p w (h.effect a s) (h'.effect b t)
  | .succeed, _, _, _, _, hst, _ => .ok hst
  | .fail e, _, _, _, _, hst, _ => .error e hst
  | .forward hfg, _, _, _, _, hst, hab => hfg.invoke_matches hst hab
  | .print st, _, _, _, _, hst, hab => hst.printThrough_matches .tagged st hab
  | .store key hr, _, _, _, _, hst, hab => hst.append_matches key hr hab.boxed

end

namespace Script

/-! ## Evaluations -/

/-- Two evaluations come out alike: with results that correspond, or refused for the same reason.
Either way the sessions match, with no less in use than before. -/
inductive Likewise {α β : Type} (p : Pairing) (w : Nat × Nat) (R : Pairing → α → β → Prop) :
    EStateM.Result Refusal Session α → EStateM.Result Refusal Session β → Prop
  | returned {w' : Nat × Nat} {x : α} {y : β} {s t : Session} (hst : Session.Matches p w' s t)
      (hw : w ≤ w') (hxy : R (p.upTo w') x y) : Likewise p w R (.ok x s) (.ok y t)
  | refused {w' : Nat × Nat} {s t : Session} (hst : Session.Matches p w' s t) (hw : w ≤ w')
      (e : Refusal) : Likewise p w R (.error e s) (.error e t)

namespace Likewise

variable {α β γ δ : Type} {R : Pairing → α → β → Prop} {S : Pairing → γ → δ → Prop}

theorem ok {x : α} {y : β} (hst : Session.Matches p w s t) (hxy : R (p.upTo w) x y) :
    Likewise p w R (.ok x s) (.ok y t) := .returned hst le_rfl hxy

theorem error (hst : Session.Matches p w s t) (e : Refusal) :
    Likewise p w R (.error e s) (.error e t) := .refused hst le_rfl e

theorem mono {w' : Nat × Nat} {x : EStateM.Result Refusal Session α}
    {y : EStateM.Result Refusal Session β} (hw : w ≤ w') (h : Likewise p w' R x y) :
    Likewise p w R x y := by
  cases h with
  | returned hst hw' hxy => exact .returned hst (hw.trans hw') hxy
  | refused hst hw' e => exact .refused hst (hw.trans hw') e

/-- Evaluations are put together on both sides. What comes second may rely on what comes first,
and finds at least as much in use. If what comes first is refused, nothing comes second. -/
theorem bind {x : Evaluation α} {y : Evaluation β} {f : α → Evaluation γ} {g : β → Evaluation δ}
    (hxy : Likewise p w R (x s) (y t))
    (hfg : ∀ {w' a b s' t'}, w ≤ w' → Session.Matches p w' s' t' → R (p.upTo w') a b →
      Likewise p w' S (f a s') (g b t')) :
    Likewise p w S ((x >>= f) s) ((y >>= g) t) := by
  show Likewise p w S (EStateM.bind x f s) (EStateM.bind y g t)
  unfold EStateM.bind
  generalize x s = x', y t = y' at hxy
  cases hxy with
  | returned hst hw hab => exact (hfg hw hst hab).mono hw
  | refused hst hw e => exact .refused hst hw e

end Likewise

namespace Session.Matches

theorem valueOf_alike (hst : Session.Matches p w s t) (name : String) :
    Likewise p w (fun q => Value.Matches q.correspondence) (Session.valueOf name s)
      (Session.valueOf name t) := by
  have hfound := hst.lookup? name
  unfold Session.valueOf
  generalize s.lookup? name = x, t.lookup? name = y at hfound
  cases hfound with
  | none => exact .error hst _
  | some hv => exact .ok hst hv

theorem objectRef_alike (hst : Session.Matches p w s t) (name : String) :
    Likewise p w (fun q => q.objects) (Session.objectRef name s) (Session.objectRef name t) := by
  unfold Session.objectRef
  refine (hst.valueOf_alike name).bind fun _ hst' hv => ?_
  cases hv with
  | object hr => exact .ok hst' hr
  | scalar _ | function _ | foreign _ => exact .error hst' _

theorem function_alike (hst : Session.Matches p w s t) (name : String) :
    Likewise p w Native.Pairs (Session.function name s) (Session.function name t) := by
  unfold Session.function
  refine (hst.valueOf_alike name).bind fun _ hst' hv => ?_
  cases hv with
  | function hf => exact .ok hst' hf
  | scalar _ | object _ | foreign _ => exact .error hst' _

/-- An identity is new on both sides. -/
theorem freshId_alike (hst : Session.Matches p w s t) :
    Likewise p w (fun q => q.ids) (Session.freshId s) (Session.freshId t) := by
  refine .returned hst.skipId ⟨Nat.le_refl _, Nat.le_succ _⟩ ⟨?_, ?_⟩
  · exact Nat.lt_succ_of_le (Nat.le_of_eq hst.nextId_eq)
  · exact hst.nextId_eq ▸ hst.freshIds 0

/-- An object is new on both sides, or cannot be made on either. -/
theorem newObject_alike (hst : Session.Matches p w s t) (keys : List String)
    {vs vs' : List Value} (hvs : List.Forall₂ (Value.Matches (p.upTo w).correspondence) vs vs') :
    Likewise p w (fun q => q.objects) (Session.newObject keys vs s)
      (Session.newObject keys vs' t) := by
  have hrecord : Parallel (Object.Matches (p.upTo w).correspondence) (Record.ofColumns keys vs)
      (Record.ofColumns keys vs') :=
    Record.Related.ofColumns (List.forall₂_same.mpr fun _ _ => rfl) hvs
  unfold Session.newObject
  generalize Record.ofColumns keys vs = x, Record.ofColumns keys vs' = y at hrecord
  cases hrecord with
  | error e => exact .error hst _
  | ok ho =>
    refine .returned (hst.allocate ho) ⟨Nat.le_succ _, Nat.le_refl _⟩ ⟨?_, ?_⟩
    · exact Nat.lt_succ_of_le (Nat.le_of_eq hst.size_eq)
    · exact hst.size_eq ▸ hst.freshObjects 0

/-- The object that a variable refers to. -/
theorem object_alike (hst : Session.Matches p w s t) (name : String) :
    Likewise p w (fun q x y => q.objects x.1 y.1 ∧ Object.Matches q.correspondence x.2 y.2)
      (Session.object name s) (Session.object name t) := by
  unfold Session.object
  refine (hst.objectRef_alike name).bind fun {w' r r' s' t'} _ hst' hr => ?_
  have hread := hst'.heap.read? hr
  rw [Evaluation.get_bind, Evaluation.get_bind]
  generalize s'.heap.read? r = o, t'.heap.read? r' = o' at hread
  cases hread with
  | none => exact .error hst' _
  | some ho => exact .ok hst' ⟨hr, ho⟩

end Session.Matches

/-! ## Literals -/

theorem HandlerDraft.resolve_alike (d : HandlerDraft) (hst : Session.Matches p w s t) :
    Likewise p w Handler.Pairs (d.resolve s) (d.resolve t) := by
  cases d with
  | succeed => exact .ok hst .succeed
  | fail e => exact .ok hst (.fail e)
  | forward name =>
    exact (hst.function_alike name).bind fun _ hst' hfg => .ok hst' (.forward hfg)
  | print st => exact .ok hst (.print st)
  | store name key =>
    exact (hst.objectRef_alike name).bind fun _ hst' hr => .ok hst' (.store key hr)

theorem HandlerDraft.resolve?_alike (d : Option HandlerDraft) (hst : Session.Matches p w s t) :
    Likewise p w (fun q => Option.Rel (Handler.Pairs q)) (HandlerDraft.resolve? d s)
      (HandlerDraft.resolve? d t) := by
  cases d with
  | none => exact .ok hst .none
  | some d => exact (d.resolve_alike hst).bind fun _ hst' hh => .ok hst' (.some hh)

theorem handlers_mono {q : Pairing} (hpq : p ≤ q) {h h' : Option (Handler Native)}
    (hh : Option.Rel (Handler.Pairs p) h h') : Option.Rel (Handler.Pairs q) h h' := by
  cases hh with
  | none => exact .none
  | some hh => exact .some (hh.mono hpq)

/-- Drafts with the same handlers make functions that are paired. -/
theorem Draft.Alike.resolve_alike {d d' : Draft} (hd : Draft.Alike p.exact d d')
    (hst : Session.Matches p w s t) : Likewise p w Native.Pairs (d.resolve s) (d'.resolve t) := by
  rw [Draft.resolve_eq, Draft.resolve_eq, ← hd.label, ← hd.generic, ← hd.text, ← hd.numeric]
  refine hst.freshId_alike.bind fun hw hst' hid => ?_
  refine (HandlerDraft.resolve_alike d.generic hst').bind fun hw₁ hst₁ hgeneric => ?_
  refine (HandlerDraft.resolve?_alike d.textHandler hst₁).bind fun hw₂ hst₂ htext => ?_
  refine (HandlerDraft.resolve?_alike d.numericHandler hst₂).bind fun hw₃ hst₃ hnumeric => ?_
  -- what was resolved earlier is still paired
  have hle₂ := p.upTo_mono hw₃
  have hle₁ := p.upTo_mono (hw₂.trans hw₃)
  have hle := p.upTo_mono (hw₁.trans (hw₂.trans hw₃))
  exact .ok hst₃ (.of_handlers (hle.2.1 _ _ hid) (hgeneric.mono hle₁) (handlers_mono hle₂ htext)
    hnumeric hd.claims)

mutual

/-- Literals that differ in such drafts have values that match. -/
theorem Literal.Like.evaluate_alike {l l' : Literal} :
    l.Like (Draft.Alike p.exact) l' → ∀ {w : Nat × Nat} {s t : Session},
      Session.Matches p w s t →
        Likewise p w (fun q => Value.Matches q.correspondence) (l.evaluate s) (l'.evaluate t)
  | .scalar x, _, _, _, hst => .ok hst (.scalar x)
  | .named name, _, _, _, hst => hst.valueOf_alike name
  | .object keys h, _, _, _, hst => by
    rw [Literal.evaluate, Literal.evaluate]
    refine (h.evaluateAll_alike hst).bind fun _ hst' hvs => ?_
    exact (hst'.newObject_alike keys hvs).bind fun _ hst'' hr => .ok hst'' (.object hr)
  | .foreign content, _, _, _, hst => by
    rw [Literal.evaluate]
    exact hst.freshId_alike.bind fun _ hst' hid => .ok hst' (.foreign ⟨hid, rfl⟩)
  | .function hd, _, _, _, hst => by
    rw [Literal.evaluate, Literal.evaluate]
    exact (hd.resolve_alike hst).bind fun _ hst' hf => .ok hst' (.function hf)

theorem Literal.AllLike.evaluateAll_alike {ls ls' : List Literal} :
    Literal.AllLike (Draft.Alike p.exact) ls ls' → ∀ {w : Nat × Nat} {s t : Session},
      Session.Matches p w s t →
        Likewise p w (fun q => List.Forall₂ (Value.Matches q.correspondence))
          (Literal.evaluateAll ls s) (Literal.evaluateAll ls' t)
  | .nil, _, _, _, hst => .ok hst .nil
  | .cons h hs, _, _, _, hst => by
    rw [Literal.evaluateAll, Literal.evaluateAll]
    refine (h.evaluate_alike hst).bind fun _ hst' hv => ?_
    refine (hs.evaluateAll_alike hst').bind fun hw hst'' hvs => ?_
    exact .ok hst'' (.cons (hv.mono (p.upTo_mono hw)) hvs)

end

theorem ArgLiteral.Like.evaluate_alike {l l' : ArgLiteral}
    (h : l.Like (Draft.Alike p.exact) l') (hst : Session.Matches p w s t) :
    Likewise p w (fun q => Arg.Matches q.correspondence) (l.evaluate s) (l'.evaluate t) := by
  cases h with
  | generic h => exact (h.evaluate_alike hst).bind fun _ hst' hv => .ok hst' (.generic hv)
  | text x => exact .ok hst (.text x)
  | numeric x => exact .ok hst (.numeric x)

end Script

end ScriptHost
