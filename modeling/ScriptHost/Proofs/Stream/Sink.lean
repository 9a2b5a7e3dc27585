import ScriptHost.Proofs.Value.Display
import ScriptHost.Stream.Sink

/-!
# What a sink holds

A sink is offered bytes in pieces, takes them in parts, is interrupted, and is full at last. None
of this can be told from what it holds in the end: that is the first bytes of all it was offered,
as many as it has room for. Nor does it matter for its answers how the bytes were cut.

- `Sink.fitting`, `Sink.takes`, `Sink.verdict`: the bytes for which a sink has room, whether it
  takes all of some more, and what it says of them.
- `Sink.after`: what becomes of a sink that was offered bytes.
- `Sink.Fresh`: nothing was offered yet.
- `attempt_after`: the three things that an attempt to write comes to, seen from what the sink
  was offered before.
- `writeAll_after`, `putAll_after`: one write, and the pieces of a text, one after another.
- `flushes_writeAll`, `flushes_putAll`: neither of them flushes.
-/

namespace ScriptHost

namespace Text

@[simp] theorem encode_append (s t : String) : encode (s ++ t) = encode s ++ encode t := by
  simp [encode]

@[simp] theorem encode_empty : encode "" = [] := rfl

end Text

namespace Sink

/-- The first of some bytes, as many as the sink ever takes. -/
def fitting (k : Sink) (bytes : List UInt8) : List UInt8 :=
  match k.limit with
  | some n => bytes.take n
  | none => bytes

/-- Whether the sink takes all of `bytes` after it was offered `before`: there is nothing to take,
or there is room for everything up to the last of them. -/
def takes (k : Sink) (before bytes : List UInt8) : Bool :=
  bytes.isEmpty || k.limit.all ((before ++ bytes).length ≤ ·)

theorem takes_iff {k : Sink} {before bytes : List UInt8} :
    k.takes before bytes = true ↔
      bytes = [] ∨ ∀ n, k.limit = some n → (before ++ bytes).length ≤ n := by
  cases hk : k.limit <;> simp [takes, hk]

/-- What the sink says when it is full and there is more to take. -/
def fullFault (k : Sink) : IoError := k.fullError.getD .shortWrite

/-- What the sink says of `bytes` after it was offered `before`. -/
def verdict (k : Sink) (before bytes : List UInt8) : Option IoError :=
  if k.takes before bytes then none else some k.fullFault

/-- What becomes of a sink that was offered bytes. How often it will still be interrupted plays no
part in what it holds. -/
def after (k : Sink) (offered : List UInt8) (flushes interrupts : Nat) : Sink :=
  { k with accepted := k.fitting offered, flushes, interrupts }

/-- A sink at the beginning. It takes at least one byte in an attempt, while it has room. -/
structure Fresh (k : Sink) : Prop where
  accepted : k.accepted = []
  flushes : k.flushes = 0
  chunk : k.chunk ≠ some 0

theorem Fresh.eq_after {k : Sink} (h : k.Fresh) : k = k.after [] 0 k.interrupts := by
  obtain ⟨limit, chunk, interrupts, fullError, flushError, accepted, flushes⟩ := k
  obtain ⟨rfl, rfl, -⟩ := h
  cases limit <;> simp [after, fitting]

/-! ## Full sinks -/

/-- There is no room left. -/
def Full (k : Sink) (offered : List UInt8) : Prop := ∃ n, k.limit = some n ∧ n ≤ offered.length

variable {k : Sink} {offered bytes more : List UInt8} {f i : Nat}

theorem room_after_eq_zero_iff : (k.after offered f i).room = some 0 ↔ k.Full offered := by
  cases hk : k.limit with
  | none => simp [room, after, Full, hk]
  | some n =>
    simp only [room, after, fitting, Full, hk, Option.map_some, List.length_take,
      Option.some.injEq, exists_eq_left']
    omega

theorem fitting_append_of_full (h : k.Full offered) (bytes : List UInt8) :
    k.fitting (offered ++ bytes) = k.fitting offered := by
  obtain ⟨n, hk, hn⟩ := h
  simp only [fitting, hk]
  exact List.take_append_of_le_length hn

theorem after_append_of_full (h : k.Full offered) (bytes : List UInt8) :
    k.after (offered ++ bytes) f i = k.after offered f i := by
  rw [after, fitting_append_of_full h]
  rfl

theorem takes_of_full (h : k.Full offered) (hne : bytes ≠ []) : k.takes offered bytes = false := by
  obtain ⟨n, hk, hn⟩ := h
  have hpos := List.length_pos_iff.mpr hne
  simp only [takes, hk, Option.all_some, List.length_append, Bool.or_eq_false_iff,
    List.isEmpty_eq_false_iff, decide_eq_false_iff_not]
  exact ⟨hne, by omega⟩

theorem fitting_of_room {m : Nat} (h : ∀ n, k.limit = some n → offered.length + m ≤ n) :
    k.fitting offered = offered := by
  unfold fitting
  cases hk : k.limit with
  | none => rfl
  | some n =>
    have := h n hk
    exact List.take_of_length_le (by omega)

/-! ## One attempt -/

theorem capped_le (n : Nat) (o : Option Nat) : capped n o ≤ n := by
  cases o with
  | none => exact Nat.le_refl n
  | some m => exact Nat.min_le_left n m

theorem capped_pos {n : Nat} {o : Option Nat} (hn : 0 < n) (ho : o ≠ some 0) :
    0 < capped n o := by
  cases o with
  | none => exact hn
  | some m => exact Nat.lt_min.mpr ⟨hn, Nat.pos_of_ne_zero fun hm => ho (congrArg some hm)⟩

/-- What an attempt comes to when the sink was offered bytes before. -/
inductive Progress (k : Sink) (offered bytes : List UInt8) (i : Nat) : Attempt → Prop
  | interrupted (hi : 0 < i) : Progress k offered bytes i .interrupted
  /-- The sink is full and says so. -/
  | refused (full : k.Full offered) {e : IoError} (he : k.fullError = some e) :
      Progress k offered bytes i (.refused e)
  /-- The sink is full and takes nothing. -/
  | stuck (full : k.Full offered) (he : k.fullError = none) : Progress k offered bytes i (.took 0)
  /-- The sink takes one byte at least, and has room for those that it takes. -/
  | took {n : Nat} (hn : n + 1 ≤ bytes.length)
      (room : ∀ m, k.limit = some m → offered.length + (n + 1) ≤ m) :
      Progress k offered bytes i (.took (n + 1))

theorem Progress.of_capped (hk : k.chunk ≠ some 0) {most : Nat} (hpos : 0 < most)
    (hlen : most ≤ bytes.length) (room : ∀ m, k.limit = some m → offered.length + most ≤ m) :
    Progress k offered bytes i (.took (capped most k.chunk)) := by
  have hle := capped_le most k.chunk
  obtain ⟨n, hn⟩ := Nat.exists_eq_succ_of_ne_zero (capped_pos hpos hk).ne'
  rw [hn] at hle ⊢
  refine .took (by omega) fun m hm => ?_
  have := room m hm
  omega

theorem attempt_after (hk : k.chunk ≠ some 0) (hne : bytes ≠ []) {a : Attempt}
    (h : (k.after offered f i).attempt bytes = a) : Progress k offered bytes i a := by
  have hpos : 0 < bytes.length := List.length_pos_iff.mpr hne
  subst h
  unfold attempt
  by_cases hi : 0 < i
  · rw [if_pos (show 0 < (k.after offered f i).interrupts from hi)]
    exact .interrupted hi
  · rw [if_neg (show ¬ 0 < (k.after offered f i).interrupts from hi)]
    cases hroom : (k.after offered f i).room with
    | none =>
      refine .of_capped hk hpos (Nat.le_refl _) ?_
      intro n hn
      simp [room, after, hn] at hroom
    | some m =>
      cases m with
      | zero =>
        have full : k.Full offered := room_after_eq_zero_iff.mp hroom
        cases he : (k.after offered f i).fullError with
        | some e => exact .refused full he
        | none =>
          have hzero : capped (capped bytes.length (some 0)) k.chunk = 0 :=
            Nat.le_zero.mp ((capped_le _ _).trans (Nat.min_le_right ..))
          show Progress k offered bytes i (.took (capped (capped bytes.length (some 0)) k.chunk))
          rw [hzero]
          exact .stuck full he
      | succ m =>
        refine .of_capped hk (Nat.lt_min.mpr ⟨hpos, Nat.succ_pos m⟩) (Nat.min_le_left ..) ?_
        intro n hn
        have hle : capped bytes.length (some (m + 1)) ≤ m + 1 := Nat.min_le_right ..
        simp only [room, after, fitting, hn, Option.map_some, List.length_take,
          Option.some.injEq] at hroom
        omega

/-! ## Whole writes -/

theorem verdict_of_takes (h : k.takes offered bytes = true) : k.verdict offered bytes = none :=
  if_pos h

theorem verdict_of_not_takes (h : k.takes offered bytes = false) :
    k.verdict offered bytes = some k.fullFault :=
  if_neg (by rw [h]; exact Bool.false_ne_true)

/-- A full sink that is offered more says so and stays as it is, and it holds no less than a sink
that was offered all of it. -/
theorem reply_of_full (full : k.Full offered) (hne : bytes ≠ []) :
    (k.verdict offered bytes, k.after (offered ++ bytes) f i)
      = (some k.fullFault, k.after offered f i) := by
  rw [verdict_of_not_takes (takes_of_full full hne), after_append_of_full full]

/-- When there is room for the first part, it is the second that decides. -/
theorem verdict_append_of_room (room : ∀ m, k.limit = some m → offered.length + bytes.length ≤ m) :
    k.verdict offered (bytes ++ more) = k.verdict (offered ++ bytes) more := by
  have htakes : k.takes offered (bytes ++ more) = k.takes (offered ++ bytes) more := by
    cases more with
    | nil =>
      cases hk : k.limit with
      | none => simp [takes, hk]
      | some m => simp [takes, hk, room m hk]
    | cons b more => simp [takes]
  rw [verdict, verdict, htakes]

/-- A write, in as many attempts as it takes, is all of the bytes being offered at once. By
induction along the attempts: an interruption leaves the bytes as they are, a partial success moves
the first of them to those that were offered before. -/
theorem writeAll_after (hk : k.chunk ≠ some 0) :
    ∃ j, (k.after offered f i).writeAll bytes
      = (k.verdict offered bytes, k.after (offered ++ bytes) f j) := by
  generalize hk' : k.after offered f i = k'
  fun_induction k'.writeAll bytes generalizing offered i with
  | case1 k' =>
    subst hk'
    exact ⟨i, by simp [verdict, takes]⟩
  | case2 k' b rest h ih =>
    subst hk'
    exact ih (i := i - 1) rfl
  | case3 k' b rest e h =>
    subst hk'
    cases attempt_after hk (List.cons_ne_nil b rest) h with
    | refused full he =>
      refine ⟨i, ?_⟩
      rw [reply_of_full full (List.cons_ne_nil b rest), fullFault, he]
      rfl
  | case4 k' b rest h =>
    subst hk'
    cases attempt_after hk (List.cons_ne_nil b rest) h with
    | stuck full he =>
      refine ⟨i, ?_⟩
      rw [reply_of_full full (List.cons_ne_nil b rest), fullFault, he]
      rfl
  | case5 k' b rest n h ih =>
    subst hk'
    cases attempt_after hk (List.cons_ne_nil b rest) h with
    | took hn room =>
      -- the sink goes on as if the bytes it just took had been offered before
      have hlen : ((b :: rest).take (n + 1)).length = n + 1 := List.length_take_of_le hn
      have hstep : k.after (offered ++ (b :: rest).take (n + 1)) f i
          = { k.after offered f i with
              accepted := (k.after offered f i).accepted ++ (b :: rest).take (n + 1) } := by
        have hold : k.fitting offered = offered :=
          fitting_of_room (m := n + 1) room
        have hnew : k.fitting (offered ++ (b :: rest).take (n + 1))
            = offered ++ (b :: rest).take (n + 1) :=
          fitting_of_room (m := 0) fun m hm => by
            have := room m hm
            rw [List.length_append, hlen]
            omega
        simp only [after, hold, hnew]
      obtain ⟨j, hj⟩ := ih hstep
      have hsplit : (b :: rest).take (n + 1) ++ rest.drop n = b :: rest :=
        List.take_append_drop (n + 1) (b :: rest)
      refine ⟨j, hj.trans ?_⟩
      rw [← verdict_append_of_room (by rw [hlen]; exact room), List.append_assoc, hsplit]

/-- Bytes that are not all taken leave the sink full. -/
theorem full_of_not_takes (h : k.takes offered bytes = false) : k.Full (offered ++ bytes) := by
  cases hk : k.limit with
  | none => simp [takes, hk] at h
  | some n =>
    simp only [takes, hk, Option.all_some, Bool.or_eq_false_iff, decide_eq_false_iff_not] at h
    exact ⟨n, hk, by omega⟩

/-- What the sink says of bytes is what it says of their first part, and if that is nothing, what
it says of their second. -/
theorem verdict_append :
    k.verdict offered (bytes ++ more)
      = (k.verdict offered bytes).or (k.verdict (offered ++ bytes) more) := by
  cases htakes : k.takes offered bytes with
  | true =>
    rw [verdict_of_takes htakes, Option.none_or]
    cases bytes with
    | nil => rw [List.nil_append, List.append_nil]
    | cons b bytes =>
      refine verdict_append_of_room fun m hm => ?_
      simpa [takes, hm] using htakes
  | false =>
    rw [verdict_of_not_takes htakes, Option.some_or]
    refine if_neg fun hall => ?_
    obtain ⟨n, hn, hle⟩ := full_of_not_takes htakes
    simp only [takes, hn, Option.all_some, Bool.or_eq_true, Bool.or_eq_false_iff,
      List.isEmpty_iff, List.append_eq_nil_iff, decide_eq_true_eq, decide_eq_false_iff_not,
      List.isEmpty_eq_false_iff, List.length_append] at hall htakes
    rcases hall with ⟨hnil, -⟩ | hall
    · exact htakes.1 hnil
    · omega

/-- The pieces of a text are offered like the text at once. Nothing of what follows a piece that
was refused would have fitted. -/
theorem putAll_after (hk : k.chunk ≠ some 0) (ss : List String) :
    ∃ j, Outlet.putAll (k.after offered f i) ss
      = (k.verdict offered (Text.encode (String.join ss)),
         k.after (offered ++ Text.encode (String.join ss)) f j) := by
  induction ss generalizing offered i with
  | nil => exact ⟨i, by simp [Outlet.putAll, verdict, takes]⟩
  | cons s ss ih =>
    have hput : ∃ j, Outlet.put (k.after offered f i) s
        = (k.verdict offered (Text.encode s), k.after (offered ++ Text.encode s) f j) :=
      writeAll_after hk
    obtain ⟨j, hj⟩ := hput
    rw [Outlet.putAll, hj, String.join_cons, Text.encode_append, verdict_append,
      ← List.append_assoc]
    cases htakes : k.takes offered (Text.encode s) with
    | true =>
      rw [verdict_of_takes htakes, Option.none_or]
      exact ih
    | false =>
      -- the rest is never put, and the sink is full, so it makes no difference
      rw [verdict_of_not_takes htakes, Option.some_or]
      exact ⟨j, by rw [after_append_of_full (full_of_not_takes htakes)]⟩

/-! ## Flushes -/

/-- A write flushes nothing, whatever the sink was offered before. -/
@[simp] theorem flushes_writeAll (k : Sink) (bytes : List UInt8) :
    (k.writeAll bytes).2.flushes = k.flushes := by
  fun_induction k.writeAll bytes with
  | case1 k => rfl
  | case2 k b rest h ih => exact ih
  | case3 k b rest e h => rfl
  | case4 k b rest h => rfl
  | case5 k b rest n h ih => exact ih

theorem flushes_putAll (k : Sink) (ss : List String) :
    (Outlet.putAll k ss).2.flushes = k.flushes := by
  induction ss generalizing k with
  | nil => rfl
  | cons s ss ih =>
    rw [Outlet.putAll]
    have hput : (Outlet.put k s).2.flushes = k.flushes := flushes_writeAll k (Text.encode s)
    rcases hk : Outlet.put k s with ⟨_ | e, k'⟩
    · rw [hk] at hput
      exact (ih k').trans hput
    · rw [hk] at hput
      exact hput

end Sink

end ScriptHost
