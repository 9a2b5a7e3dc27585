import ScriptHost.Proofs.Record.History
import ScriptHost.Record.Basic

/-!
# A record is a list of pairs

A record keeps its keys and its values in two columns, and finds a place in one to read or change
the other. From outside it cannot be told from a single list of pairs: whatever is asked of
records, in whatever order and whether or not it fails, lists of pairs answer the same, and the
columns are those of the lists.

- `Request`, `Reply`: what is asked of one record, and what it says.
- `Container`: how things are built from columns and answer requests. `Container.step` and
  `Container.run` are operations on several of them, side by side.
- `records`, `pairLists`: the two containers that are compared.
- `Container.Represents`: one container answers as another does, through a view. `Represents.step`
  is one operation and `Represents.run` any number of them.
- `lookup?_toPairs`, `rewriting_toPairs`, `take_cursor`, `display_toPairs`: the operations of a
  record in that view.
- `keys_prefix_run`: keys are never removed, moved or rewritten.
- `records_are_pair_lists`: the two containers answer alike.
-/

namespace ScriptHost

open Text (Inspect Display)

namespace Record

variable {κ α σ τ : Type _}

/-! ## Requests and operations -/

/-- What can be asked of a record. -/
inductive Request (κ α : Type _) where
  | size
  | isEmpty
  | keys
  | values
  /-- Walks through up to `n` pairs. -/
  | walk (n : Nat)
  | display
  | contains (k : κ)
  | get (k : κ)
  | change (u : Update κ α)

/-- What is said to an operation. -/
inductive Reply (κ α : Type _) where
  | count (n : Nat)
  | truth (b : Bool)
  | keys (ks : List κ)
  | values (as : List α)
  /-- The pairs of a walk, and how many are still to come. -/
  | walked (ps : List (κ × α)) (left : Nat)
  | text (s : String)
  | value (a : α)
  | done
  | missing (e : MissingKey)
  | mismatch (e : SizeMismatch)
  /-- Nothing has the number. -/
  | absent

/-- What is done with things that stand side by side and are numbered from zero. -/
inductive Operation (κ α : Type _) where
  /-- Builds another one from two columns. -/
  | build (keys : List κ) (values : List α)
  | clone (i : Nat)
  | ask (i : Nat) (q : Request κ α)

/-- How something is built from two columns, and how it answers. -/
structure Container (κ α σ : Type _) where
  build : List κ → List α → Except SizeMismatch σ
  serve : σ → Request κ α → Reply κ α × σ

namespace Container

/-- One operation. -/
def step (c : Container κ α σ) (pool : List σ) : Operation κ α → Reply κ α × List σ
  | .build keys values =>
    match c.build keys values with
    | .ok s => (.done, pool ++ [s])
    | .error e => (.mismatch e, pool)
  | .clone i =>
    match pool[i]? with
    | some s => (.done, pool ++ [s])
    | none => (.absent, pool)
  | .ask i q =>
    match pool[i]? with
    | some s => ((c.serve s q).1, pool.set i (c.serve s q).2)
    | none => (.absent, pool)

/-- A sequence of operations, with the replies in order. -/
def run (c : Container κ α σ) (pool : List σ) :
    List (Operation κ α) → List (Reply κ α) × List σ
  | [] => ([], pool)
  | o :: os =>
    let (a, pool') := c.step pool o
    let (as, pool'') := c.run pool' os
    (a :: as, pool'')

/-! ## Views -/

/-- Seen through `view`, one container builds and answers as another one does. -/
structure Represents (c : Container κ α σ) (d : Container κ α τ) (view : σ → τ) : Prop where
  build : ∀ keys values, d.build keys values = (c.build keys values).map view
  serve : ∀ s q, d.serve (view s) q = ((c.serve s q).1, view (c.serve s q).2)

namespace Represents

variable {c : Container κ α σ} {d : Container κ α τ} {view : σ → τ}

theorem step (h : c.Represents d view) (pool : List σ) (o : Operation κ α) :
    d.step (pool.map view) o = ((c.step pool o).1, (c.step pool o).2.map view) := by
  cases o with
  | build keys values =>
    simp only [Container.step, h.build]
    cases c.build keys values with
    | error e => rfl
    | ok s => simp [Except.map]
  | clone i =>
    simp only [Container.step, List.getElem?_map]
    cases pool[i]? with
    | none => rfl
    | some s => simp
  | ask i q =>
    simp only [Container.step, List.getElem?_map]
    cases pool[i]? with
    | none => rfl
    | some s => simp [h.serve, List.map_set]

theorem run (h : c.Represents d view) (pool : List σ) (os : List (Operation κ α)) :
    d.run (pool.map view) os = ((c.run pool os).1, (c.run pool os).2.map view) := by
  induction os generalizing pool with
  | nil => rfl
  | cons o os ih =>
    simp only [Container.run, h.step, ih]

end Represents

end Container

/-! ## The two containers -/

/-- What is said to a change that may find no key. -/
def changed : Except MissingKey σ → Reply κ α
  | .ok _ => .done
  | .error e => .missing e

section Records

variable [BEq κ] [Inspect κ] [Display κ] [Display α]

/-- One request to a record. -/
def serve (r : Record κ α) : Request κ α → Reply κ α × Record κ α
  | .size => (.count r.size, r)
  | .isEmpty => (.truth r.isEmpty, r)
  | .keys => (.keys r.keys, r)
  | .values => (.values r.values, r)
  | .walk n => (.walked (r.cursor.take n).1 (r.cursor.take n).2.remaining, r)
  | .display => (.text r.display, r)
  | .contains k => (.truth (r.contains k), r)
  | .get k =>
    match r.get k with
    | .ok a => (.value a, r)
    | .error e => (.missing e, r)
  | .change u =>
    match u with
    | .add _ _ => (.done, r.apply u)
    | .set k a => (changed (r.set k a), r.apply u)
    | .modify k f => (changed (r.modify k f), r.apply u)

/-- Records as a container. -/
def records (κ α : Type _) [BEq κ] [Inspect κ] [Display κ] [Display α] :
    Container κ α (Record κ α) := ⟨ofColumns, serve⟩

end Records

namespace Pairs

/-- The value of the first pair with the key. -/
def lookup? [BEq κ] (q : κ) : List (κ × α) → Option α
  | [] => none
  | (k, a) :: ps => if k == q then some a else lookup? q ps

/-- The list with the value of the first pair with the key changed. Nothing else in it changes. -/
def rewrite? [BEq κ] (q : κ) (f : α → α) : List (κ × α) → Option (List (κ × α))
  | [] => none
  | (k, a) :: ps => if k == q then some ((k, f a) :: ps) else (rewrite? q f ps).map ((k, a) :: ·)

/-- The pairs in program output. -/
def display [Display κ] [Display α] : List (κ × α) → String
  | [] => "\x7b\x7d"
  | p :: ps => "\x7b " ++ displayPair p ++ String.join (ps.map (", " ++ displayPair ·)) ++ " \x7d"

variable [BEq κ] [Inspect κ]

/-- Rewrites the first pair with the key, or says that there is none. -/
def rewriting (ps : List (κ × α)) (k : κ) (f : α → α) : Reply κ α × List (κ × α) :=
  match rewrite? k f ps with
  | some ps' => (.done, ps')
  | none => (.missing (.of k), ps)

variable [Display κ] [Display α]

/-- One request to a list of pairs. -/
def serve (ps : List (κ × α)) : Request κ α → Reply κ α × List (κ × α)
  | .size => (.count ps.length, ps)
  | .isEmpty => (.truth ps.isEmpty, ps)
  | .keys => (.keys (ps.map (·.1)), ps)
  | .values => (.values (ps.map (·.2)), ps)
  | .walk n => (.walked (ps.take n) (ps.length - n), ps)
  | .display => (.text (display ps), ps)
  | .contains k => (.truth (lookup? k ps).isSome, ps)
  | .get k =>
    match lookup? k ps with
    | some a => (.value a, ps)
    | none => (.missing (.of k), ps)
  | .change (.add k a) => (.done, ps ++ [(k, a)])
  | .change (.set k a) => rewriting ps k fun _ => a
  | .change (.modify k f) => rewriting ps k f

end Pairs

/-- Lists of pairs as a container. -/
def pairLists (κ α : Type _) [BEq κ] [Inspect κ] [Display κ] [Display α] :
    Container κ α (List (κ × α)) where
  build keys values :=
    if keys.length = values.length then .ok (keys.zip values)
    else .error ⟨keys.length, values.length⟩
  serve := Pairs.serve

/-! ## The operations of a record, seen as pairs -/

namespace Pairs

variable [BEq κ]

theorem lookup?_eq_find? (q : κ) (ps : List (κ × α)) :
    lookup? q ps = (ps.find? (·.1 == q)).map (·.2) := by
  induction ps with
  | nil => rfl
  | cons p ps ih =>
    obtain ⟨k, a⟩ := p
    rw [lookup?, List.find?_cons]
    cases k == q with
    | true => rfl
    | false => exact ih

/-- The place found among the keys is the one whose value is rewritten. -/
theorem rewrite?_zip (q : κ) (f : α → α) :
    ∀ {keys : List κ} {values : List α}, keys.length = values.length →
      rewrite? q f (keys.zip values)
        = (keys.findIdx? (· == q)).map fun i => keys.zip (values.modify i f)
  | [], [], _ => rfl
  | k :: keys, a :: values, h => by
    have hlength : keys.length = values.length := Nat.succ.inj h
    have ih := rewrite?_zip q f hlength
    -- One test of the key decides on both sides, and what comes after it matters only if it fails.
    rw [List.zip_cons_cons, rewrite?, List.findIdx?_cons]
    cases k == q with
    | true => rfl
    | false =>
      simp only [Bool.false_eq_true, if_false, ih]
      cases keys.findIdx? (· == q) <;> rfl

end Pairs

section View

variable [BEq κ]

theorem lookup?_toPairs (r : Record κ α) (q : κ) : Pairs.lookup? q r.toPairs = r.get? q := by
  rw [Pairs.lookup?_eq_find?, get?_eq_find?]

theorem rewrite?_toPairs [Inspect κ] (r : Record κ α) (k : κ) (f : α → α) :
    Pairs.rewrite? k f r.toPairs = (r.modify k f).toOption.map toPairs := by
  rw [toPairs, Pairs.rewrite?_zip k f r.length_eq, modify, position?]
  cases r.keys.findIdx? (· == k) <;> rfl

/-- Changing a value in place rewrites a pair, and finds none when there is none. -/
theorem rewriting_toPairs [Inspect κ] (r : Record κ α) (k : κ) (f : α → α) :
    Pairs.rewriting r.toPairs k f
      = (changed (r.modify k f), (r.apply (.modify k f)).toPairs) := by
  rw [Pairs.rewriting, rewrite?_toPairs, apply, modify]
  cases r.position? k <;> rfl

end View

/-- A walk yields the pairs in order and leaves the rest of both columns. By induction on the
length of the walk; the columns end together, so no key is taken without its value. -/
theorem take_cursor {keys : List κ} {values : List α} (h : keys.length = values.length)
    (n : Nat) :
    Cursor.take ⟨keys, values⟩ n = ((keys.zip values).take n, ⟨keys.drop n, values.drop n⟩) := by
  induction n generalizing keys values with
  | zero => rfl
  | succ n ih =>
    match keys, values, h with
    | [], [], _ => rfl
    | k :: keys, a :: values, h =>
      have hrest := ih (Nat.succ.inj h)
      simp only [Cursor.take, Cursor.next?, hrest]
      rfl

theorem intercalate_cons_eq_join (sep s : String) (ss : List String) :
    sep.intercalate (s :: ss) = s ++ String.join (ss.map (sep ++ ·)) := by
  induction ss generalizing s with
  | nil => simp
  | cons t ss ih =>
    rw [String.intercalate_cons_cons, ih, List.map_cons, String.join_cons]
    simp only [String.append_assoc]

theorem display_toPairs [Display κ] [Display α] (r : Record κ α) :
    Pairs.display r.toPairs = r.display := by
  rw [display, isEmpty_eq]
  cases r.toPairs with
  | nil => rfl
  | cons p ps =>
    rw [Pairs.display, List.map_cons, intercalate_cons_eq_join, List.map_map, String.append_assoc,
      String.append_assoc]
    simp only [List.isEmpty_cons, Bool.false_eq_true, if_false, String.append_assoc]
    rfl

/-- Every request is answered as the list of pairs answers it. -/
theorem serve_toPairs [BEq κ] [Inspect κ] [Display κ] [Display α] (r : Record κ α)
    (q : Request κ α) : Pairs.serve r.toPairs q = ((r.serve q).1, (r.serve q).2.toPairs) := by
  cases q with
  | size => rw [Pairs.serve, length_toPairs]; rfl
  | isEmpty => rw [Pairs.serve, ← isEmpty_eq]; rfl
  | keys => rw [Pairs.serve, map_fst_toPairs]; rfl
  | values => rw [Pairs.serve, map_snd_toPairs]; rfl
  | walk n =>
    rw [Pairs.serve, serve, cursor, take_cursor r.length_eq, Cursor.remaining, List.length_drop,
      length_toPairs]
    rfl
  | display => rw [Pairs.serve, display_toPairs]; rfl
  | contains k => rw [Pairs.serve, lookup?_toPairs, ← contains_eq_isSome_get?]; rfl
  | get k =>
    rw [Pairs.serve, lookup?_toPairs, serve, get]
    cases r.get? k <;> rfl
  | change u =>
    cases u with
    | add k a => rw [Pairs.serve, ← toPairs_add]; rfl
    | set k a => rw [Pairs.serve, rewriting_toPairs]; rfl
    | modify k f => rw [Pairs.serve, rewriting_toPairs]; rfl

/-- Two columns build a record exactly if they are equally long. -/
theorem ofColumns_eq_ok_iff (keys : List κ) (values : List α) :
    (∃ r, ofColumns keys values = .ok r) ↔ keys.length = values.length := by
  unfold ofColumns
  split <;> simp_all

theorem ofColumns_of_ne {keys : List κ} {values : List α} (h : keys.length ≠ values.length) :
    ofColumns keys values = .error ⟨keys.length, values.length⟩ :=
  dif_neg h

section Pool

variable [BEq κ] [Inspect κ] [Display κ] [Display α]

theorem records_represents : (records κ α).Represents (pairLists κ α) toPairs where
  build keys values := by
    simp only [records, pairLists, ofColumns]
    split <;> rfl
  serve := serve_toPairs

/-! ## What operations leave alone -/

/-- A request that is told of a missing key leaves the record as it was. -/
theorem serve_of_missing (r : Record κ α) (q : Request κ α) {e : MissingKey}
    (h : (r.serve q).1 = .missing e) : (r.serve q).2 = r := by
  cases q with
  | get k =>
    simp only [serve]
    cases r.get k <;> rfl
  | change u =>
    cases u with
    | add k a => cases h
    | set k a =>
      simp only [serve, apply] at h ⊢
      cases hset : r.set k a with
      | error e => rfl
      | ok r' => rw [hset] at h; cases h
    | modify k f =>
      simp only [serve, apply] at h ⊢
      cases hmod : r.modify k f with
      | error e => rfl
      | ok r' => rw [hmod] at h; cases h
  | _ => rfl

/-- A request leaves the keys where they are, and may put more behind them. -/
theorem keys_prefix_serve (r : Record κ α) (q : Request κ α) : r.keys <+: (r.serve q).2.keys := by
  cases q with
  | change u =>
    -- Whatever a change says, it leaves the record as `apply` does.
    have happly : (r.serve (.change u)).2 = r.apply u := by cases u <;> rfl
    rw [happly, keys_apply]
    exact List.prefix_append ..
  | get k =>
    simp only [serve]
    cases r.get k <;> exact List.prefix_rfl
  | _ => exact List.prefix_rfl

theorem step_of_missing (pool : List (Record κ α)) (o : Operation κ α) {e : MissingKey}
    (h : ((records κ α).step pool o).1 = .missing e) : ((records κ α).step pool o).2 = pool := by
  cases o with
  | build keys values =>
    simp only [Container.step] at h
    cases hbuild : (records κ α).build keys values <;> simp [hbuild] at h
  | clone i =>
    simp only [Container.step] at h
    cases hi : pool[i]? <;> simp [hi] at h
  | ask i q =>
    simp only [Container.step] at h ⊢
    cases hi : pool[i]? with
    | none => rfl
    | some r =>
      rw [hi] at h
      show pool.set i (r.serve q).2 = pool
      rw [serve_of_missing r q h]
      obtain ⟨hlt, rfl⟩ := List.getElem?_eq_some_iff.mp hi
      exact List.set_getElem_self hlt

/-- An operation leaves the keys of every record where they are. Of the records that were there,
only the one that is asked can change at all. -/
theorem keys_prefix_step (pool : List (Record κ α)) (o : Operation κ α) {i : Nat}
    {r : Record κ α} (hr : pool[i]? = some r) :
    ∃ r', ((records κ α).step pool o).2[i]? = some r' ∧ r.keys <+: r'.keys := by
  -- A new record goes behind those that are there.
  have happend : ∀ s, (pool ++ [s])[i]? = some r := fun s => by
    rw [List.getElem?_append_left (List.getElem?_eq_some_iff.mp hr).1, hr]
  cases o with
  | build keys values =>
    simp only [Container.step]
    cases (records κ α).build keys values with
    | error e => exact ⟨r, hr, List.prefix_rfl⟩
    | ok s => exact ⟨r, happend s, List.prefix_rfl⟩
  | clone j =>
    simp only [Container.step]
    cases pool[j]? with
    | none => exact ⟨r, hr, List.prefix_rfl⟩
    | some s => exact ⟨r, happend s, List.prefix_rfl⟩
  | ask j q =>
    simp only [Container.step]
    cases hj : pool[j]? with
    | none => exact ⟨r, hr, List.prefix_rfl⟩
    | some s =>
      by_cases hij : j = i
      · subst hij
        rw [hr] at hj
        cases hj
        have hlt := (List.getElem?_eq_some_iff.mp hr).1
        exact ⟨(r.serve q).2, List.getElem?_set_self hlt, keys_prefix_serve r q⟩
      · exact ⟨r, (List.getElem?_set_ne hij).trans hr, List.prefix_rfl⟩

theorem keys_prefix_run (os : List (Operation κ α)) (pool : List (Record κ α)) {i : Nat}
    {r : Record κ α} (hr : pool[i]? = some r) :
    ∃ r', ((records κ α).run pool os).2[i]? = some r' ∧ r.keys <+: r'.keys := by
  induction os generalizing pool r with
  | nil => exact ⟨r, hr, List.prefix_rfl⟩
  | cons o os ih =>
    obtain ⟨r', hr', hstep⟩ := keys_prefix_step pool o hr
    obtain ⟨r'', hr'', hrun⟩ := ih ((records κ α).step pool o).2 hr'
    exact ⟨r'', hr'', hstep.trans hrun⟩

end Pool

/-- **Records are lists of pairs.**
1. Two columns build a record exactly if they are equally long, and otherwise both lengths are
   reported.
2. Whatever is done with records, lists of pairs give the same replies, and stand at the end for
   the records that are there: the columns are equally long, and are those of the list.
3. An operation that finds no key leaves every record as it was.
4. The keys that a record has at some time are the first that it has at any later time. -/
theorem records_are_pair_lists (κ α : Type _) [BEq κ] [Inspect κ] [Display κ] [Display α] :
    (∀ (keys : List κ) (values : List α),
      ((∃ r, ofColumns keys values = .ok r) ↔ keys.length = values.length) ∧
      (keys.length ≠ values.length →
        ofColumns keys values = .error ⟨keys.length, values.length⟩)) ∧
    (∀ (pool : List (Record κ α)) (os : List (Operation κ α)),
      (pairLists κ α).run (pool.map toPairs) os
        = (((records κ α).run pool os).1, ((records κ α).run pool os).2.map toPairs) ∧
      ∀ r ∈ ((records κ α).run pool os).2,
        r.keys.length = r.values.length ∧ r.toPairs.unzip = (r.keys, r.values)) ∧
    (∀ (pool : List (Record κ α)) (o : Operation κ α) (e : MissingKey),
      ((records κ α).step pool o).1 = .missing e → ((records κ α).step pool o).2 = pool) ∧
    (∀ (pool : List (Record κ α)) (os : List (Operation κ α)) (i : Nat) (r : Record κ α),
      pool[i]? = some r →
        ∃ r', ((records κ α).run pool os).2[i]? = some r' ∧ r.keys <+: r'.keys) := by
  refine ⟨fun keys values => ⟨ofColumns_eq_ok_iff keys values, ofColumns_of_ne⟩,
    fun pool os => ⟨records_represents.run pool os, fun r _ => ⟨r.length_eq, ?_⟩⟩,
    fun pool o e => step_of_missing pool o, fun pool os i r => keys_prefix_run os pool⟩
  rw [List.unzip_eq_map]
  exact Prod.ext r.map_fst_toPairs r.map_snd_toPairs

/-- To set a key that is missing does nothing, and to add it keeps what stands before it. -/
theorem records_are_pair_lists_missing :
    let pool : List (Record String Int64) := [⟨["a"], [1], rfl⟩]
    let set : Operation String Int64 := .ask 0 (.change (.set "b" 2))
    let add : Operation String Int64 := .ask 0 (.change (.add "b" 2))
    ofColumns ["a"] ([] : List Int64) = .error ⟨1, 0⟩ ∧
      ((records String Int64).step pool set).2 = pool ∧
      ∃ r, ((records String Int64).run pool [set, add]).2[0]? = some r ∧ ["a"] <+: r.keys := by
  intro pool set add
  obtain ⟨hbuild, -, hmissing, hkeys⟩ := records_are_pair_lists String Int64
  refine ⟨?_, ?_, ?_⟩
  · exact (hbuild ["a"] []).2 (by decide)
  · exact hmissing pool set (.of "b") rfl
  · exact hkeys pool [set, add] 0 ⟨["a"], [1], rfl⟩ rfl

end Record

end ScriptHost
