import ScriptHost.Proofs.Record.Pairs
import ScriptHost.Record.Handle

/-!
# Records behind handles are lists of pairs

Compiled code has any number of records in its hands and passes null for whatever it likes. What
it is told depends on nothing but one list of pairs for each handle: a call reads and changes the
list of its own handle, and a call that fails changes nothing.

- `Request.handle`, `Request.Valid`: the handle that a call names, and what the caller promises of
  the arrays it passes.
- `Given`, `givenPairs`: when arrays and counts make a record, and which pairs it has.
- `Entry`, `Entry.serve`: a null handle or a list of pairs, and one call on it.
- `Handles.entries`, `runEntries`: the list behind every handle, and calls in terms of them.
- `make?_toPairs`: a record is made from arrays exactly if they are given.
- `find?_insert`, `find?_erase`, `serve_entries`: one call changes one list.
- `repliesTo_runEntries`: what one handle is told does not depend on calls on others.
- `serve_of_failed`: what a failed call leaves.
- `run_eq_runEntries`: all of this for any sequence of calls.
-/

namespace ScriptHost

open Text (ByteText)

/-! ## Arrays and counts -/

/-- Whether a record can be made: the counts agree, and if there is something to read, neither an
array nor a key is null. -/
def Given (keys : Option (List KeyPointer)) (values : Option (List Int64))
    (keyCount valueCount : Nat) : Prop :=
  keyCount = valueCount ∧
    (0 < keyCount → keys.isSome ∧ values.isSome ∧ ∀ p ∈ (keys.getD []).take keyCount, p.isSome)

instance (keys : Option (List KeyPointer)) (values : Option (List Int64))
    (keyCount valueCount : Nat) : Decidable (Given keys values keyCount valueCount) :=
  inferInstanceAs (Decidable (_ ∧ (_ → _ ∧ _ ∧ _)))

/-- The pairs of a record that can be made. A key has the bytes before its first zero byte. -/
def givenPairs (keys : Option (List KeyPointer)) (values : Option (List Int64)) (count : Nat) :
    List (ByteText × Int64) :=
  (((keys.getD []).take count).map fun p => ByteText.upToZero (p.getD [])).zip
    ((values.getD []).take count)

section Arrays

variable {keys : Option (List KeyPointer)} {values : Option (List Int64)}
  {keyCount valueCount : Nat}

theorem leading?_eq_some_iff {α : Type _} {array : Option (List α)} {count : Nat} {xs : List α} :
    leading? array count = some xs ↔
      (0 < count → array.isSome) ∧ xs = (array.getD []).take count := by
  cases array with
  | some ys => simp [leading?, eq_comm]
  | none => cases count <;> simp [leading?, eq_comm]

/-- The part of an array that is asked for is as long as it is said to be. -/
theorem length_take_getD {α : Type _} {array : Option (List α)} {count : Nat}
    (hsome : 0 < count → array.isSome) (hlength : ∀ xs, array = some xs → count ≤ xs.length) :
    ((array.getD []).take count).length = count := by
  cases array with
  | some xs => exact List.length_take_of_le (hlength xs rfl)
  | none =>
    cases count with
    | zero => rfl
    | succ n => cases hsome n.succ_pos

theorem KeyPointer.keys?_eq_some_iff {ps : List KeyPointer} {ks : List ByteText} :
    KeyPointer.keys? ps = some ks ↔
      (∀ p ∈ ps, p.isSome) ∧ ks = ps.map fun p => ByteText.upToZero (p.getD []) := by
  induction ps generalizing ks with
  | nil =>
    rw [KeyPointer.keys?, Option.some.injEq]
    exact ⟨fun h => ⟨List.forall_mem_nil _, h.symm⟩, fun h => h.2.symm⟩
  | cons p ps ih =>
    rw [KeyPointer.keys?]
    cases p with
    | none => simp [KeyPointer.key?]
    | some bytes =>
      show (KeyPointer.keys? ps).bind (fun ks => some (ByteText.upToZero bytes :: ks)) = some ks ↔ _
      rw [Option.bind_eq_some_iff]
      constructor
      · rintro ⟨ks', hks', heq⟩
        obtain ⟨hall, rfl⟩ := ih.mp hks'
        exact ⟨List.forall_mem_cons.mpr ⟨rfl, hall⟩, (Option.some.inj heq).symm⟩
      · rintro ⟨hall, rfl⟩
        exact ⟨_, ih.mpr ⟨(List.forall_mem_cons.mp hall).2, rfl⟩, rfl⟩

/-- What is given makes a record, and it has the given pairs. -/
theorem make?_of_given (hkeys : ∀ ps, keys = some ps → keyCount ≤ ps.length)
    (hvalues : ∀ vs, values = some vs → valueCount ≤ vs.length)
    (given : Given keys values keyCount valueCount) :
    ∃ r, ByteRecord.make? keys values keyCount valueCount = some r ∧
      r.toPairs = givenPairs keys values keyCount := by
  obtain ⟨rfl, present⟩ := given
  have hpointers : leading? keys keyCount = some ((keys.getD []).take keyCount) :=
    leading?_eq_some_iff.mpr ⟨fun h => (present h).1, rfl⟩
  have hvs : leading? values keyCount = some ((values.getD []).take keyCount) :=
    leading?_eq_some_iff.mpr ⟨fun h => (present h).2.1, rfl⟩
  -- If nothing is read, there is nothing that could be null.
  have hnone : ∀ p ∈ (keys.getD []).take keyCount, p.isSome := by
    cases keyCount with
    | zero => simp
    | succ n => exact (present n.succ_pos).2.2
  have hks := KeyPointer.keys?_eq_some_iff.mpr ⟨hnone, rfl⟩
  have hlength : (((keys.getD []).take keyCount).map fun p => ByteText.upToZero (p.getD [])).length
      = ((values.getD []).take keyCount).length := by
    rw [List.length_map, length_take_getD (fun h => (present h).1) hkeys,
      length_take_getD (fun h => (present h).2.1) hvalues]
  refine ⟨⟨_, _, hlength⟩, ?_, rfl⟩
  simp only [ByteRecord.make?, hpointers, hvs, hks, Record.ofColumns, Option.bind_eq_bind,
    Option.bind_some, dif_pos hlength]
  rfl

/-- Nothing but what is given makes a record. -/
theorem given_of_make? (hkeys : ∀ ps, keys = some ps → keyCount ≤ ps.length)
    (hvalues : ∀ vs, values = some vs → valueCount ≤ vs.length) {r : ByteRecord}
    (made : ByteRecord.make? keys values keyCount valueCount = some r) :
    Given keys values keyCount valueCount := by
  rw [ByteRecord.make?, Option.bind_eq_bind, Option.bind_eq_some_iff] at made
  obtain ⟨pointers, hpointers, made⟩ := made
  rw [Option.bind_eq_bind, Option.bind_eq_some_iff] at made
  obtain ⟨vs, hvs, made⟩ := made
  rw [Option.bind_eq_bind, Option.bind_eq_some_iff] at made
  obtain ⟨ks, hks, made⟩ := made
  obtain ⟨hkeysSome, rfl⟩ := leading?_eq_some_iff.mp hpointers
  obtain ⟨hvaluesSome, rfl⟩ := leading?_eq_some_iff.mp hvs
  obtain ⟨hall, rfl⟩ := KeyPointer.keys?_eq_some_iff.mp hks
  have hbuilt : ∃ r, Record.ofColumns
      (((keys.getD []).take keyCount).map fun p => ByteText.upToZero (p.getD []))
      ((values.getD []).take valueCount) = .ok r := by
    split at made
    · exact ⟨_, by assumption⟩
    · cases made
  -- The columns are as long as the counts say, so the counts agree.
  have hlength : keyCount = valueCount := by
    have hcolumns := (Record.ofColumns_eq_ok_iff _ _).mp hbuilt
    rwa [List.length_map, length_take_getD hkeysSome hkeys,
      length_take_getD hvaluesSome hvalues] at hcolumns
  exact ⟨hlength, fun h => ⟨hkeysSome h, hvaluesSome (hlength ▸ h), hall⟩⟩

/-- Arrays as long as they are said to be make a record exactly if they are given, and it has the
given pairs. -/
theorem make?_toPairs (hkeys : ∀ ps, keys = some ps → keyCount ≤ ps.length)
    (hvalues : ∀ vs, values = some vs → valueCount ≤ vs.length) :
    (ByteRecord.make? keys values keyCount valueCount).map Record.toPairs
      = if Given keys values keyCount valueCount then some (givenPairs keys values keyCount)
        else none := by
  by_cases given : Given keys values keyCount valueCount
  · obtain ⟨r, made, hpairs⟩ := make?_of_given hkeys hvalues given
    rw [if_pos given, made, Option.map_some, hpairs]
  · rw [if_neg given, Option.map_eq_none_iff, Option.eq_none_iff_forall_ne_some]
    intro r made
    exact given (given_of_make? hkeys hvalues made)

end Arrays

/-! ## One list of pairs for each handle -/

namespace Handles

namespace Request

/-- The handle that a call names. -/
def handle : Request → String
  | make h .. | get h .. | set h .. | add h .. | size h | free h | dump h => h

/-- What the caller promises: an array that is not null has as many members as are asked for. -/
def Valid : Request → Prop
  | make _ keys values keyCount valueCount =>
    (∀ ps, keys = some ps → keyCount ≤ ps.length) ∧
      (∀ vs, values = some vs → valueCount ≤ vs.length)
  | _ => True

end Request

/-- What stands behind a handle: nothing if it is null, and otherwise a list of pairs. -/
abbrev Entry := Option (List (ByteText × Int64))

/-- The record of a list of pairs. -/
def Entry.record (ps : List (ByteText × Int64)) : ByteRecord :=
  ⟨ps.map (·.1), ps.map (·.2), by simp⟩

/-- The value of the first pair with the key, if neither the handle nor the key is null and the
key is there. -/
def Entry.lookup? (entry : Entry) (key : KeyPointer) : Option Int64 := do
  let ps ← entry
  let bytes ← key
  Record.Pairs.lookup? (.upToZero bytes) ps

/-- Changes the pairs, if neither the handle nor the key is null and the change works. -/
def Entry.update (entry : Entry) (key : KeyPointer)
    (change : List (ByteText × Int64) → ByteText → Option (List (ByteText × Int64))) :
    Reply × Entry :=
  match entry, key with
  | some ps, some bytes =>
    match change ps (.upToZero bytes) with
    | some ps' => (.status true, some ps')
    | none => (.status false, entry)
  | _, _ => (.status false, entry)

/-- One call, in terms of what stands behind its handle. -/
def Entry.serve (entry : Entry) : Request → Reply × Entry
  | .make _ keys values keyCount valueCount =>
    if Given keys values keyCount valueCount then
      (.made false, some (givenPairs keys values keyCount))
    else (.made true, none)
  | .get _ key out =>
    match out.isNull, entry.lookup? key with
    | false, some a => (.found true a, entry)
    | _, _ => (.found false out.value, entry)
  | .set _ key a => entry.update key fun ps k => Record.Pairs.rewrite? k (fun _ => a) ps
  | .add _ key a => entry.update key fun ps k => some (ps ++ [(k, a)])
  | .size _ => (.count (entry.elim 0 (·.length)), entry)
  | .free _ => (.done, none)
  | .dump _ => (.dumped (entry.map Entry.record), entry)

/-- One call, in terms of what stands behind every handle: its own may change, and no other. -/
def serveEntries (entries : String → Entry) (q : Request) : Reply × (String → Entry) :=
  (((entries q.handle).serve q).1,
    fun h => if h = q.handle then ((entries q.handle).serve q).2 else entries h)

/-- A sequence of calls, in terms of what stands behind every handle. -/
def runEntries (entries : String → Entry) : List Request → List Reply × (String → Entry)
  | [] => ([], entries)
  | q :: qs =>
    let (a, entries') := serveEntries entries q
    let (as, entries'') := runEntries entries' qs
    (a :: as, entries'')

/-- What stands behind a handle of a table. -/
def entries (t : Handles) (h : String) : Entry := (t.find? h).map Record.toPairs

/-! ## Tables -/

theorem find?_erase (t : Handles) (h g : String) :
    (t.erase h).find? g = if g = h then none else t.find? g := by
  by_cases hgh : g = h
  · subst hgh
    rw [if_pos rfl, find?, erase, Option.map_eq_none_iff, List.find?_eq_none]
    intro p hp
    simpa using (List.mem_filter.mp hp).2
  · rw [if_neg hgh, find?, find?, erase, List.find?_filter]
    congr 2
    funext p
    by_cases hp : p.1 = g
    · subst hp
      simp [hgh]
    · simp [hp]

theorem find?_insert (t : Handles) (h g : String) (r : ByteRecord) :
    (t.insert h r).find? g = if g = h then some r else t.find? g := by
  by_cases hgh : g = h
  · subst hgh
    simp [find?, insert]
  · have hne : (h == g) = false := beq_eq_false_iff_ne.mpr fun heq => hgh heq.symm
    have herase := find?_erase t h g
    rw [if_neg hgh] at herase ⊢
    rw [← herase]
    simp only [find?, insert, List.find?_cons, hne]

theorem entries_erase (t : Handles) (h : String) :
    (t.erase h).entries = fun g => if g = h then none else t.entries g := by
  funext g
  rw [entries, find?_erase]
  split <;> rfl

theorem entries_insert (t : Handles) (h : String) (r : ByteRecord) :
    (t.insert h r).entries = fun g => if g = h then some r.toPairs else t.entries g := by
  funext g
  rw [entries, find?_insert]
  split <;> rfl

/-- A handle that holds nothing can be taken off the table without a trace. -/
theorem erase_of_find?_eq_none {t : Handles} {h : String} (hnone : t.find? h = none) :
    t.erase h = t := by
  rw [find?, Option.map_eq_none_iff, List.find?_eq_none] at hnone
  have hlive : t.live.filter (·.1 != h) = t.live :=
    List.filter_eq_self.mpr fun p hp => by simpa using hnone p hp
  rw [erase, hlive]

/-! ## One call -/

/-- A call that leaves what stands behind its handle as it was leaves everything. -/
theorem serveEntries_of_same {entries : String → Entry} {q : Request} {a : Reply}
    (h : (entries q.handle).serve q = (a, entries q.handle)) :
    serveEntries entries q = (a, entries) := by
  rw [serveEntries, h]
  refine Prod.ext rfl (funext fun g => ?_)
  by_cases hg : g = q.handle
  · rw [hg]
    exact if_pos rfl
  · exact if_neg hg

@[simp] theorem record_toPairs (r : ByteRecord) : Entry.record r.toPairs = r := by
  obtain ⟨keys, values, h⟩ := r
  simp [Entry.record]

/-- A call that puts a record behind its handle puts the pairs of that record there. -/
theorem serveEntries_of_insert {t : Handles} {q : Request} {a : Reply} {r : ByteRecord}
    (h : (t.entries q.handle).serve q = (a, some r.toPairs)) :
    serveEntries t.entries q = (a, (t.insert q.handle r).entries) := by
  rw [serveEntries, h, entries_insert]

/-- A call that leaves nothing behind its handle takes it off the table. -/
theorem serveEntries_of_erase {t : Handles} {q : Request} {a : Reply}
    (h : (t.entries q.handle).serve q = (a, none)) :
    serveEntries t.entries q = (a, (t.erase q.handle).entries) := by
  rw [serveEntries, h, entries_erase]

theorem lookup?_entries (t : Handles) (h : String) (key : KeyPointer) :
    (t.entries h).lookup? key = t.lookup? h key := by
  rw [Entry.lookup?, lookup?, entries]
  cases t.find? h with
  | none => rfl
  | some r =>
    cases key with
    | none => rfl
    | some bytes => exact Record.lookup?_toPairs r _

/-- A change of a record changes the pairs behind its handle. -/
theorem update_entries (t : Handles) (key : KeyPointer) {q : Request}
    {change : ByteRecord → ByteText → Except MissingKey ByteRecord}
    (change' : List (ByteText × Int64) → ByteText → Option (List (ByteText × Int64)))
    (hserve : ∀ entry : Entry, entry.serve q = entry.update key change')
    (hchange : ∀ r k, change' r.toPairs k = (change r k).toOption.map Record.toPairs) :
    serveEntries t.entries q
      = ((t.update q.handle key change).1, (t.update q.handle key change).2.entries) := by
  rw [update]
  cases hr : t.find? q.handle with
  | none => exact serveEntries_of_same (by rw [hserve, entries, hr]; rfl)
  | some r =>
    cases key with
    | none => exact serveEntries_of_same (by rw [hserve, entries, hr]; rfl)
    | some bytes =>
      -- Neither is null, so the reply is up to the change.
      have hpairs := hchange r (.upToZero bytes)
      have hupdate : (t.entries q.handle).serve q
          = match (change r (.upToZero bytes)).toOption.map Record.toPairs with
            | some ps' => (.status true, some ps')
            | none => (.status false, t.entries q.handle) := by
        rw [← hpairs, hserve, entries, hr]
        rfl
      show _ = (_, _)
      simp only [KeyPointer.key?, Option.map_some]
      cases hc : change r (.upToZero bytes) with
      | error e => exact serveEntries_of_same (by rw [hupdate, hc]; rfl)
      | ok r' => exact serveEntries_of_insert (by rw [hupdate, hc]; rfl)

/-- One call changes what stands behind its handle as the list of pairs there is changed, and is
told what the list says. -/
theorem serve_entries (t : Handles) (q : Request) (valid : q.Valid) :
    serveEntries t.entries q = ((t.serve q).1, (t.serve q).2.entries) := by
  cases q with
  | make h keys values keyCount valueCount =>
    have hmake := make?_toPairs valid.1 valid.2
    rw [serve]
    by_cases given : Given keys values keyCount valueCount
    · rw [if_pos given, Option.map_eq_some_iff] at hmake
      obtain ⟨r, hr, hpairs⟩ := hmake
      rw [hr]
      exact serveEntries_of_insert (by rw [Entry.serve, if_pos given, hpairs])
    · rw [if_neg given, Option.map_eq_none_iff] at hmake
      rw [hmake]
      exact serveEntries_of_erase (by rw [Entry.serve, if_neg given])
  | get h key out =>
    have hstate : (t.serve (.get h key out)).2 = t := by
      rw [serve]
      cases out.isNull <;> cases t.lookup? h key <;> rfl
    rw [hstate]
    refine serveEntries_of_same ?_
    rw [serve, Entry.serve, Request.handle, lookup?_entries]
    cases out.isNull <;> cases t.lookup? h key <;> rfl
  | set h key a =>
    exact update_entries t key (fun ps k => Record.Pairs.rewrite? k (fun _ => a) ps)
      (fun _ => rfl) fun r k => r.rewrite?_toPairs k _
  | add h key a =>
    exact update_entries t key (fun ps k => some (ps ++ [(k, a)])) (fun _ => rfl)
      fun r k => congrArg some (r.toPairs_add k a).symm
  | size h =>
    refine serveEntries_of_same ?_
    rw [serve, Entry.serve, Request.handle, entries]
    cases t.find? h with
    | none => rfl
    | some r => simp
  | free h => exact serveEntries_of_erase rfl
  | dump h =>
    refine serveEntries_of_same ?_
    rw [serve, Entry.serve, Request.handle, entries]
    cases t.find? h with
    | none => rfl
    | some r => simp

/-! ## Calls on one handle -/

/-- The replies to the calls on a handle, out of the replies to all calls. -/
def repliesTo (h : String) (qs : List Request) (as : List Reply) : List Reply :=
  ((qs.zip as).filter (·.1.handle == h)).map (·.2)

theorem repliesTo_cons (h : String) (q : Request) (qs : List Request) (a : Reply)
    (as : List Reply) :
    repliesTo h (q :: qs) (a :: as)
      = if q.handle == h then a :: repliesTo h qs as else repliesTo h qs as := by
  rw [repliesTo, List.zip_cons_cons, List.filter_cons]
  split <;> rfl

/-- What a handle is told depends on what stands behind it and on the calls on it, and on nothing
else. -/
theorem repliesTo_runEntries (h : String) (qs : List Request) :
    ∀ {entries entries' : String → Entry}, entries h = entries' h →
      repliesTo h qs (runEntries entries qs).1
        = (runEntries entries' (qs.filter (·.handle == h))).1 := by
  induction qs with
  | nil => intro entries entries' _; rfl
  | cons q qs ih =>
    intro entries entries' heq
    show repliesTo h (q :: qs) ((serveEntries entries q).1
      :: (runEntries (serveEntries entries q).2 qs).1) = _
    rw [repliesTo_cons, List.filter_cons]
    by_cases hq : q.handle = h
    · subst hq
      have hserve : (serveEntries entries q).1 = (serveEntries entries' q).1 := by
        rw [serveEntries, serveEntries, heq]
      have hafter : (serveEntries entries q).2 q.handle = (serveEntries entries' q).2 q.handle := by
        simp only [serveEntries, heq, if_pos]
      rw [if_pos (beq_self_eq_true _), if_pos (beq_self_eq_true _), hserve, ih hafter]
      rfl
    · -- A call on another handle leaves this one's list alone, so it makes no difference.
      have hne : ¬ (q.handle == h) = true := fun hbeq => hq (beq_iff_eq.mp hbeq)
      have hafter : (serveEntries entries q).2 h = entries h :=
        if_neg fun hh => hq hh.symm
      rw [if_neg hne, if_neg hne]
      exact ih (hafter.trans heq)

/-! ## Failure -/

/-- Whether a call returned null or 0. -/
def Reply.failed : Reply → Bool
  | .made isNull => isNull
  | .status ok | .found ok _ => !ok
  | .count n => n == 0
  | .done | .dumped _ => false

/-- The table before a call does anything but free what its handle held. Only making a record
frees anything. -/
def Request.cleared (t : Handles) : Request → Handles
  | .make h .. => t.erase h
  | _ => t

theorem snd_update_of_failed {t : Handles} {h : String} {key : KeyPointer}
    {change : ByteRecord → ByteText → Except MissingKey ByteRecord}
    (hfailed : (t.update h key change).1.failed = true) : (t.update h key change).2 = t := by
  unfold update at hfailed ⊢
  split
  · split
    · simp_all [Reply.failed]
    · rfl
  · rfl

/-- A failed call changes no record. -/
theorem serve_of_failed {t : Handles} {q : Request} (hfailed : (t.serve q).1.failed = true) :
    (t.serve q).2 = q.cleared t := by
  cases q with
  | make h keys values keyCount valueCount =>
    rw [serve] at hfailed ⊢
    cases hmake : ByteRecord.make? keys values keyCount valueCount with
    | none => rfl
    | some r => rw [hmake] at hfailed; cases hfailed
  | get h key out =>
    rw [serve]
    cases out.isNull <;> cases t.lookup? h key <;> rfl
  | set h key a => exact snd_update_of_failed hfailed
  | add h key a => exact snd_update_of_failed hfailed
  | size h => rfl
  | free h => cases hfailed
  | dump h => cases hfailed

/-- A failed lookup leaves the place for the value as it was. -/
theorem serve_get_of_failed {t : Handles} {h : String} {key : KeyPointer} {out : OutSlot}
    (hfailed : (t.serve (.get h key out)).1.failed = true) :
    (t.serve (.get h key out)).1 = .found false out.value := by
  rw [serve] at hfailed ⊢
  cases hnull : out.isNull with
  | true => rfl
  | false =>
    cases hlookup : t.lookup? h key with
    | none => rfl
    | some a => rw [hnull, hlookup] at hfailed; cases hfailed

/-! ## Any number of calls -/

theorem run_entries (qs : List Request) :
    ∀ (t : Handles), (∀ q ∈ qs, q.Valid) →
      runEntries t.entries qs = ((t.run qs).1, (t.run qs).2.entries) := by
  induction qs with
  | nil => intro t _; rfl
  | cons q qs ih =>
    intro t valid
    obtain ⟨hq, hqs⟩ := List.forall_mem_cons.mp valid
    rw [runEntries, serve_entries t q hq]
    show ((t.serve q).1 :: (runEntries (t.serve q).2.entries qs).1,
      (runEntries (t.serve q).2.entries qs).2) = _
    rw [ih _ hqs]
    rfl

/-- **Handles hold lists of pairs.** In any sequence of calls, with nulls wherever they may be:
1. every call says what the list of pairs of its handle says, and the lists afterwards are those
   of the records; a record is made exactly if its arrays are given;
2. what a handle is told is what it would be told if the calls on all other handles were left out;
3. a failed call changes no record, apart from freeing what a handle held before a record is made
   for it, and there is nothing to free behind a null handle;
4. nor does a failed lookup write its value anywhere. -/
theorem run_eq_runEntries (t : Handles) (qs : List Request) (valid : ∀ q ∈ qs, q.Valid) :
    runEntries t.entries qs = ((t.run qs).1, (t.run qs).2.entries) ∧
    (∀ h, repliesTo h qs (t.run qs).1 = (t.run (qs.filter (·.handle == h))).1) ∧
    (∀ (t' : Handles) (q : Request), (t'.serve q).1.failed = true →
      (t'.serve q).2 = q.cleared t' ∧ (t'.find? q.handle = none → (t'.serve q).2 = t')) ∧
    (∀ (t' : Handles) (h : String) (key : KeyPointer) (out : OutSlot),
      (t'.serve (.get h key out)).1.failed = true →
        (t'.serve (.get h key out)).1 = .found false out.value) := by
  have hrun := run_entries qs t valid
  refine ⟨hrun, fun h => ?_, fun t' q hfailed => ⟨serve_of_failed hfailed, fun hnone => ?_⟩,
    fun t' h key out => serve_get_of_failed⟩
  · have hpart := run_entries (qs.filter (·.handle == h)) t fun q hq =>
      valid q (List.mem_filter.mp hq).1
    have hreplies := repliesTo_runEntries h qs (rfl : t.entries h = t.entries h)
    rwa [hrun, hpart] at hreplies
  · rw [serve_of_failed hfailed]
    cases q with
    | make h keys values keyCount valueCount => exact erase_of_find?_eq_none hnone
    | _ => rfl

/-- Two records side by side: a key is cut at its zero byte, a key added again is shadowed, and
neither a null key in an array nor counts that differ make a record. -/
theorem run_eq_runEntries_two_handles :
    let x : KeyPointer := some [120]
    (Handles.empty.run
      [.make "a" (some [x, some [121, 0, 7]]) (some [1, 2, 3]) 2 2, .make "b" none none 0 0,
        .add "a" x 100, .set "b" x 5, .get "a" (some [121]) ⟨-77, false⟩, .get "a" x ⟨-77, false⟩,
        .get "a" none ⟨-77, false⟩, .make "b" (some [x, none]) (some [1, 2]) 2 2,
        .make "c" (some [x]) (some [1, 2]) 1 2, .size "a", .size "b"]).1
      = [.made false, .made false, .status true, .status false, .found true 2, .found true 1,
        .found false (-77), .made true, .made true, .count 3, .count 0] := by
  intro x
  have hvalid : ∀ q ∈ ([.make "a" (some [x, some [121, 0, 7]]) (some [1, 2, 3]) 2 2,
      .make "b" none none 0 0, .add "a" x 100, .set "b" x 5, .get "a" (some [121]) ⟨-77, false⟩,
      .get "a" x ⟨-77, false⟩, .get "a" none ⟨-77, false⟩,
      .make "b" (some [x, none]) (some [1, 2]) 2 2, .make "c" (some [x]) (some [1, 2]) 1 2,
      .size "a", .size "b"] : List Request), q.Valid := by
    simp [Request.Valid]
  exact (congrArg Prod.fst (run_eq_runEntries Handles.empty _ hvalid).1).symm.trans rfl

end Handles

end ScriptHost
