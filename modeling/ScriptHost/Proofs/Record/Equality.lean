import ScriptHost.Proofs.Record.Related
import ScriptHost.Script.Step

/-!
# Equal records cannot be told apart by looking keys up

Values and numbers have an equality that leaves the NaNs out, and takes the two zeros for one.
Two records that are equal in this sense need not hold the same things, and still there is no
telling them apart by looking up keys, setting values and adding pairs: whatever succeeds on one
succeeds on the other, with equal values, and leaves equal records behind. NaNs have to be kept
out of what is looked up and stored, since a record with a NaN in it does not even equal itself.

- `EqualExceptNaN`: types whose equality is symmetric and transitive, and reflexive but for NaNs.
- `Record.beq_iff_related`: equality of records is equality place by place.
- `Access`, `accessAll`: what is done with a record, one thing after another.
- `Access.Answer.Alike`: answers that agree, with equal values in them.
- `access_alike`, `accessAll_alike`: one access to two equal records, and any number of them.
- `equal_records_are_accessed_alike`: the laws of equality, and what follows for equal records.
-/

namespace ScriptHost

open Text (Inspect)

/-! ## What equals itself -/

/-- Types whose equality is a partial equivalence in which everything but a NaN equals itself. -/
class EqualExceptNaN (α : Type _) [BEq α] extends PartialEquivBEq α where
  isNaN : α → Bool
  beq_self : ∀ a : α, (a == a) = !isNaN a

open EqualExceptNaN (isNaN)

/-- Where equality is what it should be there are no NaNs. -/
instance {α : Type _} [BEq α] [LawfulBEq α] : EqualExceptNaN α where
  isNaN _ := false
  beq_self a := beq_self_eq_true a

namespace Number

theorem beq_self (x : Number) : (x == x) = !x.isNaN := by
  show (!x.isNaN && !x.isNaN && (x.bits == x.bits || (x.isZero && x.isZero))) = !x.isNaN
  rw [beq_self_eq_true, Bool.true_or, Bool.and_true, Bool.and_self]

instance : EqualExceptNaN Number := ⟨isNaN, beq_self⟩

end Number

namespace Scalar

/-- Only a number can be a NaN. -/
def isNaN : Scalar → Bool
  | number x => x.isNaN
  | null | bool _ | text _ => false

theorem beq_self : ∀ a : Scalar, (a == a) = !a.isNaN
  | null => rfl
  | bool b => beq_self_eq_true b
  | number x => x.beq_self
  | text s => beq_self_eq_true s

instance : EqualExceptNaN Scalar := ⟨isNaN, beq_self⟩

end Scalar

namespace Value

/-- Only a number can be a NaN. -/
def isNaN : Value → Bool
  | scalar s => s.isNaN
  | object _ | function _ | foreign _ => false

theorem beq_self : ∀ v : Value, (v == v) = !v.isNaN
  | scalar s => s.beq_self
  | object r => beq_self_eq_true r
  | function f => beq_self_eq_true f.id
  | foreign x => beq_self_eq_true x.id

instance : EqualExceptNaN Value := ⟨isNaN, beq_self⟩

theorem isNaN_iff {v : Value} : v.isNaN = true ↔ ∃ x : Number, v = number x ∧ x.isNaN = true := by
  constructor
  · intro h
    match v, h with
    | scalar (.number x), h => exact ⟨x, rfl, h⟩
  · rintro ⟨x, rfl, hx⟩
    exact hx

end Value

/-! ## Equality of records -/

theorem beq_iff_forall₂ {α : Type _} [BEq α] {as bs : List α} :
    (as == bs) = true ↔ List.Forall₂ (fun a b => (a == b) = true) as bs := by
  induction as generalizing bs with
  | nil => cases bs <;> simp
  | cons a as ih => cases bs <;> simp [ih]

namespace Record

variable {κ α : Type _} [BEq κ] [BEq α]

/-- Equality of records is equality of the keys and of the values, place by place. -/
theorem beq_iff_related {r s : Record κ α} :
    (r == s) = true ↔ Related (fun k l => (k == l) = true) (fun a b => (a == b) = true) r s := by
  show (r.keys == s.keys && r.values == s.values) = true ↔ _
  rw [Bool.and_eq_true, beq_iff_forall₂, beq_iff_forall₂]
  exact ⟨fun h => ⟨h.1, h.2⟩, fun h => ⟨h.keys, h.values⟩⟩

theorem forall₂_beq_trans [PartialEquivBEq α] {as bs cs : List α}
    (h : List.Forall₂ (fun a b => (a == b) = true) as bs)
    (h' : List.Forall₂ (fun a b => (a == b) = true) bs cs) :
    List.Forall₂ (fun a b => (a == b) = true) as cs := by
  induction h generalizing cs with
  | nil => exact h'
  | cons hab _ ih =>
    cases h' with
    | cons hbc htail => exact .cons (BEq.trans hab hbc) (ih htail)

instance [PartialEquivBEq κ] [PartialEquivBEq α] : PartialEquivBEq (Record κ α) where
  symm := by
    intro r s h
    rw [beq_iff_related] at h ⊢
    exact ⟨(h.keys.imp fun _ _ => BEq.symm).flip, (h.values.imp fun _ _ => BEq.symm).flip⟩
  trans := by
    intro r s t h h'
    rw [beq_iff_related] at h h' ⊢
    exact ⟨forall₂_beq_trans h.keys h'.keys, forall₂_beq_trans h.values h'.values⟩

theorem forall₂_beq_self_iff [EqualExceptNaN α] {as : List α} :
    List.Forall₂ (fun a b => (a == b) = true) as as ↔ ∀ a ∈ as, isNaN a = false := by
  simp only [List.forall₂_same, EqualExceptNaN.beq_self, Bool.not_eq_true']

/-- A record equals itself if there is no NaN in it. -/
theorem beq_self_iff [EqualExceptNaN κ] [EqualExceptNaN α] {r : Record κ α} :
    (r == r) = true ↔
      (∀ k ∈ r.keys, isNaN k = false) ∧ ∀ a ∈ r.values, isNaN a = false := by
  rw [beq_iff_related, ← forall₂_beq_self_iff, ← forall₂_beq_self_iff]
  exact ⟨fun h => ⟨h.keys, h.values⟩, fun h => ⟨h.1, h.2⟩⟩

/-! ## Access to a record -/

/-- What is done with a record by those who know its keys. -/
inductive Access (κ α : Type _) where
  | get (k : κ)
  | contains (k : κ)
  | set (k : κ) (a : α)
  | add (k : κ) (a : α)

namespace Access

/-- What comes of an access. -/
inductive Answer (α : Type _) where
  | found (a : α)
  | truth (b : Bool)
  | done
  | missing (e : MissingKey)

/-- Two answers agree: both are the same, but for values in them, which are equal. -/
inductive Answer.Alike : Answer α → Answer α → Prop
  | found {a b : α} (h : (a == b) = true) : Alike (.found a) (.found b)
  | truth (b : Bool) : Alike (.truth b) (.truth b)
  | done : Alike .done .done
  | missing (e : MissingKey) : Alike (.missing e) (.missing e)

/-- The key of an access and the value that it stores equal themselves. -/
def EqualsItself : Access κ α → Prop
  | get k | contains k => (k == k) = true
  | set k a | add k a => (k == k) = true ∧ (a == a) = true

end Access

variable [Inspect κ]

/-- One access: the answer, and the record after it. -/
def access (r : Record κ α) : Access κ α → Access.Answer α × Record κ α
  | .get k =>
    match r.get k with
    | .ok a => (.found a, r)
    | .error e => (.missing e, r)
  | .contains k => (.truth (r.contains k), r)
  | .set k a =>
    match r.set k a with
    | .ok r' => (.done, r')
    | .error e => (.missing e, r)
  | .add k a => (.done, r.add k a)

/-- Accesses one after another, with the answers in order. -/
def accessAll (r : Record κ α) : List (Access κ α) → List (Access.Answer α) × Record κ α
  | [] => ([], r)
  | c :: cs => ((r.access c).1 :: ((r.access c).2.accessAll cs).1, ((r.access c).2.accessAll cs).2)

variable [PartialEquivBEq κ] {r s : Record κ α}

/-- An access to two equal records has answers that agree, and leaves equal records. -/
theorem access_alike (h : (r == s) = true) {c : Access κ α} (hc : c.EqualsItself) :
    (r.access c).1.Alike (s.access c).1 ∧ ((r.access c).2 == (s.access c).2) = true := by
  have hrel := beq_iff_related.mp h
  -- a key that is looked up tells equal keys from others in the same way
  have test (q : κ) : ∀ k l : κ, (k == l) = true → (k == q) = (l == q) :=
    fun _ _ hkl => BEq.congr_left hkl
  cases c with
  | get k =>
    have hget := hrel.get (test k)
    simp only [access]
    generalize r.get k = x, s.get k = y at hget
    cases hget with
    | ok hab => exact ⟨.found hab, h⟩
    | error e => exact ⟨.missing e, h⟩
  | contains k =>
    simp only [access, hrel.contains (test k)]
    exact ⟨.truth _, h⟩
  | set k a =>
    have hset := hrel.set (test k) hc.2
    simp only [access]
    generalize r.set k a = x, s.set k a = y at hset
    cases hset with
    | ok hrs => exact ⟨.done, beq_iff_related.mpr hrs⟩
    | error e => exact ⟨.missing e, h⟩
  | add k a => exact ⟨.done, beq_iff_related.mpr (hrel.add hc.1 hc.2)⟩

/-- Any number of accesses, by induction along them with both records generalized. -/
theorem accessAll_alike {cs : List (Access κ α)} (hcs : ∀ c ∈ cs, c.EqualsItself)
    (h : (r == s) = true) :
    List.Forall₂ Access.Answer.Alike (r.accessAll cs).1 (s.accessAll cs).1 ∧
      ((r.accessAll cs).2 == (s.accessAll cs).2) = true := by
  induction cs generalizing r s with
  | nil => exact ⟨.nil, h⟩
  | cons c cs ih =>
    obtain ⟨hanswer, hafter⟩ := access_alike h (hcs c List.mem_cons_self)
    obtain ⟨hanswers, hend⟩ := ih (fun d hd => hcs d (List.mem_cons_of_mem c hd)) hafter
    exact ⟨.cons hanswer hanswers, hend⟩

end Record

/-! ## The laws of equality -/

open Script in
/-- Whether two variables are equal can be read off what they refer to, whatever has become of the
objects in the heap. -/
theorem step_equal_congr {s t : Session} {a b : String} (ha : s.lookup? a = t.lookup? a)
    (hb : s.lookup? b = t.lookup? b) :
    (s.step (.equal (.named a) (.named b))).1 = (t.step (.equal (.named a) (.named b))).1 := by
  simp only [Session.step, Step.perform, Literal.evaluate, Session.valueOf, bind, EStateM.bind, ha]
  cases t.lookup? a with
  | none => rfl
  | some v =>
    simp only [hb]
    cases t.lookup? b with
    | none => rfl
    | some w => rfl

/-- **Equal records are accessed alike.**
1. Equality of values is symmetric and transitive, and a value equals itself unless it is a
   number that is a NaN. References are equal if they refer to the same thing, and stay so
   whatever becomes of the objects.
2. Equality of records is equality of keys and values, place by place. It is symmetric and
   transitive, and a record equals itself unless there is a NaN in it.
3. The same accesses to two equal records, with keys and values that equal themselves, have
   answers that agree, and leave equal records behind. -/
theorem equal_records_are_accessed_alike :
    ((∀ v w : Value, (v == w) = (w == v)) ∧
      (∀ u v w : Value, (u == v) = true → (v == w) = true → (u == w) = true) ∧
      (∀ v : Value, (v == v) = false ↔ ∃ x : Number, v = .number x ∧ x.isNaN = true) ∧
      (∀ r s, (Value.object r == .object s) = true ↔ r = s) ∧
      (∀ f g, (Value.function f == .function g) = true ↔ f.id = g.id) ∧
      (∀ x y, (Value.foreign x == .foreign y) = true ↔ x.id = y.id) ∧
      ∀ (s t : Script.Session) (a b : String), s.lookup? a = t.lookup? a →
        s.lookup? b = t.lookup? b →
          (s.step (.equal (.named a) (.named b))).1
            = (t.step (.equal (.named a) (.named b))).1) ∧
    ∀ (κ α : Type) [BEq κ] [EqualExceptNaN κ] [Inspect κ] [BEq α] [EqualExceptNaN α],
      (∀ r s : Record κ α, (r == s) = true ↔
        List.Forall₂ (fun k l => (k == l) = true) r.keys s.keys ∧
          List.Forall₂ (fun a b => (a == b) = true) r.values s.values) ∧
      (∀ r s : Record κ α, (r == s) = (s == r)) ∧
      (∀ r s t : Record κ α, (r == s) = true → (s == t) = true → (r == t) = true) ∧
      (∀ r : Record κ α, (r == r) = true ↔
        (∀ k ∈ r.keys, isNaN k = false) ∧ ∀ a ∈ r.values, isNaN a = false) ∧
      ∀ (r s : Record κ α) (cs : List (Record.Access κ α)), (r == s) = true →
        (∀ c ∈ cs, c.EqualsItself) →
          List.Forall₂ Record.Access.Answer.Alike (r.accessAll cs).1 (s.accessAll cs).1 ∧
            ((r.accessAll cs).2 == (s.accessAll cs).2) = true := by
  refine ⟨⟨fun v w => BEq.comm, fun u v w => BEq.trans, fun v => ?_, fun r s => ?_, fun f g => ?_,
    fun x y => ?_, fun s t a b => step_equal_congr⟩, ?_⟩
  · rw [Value.beq_self, Bool.not_eq_false', Value.isNaN_iff]
  · exact beq_iff_eq (α := ObjectRef)
  · exact beq_iff_eq (α := Nat)
  · exact beq_iff_eq (α := Nat)
  intro κ α _ _ _ _ _
  refine ⟨fun r s => ?_, fun r s => BEq.comm, fun r s t => BEq.trans,
    fun r => Record.beq_self_iff, fun r s cs h hcs => Record.accessAll_alike hcs h⟩
  rw [Record.beq_iff_related]
  exact ⟨fun h => ⟨h.keys, h.values⟩, fun h => ⟨h.1, h.2⟩⟩

/-- Two records whose keys are the two zeros, and two variables for one object, which is changed in
between. -/
theorem equal_records_are_accessed_alike_zeros :
    let zero : Number := ⟨0⟩
    let negZero : Number := ⟨0x8000000000000000⟩
    let r : Record Number Int64 := ⟨[zero], [1], rfl⟩
    let s : Record Number Int64 := ⟨[negZero], [1], rfl⟩
    let cs : List (Record.Access Number Int64) := [.set zero 2, .get negZero, .add negZero 3]
    let one : Script.Session :=
      ((Script.Session.start ⟨{}, none, .lossy⟩).bind "a" (.object ⟨0⟩)).bind "b" (.object ⟨0⟩)
    let other : Script.Session := { one with heap := ⟨#[⟨.empty, .free⟩]⟩ }
    (Value.number zero == .number zero) = true ∧
      (one.step (.equal (.named "a") (.named "b"))).1
        = (other.step (.equal (.named "a") (.named "b"))).1 ∧
      List.Forall₂ Record.Access.Answer.Alike (r.accessAll cs).1 (s.accessAll cs).1 ∧
      ((r.accessAll cs).2 == (s.accessAll cs).2) = true := by
  intro zero negZero r s cs one other
  obtain ⟨⟨-, htrans, -, -, -, -, hvariables⟩, hrecords⟩ := equal_records_are_accessed_alike
  obtain ⟨-, -, -, -, haccess⟩ := hrecords Number Int64
  have hequal : (r == s) = true := by decide
  have hcs : ∀ c ∈ cs, c.EqualsItself := by
    simp only [cs, List.mem_cons, List.not_mem_nil, or_false]
    rintro c (rfl | rfl | rfl)
    · exact ⟨by decide, by decide⟩
    · show (negZero == negZero) = true
      decide
    · exact ⟨by decide, by decide⟩
  refine ⟨htrans (.number zero) (.number negZero) (.number zero) ?_ ?_,
    hvariables one other "a" "b" rfl rfl, haccess r s cs hequal hcs⟩
  · decide
  · decide

end ScriptHost
