import ScriptHost.Value.Basic

/-!
# Equality as a partial equivalence

The equality of numbers, of scalars and of values is symmetric and transitive. It is not
reflexive, since a NaN differs from itself, so it is a partial equivalence and no more.

- `Number.beq_symm`, `Number.beq_trans`: a zero equals either zero, any other number its own bits.
- `Scalar.beq_symm`, `Scalar.beq_trans`: scalars of different kinds differ.
- `Value.beq_symm`, `Value.beq_trans`: references are equal by what they refer to.
-/

namespace ScriptHost

namespace Number

theorem beq_symm {x y : Number} (h : x == y) : y == x := by
  change x.beq y = true at h
  change y.beq x = true
  simp only [beq, Bool.and_eq_true, Bool.or_eq_true, beq_iff_eq] at h ⊢
  obtain ⟨⟨hx, hy⟩, hxy | ⟨zx, zy⟩⟩ := h
  · exact ⟨⟨hy, hx⟩, .inl hxy.symm⟩
  · exact ⟨⟨hy, hx⟩, .inr ⟨zy, zx⟩⟩

/-- Two numbers with the same bits are both zero or neither is, so a zero in the middle of a
chain of equalities makes both ends zero. -/
theorem beq_trans {x y z : Number} (hxy : x == y) (hyz : y == z) : x == z := by
  change x.beq y = true at hxy
  change y.beq z = true at hyz
  change x.beq z = true
  simp only [beq, isZero, Bool.and_eq_true, Bool.or_eq_true, beq_iff_eq] at hxy hyz ⊢
  obtain ⟨⟨hx, -⟩, hxy⟩ := hxy
  obtain ⟨⟨-, hz⟩, hyz⟩ := hyz
  refine ⟨⟨hx, hz⟩, ?_⟩
  obtain hxy | ⟨zx, zy⟩ := hxy
  · rw [hxy]
    exact hyz
  · obtain hyz | ⟨-, zz⟩ := hyz
    · rw [hyz] at zy
      exact .inr ⟨zx, zy⟩
    · exact .inr ⟨zx, zz⟩

instance : PartialEquivBEq Number := ⟨beq_symm, beq_trans⟩

end Number

namespace Scalar

theorem beq_symm : ∀ {a b : Scalar}, a == b → b == a
  | null, null, _ => rfl
  | bool _, bool _, h => BEq.symm (α := Bool) h
  | number _, number _, h => BEq.symm (α := Number) h
  | text _, text _, h => BEq.symm (α := String) h

theorem beq_trans : ∀ {a b c : Scalar}, a == b → b == c → a == c
  | null, null, null, _, _ => rfl
  | bool _, bool _, bool _, h, h' => BEq.trans (α := Bool) h h'
  | number _, number _, number _, h, h' => BEq.trans (α := Number) h h'
  | text _, text _, text _, h, h' => BEq.trans (α := String) h h'

instance : PartialEquivBEq Scalar := ⟨beq_symm, beq_trans⟩

end Scalar

namespace Value

theorem beq_symm : ∀ {v w : Value}, v == w → w == v
  | scalar _, scalar _, h => BEq.symm (α := Scalar) h
  | object _, object _, h => BEq.symm (α := ObjectRef) h
  | function f, function g, h => BEq.symm (a := f.id) (b := g.id) h
  | foreign x, foreign y, h => BEq.symm (a := x.id) (b := y.id) h

theorem beq_trans : ∀ {v w u : Value}, v == w → w == u → v == u
  | scalar _, scalar _, scalar _, h, h' => BEq.trans (α := Scalar) h h'
  | object _, object _, object _, h, h' => BEq.trans (α := ObjectRef) h h'
  | function f, function g, function e, h, h' =>
    BEq.trans (a := f.id) (b := g.id) (c := e.id) h h'
  | foreign x, foreign y, foreign z, h, h' =>
    BEq.trans (a := x.id) (b := y.id) (c := z.id) h h'

instance : PartialEquivBEq Value := ⟨beq_symm, beq_trans⟩

end Value

end ScriptHost
