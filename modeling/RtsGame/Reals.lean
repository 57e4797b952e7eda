import Mathlib.Analysis.SpecialFunctions.Complex.Arg
import RtsGame.Exact

/-!
# Arithmetic of real numbers

Distances need an exact square root besides exact arithmetic.  The real numbers
themselves are such a scalar type, which shows that statements about all of them
are about something.
-/

namespace RtsGame

/-- The square root is exact, too. -/
class ExactRoot (F : Type) [Scalar F] extends Exact F where
  sqrt_eq : forall a : F, toReal (Scalar.sqrt a) = √(toReal a)

attribute [simp] ExactRoot.sqrt_eq

/-- So are rounding up and the angles. -/
class ExactMath (F : Type) [Scalar F] extends ExactRoot F where
  ceil_eq : forall a : F, Scalar.ceil a = ⌈toReal a⌉₊
  sin_eq : forall a : F, toReal (Scalar.sin a) = Real.sin (toReal a)
  cos_eq : forall a : F, toReal (Scalar.cos a) = Real.cos (toReal a)

attribute [simp] ExactMath.sin_eq ExactMath.cos_eq

/-!
## Lengths in the plane
-/

theorem plane_triangle (a b c d : ℝ) :
    √((a + c) ^ 2 + (b + d) ^ 2) ≤ √(a ^ 2 + b ^ 2) + √(c ^ 2 + d ^ 2) := by
  rw [← Complex.norm_add_mul_I, ← Complex.norm_add_mul_I, ← Complex.norm_add_mul_I]
  have hsum : ((a + c : ℝ) : ℂ) + (b + d : ℝ) * Complex.I =
      (a + b * Complex.I) + (c + d * Complex.I) := by
    push_cast
    ring
  rw [hsum]
  exact norm_add_le _ _

/-- A step of a given length in some direction, which may be none. -/
theorem plane_stride (dx dz : ℝ) {stride : ℝ} (hstride : 0 ≤ stride) :
    √((dx / √(dx ^ 2 + dz ^ 2) * stride) ^ 2 + (dz / √(dx ^ 2 + dz ^ 2) * stride) ^ 2) ≤
      stride := by
  have hsquare : √(dx ^ 2 + dz ^ 2) ^ 2 = dx ^ 2 + dz ^ 2 :=
    Real.sq_sqrt (add_nonneg (sq_nonneg dx) (sq_nonneg dz))
  by_cases hdist : √(dx ^ 2 + dz ^ 2) = 0
  · rw [hdist, div_zero, div_zero, zero_mul]
    simpa using hstride
  · have hnonzero : dx ^ 2 + dz ^ 2 ≠ 0 := by
      intro hzero
      exact hdist (by rw [hzero, Real.sqrt_zero])
    have hlength : (dx / √(dx ^ 2 + dz ^ 2) * stride) ^ 2 +
        (dz / √(dx ^ 2 + dz ^ 2) * stride) ^ 2 = stride ^ 2 := by
      rw [mul_pow, mul_pow, div_pow, div_pow, ← add_mul, ← add_div, hsquare,
        div_self hnonzero, one_mul]
    rw [hlength, Real.sqrt_sq hstride]

/-!
## The real numbers as scalars
-/

/-- A real number. -/
structure RealScalar where
  value : ℝ

noncomputable instance instScalarRealScalar : Scalar RealScalar where
  add := fun a b => ⟨a.value + b.value⟩
  sub := fun a b => ⟨a.value - b.value⟩
  mul := fun a b => ⟨a.value * b.value⟩
  div := fun a b => ⟨a.value / b.value⟩
  neg := fun a => ⟨-a.value⟩
  lt := fun a b => a.value < b.value
  le := fun a b => a.value ≤ b.value
  lit := fun q => ⟨q⟩
  sqrt := fun a => ⟨√a.value⟩
  sin := fun a => ⟨Real.sin a.value⟩
  cos := fun a => ⟨Real.cos a.value⟩
  atan2 := fun y x => ⟨Complex.arg ⟨x.value, y.value⟩⟩
  ceil := fun a => ⌈a.value⌉₊
  decLt := fun a b => inferInstanceAs (Decidable (a.value < b.value))
  decLe := fun a b => inferInstanceAs (Decidable (a.value ≤ b.value))
  lit_lt := fun _ _ _ _ => by
    change ((_ : ℚ) : ℝ) < ((_ : ℚ) : ℝ) <-> _
    rw [Rat.cast_lt, Nat.cast_lt]
  lit_le := fun _ _ _ _ => by
    change ((_ : ℚ) : ℝ) ≤ ((_ : ℚ) : ℝ) <-> _
    rw [Rat.cast_le, Nat.cast_le]

noncomputable instance instExactRootRealScalar : ExactRoot RealScalar where
  toReal := RealScalar.value
  lit_eq := fun _ => rfl
  add_eq := fun _ _ => rfl
  sub_eq := fun _ _ => rfl
  mul_eq := fun _ _ => rfl
  div_eq := fun _ _ => rfl
  neg_eq := fun _ => rfl
  lt_iff := fun _ _ => Iff.rfl
  le_iff := fun _ _ => Iff.rfl
  sqrt_eq := fun _ => rfl

noncomputable instance instExactMathRealScalar : ExactMath RealScalar where
  ceil_eq := fun _ => rfl
  sin_eq := fun _ => rfl
  cos_eq := fun _ => rfl

end RtsGame
