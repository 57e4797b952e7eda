import Mathlib.Data.Rat.Cast.CharZero
import Mathlib.Data.Rat.Cast.Order
import Mathlib.Data.Real.Basic
import Mathlib.Tactic.Linarith
import Mathlib.Tactic.NormNum
import RtsGame.Scalar

/-!
# Exact arithmetic

Some statements about the simulation hold for exact arithmetic only: rounding
could break a bound by an ulp.  A scalar type is exact if its values stand for
real numbers, its literals for their values, and its operations for those of the
real numbers.
-/

namespace RtsGame

open Scalar

/-- The values of the type are real numbers. -/
class Exact (F : Type) [Scalar F] where
  toReal : F -> Real
  lit_eq : forall q : Rat, toReal (lit q) = q
  add_eq : forall a b : F, toReal (a + b) = toReal a + toReal b
  sub_eq : forall a b : F, toReal (a - b) = toReal a - toReal b
  mul_eq : forall a b : F, toReal (a * b) = toReal a * toReal b
  div_eq : forall a b : F, toReal (a / b) = toReal a / toReal b
  neg_eq : forall a : F, toReal (-a) = -toReal a
  lt_iff : forall a b : F, a < b <-> toReal a < toReal b
  le_iff : forall a b : F, a ≤ b <-> toReal a ≤ toReal b

namespace Exact

attribute [simp] lit_eq add_eq sub_eq mul_eq div_eq neg_eq

variable {F : Type} [Scalar F] [Exact F]

@[simp] theorem max_eq (a b : F) :
    toReal (Scalar.max a b) = Max.max (toReal a) (toReal b) := by
  unfold Scalar.max
  split
  · rename_i h
    rw [lt_iff] at h
    exact (max_eq_right h.le).symm
  · rename_i h
    rw [lt_iff, not_lt] at h
    exact (max_eq_left h).symm

theorem zero_eq : toReal (lit 0 : F) = 0 := by
  rw [lit_eq, Rat.cast_zero]

theorem nonneg_iff (a : F) : lit 0 ≤ a <-> 0 ≤ toReal a := by
  rw [le_iff, zero_eq]

theorem pos_iff (a : F) : lit 0 < a <-> 0 < toReal a := by
  rw [lt_iff, zero_eq]

theorem le_of_lt {a b : F} (h : a < b) : a ≤ b :=
  (le_iff a b).mpr ((lt_iff a b).mp h).le

theorem not_le_iff (a b : F) : ¬ a ≤ b <-> toReal b < toReal a := by
  rw [le_iff, not_le]

theorem not_le_zero_iff (a : F) : ¬ a ≤ lit 0 <-> 0 < toReal a := by
  rw [not_le_iff, zero_eq]

theorem not_lt_iff (a b : F) : ¬ a < b <-> toReal b ≤ toReal a := by
  rw [lt_iff, not_lt]

end Exact

/-- The rational numbers are exact. -/
noncomputable instance instExactRat : Exact Rat where
  toReal := fun q => (q : Real)
  lit_eq := fun _ => rfl
  add_eq := fun a b => Rat.cast_add a b
  sub_eq := fun a b => Rat.cast_sub a b
  mul_eq := fun a b => Rat.cast_mul a b
  div_eq := fun a b => Rat.cast_div a b
  neg_eq := fun a => Rat.cast_neg a
  lt_iff := fun _ _ => Rat.cast_lt.symm
  le_iff := fun _ _ => Rat.cast_le.symm

end RtsGame
