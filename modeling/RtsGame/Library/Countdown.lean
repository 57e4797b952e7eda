import Mathlib.Algebra.Order.Archimedean.Real.Basic
import Mathlib.Algebra.Order.Floor.Semiring
import Mathlib.Data.Nat.Factorization.Basic
import RtsGame.Library.Script

/-!
# Countdowns

A clock that is set to a time counts down by a fixed stride, runs out when nothing is left,
and is set again.  It runs out at every stride whose number is a multiple of the strides that
the time takes, however long the pauses between the strides are.
-/

namespace RtsGame

/-- The strides that a countdown takes. -/
noncomputable def stridesOf (time stride : ℝ) : Nat := ⌈time / stride⌉₊

section Strides

variable {time stride : ℝ}

theorem stridesOf_pos (htime : 0 < time) (hstride : 0 < stride) : 0 < stridesOf time stride :=
  Nat.ceil_pos.mpr (div_pos htime hstride)

/-- Nothing is left exactly when all strides are done. -/
theorem countdown_over (hstride : 0 < stride) (n : Nat) :
    time - n * stride ≤ 0 <-> stridesOf time stride ≤ n := by
  rw [stridesOf, Nat.ceil_le, div_le_iff₀ hstride, sub_nonpos]

theorem succ_mod_of_lt {n k : Nat} (h : n % k + 1 < k) : (n + 1) % k = n % k + 1 := by
  have hsplit : n + 1 = n % k + 1 + k * (n / k) := by
    have hdiv := Nat.div_add_mod n k
    lia
  rw [hsplit, Nat.add_mul_mod_self_left, Nat.mod_eq_of_lt h]

/-- What is left after so many strides, of which only the last few count. -/
noncomputable def leftAfter (time stride : ℝ) (n : Nat) : ℝ :=
  time - (n % stridesOf time stride : Nat) * stride

theorem leftAfter_sub (n : Nat) :
    leftAfter time stride n - stride =
      time - (n % stridesOf time stride + 1 : Nat) * stride := by
  rw [leftAfter, Nat.cast_add_one]
  ring

/-- A stride ends the countdown exactly when its number is a multiple. -/
theorem leftAfter_over (htime : 0 < time) (hstride : 0 < stride) (n : Nat) :
    leftAfter time stride n - stride ≤ 0 <-> stridesOf time stride ∣ n + 1 := by
  have hmod := Nat.mod_lt n (stridesOf_pos htime hstride)
  have hdiv := Nat.div_add_mod n (stridesOf time stride)
  rw [leftAfter_sub, countdown_over hstride]
  constructor
  · intro hle
    refine ⟨n / stridesOf time stride + 1, ?_⟩
    rw [Nat.mul_add, Nat.mul_one]
    lia
  · intro hdvd
    by_contra hless
    have hrest := succ_mod_of_lt (Nat.lt_of_not_le hless)
    rw [Nat.mod_eq_zero_of_dvd hdvd] at hrest
    cases hrest

/-- A stride that does not end it leaves less. -/
theorem leftAfter_next (hstride : 0 < stride) {n : Nat}
    (h : ¬ leftAfter time stride n - stride ≤ 0) :
    leftAfter time stride (n + 1) = leftAfter time stride n - stride := by
  rw [leftAfter_sub, countdown_over hstride, Nat.not_le] at h
  rw [leftAfter_sub, leftAfter, succ_mod_of_lt h]

/-- A countdown that has just ended begins anew. -/
theorem leftAfter_start {n : Nat} (h : stridesOf time stride ∣ n) :
    leftAfter time stride n = time := by
  rw [leftAfter, Nat.mod_eq_zero_of_dvd h, Nat.cast_zero, zero_mul, sub_zero]

end Strides

/-- Every so many marks there is a true one. -/
def Periodic (k : Nat) (marks : List Bool) : Prop :=
  marks = (List.range marks.length).map fun i => decide (k ∣ i + 1)

section Periods

variable {k : Nat} {marks : List Bool}

theorem periodic_nil : Periodic k [] := rfl

theorem Periodic.next (h : Periodic k marks) {mark : Bool}
    (hmark : mark = decide (k ∣ marks.length + 1)) : Periodic k (marks ++ [mark]) := by
  unfold Periodic at h ⊢
  rw [List.length_append, List.length_singleton, List.range_succ, List.map_append, ← h, hmark]
  rfl

/-- How many marks are true. -/
theorem Periodic.count (h : Periodic k marks) : marks.count true = marks.length / k := by
  unfold Periodic at h
  rw [← Nat.card_multiples marks.length k, h, List.length_map, List.length_range,
    List.count_eq_countP, List.countP_map, List.countP_eq_length_filter]
  have hfilter : (List.range marks.length).filter
      ((fun x => x == true) ∘ fun i => decide (k ∣ i + 1)) =
        (List.range marks.length).filter fun i => decide (k ∣ i + 1) := by
    apply List.filter_congr
    intro i _
    simp
  rw [hfilter]
  rfl

end Periods

end RtsGame
