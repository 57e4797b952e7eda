import Mathlib.Analysis.Normed.Module.Basic
import Mathlib.Tactic.Linarith

/-!
# Walking along a polyline

A walk along a polyline is given by where it starts, the points ahead, how far it goes
and how many points it passes.  It goes through the points in their order, so that
everything ahead of its end is what is left of the points.
-/

namespace RtsGame

variable {space : Type} [NormedAddCommGroup space] [NormedSpace ℝ space]

/-- From a place through the points, so far and past so many of them, to another place. -/
inductive Walked : space -> List space -> ℝ -> Nat -> space -> Prop where
  | stays (p : space) (points : List space) : Walked p points 0 0 p
  | within (p a : space) (points : List space) {part : ℝ} (hpos : 0 ≤ part)
      (hle : part ≤ 1) : Walked p (a :: points) (part * ‖a - p‖) 0 (p + part • (a - p))
  | passes {p a q : space} {points : List space} {way : ℝ} {passed : Nat} :
      Walked a points way passed q ->
      Walked p (a :: points) (‖a - p‖ + way) (passed + 1) q

/-- The length of the polyline from a place through the points. -/
def pathLength : space -> List space -> ℝ
  | _, [] => 0
  | p, a :: points => ‖a - p‖ + pathLength a points

omit [NormedSpace ℝ space] in
theorem pathLength_nonneg (p : space) (points : List space) : 0 ≤ pathLength p points := by
  induction points generalizing p with
  | nil => exact le_refl 0
  | cons a rest ih => exact add_nonneg (norm_nonneg _) (ih a)

namespace Walked

variable {p q : space} {points : List space} {way : ℝ} {passed : Nat}

theorem nonneg (h : Walked p points way passed q) : 0 ≤ way := by
  induction h with
  | stays p points => exact le_refl 0
  | within p a points hpos _ => exact mul_nonneg hpos (norm_nonneg _)
  | passes _ ih => exact add_nonneg (norm_nonneg _) ih

/-- Nobody walks farther than the polyline is long. -/
theorem le_length (h : Walked p points way passed q) : way ≤ pathLength p points := by
  induction h with
  | stays p points => exact pathLength_nonneg p points
  | within p a points _ hle =>
      have hpart := mul_le_of_le_one_left (norm_nonneg (a - p)) hle
      exact hpart.trans (le_add_of_nonneg_right (pathLength_nonneg a points))
  | passes _ ih => exact add_le_add (le_refl _) ih

/-- Nobody gets farther than the walk is long. -/
theorem dist_le (h : Walked p points way passed q) : ‖q - p‖ ≤ way := by
  induction h with
  | stays p points => rw [sub_self, norm_zero]
  | within p a points hpos _ =>
      rw [add_sub_cancel_left, norm_smul, Real.norm_of_nonneg hpos]
  | @passes p a q points way passed _ ih =>
      have hsplit : q - p = (a - p) + (q - a) := by abel
      rw [hsplit]
      exact (norm_add_le _ _).trans (add_le_add (le_refl _) ih)

/-- A walk up to the next point. -/
theorem reaches (p a : space) (points : List space) :
    Walked p (a :: points) ‖a - p‖ 1 a := by
  have h := passes (p := p) (stays a points)
  rw [add_zero] at h
  exact h

/-- A step towards the next point that does not reach it. -/
theorem towards (a : space) {stride : ℝ} (hpos : 0 ≤ stride) (hlt : stride < ‖a - p‖) :
    Walked p (a :: points) stride 0 (p + (stride / ‖a - p‖) • (a - p)) := by
  have hnorm : 0 < ‖a - p‖ := lt_of_le_of_lt hpos hlt
  have h := within p a points (div_nonneg hpos hnorm.le) ((div_le_one hnorm).mpr hlt.le)
  rw [div_mul_cancel₀ _ hnorm.ne'] at h
  exact h

end Walked

end RtsGame
