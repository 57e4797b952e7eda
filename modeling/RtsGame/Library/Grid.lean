import Mathlib.Analysis.Complex.Basic
import Mathlib.Data.Nat.ModEq
import Mathlib.Topology.Instances.Nat

/-!
# Places in rows

Numbered places in the plane: so many in a row, row behind row, and each row shifted as
a whole.  Different places are apart, however the rows are shifted and however the whole
is turned.
-/

namespace RtsGame

namespace Grid

/--
The place with a number.  The rows run along the imaginary axis and follow one another
against the real axis.
-/
def place (columns : ℕ) (shift : ℕ -> ℝ) (middle lateral longitudinal : ℝ) (n : ℕ) : ℂ :=
  ⟨(middle - (n / columns : ℕ)) * longitudinal,
    (shift (n / columns) - (n % columns : ℕ)) * lateral⟩

variable {columns m n : ℕ} {shift : ℕ -> ℝ} {middle lateral longitudinal : ℝ}

theorem one_le_abs_sub (h : m ≠ n) : 1 ≤ |(m : ℝ) - n| := by
  rw [← Real.dist_eq, Nat.dist_cast_real]
  exact Nat.pairwise_one_le_dist h

/-- Two numbers on one axis, scaled. -/
theorem scaled_apart {c scale : ℝ} (hscale : 0 ≤ scale) (h : m ≠ n) :
    scale ≤ |(c - m) * scale - (c - n) * scale| := by
  have hsplit : (c - m) * scale - (c - n) * scale = -(((m : ℝ) - n) * scale) := by ring
  rw [hsplit, abs_neg, abs_mul, abs_of_nonneg hscale]
  exact le_mul_of_one_le_left hscale (one_le_abs_sub h)

/-- Different places are apart by the smaller one of the two distances of neighbours. -/
theorem place_apart (hlateral : 0 ≤ lateral) (hle : lateral ≤ longitudinal) (h : m ≠ n) :
    lateral ≤ ‖place columns shift middle lateral longitudinal m -
      place columns shift middle lateral longitudinal n‖ := by
  by_cases hrow : m / columns = n / columns
  · have hcolumn : m % columns ≠ n % columns := fun hcolumn =>
      h (Nat.ext_div_mod hrow hcolumn)
    refine le_trans ?_ (Complex.abs_im_le_norm _)
    simp only [place, Complex.sub_im, hrow]
    exact scaled_apart hlateral hcolumn
  · refine le_trans ?_ (Complex.abs_re_le_norm _)
    simp only [place, Complex.sub_re]
    exact hle.trans (scaled_apart (hlateral.trans hle) hrow)

/-- Turning the whole changes no distance. -/
theorem turned_apart {forward : ℂ} (hforward : ‖forward‖ = 1) (a b : ℂ) :
    ‖forward * a - forward * b‖ = ‖a - b‖ := by
  rw [← mul_sub, norm_mul, hforward, one_mul]

end Grid

end RtsGame
