import Mathlib.Algebra.Order.Floor.Semiring
import Mathlib.Algebra.Order.Group.Abs
import Mathlib.Logic.Function.Iterate
import Mathlib.Tactic.Linarith

/-!
# Walking up to a point by full strides

Somebody who always takes a full stride towards a point comes closer by a stride, or
passes the point.  Who stops near enough to the point arrives without passing it exactly
if a whole number of strides leads near enough.
-/

namespace RtsGame

namespace Strides

variable {field : Type} [Field field] [LinearOrder field] [IsStrictOrderedRing field]

/-- The distance after a full stride, unless the point was near enough. -/
def stride (length near : field) (distance : field) : field :=
  if distance ≤ near then distance else |distance - length|

/-- A whole number of strides leads near the point and not past it. -/
def Reaches (length near distance : field) : Prop :=
  exists n : Nat, n * length ≤ distance ∧ distance ≤ n * length + near

/--
No stride leads past the point, and after as many strides as the distance is long the
point is near enough.
-/
structure Arrives [FloorSemiring field] (length near distance : field) : Prop where
  shortens : forall k, near < (stride length near)^[k] distance ->
    (stride length near)^[k + 1] distance =
      max 0 ((stride length near)^[k] distance - length)
  stops : exists k, k ≤ ⌈distance / length⌉₊ ∧ (stride length near)^[k] distance ≤ near

variable {length near distance : field}

omit [IsStrictOrderedRing field] in
theorem stride_near (h : distance ≤ near) : stride length near distance = distance :=
  if_pos h

omit [IsStrictOrderedRing field] in
theorem stride_far (h : near < distance) :
    stride length near distance = |distance - length| :=
  if_neg (not_le.mpr h)

/-- As long as the point is neither near nor passed, every stride brings it closer. -/
theorem iterate_far (hlength : 0 < length) {k : Nat} (hk : k * length ≤ distance)
    (hfar : forall i : Nat, i < k -> near < distance - i * length) :
    (stride length near)^[k] distance = distance - k * length := by
  induction k with
  | zero => simp
  | succ k ih =>
      rw [Nat.cast_succ, add_mul, one_mul] at hk
      have hbefore := ih (by linarith) (fun i hi => hfar i (Nat.lt_succ_of_lt hi))
      rw [Function.iterate_succ_apply', hbefore, stride_far (hfar k (Nat.lt_succ_self k)),
        abs_of_nonneg (by linarith), Nat.cast_succ, add_mul, one_mul, sub_sub]

omit [IsStrictOrderedRing field] in
/-- Who is near stays there. -/
theorem iterate_near (h : distance ≤ near) (k : Nat) :
    (stride length near)^[k] distance = distance := by
  induction k with
  | zero => rfl
  | succ k ih => rw [Function.iterate_succ_apply', ih, stride_near h]

/-- The strides up to the first place that is near enough. -/
theorem iterate_until (hlength : 0 < length) {n : Nat} (hn : n * length ≤ distance)
    (hnear : distance ≤ n * length + near)
    (hfirst : forall i : Nat, i < n -> i * length + near < distance) (k : Nat) :
    (stride length near)^[k] distance = distance - (min k n : Nat) * length := by
  have hfar : forall i : Nat, i < n -> near < distance - i * length := by
    intro i hi
    linarith [hfirst i hi]
  cases Nat.le_total k n with
  | inl hk =>
      rw [Nat.min_eq_left hk]
      apply iterate_far hlength
      · calc
          (k : field) * length ≤ n * length :=
            mul_le_mul_of_nonneg_right (Nat.cast_le.mpr hk) hlength.le
          _ ≤ distance := hn
      · exact fun i hi => hfar i (Nat.lt_of_lt_of_le hi hk)
  | inr hk =>
      rw [Nat.min_eq_right hk, ← Nat.sub_add_cancel hk, Function.iterate_add_apply,
        iterate_far hlength hn hfar, iterate_near (by linarith)]

theorem Reaches.arrives [FloorSemiring field] (hlength : 0 < length)
    (h : Reaches length near distance) : Arrives length near distance := by
  classical
  obtain ⟨reached, hpast, hnear⟩ := h
  have hsome : exists n : Nat, distance ≤ n * length + near := ⟨reached, hnear⟩
  obtain ⟨n, hn, hfirst⟩ : exists n : Nat, distance ≤ n * length + near ∧
      forall i : Nat, i < n -> i * length + near < distance :=
    ⟨Nat.find hsome, Nat.find_spec hsome, fun i hi => not_le.mp (Nat.find_min hsome hi)⟩
  have hle : n ≤ reached := by
    by_contra hlt
    exact absurd hnear (not_le.mpr (hfirst reached (Nat.lt_of_not_le hlt)))
  have hpassed : (n : field) * length ≤ distance := by
    calc
      (n : field) * length ≤ reached * length :=
        mul_le_mul_of_nonneg_right (Nat.cast_le.mpr hle) hlength.le
      _ ≤ distance := hpast
  have hiterate := iterate_until hlength hpassed hn hfirst
  constructor
  · intro k hk
    rw [hiterate] at hk
    have hbefore : k < n := by
      by_contra hafter
      rw [Nat.min_eq_right (Nat.le_of_not_lt hafter)] at hk
      linarith
    rw [hiterate, hiterate, Nat.min_eq_left (Nat.le_of_lt hbefore), Nat.min_eq_left hbefore]
    have hnext : ((k + 1 : Nat) : field) * length ≤ n * length :=
      mul_le_mul_of_nonneg_right (Nat.cast_le.mpr hbefore) hlength.le
    rw [Nat.cast_succ, add_mul, one_mul] at hnext ⊢
    rw [max_eq_right (by linarith), sub_sub]
  · refine ⟨n, ?_, ?_⟩
    · rw [← Nat.cast_le (α := field)]
      exact ((le_div_iff₀ hlength).mpr hpassed).trans (Nat.le_ceil _)
    · rw [hiterate, Nat.min_self]
      linarith

/-- Who would have to pass the point does so. -/
theorem reaches_of_shortens [FloorSemiring field] (hlength : 0 < length)
    (hdistance : 0 ≤ distance)
    (h : forall k, near < (stride length near)^[k] distance ->
      (stride length near)^[k + 1] distance =
        max 0 ((stride length near)^[k] distance - length)) :
    Reaches length near distance := by
  by_contra hnot
  have hquotient : (⌊distance / length⌋₊ : field) * length ≤ distance :=
    (le_div_iff₀ hlength).mp (Nat.floor_le (div_nonneg hdistance hlength.le))
  have hlast : distance < (⌊distance / length⌋₊ + 1 : field) * length :=
    (div_lt_iff₀ hlength).mp (Nat.lt_floor_add_one _)
  generalize ⌊distance / length⌋₊ = n at hquotient hlast
  rw [add_mul, one_mul] at hlast
  have hfar : forall i : Nat, i ≤ n -> near < distance - i * length := by
    intro i hi
    have hle : (i : field) * length ≤ n * length :=
      mul_le_mul_of_nonneg_right (Nat.cast_le.mpr hi) hlength.le
    have hgap : ¬ distance ≤ i * length + near :=
      fun hle' => hnot ⟨i, hle.trans hquotient, hle'⟩
    linarith [not_le.mp hgap]
  have hbefore := iterate_far hlength hquotient (fun i hi => hfar i (Nat.le_of_lt hi))
  have hafter := h n (by rw [hbefore]; exact hfar n (Nat.le_refl n))
  rw [Function.iterate_succ_apply', hbefore, stride_far (hfar n (Nat.le_refl n)),
    max_eq_left (by linarith), abs_eq_zero] at hafter
  linarith

/-- Full strides arrive without passing the point exactly if a whole number of them does. -/
theorem arrives_iff [FloorSemiring field] (hlength : 0 < length)
    (hdistance : 0 ≤ distance) :
    Arrives length near distance <-> Reaches length near distance :=
  ⟨fun h => reaches_of_shortens hlength hdistance h.shortens, fun h => h.arrives hlength⟩

end Strides

end RtsGame
