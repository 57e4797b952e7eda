import RtsGame.Library.Strides
import RtsGame.Room.Leash

/-!
# Walking up to a place

Workers walk up to a place by full steps and stop once they are near enough; the last
step is not cut short.  In exact arithmetic they arrive without passing the place exactly
if a whole number of steps leads near enough to it, and otherwise they may walk to and
fro for ever.
-/

namespace RtsGame

open Scalar
open Exact (toReal)

namespace DungeonRoom

variable {F : Type} [Scalar F]

/-!
## Places in the plane
-/

section Plane

/-- A place without its height. -/
noncomputable def planePoint [Exact F] (v : Vec3f F) : ℂ := ⟨toReal v.x, toReal v.z⟩

variable [ExactRoot F]

theorem planeDist_norm (a b : Vec3f F) :
    toReal (planeDist a b) = ‖planePoint b - planePoint a‖ := by
  have hpoint : planePoint b - planePoint a =
      ((toReal b.x - toReal a.x : ℝ) : ℂ) + (toReal b.z - toReal a.z : ℝ) * Complex.I :=
    Complex.ext (by simp [planePoint]) (by simp [planePoint])
  rw [planeDist_real, hpoint, Complex.norm_add_mul_I]

/-- A step in the direction of a place. -/
theorem planePoint_stride (pos dest : Vec3f F) (y stride : F) :
    planePoint (⟨pos.x + (dest.x - pos.x) / planeDist pos dest * stride, y,
        pos.z + (dest.z - pos.z) / planeDist pos dest * stride⟩ : Vec3f F) =
      planePoint pos + ((toReal stride / ‖planePoint dest - planePoint pos‖ : ℝ) : ℂ) *
        (planePoint dest - planePoint pos) := by
  rw [← planeDist_norm]
  apply Complex.ext
  · simp [planePoint]
    ring
  · simp [planePoint]
    ring

end Plane

/-!
## One call
-/

section Calls

variable [ExactRoot F] {u : GameUnit F} {dest : Vec3f F} {arriveDist dt : F}

omit [ExactRoot F] in
/-- A call reports the arrival of a unit that is near enough already. -/
theorem moveToward_there_iff :
    (moveToward u dest arriveDist dt).2 = true <-> planeDist u.pos dest ≤ arriveDist := by
  unfold moveToward
  dsimp only
  split
  · rename_i hnear
    exact iff_of_true rfl hnear
  · rename_i hfar
    split
    · exact iff_of_false Bool.false_ne_true hfar
    · exact iff_of_false Bool.false_ne_true hfar

theorem moveToward_arrives_iff :
    (moveToward u dest arriveDist dt).2 = true <->
      toReal (planeDist u.pos dest) ≤ toReal arriveDist := by
  rw [moveToward_there_iff, Exact.le_iff]

omit [ExactRoot F] in
theorem moveToward_speed : (moveToward u dest arriveDist dt).1.speed = u.speed := by
  unfold moveToward
  dsimp only
  split
  · rfl
  · split
    · rfl
    · rfl

/-- What is left after a step towards a point, which may be beyond it. -/
theorem norm_sub_stride {a b : ℂ} (stride : ℝ) (h : 0 < ‖b - a‖) :
    ‖b - (a + ((stride / ‖b - a‖ : ℝ) : ℂ) * (b - a))‖ = |‖b - a‖ - stride| := by
  have hrest : b - (a + ((stride / ‖b - a‖ : ℝ) : ℂ) * (b - a)) =
      ((1 - stride / ‖b - a‖ : ℝ) : ℂ) * (b - a) := by
    push_cast
    ring
  rw [hrest, norm_mul, Complex.norm_real, Real.norm_eq_abs]
  calc
    |1 - stride / ‖b - a‖| * ‖b - a‖ = |(1 - stride / ‖b - a‖) * ‖b - a‖| := by
      rw [abs_mul, abs_of_pos h]
    _ = |‖b - a‖ - stride| := by
      rw [sub_mul, one_mul, div_mul_cancel₀ _ h.ne']

/-- A call takes a full stride, unless the unit is near enough. -/
theorem moveToward_stride (harrive : 0.0001 ≤ toReal arriveDist)
    (hstep : 0 < toReal u.speed * toReal dt) :
    toReal (planeDist (moveToward u dest arriveDist dt).1.pos dest) =
      Strides.stride (toReal u.speed * toReal dt) (toReal arriveDist)
        (toReal (planeDist u.pos dest)) := by
  have hle : planeDist u.pos dest ≤ arriveDist <->
      toReal (planeDist u.pos dest) ≤ toReal arriveDist := Exact.le_iff _ _
  unfold moveToward
  dsimp only
  change toReal (planeDist (if planeDist u.pos dest ≤ arriveDist then (u, true) else
    if u.speed * dt > lit 0 ∧ planeDist u.pos dest > lit 0.0001 then _ else _).1.pos dest) = _
  split
  · rename_i hnear
    rw [Strides.stride_near (hle.mp hnear)]
  · rename_i hfar
    rw [hle, not_le] at hfar
    rw [Strides.stride_far hfar]
    split
    · change toReal (planeDist (⟨u.pos.x + (dest.x - u.pos.x) / planeDist u.pos dest * _,
        u.pos.y, u.pos.z + (dest.z - u.pos.z) / planeDist u.pos dest * _⟩ : Vec3f F) dest) = _
      rw [planeDist_norm, planeDist_norm, planePoint_stride, norm_sub_stride, Exact.mul_eq]
      rw [← planeDist_norm]
      linarith
    · rename_i hstays
      exfalso
      apply hstays
      constructor
      · show lit 0 < _
        rw [Exact.pos_iff, Exact.mul_eq]
        exact hstep
      · show lit 0.0001 < _
        rw [Exact.lt_iff, Exact.lit_eq]
        norm_num at harrive ⊢
        linarith

end Calls

/-!
## Repeated calls
-/

section Runs

/-- The unit after so many calls of `MoveToward`. -/
def walked (u : GameUnit F) (dest : Vec3f F) (arriveDist dt : F) (k : Nat) : GameUnit F :=
  (fun v => (moveToward v dest arriveDist dt).1)^[k] u

/--
A unit that is sent to a place never passes it: every call that does not report the
arrival brings the unit closer by a step, and one of the calls that the distance allows
for reports it.
-/
structure WalksUp [ExactRoot F] (u : GameUnit F) (dest : Vec3f F) (arriveDist dt : F) :
    Prop where
  shortens : forall k, (moveToward (walked u dest arriveDist dt k) dest arriveDist dt).2 =
      false ->
    toReal (planeDist (walked u dest arriveDist dt (k + 1)).pos dest) =
      Max.max 0 (toReal (planeDist (walked u dest arriveDist dt k).pos dest) -
        toReal u.speed * toReal dt)
  arrives : exists k,
    k + 1 ≤ ⌈toReal (planeDist u.pos dest) / (toReal u.speed * toReal dt)⌉₊ + 1 ∧
      (moveToward (walked u dest arriveDist dt k) dest arriveDist dt).2 = true

theorem walked_succ (u : GameUnit F) (dest : Vec3f F) (arriveDist dt : F) (k : Nat) :
    walked u dest arriveDist dt (k + 1) =
      (moveToward (walked u dest arriveDist dt k) dest arriveDist dt).1 :=
  Function.iterate_succ_apply' _ k u

theorem walked_speed (u : GameUnit F) (dest : Vec3f F) (arriveDist dt : F) (k : Nat) :
    (walked u dest arriveDist dt k).speed = u.speed := by
  induction k with
  | zero => rfl
  | succ k ih => rw [walked_succ, moveToward_speed, ih]

variable [ExactRoot F] {u : GameUnit F} {dest : Vec3f F} {arriveDist dt : F}

/-- The distances are those of somebody who takes full strides. -/
theorem walked_dist (harrive : 0.0001 ≤ toReal arriveDist)
    (hstep : 0 < toReal u.speed * toReal dt) (k : Nat) :
    toReal (planeDist (walked u dest arriveDist dt k).pos dest) =
      (Strides.stride (toReal u.speed * toReal dt) (toReal arriveDist))^[k]
        (toReal (planeDist u.pos dest)) := by
  induction k with
  | zero => rfl
  | succ k ih =>
      have hspeed := walked_speed u dest arriveDist dt k
      rw [walked_succ, moveToward_stride harrive (by rw [hspeed]; exact hstep), hspeed, ih,
        Function.iterate_succ_apply']

theorem walksUp_iff_arrives (harrive : 0.0001 ≤ toReal arriveDist)
    (hstep : 0 < toReal u.speed * toReal dt) :
    WalksUp u dest arriveDist dt <->
      Strides.Arrives (toReal u.speed * toReal dt) (toReal arriveDist)
        (toReal (planeDist u.pos dest)) := by
  have hstops : forall k,
      (moveToward (walked u dest arriveDist dt k) dest arriveDist dt).2 = true <->
        (Strides.stride (toReal u.speed * toReal dt) (toReal arriveDist))^[k]
          (toReal (planeDist u.pos dest)) ≤ toReal arriveDist := by
    intro k
    rw [moveToward_arrives_iff, walked_dist harrive hstep]
  have hgoes : forall k,
      (moveToward (walked u dest arriveDist dt k) dest arriveDist dt).2 = false <->
        toReal arriveDist < (Strides.stride (toReal u.speed * toReal dt)
          (toReal arriveDist))^[k] (toReal (planeDist u.pos dest)) := by
    intro k
    rw [← Bool.not_eq_true, hstops k, not_le]
  constructor
  · intro h
    refine ⟨?_, ?_⟩
    · intro k hk
      rw [← walked_dist harrive hstep, ← walked_dist harrive hstep]
      exact h.shortens k ((hgoes k).mpr hk)
    · obtain ⟨k, hk, hthere⟩ := h.arrives
      exact ⟨k, Nat.le_of_succ_le_succ hk, (hstops k).mp hthere⟩
  · intro h
    refine ⟨?_, ?_⟩
    · intro k hk
      rw [walked_dist harrive hstep, walked_dist harrive hstep]
      exact h.shortens k ((hgoes k).mp hk)
    · obtain ⟨k, hk, hthere⟩ := h.stops
      exact ⟨k, Nat.succ_le_succ hk, (hstops k).mpr hthere⟩

/--
From every place, with every radius that the callers pass, a unit that can move walks up
to where it is sent exactly if a whole number of its steps leads near enough without
passing the place.
-/
theorem walksUp_iff (u : GameUnit F) (dest : Vec3f F) (arriveDist dt : F)
    (harrive : lit 0.15 ≤ arriveDist) (hspeed : lit 0 < u.speed) (hdt : lit 0 < dt) :
    WalksUp u dest arriveDist dt <->
      exists n : Nat,
        n * (toReal u.speed * toReal dt) ≤ toReal (planeDist u.pos dest) ∧
          toReal (planeDist u.pos dest) ≤
            n * (toReal u.speed * toReal dt) + toReal arriveDist := by
  rw [Exact.pos_iff] at hspeed hdt
  rw [Exact.le_iff, Exact.lit_eq] at harrive
  have hradius : 0.0001 ≤ toReal arriveDist := by
    norm_num at harrive ⊢
    linarith
  have hstep := mul_pos hspeed hdt
  have hdist : 0 ≤ toReal (planeDist u.pos dest) := by
    rw [planeDist_norm]
    exact norm_nonneg _
  exact (walksUp_iff_arrives hradius hstep).trans (Strides.arrives_iff hstep hdist)

end Runs

/-!
## Two villagers
-/

/-- A villager at the origin. -/
noncomputable def villager (speed : RealScalar) : GameUnit RealScalar :=
  newUnit 1 1 0 kUnitVillager ⟨lit 0, lit 0, lit 0⟩ (lit 100) speed (lit 0)

/-- A place so far from the origin. -/
noncomputable def ahead (distance : RealScalar) : Vec3f RealScalar :=
  ⟨distance, lit 0, lit 0⟩

theorem ahead_dist (speed : RealScalar) {distance : ℚ} (h : 0 ≤ distance) :
    toReal (planeDist (villager speed).pos (ahead (lit distance))) = distance := by
  have hpos : (0 : ℝ) ≤ distance := Rat.cast_nonneg.mpr h
  rw [planeDist_real]
  simp [villager, newUnit, ahead, Exact.lit_eq, Real.sqrt_sq hpos]

/-- Three steps of the usual length lead near enough. -/
theorem villager_walksUp :
    WalksUp (villager (lit 6)) (ahead (lit 1)) (lit 0.15) (lit 0.05) := by
  have hspeed : toReal (villager (lit 6)).speed = 6 := by
    simp [villager, newUnit]
  refine (walksUp_iff (villager (lit 6)) (ahead (lit 1)) (lit 0.15) (lit 0.05)
    ((Exact.le_iff _ _).mpr (le_refl _)) ?_ ?_).mpr ⟨3, ?_, ?_⟩
  · rw [Exact.pos_iff, hspeed]
    norm_num
  · rw [Exact.pos_iff, Exact.lit_eq]
    norm_num
  · rw [ahead_dist (lit 6) (by norm_num), hspeed, Exact.lit_eq]
    norm_num
  · rw [ahead_dist (lit 6) (by norm_num), hspeed, Exact.lit_eq, Exact.lit_eq]
    norm_num

/-- A step of length one leads from half a unit before the place to half a unit behind it. -/
theorem villager_walks_to_and_fro :
    ¬ forall (u : GameUnit RealScalar) (dest : Vec3f RealScalar)
        (arriveDist dt : RealScalar), lit 0.15 ≤ arriveDist -> lit 0 < u.speed ->
      lit 0 < dt -> WalksUp u dest arriveDist dt := by
  intro h
  have hspeed : toReal (villager (lit 10)).speed = 10 := by
    simp [villager, newUnit]
  have hlength : toReal (villager (lit 10)).speed * toReal (lit 0.1 : RealScalar) = 1 := by
    rw [hspeed, Exact.lit_eq]
    norm_num
  have hdist : toReal (planeDist (villager (lit 10)).pos (ahead (lit 0.5))) = 1 / 2 := by
    rw [ahead_dist (lit 10) (by norm_num)]
    norm_num
  have hradius : toReal (lit 0.15 : RealScalar) = 3 / 20 := by
    rw [Exact.lit_eq]
    norm_num
  have hstays : forall k, (Strides.stride (1 : ℝ) (3 / 20))^[k] (1 / 2) = 1 / 2 := by
    intro k
    induction k with
    | zero => rfl
    | succ k ih =>
        rw [Function.iterate_succ_apply', ih, Strides.stride_far (by norm_num)]
        norm_num [abs_of_neg]
  have hwalks := h (villager (lit 10)) (ahead (lit 0.5)) (lit 0.15) (lit 0.1)
    ((Exact.le_iff _ _).mpr (le_refl _))
    ((Exact.pos_iff _).mpr (by rw [hspeed]; norm_num))
    ((Exact.pos_iff _).mpr (by rw [Exact.lit_eq]; norm_num))
  obtain ⟨k, _, hthere⟩ := hwalks.arrives
  rw [moveToward_arrives_iff, walked_dist (by rw [hradius]; norm_num)
    (by rw [hlength]; norm_num), hlength, hdist, hradius, hstays] at hthere
  norm_num at hthere

end DungeonRoom

end RtsGame
