import Mathlib
import RtsGame.Library.Polyline
import RtsGame.Room.Walking

/-!
# Following a path

A unit that was told to move spends its step on the waypoints ahead, one after the other.
It stays on the polyline through them, goes no farther than its speed allows, and keeps
its target until it stands on the last point.
-/

namespace RtsGame

open Scalar
open Exact (toReal)

namespace DungeonRoom

variable {F : Type} [Scalar F]

/-!
## The loop
-/

/-- A unit that has reached the last point. -/
def finishMove (u : GameUnit F) (dest : Vec3f F) (path : List (Vec3f F)) (pathIndex : Nat) :
    GameUnit F :=
  { u with
    pos := dest
    path := path
    pathIndex := pathIndex
    hasTarget := false
    state := UnitState.idle }

/-- The loop of `StepMove` with a bound on the number of its rounds. -/
def moveLoop : Nat -> GameUnit F -> F -> Option (GameUnit F)
  | 0, _, _ => none
  | rounds + 1, u, remaining =>
      if remaining > lit 0.00001 then
        let dest := u.path[u.pathIndex]?.getD u.target
        let dx := dest.x - u.pos.x
        let dz := dest.z - u.pos.z
        let dist := sqrt (dx * dx + dz * dz)
        if dist ≤ remaining ∨ dist < lit 0.0001 then
          if u.pathIndex < u.path.length then
            if u.pathIndex + 1 ≥ u.path.length then some (finishMove u dest [] 0)
            else
              moveLoop rounds { u with pos := dest, pathIndex := u.pathIndex + 1 }
                (remaining - (if dist > lit 0 then dist else lit 0))
          else some (finishMove u dest u.path u.pathIndex)
        else some (walkToward u dx dz dist remaining)
      else some u

/-- The loop ends after as many rounds as there are waypoints ahead, and one more. -/
theorem moveLoop_eq {rounds : Nat} {u : GameUnit F} (remaining : F)
    (h : u.path.length - u.pathIndex < rounds) :
    moveLoop rounds u remaining =
      some (followPath (u.path.drop u.pathIndex) u remaining) := by
  induction rounds generalizing u remaining with
  | zero => cases h
  | succ rounds ih =>
      unfold moveLoop
      by_cases hon : u.pathIndex < u.path.length
      · have hlast : (u.path.drop (u.pathIndex + 1)).isEmpty = true <->
            u.pathIndex + 1 ≥ u.path.length := by
          rw [List.isEmpty_iff, List.drop_eq_nil_iff]
        rw [List.drop_eq_getElem_cons hon]
        unfold followPath
        simp only [List.getElem?_eq_getElem hon, Option.getD_some, if_pos hon, hlast]
        split
        · split
          · split
            · rfl
            · exact ih _ (by dsimp only; omega)
          · rfl
        · rfl
      · have hnone : u.path[u.pathIndex]? = none :=
          List.getElem?_eq_none (Nat.le_of_not_lt hon)
        have hnil : u.path.drop u.pathIndex = [] :=
          List.drop_eq_nil_of_le (Nat.le_of_not_lt hon)
        rw [hnil]
        unfold followPath
        simp only [hnone, Option.getD_none, if_neg hon]
        split
        · split
          · rfl
          · rfl
        · rfl

/-!
## The way ahead
-/

/-- The points that the unit has still to reach. -/
def wayAhead (u : GameUnit F) : List (Vec3f F) :=
  if u.path.drop u.pathIndex = [] then [u.target] else u.path.drop u.pathIndex

section Exactly

variable [ExactRoot F]

/--
With so long a step the unit walks along the points ahead: at most a little farther than
the step, at least nearly as far or to the end, and past some of the points.  As long as
it has a target those points and no others are behind it; without a target it stands on
the last one.
-/
structure Travels (u u' : GameUnit F) (points : List (Vec3f F)) (step way : ℝ)
    (passed : Nat) : Prop where
  walked : Walked (planePoint u.pos) (points.map planePoint) way passed (planePoint u'.pos)
  least : Min.min (pathLength (planePoint u.pos) (points.map planePoint))
    (step - 1 / 100000) ≤ way
  most : way ≤ Max.max 0 (step + 1 / 10000)
  still : step ≤ 1 / 100000 -> way = 0
  goesOn : u'.hasTarget = true -> passed < points.length ∧ u'.path = u.path ∧
    u'.pathIndex = u.pathIndex + passed ∧ u'.target = u.target
  stops : u'.hasTarget = false -> passed = points.length ∧
    points.getLast? = some u'.pos ∧ u'.path.drop u'.pathIndex = []

/-- The length of the way to a place. -/
noncomputable def gap (u : GameUnit F) (dest : Vec3f F) : ℝ :=
  ‖planePoint dest - planePoint u.pos‖

theorem gap_nonneg (u : GameUnit F) (dest : Vec3f F) : 0 ≤ gap u dest := norm_nonneg _

theorem planeDist_gap (u : GameUnit F) (dest : Vec3f F) :
    toReal (planeDist u.pos dest) = gap u dest := planeDist_norm u.pos dest

theorem goes_iff (remaining : F) :
    remaining > lit 0.00001 <-> 1 / 100000 < toReal remaining := by
  have hlit : toReal (lit 0.00001 : F) = 1 / 100000 := by
    rw [Exact.lit_eq]
    norm_num
  rw [← hlit]
  exact Exact.lt_iff _ _

theorem reached_iff (u : GameUnit F) (dest : Vec3f F) (remaining : F) :
    (planeDist u.pos dest ≤ remaining ∨ planeDist u.pos dest < lit 0.0001) <->
      gap u dest ≤ toReal remaining ∨ gap u dest < 1 / 10000 := by
  have hlit : toReal (lit 0.0001 : F) = 1 / 10000 := by
    rw [Exact.lit_eq]
    norm_num
  rw [Exact.le_iff, Exact.lt_iff, planeDist_gap, hlit]

theorem spent_eq (u : GameUnit F) (dest : Vec3f F) (remaining : F) :
    toReal (remaining -
      (if planeDist u.pos dest > lit 0 then planeDist u.pos dest else lit 0)) =
      toReal remaining - gap u dest := by
  rw [Exact.sub_eq]
  congr 1
  split
  · exact planeDist_gap u dest
  · rename_i hzero
    change ¬ lit 0 < planeDist u.pos dest at hzero
    rw [Exact.not_lt_iff, planeDist_gap, Exact.zero_eq] at hzero
    rw [Exact.zero_eq]
    exact le_antisymm (gap_nonneg u dest) hzero

namespace Travels

variable {u u' : GameUnit F} {dest : Vec3f F} {points : List (Vec3f F)} {step way : ℝ}
  {passed : Nat}

/-- The step is used up. -/
theorem rests (hstep : step ≤ 1 / 100000) (htarget : u.hasTarget = true)
    (hpoints : points ≠ []) : Travels u u points step 0 0 where
  walked := Walked.stays _ _
  least := (min_le_right _ _).trans (by linarith)
  most := le_max_left _ _
  still := fun _ => rfl
  goesOn := fun _ => ⟨List.length_pos_iff.mpr hpoints, rfl, rfl, rfl⟩
  stops := by
    intro hnone
    rw [htarget] at hnone
    cases hnone

/-- The next point is out of reach. -/
theorem walks {remaining : F} (hstep : 1 / 100000 < toReal remaining)
    (hfar : toReal remaining < gap u dest) (htarget : u.hasTarget = true) :
    Travels u (walkToward u (dest.x - u.pos.x) (dest.z - u.pos.z) (planeDist u.pos dest)
      remaining) (dest :: points) (toReal remaining) (toReal remaining) 0 where
  walked := by
    unfold walkToward
    dsimp only
    rw [planePoint_stride, ← Complex.real_smul, List.map_cons]
    exact Walked.towards _ (by linarith) hfar
  least := (min_le_right _ _).trans (by linarith)
  most := le_max_of_le_right (by linarith)
  still := by
    intro hshort
    linarith
  goesOn := fun _ => ⟨Nat.succ_pos _, rfl, rfl, rfl⟩
  stops := by
    intro hnone
    change u.hasTarget = false at hnone
    rw [htarget] at hnone
    cases hnone

/-- The last point is reached. -/
theorem finishes {path : List (Vec3f F)} {pathIndex : Nat} (hstep : 1 / 100000 < step)
    (hreach : gap u dest ≤ step ∨ gap u dest < 1 / 10000)
    (hdone : path.drop pathIndex = []) :
    Travels u (finishMove u dest path pathIndex) [dest] step (gap u dest) 1 where
  walked := Walked.reaches _ _ _
  least := by
    refine (min_le_left _ _).trans ?_
    simp [pathLength, gap]
  most := by
    refine le_max_of_le_right ?_
    cases hreach with
    | inl hle => linarith
    | inr hclose => linarith
  still := by
    intro hshort
    linarith
  goesOn := fun h => by cases h
  stops := fun _ => ⟨rfl, rfl, hdone⟩

/-- A point is passed, and the rest of the step is spent on the others. -/
theorem passes {v : GameUnit F} (hv : v = { u with pos := dest, pathIndex := u.pathIndex + 1 })
    (hstep : 1 / 100000 < step) (hreach : gap u dest ≤ step ∨ gap u dest < 1 / 10000)
    (h : Travels v u' points (step - gap u dest) way passed) :
    Travels u u' (dest :: points) step (gap u dest + way) (passed + 1) where
  walked := by
    have hwalked := h.walked
    rw [hv] at hwalked
    exact Walked.passes hwalked
  least := by
    have hleast := h.least
    rw [hv] at hleast
    change Min.min (gap u dest + pathLength (planePoint dest) (points.map planePoint)) _ ≤ _
    have hsplit : step - 1 / 100000 = gap u dest + (step - gap u dest - 1 / 100000) := by
      ring
    rw [hsplit, min_add_add_left]
    exact add_le_add (le_refl _) hleast
  most := by
    refine le_max_of_le_right ?_
    have hmost := h.most
    by_cases hspent : step - gap u dest ≤ 1 / 100000
    · rw [h.still hspent]
      cases hreach with
      | inl hle => linarith
      | inr hclose => linarith
    · rw [max_eq_right (by linarith)] at hmost
      linarith
  still := by
    intro hshort
    linarith
  goesOn := by
    intro htarget
    obtain ⟨hpassed, hpath, hindex, hsame⟩ := h.goesOn htarget
    rw [hv] at hpath hindex hsame
    refine ⟨Nat.succ_lt_succ hpassed, hpath, ?_, hsame⟩
    rw [hindex]
    dsimp only
    omega
  stops := by
    intro hnone
    obtain ⟨hpassed, hlast, hdone⟩ := h.stops hnone
    refine ⟨congrArg Nat.succ hpassed, ?_, hdone⟩
    rw [List.getLast?_cons, hlast]
    rfl

end Travels

/-- The loop over the waypoints ahead. -/
theorem followPath_travels (rest : List (Vec3f F)) (waypoint : Vec3f F) (u : GameUnit F)
    (remaining : F) (htarget : u.hasTarget = true) :
    exists way passed, Travels u (followPath (waypoint :: rest) u remaining)
      (waypoint :: rest) (toReal remaining) way passed := by
  induction rest generalizing waypoint u remaining with
  | nil =>
      unfold followPath
      split
      · rename_i hgoes
        rw [goes_iff] at hgoes
        dsimp only
        split
        · rename_i hreach
          exact ⟨_, _, Travels.finishes hgoes ((reached_iff u waypoint remaining).mp hreach)
            rfl⟩
        · rename_i hfar
          have hnot := (reached_iff u waypoint remaining).not.mp hfar
          rw [not_or, not_le] at hnot
          exact ⟨_, _, Travels.walks hgoes hnot.left htarget⟩
      · rename_i hspent
        rw [goes_iff, not_lt] at hspent
        exact ⟨_, _, Travels.rests hspent htarget (List.cons_ne_nil _ _)⟩
  | cons next rest ih =>
      unfold followPath
      split
      · rename_i hgoes
        rw [goes_iff] at hgoes
        dsimp only
        split
        · rename_i hreach
          obtain ⟨way, passed, h⟩ := ih next
            { u with pos := waypoint, pathIndex := u.pathIndex + 1 }
            (remaining -
              (if planeDist u.pos waypoint > lit 0 then planeDist u.pos waypoint else lit 0))
            htarget
          rw [spent_eq] at h
          exact ⟨_, _, Travels.passes rfl hgoes
            ((reached_iff u waypoint remaining).mp hreach) h⟩
        · rename_i hfar
          have hnot := (reached_iff u waypoint remaining).not.mp hfar
          rw [not_or, not_le] at hnot
          exact ⟨_, _, Travels.walks hgoes hnot.left htarget⟩
      · rename_i hspent
        rw [goes_iff, not_lt] at hspent
        exact ⟨_, _, Travels.rests hspent htarget (List.cons_ne_nil _ _)⟩

/-- The loop without waypoints. -/
theorem followPath_straight (u : GameUnit F) (remaining : F) (htarget : u.hasTarget = true)
    (hpath : u.path.drop u.pathIndex = []) :
    exists way passed, Travels u (followPath [] u remaining) [u.target]
      (toReal remaining) way passed := by
  unfold followPath
  split
  · rename_i hgoes
    rw [goes_iff] at hgoes
    dsimp only
    split
    · rename_i hreach
      exact ⟨_, _, Travels.finishes hgoes ((reached_iff u u.target remaining).mp hreach)
        hpath⟩
    · rename_i hfar
      have hnot := (reached_iff u u.target remaining).not.mp hfar
      rw [not_or, not_le] at hnot
      exact ⟨_, _, Travels.walks hgoes hnot.left htarget⟩
  · rename_i hspent
    rw [goes_iff, not_lt] at hspent
    exact ⟨_, _, Travels.rests hspent htarget (List.cons_ne_nil _ _)⟩

/--
For every path that a client can send and every step, the loop of `StepMove` ends, and
the unit travels along the points that are ahead of it.
-/
theorem stepMove_travels (r : DungeonRoom F) (id : Nat) (u : GameUnit F) (dt : F)
    (htarget : u.hasTarget = true) (hspeed : lit 0 ≤ u.speed) (hdt : lit 0 ≤ dt) :
    exists u', r.stepMove id u dt = r.commit id u' ∧
      (forall rounds, u.path.length - u.pathIndex < rounds ->
        moveLoop rounds u (u.speed * dt) = some u') ∧
      exists way passed,
        Travels u u' (wayAhead u) (toReal u.speed * toReal dt) way passed ∧ 0 ≤ way ∧
          way ≤ Min.min (pathLength (planePoint u.pos) ((wayAhead u).map planePoint))
            (toReal u.speed * toReal dt + 1 / 10000) := by
  rw [Exact.nonneg_iff] at hspeed hdt
  have hstep := mul_nonneg hspeed hdt
  refine ⟨followPath (u.path.drop u.pathIndex) u (u.speed * dt), rfl,
    fun rounds hrounds => moveLoop_eq _ hrounds, ?_⟩
  have htravels : exists way passed, Travels u
      (followPath (u.path.drop u.pathIndex) u (u.speed * dt)) (wayAhead u)
      (toReal (u.speed * dt)) way passed := by
    unfold wayAhead
    cases hpath : u.path.drop u.pathIndex with
    | nil =>
        rw [if_pos rfl]
        exact followPath_straight u _ htarget hpath
    | cons waypoint rest =>
        rw [if_neg (List.cons_ne_nil _ _)]
        exact followPath_travels rest waypoint u _ htarget
  obtain ⟨way, passed, h⟩ := htravels
  rw [Exact.mul_eq] at h
  have hmost := h.most
  rw [max_eq_right (by linarith)] at hmost
  exact ⟨way, passed, h, h.walked.nonneg, le_min h.walked.le_length hmost⟩

end Exactly

/-- A villager on its way past one point to another. -/
noncomputable def traveller : GameUnit RealScalar :=
  { villager (lit 6) with hasTarget := true, path := [ahead (lit 0.1), ahead (lit 5)] }

theorem traveller_travels :
    exists u' : GameUnit RealScalar, exists way passed,
      Travels traveller u' [ahead (lit 0.1), ahead (lit 5)]
        (toReal traveller.speed * toReal (lit 0.05 : RealScalar)) way passed := by
  have hspeed : (lit 0 : RealScalar) ≤ traveller.speed := by
    rw [Exact.nonneg_iff]
    simp [traveller, villager, newUnit]
  have hdt : (lit 0 : RealScalar) ≤ lit 0.05 := by
    rw [Exact.nonneg_iff, Exact.lit_eq]
    norm_num
  obtain ⟨u', _, _, way, passed, h, _⟩ :=
    stepMove_travels (create 1 "path" 2) 1 traveller (lit 0.05) rfl hspeed hdt
  exact ⟨u', way, passed, h⟩

end DungeonRoom

end RtsGame
