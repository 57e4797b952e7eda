import RtsGame.Library.Tally
import RtsGame.Room.Combat
import RtsGame.Room.Deeds
import RtsGame.Room.Paths

/-!
# How far units get

A unit moves in its own turns only, and in each of them hardly farther than its speed
allows: at the end of a leg it may be set on a point that is less than a ten-thousandth
away.  Commands never move a unit, so that the way it has walked is bounded by the number
of steps.
-/

namespace RtsGame

open Scalar
open Exact (toReal)

namespace DungeonRoom

variable {F : Type} [Scalar F] [ExactRoot F]

/-- The longest way in one step. -/
noncomputable def strideLimit (speed dt : F) : ℝ :=
  Max.max 0 (toReal speed * toReal dt) + 1 / 10000

/-- How far a turn moves a unit that stays in the room. -/
noncomputable def moved (i : Nat) (q : DungeonRoom F) (t : Turn F) : ℝ :=
  match q.units.lookup i, (q.turn t).units.lookup i with
  | some u, some v => ‖planePoint v.pos - planePoint u.pos‖
  | _, _ => 0

/-- How far the unit has walked in all turns. -/
noncomputable def odometer (i : Nat) (q : DungeonRoom F) (ts : List (Turn F)) : ℝ :=
  tally turn (moved i) q ts

/-!
## Strides
-/

theorem strideLimit_nonneg (speed dt : F) : 0 ≤ strideLimit speed dt :=
  add_nonneg (le_max_left _ _) (by norm_num)

theorem strideFrom_norm (pos : Vec3f F) (dx dz : F) {stride : F} (h : 0 ≤ toReal stride) :
    ‖planePoint (strideFrom pos dx dz stride) - planePoint pos‖ ≤ toReal stride := by
  let d : ℂ := ⟨toReal dx, toReal dz⟩
  have hnorm : toReal (sqrt (dx * dx + dz * dz)) = ‖d‖ := by
    rw [ExactRoot.sqrt_eq, Exact.add_eq, Exact.mul_eq, Exact.mul_eq,
      Complex.norm_eq_sqrt_sq_add_sq, sq, sq]
  have hstride : planePoint (strideFrom pos dx dz stride) - planePoint pos =
      ((toReal stride / ‖d‖ : ℝ) : ℂ) * d := by
    rw [← hnorm]
    apply Complex.ext
    · simp [planePoint, strideFrom, d]
      ring
    · simp [planePoint, strideFrom, d]
      ring
  rw [hstride, norm_mul, Complex.norm_real, Real.norm_of_nonneg (div_nonneg h (norm_nonneg d))]
  rw [div_mul_eq_mul_div, mul_div_assoc]
  exact mul_le_of_le_one_right h (div_self_le_one _)

theorem Strides.norm_le {dt : F} {w v : GameUnit F} (h : Strides dt w v) :
    ‖planePoint v.pos - planePoint w.pos‖ ≤ strideLimit w.speed dt := by
  rcases h with hsame | ⟨hgoes, dx, dz, heq⟩
  · rw [hsame, sub_self, norm_zero]
    exact strideLimit_nonneg _ _
  · change lit 0 < w.speed * dt at hgoes
    rw [Exact.pos_iff] at hgoes
    rw [heq]
    refine (strideFrom_norm w.pos dx dz hgoes.le).trans ?_
    rw [Exact.mul_eq]
    exact (le_max_right 0 _).trans (le_add_of_nonneg_right (by norm_num))

theorem Travels.norm_le {w v : GameUnit F} {points : List (Vec3f F)} {way : ℝ}
    {passed : Nat} {speed dt : F}
    (h : Travels w v points (toReal (speed * dt)) way passed) :
    ‖planePoint v.pos - planePoint w.pos‖ ≤ strideLimit speed dt := by
  refine (h.walked.dist_le.trans h.most).trans ?_
  rw [Exact.mul_eq]
  refine max_le (strideLimit_nonneg speed dt) ?_
  exact add_le_add_left (le_max_right 0 _) _

theorem Doing.norm_le {dt : F} {q q' : DungeonRoom F} {w v : GameUnit F}
    (h : Doing dt q w v q') :
    ‖planePoint v.pos - planePoint w.pos‖ ≤ strideLimit w.speed dt := by
  have hstays : v.pos = w.pos ->
      ‖planePoint v.pos - planePoint w.pos‖ ≤ strideLimit w.speed dt := by
    intro hsame
    rw [hsame, sub_self, norm_zero]
    exact strideLimit_nonneg _ _
  cases h with
  | goes hstrides _ _ _ => exact hstrides.norm_le
  | travels _ htarget heq _ =>
      rw [heq]
      cases hpath : w.path.drop w.pathIndex with
      | nil =>
          rcases followPath_straight w (w.speed * dt) htarget hpath with ⟨_, _, htravels⟩
          exact htravels.norm_le
      | cons waypoint rest =>
          rcases followPath_travels rest waypoint w (w.speed * dt) htarget with
            ⟨_, _, htravels⟩
          exact htravels.norm_le
  | harvests _ _ _ _ _ _ hpos _ => exact hstays hpos
  | leaves hpos _ _ _ => exact hstays hpos
  | resumes _ hpos _ _ _ => exact hstays hpos

/-!
## Turns
-/

/-- A unit that has been put into the room with this speed, and may be gone. -/
structure Runner (i : Nat) (speed : F) (q : DungeonRoom F) : Prop where
  keyed : Keyed q
  known : i < q.nextEntityId
  speed : forall u, q.units.lookup i = some u -> u.speed = speed

section Turns

variable {dt speed : F} {i : Nat} {q : DungeonRoom F} {t : Turn F}

omit [ExactRoot F] in
/-- Nothing but its own turn moves a unit, and nothing changes its speed. -/
theorem Runner.fate (h : Runner i speed q) {v : GameUnit F}
    (hv : (q.turn t).units.lookup i = some v) :
    exists u, q.units.lookup i = some u ∧ v.speed = u.speed ∧
      (Turn.isUnit i t = false -> v.pos = u.pos) := by
  cases unit_fate h.keyed hv with
  | kept hu => exact ⟨v, hu, rfl, fun _ => rfl⟩
  | spawned _ _ hnew _ => exact absurd hnew (Nat.ne_of_lt h.known)
  | trained _ _ hnew _ => exact absurd hnew (Nat.ne_of_lt h.known)
  | ordered _ hu hordered => exact ⟨_, hu, hordered.speed, fun _ => hordered.pos⟩
  | acted hturn hout hconduct _ =>
      refine ⟨_, hout.found, hconduct.speed.trans hout.stance.speed, ?_⟩
      intro hother
      rw [hturn] at hother
      exact absurd rfl (of_decide_eq_false hother)
  | struck _ _ hu _ _ heq =>
      rw [heq]
      exact ⟨_, hu, rfl, fun _ => rfl⟩

omit [ExactRoot F] in
theorem Runner.turn (h : Runner i speed q) (t : Turn F) : Runner i speed (q.turn t) := by
  rcases turn_keyed h.keyed t with ⟨hkeyed, hnext⟩
  refine ⟨hkeyed, Nat.lt_of_lt_of_le h.known hnext, ?_⟩
  intro v hv
  rcases h.fate hv with ⟨u, hu, hspeed, _⟩
  exact hspeed.trans (h.speed u hu)

theorem moved_eq {u v : GameUnit F} (hu : q.units.lookup i = some u)
    (hv : (q.turn t).units.lookup i = some v) :
    moved i q t = ‖planePoint v.pos - planePoint u.pos‖ := by
  unfold moved
  rw [hu, hv]

theorem moved_gone (hv : (q.turn t).units.lookup i = none) : moved i q t = 0 := by
  unfold moved
  rw [hv]
  cases q.units.lookup i with
  | none => rfl
  | some u => rfl

/-- In its own turn a unit takes one step at most. -/
theorem stepUnit_norm_le (ω : IterOrder) (doAggro : Bool) {u v : GameUnit F}
    (hu : q.units.lookup i = some u)
    (hv : (stepUnit ω dt doAggro q i).units.lookup i = some v) :
    ‖planePoint v.pos - planePoint u.pos‖ ≤ strideLimit u.speed dt := by
  rcases stepUnit_cases ω dt doAggro q i with ⟨heq, _⟩ | ⟨x, p, w, hout, hact, _⟩
  · rw [heq] at hv
    injection hu.symm.trans hv with hsame
    rw [hsame, sub_self, norm_zero]
    exact strideLimit_nonneg _ _
  · injection hu.symm.trans hout.found with hsame
    subst hsame
    rcases act_did ω dt hout.solo.own with ⟨y, hy, hdeed⟩
    rw [← hact] at hy
    injection hv.symm.trans hy with hsame
    subst hsame
    rw [← hout.stance.pos, ← hout.stance.speed]
    exact hdeed.norm_le

theorem Runner.moved_le (h : Runner i speed q) (ht : Timed dt t) :
    moved i q t ≤ if Turn.isUnit i t then strideLimit speed dt else 0 := by
  have hallowed : 0 ≤ if Turn.isUnit i t = true then strideLimit speed dt else 0 := by
    split
    · exact strideLimit_nonneg speed dt
    · exact le_refl 0
  cases hv : (q.turn t).units.lookup i with
  | none =>
      rw [moved_gone hv]
      exact hallowed
  | some v =>
      rcases h.fate hv with ⟨u, hu, _, hother⟩
      rw [moved_eq hu hv]
      cases hown : Turn.isUnit i t with
      | false =>
          rw [hother hown, sub_self, norm_zero]
          exact le_refl 0
      | true =>
          rw [if_pos rfl, ← h.speed u hu]
          cases t with
          | unit ω dt' doAggro id =>
              have hid : id = i := of_decide_eq_true hown
              subst hid
              change (stepUnit ω dt' doAggro q id).units.lookup id = some v at hv
              rw [ht ω dt' doAggro id rfl] at hv
              exact stepUnit_norm_le ω doAggro hu hv
          | _ => cases hown

/-- A unit is no farther from where it was than it has walked. -/
theorem Runner.walked (h : Runner i speed q) (ts : List (Turn F)) {v : GameUnit F}
    (hv : (ts.foldl DungeonRoom.turn q).units.lookup i = some v) :
    exists u, q.units.lookup i = some u ∧
      ‖planePoint v.pos - planePoint u.pos‖ ≤ odometer i q ts := by
  induction ts generalizing q with
  | nil =>
      refine ⟨v, hv, ?_⟩
      rw [sub_self, norm_zero]
      exact le_refl 0
  | cons t rest ih =>
      rcases ih (h.turn t) hv with ⟨w, hw, hrest⟩
      rcases h.fate hw with ⟨u, hu, _, _⟩
      refine ⟨u, hu, ?_⟩
      have hsplit : planePoint v.pos - planePoint u.pos =
          (planePoint w.pos - planePoint u.pos) + (planePoint v.pos - planePoint w.pos) := by
        ring
      rw [hsplit, odometer, tally, moved_eq hu hw]
      exact (norm_add_le _ _).trans (add_le_add (le_refl _) hrest)

end Turns

/-!
## Runs
-/

theorem Runner.odometer_le {dt speed : F} {i : Nat} {q : DungeonRoom F}
    (h : Runner i speed q) {calls : List (RoomCall F)}
    (hsteps : forall ω dt', RoomCall.step ω dt' ∈ calls -> dt' = dt) :
    odometer i q (q.scriptOf calls) ≤
      stepsBegun (q.scriptOf calls) * strideLimit speed dt := by
  have hpaid : tally DungeonRoom.turn (moved i) q (q.scriptOf calls) + 0 ≤
      0 + (q.scriptOf calls).countP (Turn.isUnit i) • strideLimit speed dt := by
    refine tally_add_potential_le (Runner i speed) (fun _ => 0) (Turn.isUnit i)
      (strideLimit speed dt) ?_ h fun t ht => timed_scriptOf hsteps ht
    intro p t hp ht
    rw [add_zero, zero_add]
    exact ⟨hp.turn t, hp.moved_le ht⟩
  have hbeats := (scriptOf_paced q calls i false).beats_le
  have hcount : ((q.scriptOf calls).countP (Turn.isUnit i) : ℝ) ≤
      stepsBegun (q.scriptOf calls) := Nat.cast_le.mpr hbeats
  rw [add_zero, zero_add, nsmul_eq_mul] at hpaid
  exact hpaid.trans (mul_le_mul_of_nonneg_right hcount (strideLimit_nonneg speed dt))

/--
Whatever has happened and whatever is commanded, over any window of a run a unit walks
at most its speed times the length of every step, and a little for every step; and it is
no farther from where it was than it has walked.
-/
theorem speed_limit (roomId : Nat) (roomName : String) (maxPlayers : Nat)
    (before window : List (RoomCall F)) (dt : F)
    (hsteps : forall ω dt', RoomCall.step ω dt' ∈ window -> dt' = dt) (i : Nat)
    (u : GameUnit F)
    (hu : (before.foldl call (create roomId roomName maxPlayers)).units.lookup i = some u) :
    odometer i (before.foldl call (create roomId roomName maxPlayers))
        (scriptOf (before.foldl call (create roomId roomName maxPlayers)) window) ≤
      stepsBegun (scriptOf (before.foldl call (create roomId roomName maxPlayers)) window) *
        strideLimit u.speed dt ∧
    forall v, (window.foldl call
        (before.foldl call (create roomId roomName maxPlayers))).units.lookup i = some v ->
      v.speed = u.speed ∧ ‖planePoint v.pos - planePoint u.pos‖ ≤
        odometer i (before.foldl call (create roomId roomName maxPlayers))
          (scriptOf (before.foldl call (create roomId roomName maxPlayers)) window) := by
  have hkeyed : Keyed (before.foldl call (create roomId roomName maxPlayers : DungeonRoom F)) := by
    rw [← scriptOf_foldl]
    exact ((create_upright roomId roomName maxPlayers).keyed.turns _).left
  have hrunner : Runner i u.speed
      (before.foldl call (create roomId roomName maxPlayers : DungeonRoom F)) := by
    refine ⟨hkeyed, hkeyed.unit_lt hu, ?_⟩
    intro w hw
    injection hu.symm.trans hw with hsame
    rw [hsame]
  refine ⟨hrunner.odometer_le hsteps, ?_⟩
  intro v hv
  rw [← scriptOf_foldl] at hv
  rcases hrunner.walked _ hv with ⟨w, hw, hway⟩
  injection hu.symm.trans hw with hsame
  subst hsame
  refine ⟨?_, hway⟩
  have hend : Runner i u.speed ((scriptOf (before.foldl call
      (create roomId roomName maxPlayers : DungeonRoom F)) window).foldl turn
        (before.foldl call (create roomId roomName maxPlayers))) :=
    List.foldlRecOn _ _ hrunner fun p hp t _ => hp.turn t
  exact hend.speed v hv

/-- A villager is put into the room, -/
noncomputable def strollStart : List (RoomCall RealScalar) :=
  [RoomCall.spawnUnit 1 0 kUnitVillager (ahead (lit 0)) (lit 100) (lit 6) (lit 0)]

/-- and sent away for two steps. -/
noncomputable def stroll : List (RoomCall RealScalar) :=
  [RoomCall.enqueueCommand ⟨CommandType.move, 1, 0, [1], ahead (lit 9), [], 0, 0, lit 0⟩,
    RoomCall.applyPending,
    RoomCall.step IterOrder.stored (lit 0.05),
    RoomCall.step IterOrder.stored (lit 0.05)]

theorem walk_speed_limited :
    odometer 1 (strollStart.foldl call (create 1 "stroll" 2))
        (scriptOf (strollStart.foldl call (create 1 "stroll" 2)) stroll) ≤
      stepsBegun (scriptOf (strollStart.foldl call (create 1 "stroll" 2)) stroll) *
        strideLimit (lit 6 : RealScalar) (lit 0.05) := by
  have hsteps : forall ω dt', RoomCall.step ω dt' ∈ stroll -> dt' = lit 0.05 := by
    intro ω dt' h
    simp only [stroll, List.mem_cons, List.not_mem_nil, reduceCtorEq, false_or, or_false,
      RoomCall.step.injEq] at h
    rcases h with h | h
    · exact h.right
    · exact h.right
  exact (speed_limit 1 "stroll" 2 strollStart stroll (lit 0.05) hsteps 1
    (newUnit 1 1 0 kUnitVillager (ahead (lit 0)) (lit 100) (lit 6) (lit 0)) rfl).left

end DungeonRoom

end RtsGame
