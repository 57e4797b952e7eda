import RtsGame.Library.Grid
import RtsGame.Room.Walking

/-!
# The formation of a group

A Move command gives every unit of a group a slot of a formation that heads for the
target.  In exact arithmetic the slots are apart, however large the group is and whatever
the heading, and a unit that is named more than once takes the last one of its slots.
-/

namespace RtsGame

open Scalar
open Exact (toReal)

namespace DungeonRoom

variable {F : Type} [Scalar F]

/-!
## The slot of each unit
-/

section Loop

variable {order : Nat -> GameUnit F -> GameUnit F} {s : DungeonRoom F} {id : Nat}

omit [Scalar F] in
theorem orderSelected_other {ids : List Nat} (index : Nat) (hid : id ∉ ids) :
    (orderSelected order index ids s).units.lookup id = s.units.lookup id := by
  induction ids generalizing index s with
  | nil => rfl
  | cons x rest ih =>
      rw [List.mem_cons, not_or] at hid
      unfold orderSelected
      split
      · exact ih _ hid.right
      · rw [ih _ hid.right]
        exact AList.lookup_insert_ne hid.left

omit [Scalar F] in
/-- The loop leaves a selected unit with the order for its last place in the list. -/
theorem orderSelected_place {ids : List Nat} (index : Nat) {u : GameUnit F}
    (hu : s.units.lookup id = some u) (hid : id ∈ ids) :
    exists k w, ids[k]? = some id ∧ id ∉ ids.drop (k + 1) ∧
      (orderSelected order index ids s).units.lookup id = some (order (index + k) w) := by
  induction ids generalizing index s u with
  | nil => cases hid
  | cons x rest ih =>
      unfold orderSelected
      by_cases hlater : id ∈ rest
      · have hstill : forall v : GameUnit F, exists w,
            ((s.putUnit x v).markDirty v.id).units.lookup id = some w := by
          intro v
          change exists w, (s.units.insert x v).lookup id = some w
          rw [Table.lookup_insert_ite]
          split
          · exact ⟨v, rfl⟩
          · exact ⟨u, hu⟩
        have hshift : forall k, index + 1 + k = index + (k + 1) := by
          intro k
          lia
        split
        · rcases ih (index + 1) hu hlater with ⟨k, w, hk, hlast, hw⟩
          rw [hshift] at hw
          exact ⟨k + 1, w, hk, hlast, hw⟩
        · rename_i v _
          rcases hstill (order index v) with ⟨w', hw'⟩
          rcases ih (index + 1) hw' hlater with ⟨k, w, hk, hlast, hw⟩
          rw [hshift] at hw
          exact ⟨k + 1, w, hk, hlast, hw⟩
      · have hx : id = x := (List.mem_cons.mp hid).resolve_right hlater
        subst hx
        refine ⟨0, u, rfl, hlater, ?_⟩
        rw [hu]
        dsimp only
        rw [orderSelected_other _ hlater]
        exact AList.lookup_insert _

end Loop

omit [Scalar F] in
theorem mem_collectOwnedUnits_iff {r : DungeonRoom F} {ownerUid id : Nat}
    {unitIds : List Nat} :
    id ∈ r.collectOwnedUnits ownerUid unitIds <->
      id ∈ unitIds ∧ r.ownsUnit ownerUid id = true := by
  unfold collectOwnedUnits
  rw [List.mem_insertionSort, List.mem_filter]

/-!
## The arithmetic of the slots
-/

/-- The number of columns of a formation. -/
def formationColumns (F : Type) [Scalar F] (count : Nat) : Nat :=
  ceil (sqrt (ofNat count : F))

/--
The unsigned arithmetic of a slot: there are columns to divide by, and neither
difference goes below zero.
-/
structure SlotArithmetic (F : Type) [Scalar F] (index count : Nat) : Prop where
  columns : 0 < formationColumns F count
  rows : 1 ≤ count + formationColumns F count
  row : index / formationColumns F count * formationColumns F count ≤ count

theorem slotArithmetic [ExactMath F] {index count : Nat} (h : index < count) :
    SlotArithmetic F index count := by
  have hcount : 0 < count := Nat.zero_lt_of_lt h
  refine ⟨?_, Nat.le_add_right_of_le hcount, ?_⟩
  · unfold formationColumns
    rw [ExactMath.ceil_eq, Nat.ceil_pos, ExactRoot.sqrt_eq, Real.sqrt_pos]
    unfold ofNat
    rw [Exact.lit_eq]
    exact_mod_cast hcount
  · exact (Nat.div_mul_le_self index _).trans h.le

section Slots

variable [ExactRoot F]

/-- The places of a formation whose rows are centred, the last one by itself. -/
noncomputable def formationPlace (F : Type) [Scalar F] (count index : Nat) : ℂ :=
  Grid.place (formationColumns F count)
    (fun row => ((min (formationColumns F count)
      (count - row * formationColumns F count) : ℕ) - 1) * 0.5)
    ((((count + formationColumns F count - 1) / formationColumns F count : ℕ) - 1) * 0.5)
    2.8 3 index

/-- A slot is such a place, turned towards the target. -/
theorem planePoint_formationSlot {index count : Nat} (hcount : 1 < count)
    (forward : F × F) :
    planePoint (formationSlot index count forward.1 forward.2) =
      ⟨toReal forward.1, toReal forward.2⟩ * formationPlace F count index := by
  unfold formationSlot
  rw [if_neg (Nat.not_le.mpr hcount)]
  apply Complex.ext
  · simp only [planePoint, Grid.place, formationPlace, formationColumns, Complex.mul_re, ofNat,
      Exact.add_eq, Exact.mul_eq, Exact.sub_eq, Exact.lit_eq]
    push_cast
    ring
  · simp only [planePoint, Grid.place, formationPlace, formationColumns, Complex.mul_im, ofNat,
      Exact.add_eq, Exact.mul_eq, Exact.sub_eq, Exact.neg_eq, Exact.lit_eq]
    push_cast
    ring

/-- The heading of a group is a unit vector. -/
theorem moveDirection_unit (r : DungeonRoom F) (selected : List Nat) (target : Vec3f F) :
    ‖(⟨toReal (r.moveDirection selected target).1,
      toReal (r.moveDirection selected target).2⟩ : ℂ)‖ = 1 := by
  unfold moveDirection
  dsimp only
  generalize target.x - (r.centerSum selected).x * (lit 1 / ofNat selected.length) = x
  generalize target.z - (r.centerSum selected).z * (lit 1 / ofNat selected.length) = z
  split
  · rename_i hlong
    change lit 0.0001 < sqrt (x * x + z * z) at hlong
    have hlength : toReal (sqrt (x * x + z * z)) = ‖(⟨toReal x, toReal z⟩ : ℂ)‖ := by
      rw [ExactRoot.sqrt_eq, Exact.add_eq, Exact.mul_eq, Exact.mul_eq,
        Complex.norm_eq_sqrt_sq_add_sq, pow_two, pow_two]
    have hpos : 0 < ‖(⟨toReal x, toReal z⟩ : ℂ)‖ := by
      rw [← hlength]
      rw [Exact.lt_iff, Exact.lit_eq] at hlong
      refine lt_trans ?_ hlong
      norm_num
    have hscaled : (⟨toReal (x / sqrt (x * x + z * z)), toReal (z / sqrt (x * x + z * z))⟩ : ℂ) =
        ⟨toReal x, toReal z⟩ / (‖(⟨toReal x, toReal z⟩ : ℂ)‖ : ℝ) := by
      rw [Exact.div_eq, Exact.div_eq, hlength]
      apply Complex.ext
      · rw [Complex.div_ofReal_re]
      · rw [Complex.div_ofReal_im]
    rw [hscaled, norm_div, Complex.norm_real, norm_norm, div_self hpos.ne']
  · have hnorth : (⟨toReal (lit 0 : F), toReal (lit 1 : F)⟩ : ℂ) = Complex.I := by
      apply Complex.ext
      · simp
      · simp
    rw [hnorth, Complex.norm_I]

/-- Different slots of one formation are apart. -/
theorem formationSlot_apart {i j count : Nat} {forward : F × F}
    (hforward : ‖(⟨toReal forward.1, toReal forward.2⟩ : ℂ)‖ = 1) (hi : i < count)
    (hj : j < count) (hne : i ≠ j) :
    2.8 ≤ ‖planePoint (formationSlot i count forward.1 forward.2) -
      planePoint (formationSlot j count forward.1 forward.2)‖ := by
  have hcount : 1 < count := by lia
  rw [planePoint_formationSlot hcount, planePoint_formationSlot hcount,
    Grid.turned_apart hforward]
  exact Grid.place_apart (by norm_num) (by norm_num) hne

end Slots

/-!
## Groups
-/

/-- The unit is named, and belongs to the owner who names it. -/
def Commanded (r : DungeonRoom F) (ownerUid : Nat) (unitIds : List Nat) (id : Nat) : Prop :=
  id ∈ unitIds ∧ r.ownsUnit ownerUid id = true

omit [Scalar F] in
/-- A commanded unit gets the order for its last place in the group. -/
theorem collected_place (order : Nat -> GameUnit F -> GameUnit F) {r : DungeonRoom F}
    {ownerUid id : Nat} {unitIds : List Nat} (h : Commanded r ownerUid unitIds id) :
    exists k w, (r.collectOwnedUnits ownerUid unitIds)[k]? = some id ∧
      id ∉ (r.collectOwnedUnits ownerUid unitIds).drop (k + 1) ∧
      (orderSelected order 0 (r.collectOwnedUnits ownerUid unitIds) r).units.lookup id =
        some (order k w) := by
  have hid := mem_collectOwnedUnits_iff.mpr h
  rcases mem_collectOwnedUnits hid with ⟨_, u, hu, _⟩
  rcases orderSelected_place 0 hu hid with ⟨k, w, hk, hlast, hw⟩
  rw [Nat.zero_add] at hw
  exact ⟨k, w, hk, hlast, hw⟩

theorem moveOrder_target [ExactRoot F] (count : Nat) (forward : F × F) (target : Vec3f F)
    (path : List (Vec3f F)) (index : Nat) (w : GameUnit F) :
    planePoint (moveOrder count forward target path index w).target =
      planePoint target + planePoint (formationSlot index count forward.1 forward.2) :=
  Complex.ext (Exact.add_eq _ _) (Exact.add_eq _ _)

/--
In exact arithmetic different units of a group are sent to places that are at least 2.8
apart, and the arithmetic of the slots does not leave the unsigned numbers.
-/
theorem formation_apart [ExactMath F] (r : DungeonRoom F) (ownerUid : Nat)
    (unitIds : List Nat) (target : Vec3f F) (path : List (Vec3f F)) :
    (forall i j u v, i ≠ j -> Commanded r ownerUid unitIds i ->
      Commanded r ownerUid unitIds j ->
      (r.applyMove ownerUid unitIds target path).units.lookup i = some u ->
      (r.applyMove ownerUid unitIds target path).units.lookup j = some v ->
        lit 2.8 ≤ planeDist u.target v.target) ∧
      forall index count, index < count -> SlotArithmetic F index count := by
  refine ⟨?_, fun index count hindex => slotArithmetic hindex⟩
  intro i j u v hne hi hj hu hv
  unfold applyMove at hu hv
  rcases collected_place (moveOrder _ _ target path) hi with ⟨k, w, hk, _, hw⟩
  rcases collected_place (moveOrder _ _ target path) hj with ⟨l, x, hl, _, hx⟩
  injection hw.symm.trans hu with hu
  injection hx.symm.trans hv with hv
  have hslots : l ≠ k := by
    rintro rfl
    injection hk.symm.trans hl with hsame
    exact hne hsame
  have hapart := formationSlot_apart
    (moveDirection_unit r (r.collectOwnedUnits ownerUid unitIds) target)
    (List.getElem?_eq_some_iff.mp hl).1 (List.getElem?_eq_some_iff.mp hk).1 hslots
  rw [← hu, ← hv, Exact.le_iff, planeDist_norm, moveOrder_target, moveOrder_target,
    add_sub_add_left_eq_sub, Exact.lit_eq]
  norm_num at hapart ⊢
  exact hapart

/-- Two villagers of one player stand in the same place, and one of another player. -/
def crowd : DungeonRoom F :=
  [RoomCall.spawnUnit 1 0 kUnitVillager ⟨lit 0, lit 0, lit 0⟩ (lit 100) (lit 6) (lit 0),
    RoomCall.spawnUnit 1 0 kUnitVillager ⟨lit 0, lit 0, lit 0⟩ (lit 100) (lit 6) (lit 0),
    RoomCall.spawnUnit 2 1 kUnitVillager ⟨lit 0, lit 0, lit 0⟩ (lit 100) (lit 6)
      (lit 0)].foldl call (create 1 "crowd" 2)

/-- The first two leave for different places, although the second is named twice. -/
theorem twoOfGroup_apart :
    exists u v : GameUnit RealScalar,
      (crowd.applyMove 1 [2, 1, 3, 2] ⟨lit 9, lit 0, lit 4⟩ []).units.lookup 1 = some u ∧
      (crowd.applyMove 1 [2, 1, 3, 2] ⟨lit 9, lit 0, lit 4⟩ []).units.lookup 2 = some v ∧
      lit 2.8 ≤ planeDist u.target v.target ∧ SlotArithmetic RealScalar 2 3 := by
  have hu : exists u : GameUnit RealScalar,
      (crowd.applyMove 1 [2, 1, 3, 2] ⟨lit 9, lit 0, lit 4⟩ []).units.lookup 1 = some u :=
    ⟨_, rfl⟩
  have hv : exists v : GameUnit RealScalar,
      (crowd.applyMove 1 [2, 1, 3, 2] ⟨lit 9, lit 0, lit 4⟩ []).units.lookup 2 = some v :=
    ⟨_, rfl⟩
  rcases hu with ⟨u, hu⟩
  rcases hv with ⟨v, hv⟩
  rcases formation_apart (crowd : DungeonRoom RealScalar) 1 [2, 1, 3, 2]
    ⟨lit 9, lit 0, lit 4⟩ [] with ⟨hapart, harithmetic⟩
  exact ⟨u, v, hu, hv,
    hapart 1 2 u v (by decide) ⟨by decide, rfl⟩ ⟨by decide, rfl⟩ hu hv,
    harithmetic 2 3 (by decide)⟩

end DungeonRoom

end RtsGame
