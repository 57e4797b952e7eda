import Mathlib.Analysis.Real.Pi.Bounds
import Mathlib.Analysis.SpecialFunctions.Trigonometric.Angle
import RtsGame.Library.Ranks
import RtsGame.Room.Formation

/-!
# What a group is

The group commands sort the units that they are given by id, so that the order in which
a client lists them does not matter.  They do not remove repetitions: a unit that is named
twice counts twice, and takes a slot that a set of units would not have.
-/

namespace RtsGame

open Scalar
open Exact (toReal)

namespace DungeonRoom

variable {F : Type} [Scalar F]

/-!
## The collected units
-/

section Collected

variable {r : DungeonRoom F} {ownerUid : Nat}

omit [Scalar F] in
theorem unitIdAt_of_owns (hr : Keyed r) {id : Nat} (h : r.ownsUnit ownerUid id = true) :
    r.unitIdAt id = id := by
  unfold ownsUnit at h
  unfold unitIdAt
  split at h
  · cases h
  · rename_i u hu
    exact hr.unit_id hu

omit [Scalar F] in
theorem collectOwnedUnits_sorted (hr : Keyed r) (unitIds : List Nat) :
    (r.collectOwnedUnits ownerUid unitIds).Pairwise fun a b => a ≤ b := by
  have htotal : Std.Total fun a b => r.unitIdAt a ≤ r.unitIdAt b :=
    ⟨fun a b => Nat.le_total (r.unitIdAt a) (r.unitIdAt b)⟩
  have htrans : IsTrans Nat fun a b => r.unitIdAt a ≤ r.unitIdAt b :=
    ⟨fun a b c => Nat.le_trans⟩
  have hsorted := List.pairwise_insertionSort (fun a b => r.unitIdAt a ≤ r.unitIdAt b)
    (unitIds.filter fun id => r.ownsUnit ownerUid id)
  refine List.Pairwise.imp_of_mem ?_ hsorted
  intro a b ha hb hle
  rw [unitIdAt_of_owns hr (mem_collectOwnedUnits_iff.mp ha).right,
    unitIdAt_of_owns hr (mem_collectOwnedUnits_iff.mp hb).right] at hle
  exact hle

omit [Scalar F] in
/-- An owned unit is collected as often as it is named, and no other unit is collected. -/
theorem count_collectOwnedUnits (unitIds : List Nat) (id : Nat) :
    (r.collectOwnedUnits ownerUid unitIds).count id =
      if r.ownsUnit ownerUid id = true then unitIds.count id else 0 := by
  unfold collectOwnedUnits
  rw [(List.perm_insertionSort _ _).count_eq]
  split
  · rename_i howns
    rw [List.count_filter howns]
  · rename_i hforeign
    rw [List.count_eq_zero, List.mem_filter]
    exact fun hmem => hforeign hmem.right

omit [Scalar F] in
/-- The group is the same for lists that name the owned units equally often. -/
theorem collectOwnedUnits_eq_iff (hr : Keyed r) (unitIds unitIds' : List Nat) :
    r.collectOwnedUnits ownerUid unitIds = r.collectOwnedUnits ownerUid unitIds' <->
      forall id, r.ownsUnit ownerUid id = true -> unitIds.count id = unitIds'.count id := by
  constructor
  · intro h id howns
    have hcount := congrArg (List.count id) h
    rw [count_collectOwnedUnits, count_collectOwnedUnits, if_pos howns, if_pos howns] at hcount
    exact hcount
  · intro h
    have hperm : (r.collectOwnedUnits ownerUid unitIds).Perm
        (r.collectOwnedUnits ownerUid unitIds') := by
      rw [List.perm_iff_count]
      intro id
      rw [count_collectOwnedUnits, count_collectOwnedUnits]
      split
      · rename_i howns
        exact h id howns
      · rfl
    exact List.Perm.eq_of_pairwise (fun _ _ _ _ => Nat.le_antisymm)
      (collectOwnedUnits_sorted hr unitIds) (collectOwnedUnits_sorted hr unitIds') hperm

end Collected

/-!
## Interaction slots
-/

section Slots

/-- Within one turn an angle is determined by its cosine and its sine. -/
theorem angle_injective {x y : ℝ} (hx : 0 ≤ x) (hx' : x < 2 * Real.pi) (hy : 0 ≤ y)
    (hy' : y < 2 * Real.pi) (hcos : Real.cos x = Real.cos y)
    (hsin : Real.sin x = Real.sin y) : x = y := by
  rcases Real.Angle.angle_eq_iff_two_pi_dvd_sub.mp (Real.Angle.cos_sin_inj hcos hsin) with
    ⟨k, hk⟩
  have hpi := Real.two_pi_pos
  have hlow : (-1 : ℝ) < k := by
    by_contra hle
    rw [not_lt] at hle
    have hmul := mul_le_mul_of_nonneg_left hle hpi.le
    linarith
  have hhigh : (k : ℝ) < 1 := by
    by_contra hle
    rw [not_lt] at hle
    have hmul := mul_le_mul_of_nonneg_left hle hpi.le
    linarith
  have hzero : k = 0 := by
    have hlow' : -1 < k := by exact_mod_cast hlow
    have hhigh' : k < 1 := by exact_mod_cast hhigh
    lia
  rw [hzero, Int.cast_zero, mul_zero] at hk
  linarith

/-- The angle of a slot: a part of a turn, with the source's value of pi. -/
noncomputable def slotAngle (index count : Nat) : ℝ :=
  2 * 3.14159265358979323846 * (index / count)

/-- The source's value of pi is a little too small, and the last slot is not the first. -/
theorem slotAngle_range {index count : Nat} (h : index < count) :
    0 ≤ slotAngle index count ∧ slotAngle index count < 2 * Real.pi := by
  have hcount : (0 : ℝ) < count := Nat.cast_pos.mpr (Nat.zero_lt_of_lt h)
  have hpart : (index : ℝ) / count < 1 := by
    rw [div_lt_one hcount]
    exact Nat.cast_lt.mpr h
  have hpi := Real.pi_gt_d20
  unfold slotAngle
  constructor
  · positivity
  · linarith

theorem slotAngle_injective {i n j m : Nat} (hn : 0 < n) (hm : 0 < m)
    (h : slotAngle i n = slotAngle j m) : i * m = j * n := by
  unfold slotAngle at h
  have hpart : (i : ℝ) / n = j / m := mul_left_cancel₀ (by norm_num) h
  rw [div_eq_div_iff (Nat.cast_ne_zero.mpr hn.ne') (Nat.cast_ne_zero.mpr hm.ne')] at hpart
  exact_mod_cast hpart

variable [ExactMath F]

theorem interactionSlot_real {index count : Nat} (hcount : 0 < count) :
    toReal (interactionSlot index count : Vec3f F).x = Real.cos (slotAngle index count) * 1.8 ∧
      toReal (interactionSlot index count : Vec3f F).z =
        Real.sin (slotAngle index count) * 1.8 := by
  have hangle : toReal (lit 2 * lit 3.14159265358979323846 * ofNat index / ofNat count : F) =
      slotAngle index count := by
    unfold ofNat slotAngle
    rw [Exact.div_eq, Exact.mul_eq, Exact.mul_eq, Exact.lit_eq, Exact.lit_eq, Exact.lit_eq,
      Exact.lit_eq]
    push_cast
    ring
  unfold interactionSlot
  rw [if_neg hcount.ne']
  dsimp only
  rw [Exact.mul_eq, Exact.mul_eq, ExactMath.cos_eq, ExactMath.sin_eq, hangle, Exact.lit_eq]
  push_cast
  exact ⟨rfl, rfl⟩

/-- Slots of groups of any size are the same only if they are the same part of a turn. -/
theorem interactionSlot_injective {i n j m : Nat} (hi : i < n) (hj : j < m)
    (h : (interactionSlot i n : Vec3f F) = interactionSlot j m) : i * m = j * n := by
  have hn : 0 < n := Nat.zero_lt_of_lt hi
  have hm : 0 < m := Nat.zero_lt_of_lt hj
  have hcos : Real.cos (slotAngle i n) = Real.cos (slotAngle j m) := by
    have hx := congrArg (fun v : Vec3f F => toReal v.x) h
    rw [(interactionSlot_real hn).left, (interactionSlot_real hm).left] at hx
    exact mul_right_cancel₀ (by norm_num) hx
  have hsin : Real.sin (slotAngle i n) = Real.sin (slotAngle j m) := by
    have hz := congrArg (fun v : Vec3f F => toReal v.z) h
    rw [(interactionSlot_real hn).right, (interactionSlot_real hm).right] at hz
    exact mul_right_cancel₀ (by norm_num) hz
  rcases slotAngle_range hi with ⟨hlow, hhigh⟩
  rcases slotAngle_range hj with ⟨hlow', hhigh'⟩
  exact slotAngle_injective hn hm (angle_injective hlow hhigh hlow' hhigh' hcos hsin)

end Slots

/-!
## Commands that name the same units
-/

/-- The centre of a group. -/
def groupCenter (r : DungeonRoom F) (selected : List Nat) : Vec3f F :=
  let sum := r.centerSum selected
  let inverseCount : F := lit 1 / ofNat selected.length
  ⟨sum.x * inverseCount, sum.y * inverseCount, sum.z * inverseCount⟩

/--
Two lists of ids make no difference: every group command leads to the same room, and the
group has the same centre.
-/
structure SameOrders (r : DungeonRoom F) (ownerUid : Nat) (unitIds unitIds' : List Nat) :
    Prop where
  move : forall target path,
    r.applyMove ownerUid unitIds target path = r.applyMove ownerUid unitIds' target path
  harvest : forall fieldId,
    r.applyHarvest ownerUid unitIds fieldId = r.applyHarvest ownerUid unitIds' fieldId
  store : forall campId,
    r.applyStore ownerUid unitIds campId = r.applyStore ownerUid unitIds' campId
  pickup : forall dropId,
    r.applyPickup ownerUid unitIds dropId = r.applyPickup ownerUid unitIds' dropId
  center : r.groupCenter (r.collectOwnedUnits ownerUid unitIds) =
    r.groupCenter (r.collectOwnedUnits ownerUid unitIds')

section Lists

variable {r : DungeonRoom F} {ownerUid : Nat} {unitIds unitIds' : List Nat}

theorem sameOrders_of_collected
    (h : r.collectOwnedUnits ownerUid unitIds = r.collectOwnedUnits ownerUid unitIds') :
    SameOrders r ownerUid unitIds unitIds' := by
  refine ⟨?_, ?_, ?_, ?_, ?_⟩
  · intro target path
    unfold applyMove
    rw [h]
  · intro fieldId
    unfold applyHarvest
    rw [h]
  · intro campId
    unfold applyStore
    rw [h]
  · intro dropId
    unfold applyPickup
    rw [h]
  · rw [h]

variable [ExactMath F]

/-- If units are stored for in the same way, they have the same part of all ranks. -/
theorem store_ranks (hr : Keyed r) {id : Nat} (hid : Commanded r ownerUid unitIds id)
    (hid' : Commanded r ownerUid unitIds' id)
    (h : r.applyStore ownerUid unitIds 0 = r.applyStore ownerUid unitIds' 0) :
    exists k k', rank id (r.collectOwnedUnits ownerUid unitIds) = k + 1 ∧
      rank id (r.collectOwnedUnits ownerUid unitIds') = k' + 1 ∧
      k * (r.collectOwnedUnits ownerUid unitIds').length =
        k' * (r.collectOwnedUnits ownerUid unitIds).length := by
  rcases collected_place (storeOrder _ 0) hid with ⟨k, w, hk, hlast, hw⟩
  rcases collected_place (storeOrder _ 0) hid' with ⟨k', w', hk', hlast', hw'⟩
  refine ⟨k, k', rank_of_last (collectOwnedUnits_sorted hr unitIds) hk hlast,
    rank_of_last (collectOwnedUnits_sorted hr unitIds') hk' hlast', ?_⟩
  have hstored := congrArg (fun s => s.units.lookup id) h
  unfold applyStore at hstored
  injection hw.symm.trans (hstored.trans hw') with hunit
  have hslot := congrArg GameUnit.interactionOffset hunit
  exact interactionSlot_injective (List.getElem?_eq_some_iff.mp hk).1
    (List.getElem?_eq_some_iff.mp hk').1 hslot

/-- Only the same group is stored for in the same way. -/
theorem collected_eq_of_store (hr : Keyed r)
    (hsame : forall id, id ∈ unitIds <-> id ∈ unitIds')
    (h : r.applyStore ownerUid unitIds 0 = r.applyStore ownerUid unitIds' 0) :
    r.collectOwnedUnits ownerUid unitIds = r.collectOwnedUnits ownerUid unitIds' := by
  apply eq_of_parts (collectOwnedUnits_sorted hr unitIds)
    (collectOwnedUnits_sorted hr unitIds')
  · intro id
    rw [mem_collectOwnedUnits_iff, mem_collectOwnedUnits_iff, hsame]
  · intro id hid
    have hid := mem_collectOwnedUnits_iff.mp hid
    exact store_ranks hr hid ⟨(hsame id).mp hid.left, hid.right⟩ h

/--
In exact arithmetic, two lists that name the same units make no difference exactly if they
name every unit of the owner equally often.
-/
theorem sameOrders_iff (roomId : Nat) (roomName : String) (maxPlayers : Nat)
    (ts : List (Turn F)) (ownerUid : Nat) (unitIds unitIds' : List Nat)
    (hsame : forall id, id ∈ unitIds <-> id ∈ unitIds') :
    SameOrders (ts.foldl turn (create roomId roomName maxPlayers)) ownerUid unitIds unitIds' <->
      forall id, (ts.foldl turn (create roomId roomName maxPlayers)).ownsUnit ownerUid id =
        true -> unitIds.count id = unitIds'.count id := by
  have hr : Keyed (ts.foldl turn (create roomId roomName maxPlayers)) :=
    ((keyed_create roomId roomName maxPlayers).turns ts).left
  rw [← collectOwnedUnits_eq_iff hr]
  exact ⟨fun h => collected_eq_of_store hr hsame (h.store 0), sameOrders_of_collected⟩

end Lists

/-- Two villagers of one player and one of another, who stands by. -/
def bystander : List (Turn F) :=
  [Turn.call (RoomCall.spawnUnit 1 0 kUnitVillager ⟨lit 0, lit 0, lit 0⟩ (lit 100) (lit 6)
      (lit 0)) rfl,
    Turn.call (RoomCall.spawnUnit 1 0 kUnitVillager ⟨lit 3, lit 0, lit 0⟩ (lit 100) (lit 6)
      (lit 0)) rfl,
    Turn.call (RoomCall.spawnUnit 2 1 kUnitVillager ⟨lit 6, lit 0, lit 0⟩ (lit 100) (lit 6)
      (lit 0)) rfl]

/-- How often somebody else's unit is named does not matter. -/
theorem bystander_sameOrders :
    SameOrders (bystander.foldl turn (create 1 "crowd" 2) : DungeonRoom RealScalar) 1
      [1, 2, 3, 3, 2] [2, 3, 1, 2] := by
  have hsame : forall id, id ∈ [1, 2, 3, 3, 2] <-> id ∈ [2, 3, 1, 2] := by
    intro id
    simp only [List.mem_cons, List.not_mem_nil, or_false]
    tauto
  rw [sameOrders_iff 1 "crowd" 2 bystander 1 [1, 2, 3, 3, 2] [2, 3, 1, 2] hsame]
  intro id howns
  have hforeign : id ≠ 3 := by
    rintro rfl
    cases howns
  have hthrice : (3 == id) = false := beq_false_of_ne hforeign.symm
  simp only [List.count_cons, List.count_nil, hthrice]
  lia

/-- A single unit that is named twice leaves for another place. -/
theorem bystander_named_twice :
    (forall id, id ∈ [1] <-> id ∈ [1, 1]) ∧
      ¬ SameOrders (bystander.foldl turn (create 1 "crowd" 2) : DungeonRoom Rat) 1
        [1] [1, 1] := by
  constructor
  · intro id
    simp
  · intro h
    have hplace := congrArg (fun s => (s.units.lookup 1).map fun u => u.target.x)
      (h.move ⟨0, 0, 5⟩ [])
    exact absurd hplace (by decide +kernel)

end DungeonRoom

end RtsGame
