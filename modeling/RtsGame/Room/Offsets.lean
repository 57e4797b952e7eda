import RtsGame.Room.Fates

/-!
# The places beside which workers stand

A group command gives each of its workers a place beside the field, drop or drop-off,
as an offset.  The worker keeps the offset through the tasks that follow, until a command
or the end of its work takes it away.
-/

namespace RtsGame

open Scalar

namespace DungeonRoom

variable {F : Type} [Scalar F]

/-!
## What a unit does with its offset
-/

theorem moveToward_offset (u : GameUnit F) (dest : Vec3f F) (arriveDist dt : F) :
    (moveToward u dest arriveDist dt).1.interactionOffset = u.interactionOffset := by
  unfold moveToward
  dsimp only
  split
  · rfl
  · split
    · rfl
    · rfl

theorem faceToward_offset (u : GameUnit F) (target : Vec3f F) :
    (faceToward u target).interactionOffset = u.interactionOffset := by
  unfold faceToward
  dsimp only
  split
  · rfl
  · rfl

theorem chaseToward_offset (u : GameUnit F) (tpos : Vec3f F) (dt range : F) :
    (chaseToward u tpos dt range).1.interactionOffset = u.interactionOffset := by
  rcases chaseToward_eq u tpos range with ⟨pos, yaw, heq⟩
  rw [heq]

theorem coolDown_offset (dt : F) (u : GameUnit F) :
    (coolDown dt u).interactionOffset = u.interactionOffset := by
  rw [coolDown_eq]

theorem followPath_offset (waypoints : List (Vec3f F)) (u : GameUnit F) (remaining : F) :
    (followPath waypoints u remaining).interactionOffset = u.interactionOffset := by
  induction waypoints generalizing u remaining with
  | nil =>
      unfold followPath
      dsimp only
      repeat' split
      all_goals rfl
  | cons waypoint rest ih =>
      unfold followPath
      dsimp only
      split
      · split
        · split
          · rfl
          · rw [ih]
        · rfl
      · rfl

theorem harvestLoop_offset (fuel : Nat) (u : GameUnit F) (amountLeft : UInt32)
    (wrapped : Bool) :
    (harvestLoop fuel u amountLeft wrapped).1.interactionOffset = u.interactionOffset := by
  induction fuel generalizing u amountLeft wrapped with
  | zero => rfl
  | succ fuel ih =>
      simp only [harvestLoop]
      split
      · rw [ih]
      · rfl

theorem switchToPreparingReturn_offset (u : GameUnit F) (faceTarget : Vec3f F) :
    (switchToPreparingReturn u faceTarget).interactionOffset = u.interactionOffset :=
  faceToward_offset _ faceTarget

/-!
## The offsets of all units

A property of offsets that the zero offset and all interaction slots share is a
property of the offsets of all units, however they are re-tasked.
-/

/-- The offset of every unit has a property. -/
def OffsetsIn (good : Vec3f F -> Prop) (r : DungeonRoom F) : Prop :=
  r.units.AllAt fun _ u => good u.interactionOffset

section Offsets

variable {good : Vec3f F -> Prop} {r s : DungeonRoom F} {u v : GameUnit F} {dt : F}

omit [Scalar F] in
theorem OffsetsIn.congr (h : OffsetsIn good r) (hunits : s.units = r.units) :
    OffsetsIn good s := by
  unfold OffsetsIn
  rw [hunits]
  exact h

omit [Scalar F] in
/-- A unit is written and marked. -/
theorem OffsetsIn.put (h : OffsetsIn good r) (id marked : Nat)
    (hv : good v.interactionOffset) :
    OffsetsIn good ((r.putUnit id v).markDirty marked) :=
  h.insert hv

omit [Scalar F] in
theorem OffsetsIn.commit (h : OffsetsIn good r) (id : Nat)
    (hv : good v.interactionOffset) : OffsetsIn good (r.commit id v) :=
  h.put id v.id hv

/-!
### Combat and movement
-/

omit [Scalar F] in
theorem stopAttack_offsets (h : OffsetsIn good r) (id : Nat)
    (hu : good u.interactionOffset) : OffsetsIn good (r.stopAttack id u) :=
  h.commit id hu

theorem attackUnit_offsets {target : GameUnit F} (h : OffsetsIn good r) (id : Nat)
    (hu : good u.interactionOffset) (ht : r.units.lookup u.attackTarget = some target) :
    OffsetsIn good (r.attackUnit id u target dt) := by
  have hchase : good (chaseToward { u with state := UnitState.attacking } target.pos dt
      kAttackRange).1.interactionOffset := by
    rw [chaseToward_offset]
    exact hu
  unfold attackUnit
  split
  · exact stopAttack_offsets h id hu
  · dsimp only
    split
    · have htarget : good (hitUnit target).interactionOffset := h u.attackTarget target ht
      exact (h.put u.attackTarget target.id htarget).commit id hchase
    · exact h.commit id hchase

theorem attackBuilding_offsets {target : Building F} (h : OffsetsIn good r) (id : Nat)
    (hu : good u.interactionOffset) : OffsetsIn good (r.attackBuilding id u target dt) := by
  have hchase : good (chaseToward { u with state := UnitState.attacking } target.pos dt
      kBuildingAttackRange).1.interactionOffset := by
    rw [chaseToward_offset]
    exact hu
  unfold attackBuilding
  split
  · exact stopAttack_offsets h id hu
  · dsimp only
    split
    · have hhit : OffsetsIn good ((r.putBuilding u.attackTarget
          (hitBuilding target)).markBuilding target.id) := h.congr rfl
      exact hhit.commit id hchase
    · exact h.commit id hchase

theorem stepCombat_offsets (h : OffsetsIn good r) (id : Nat)
    (hu : good u.interactionOffset) : OffsetsIn good (r.stepCombat id u dt) := by
  unfold stepCombat
  split
  · exact h.commit id hu
  · split
    · rename_i target ht
      exact attackUnit_offsets h id hu ht
    · split
      · exact attackBuilding_offsets h id hu
      · exact stopAttack_offsets h id hu

theorem stepMove_offsets (h : OffsetsIn good r) (id : Nat)
    (hu : good u.interactionOffset) : OffsetsIn good (r.stepMove id u dt) := by
  apply h.commit id
  rw [followPath_offset]
  exact hu

/-!
### Work
-/

variable (hzero : good Vec3f.zero)

include hzero

theorem resumeGathering_offset (hu : good u.interactionOffset) :
    good (r.resumeGathering u).interactionOffset := by
  unfold resumeGathering
  split
  · exact hu
  · exact hzero

omit hzero in
theorem workField_offsets (h : OffsetsIn good r) (id : Nat)
    (hu : good u.interactionOffset) (field : ResourceFieldEntity F) :
    OffsetsIn good (r.workField id u field dt) := by
  have hfaced : good (faceToward u field.pos).interactionOffset := by
    rw [faceToward_offset]
    exact hu
  have hloop : forall ready : GameUnit F, good ready.interactionOffset ->
      good (harvestLoop kVillagerCarryCapacity.toNat ready field.amountLeft
        false).1.interactionOffset := by
    intro ready hready
    rw [harvestLoop_offset]
    exact hready
  have hreturn : forall full : GameUnit F, good full.interactionOffset ->
      good (switchToPreparingReturn full field.pos).interactionOffset := by
    intro full hfull
    rw [switchToPreparingReturn_offset]
    exact hfull
  have hsettled : forall left wraps,
      OffsetsIn good ((r.settleField u.gatherFieldId field left).noteWrap wraps) := by
    intro left wraps
    apply h.congr
    rw [noteWrap_units, settleField_units]
  unfold workField
  dsimp only
  split
  · exact (hsettled _ _).commit id (hreturn _ (hloop _ hfaced))
  · split
    · exact (hsettled _ _).commit id (hreturn _ (hloop _ hfaced))
    · exact (hsettled _ _).commit id (hloop _ hfaced)

theorem stepGather_offsets (h : OffsetsIn good r) (id : Nat)
    (hu : good u.interactionOffset) : OffsetsIn good (r.stepGather id u dt) := by
  have hreturn : forall target,
      OffsetsIn good (r.commit id (switchToPreparingReturn u target)) := by
    intro target
    apply h.commit id
    rw [switchToPreparingReturn_offset]
    exact hu
  have hidle : OffsetsIn good (r.commit id (goIdle u)) := h.commit id hzero
  unfold stepGather
  split
  · split
    · exact hreturn _
    · exact hreturn _
  · split
    · split
      · exact hreturn _
      · exact hidle
    · rename_i field hfield
      split
      · split
        · exact hreturn _
        · exact hidle
      · have hmove : good (moveToward { u with target := field.pos }
            (offsetBy field.pos u.interactionOffset) (lit 0.15) dt).1.interactionOffset := by
          rw [moveToward_offset]
          exact hu
        dsimp only
        split
        · exact h.commit id hmove
        · exact workField_offsets h id hmove field

omit hzero in
theorem stepPreparingReturn_offsets (h : OffsetsIn good r) (id : Nat)
    (hu : good u.interactionOffset) : OffsetsIn good (r.stepPreparingReturn id u dt) := by
  have hface : good (faceToward u u.target).interactionOffset := by
    rw [faceToward_offset]
    exact hu
  unfold stepPreparingReturn
  dsimp only
  split
  · exact h.commit id hface
  · exact h.commit id hface

theorem carryTo_offsets (h : OffsetsIn good r) (id : Nat)
    (hu : good u.interactionOffset) (camp : Building F) :
    OffsetsIn good (r.carryTo id u camp dt) := by
  have hmove : good (moveToward u (offsetBy camp.pos u.interactionOffset) (lit 0.15)
      dt).1.interactionOffset := by
    rw [moveToward_offset]
    exact hu
  unfold carryTo
  dsimp only
  split
  · exact h.commit id hmove
  · have hdeposit : OffsetsIn good (r.deposit (moveToward u
        (offsetBy camp.pos u.interactionOffset) (lit 0.15) dt).1) :=
      h.congr (deposit_frame r _).left
    exact hdeposit.commit id (resumeGathering_offset hzero hmove)

theorem stepReturn_offsets (ω : IterOrder) (h : OffsetsIn good r) (id : Nat)
    (hu : good u.interactionOffset) : OffsetsIn good (r.stepReturn ω id u dt) := by
  unfold stepReturn
  split
  · exact h.commit id (resumeGathering_offset hzero hu)
  · split
    · exact carryTo_offsets hzero h id hu _
    · split
      · rename_i camp _
        have hgiven : good { u with dropoffId := camp.id }.interactionOffset := hu
        exact carryTo_offsets hzero h id hgiven camp
      · exact h.commit id hu

theorem stepPickup_offsets (h : OffsetsIn good r) (id : Nat)
    (hu : good u.interactionOffset) : OffsetsIn good (r.stepPickup id u dt) := by
  unfold stepPickup
  split
  · split
    · exact h.commit id hu
    · exact h.commit id hzero
  · rename_i drop _
    have hmove : good (moveToward u (offsetBy drop.pos u.interactionOffset) (lit 0.15)
        dt).1.interactionOffset := by
      rw [moveToward_offset]
      exact hu
    dsimp only
    split
    · exact h.commit id hmove
    · unfold takeDrop
      refine OffsetsIn.commit (h.congr ?_) id hmove
      rw [noteWrap_units, settleDrop_units]

theorem stepConstruct_offsets (h : OffsetsIn good r) (id : Nat)
    (hu : good u.interactionOffset) : OffsetsIn good (r.stepConstruct id u dt) := by
  unfold stepConstruct
  split
  · exact h.commit id hzero
  · rename_i b _
    have hmove : good (moveToward u b.pos kBuildRange dt).1.interactionOffset := by
      rw [moveToward_offset]
      exact hu
    have hbuilt : OffsetsIn good ((r.putBuilding u.buildTargetId
        (buildProgress b dt)).markBuilding b.id) := h.congr rfl
    split
    · exact h.commit id hzero
    · dsimp only
      split
      · exact h.commit id hmove
      · split
        · exact hbuilt.commit id hmove
        · exact hbuilt.commit id hzero

/-!
### The turn of a unit
-/

theorem act_offsets (ω : IterOrder) (dt : F) (h : OffsetsIn good r) (id : Nat)
    (hu : good u.interactionOffset) : OffsetsIn good (act ω dt r id u) := by
  unfold act
  split
  · exact stepCombat_offsets h id hu
  · split
    · exact stepGather_offsets hzero h id hu
    · exact stepPreparingReturn_offsets h id hu
    · exact stepReturn_offsets hzero ω h id hu
    · exact stepPickup_offsets hzero h id hu
    · exact stepConstruct_offsets hzero h id hu
    · split
      · exact stepMove_offsets h id hu
      · exact h

theorem scanAggro_offsets (ω : IterOrder) (h : OffsetsIn good r) (id : Nat)
    (hu : good u.interactionOffset) : OffsetsIn good (scanAggro ω r id u) := by
  unfold scanAggro
  split
  · exact h
  · split
    · split
      · unfold acquireAutoTarget
        dsimp only
        split
        · exact h.commit id hu
        · exact h
      · exact h
    · dsimp only
      split
      · have hdropped : OffsetsIn good (r.dropCarried u).1 := by
          unfold dropCarried
          split
          · exact h.congr rfl
          · exact h
        exact hdropped.commit id hzero
      · exact h

omit [Scalar F] hzero in
theorem withUnit_offsets {k : DungeonRoom F -> Nat -> GameUnit F -> DungeonRoom F}
    (hk : forall u, good u.interactionOffset -> forall id, OffsetsIn good (k r id u))
    (h : OffsetsIn good r) (id : Nat) : OffsetsIn good (r.withUnit id k) := by
  unfold withUnit
  split
  · exact h
  · rename_i w hw
    exact hk w (h id w hw) id

theorem stepUnit_offsets (ω : IterOrder) (dt : F) (doAggro : Bool)
    (h : OffsetsIn good r) (id : Nat) : OffsetsIn good (stepUnit ω dt doAggro r id) := by
  unfold stepUnit
  split
  · exact h
  · rename_i w hw
    split
    · exact h
    · have hcooled : OffsetsIn good (r.putUnit id (coolDown dt w)) := by
        have hgood : good (coolDown dt w).interactionOffset := by
          rw [coolDown_offset]
          exact h id w hw
        exact h.insert hgood
      dsimp only
      split
      · have hscanned := withUnit_offsets
          (fun u hu id => scanAggro_offsets hzero ω hcooled id hu) hcooled id
        exact withUnit_offsets (fun u hu id => act_offsets hzero ω dt hscanned id hu)
          hscanned id
      · exact withUnit_offsets (fun u hu id => act_offsets hzero ω dt hcooled id hu)
          hcooled id

/-!
### Commands
-/

omit [Scalar F] hzero in
/-- The group loop gives the units offsets for indexes below their number. -/
theorem orderSelected_offsets {order : Nat -> GameUnit F -> GameUnit F} {count : Nat}
    (horder : forall index u, index < count -> good (order index u).interactionOffset)
    (ids : List Nat) (index : Nat) (hcount : index + ids.length ≤ count)
    (h : OffsetsIn good r) : OffsetsIn good (orderSelected order index ids r) := by
  induction ids generalizing index r with
  | nil =>
      exact h
  | cons id rest ih =>
      rw [List.length_cons] at hcount
      have hrest : index + 1 + rest.length ≤ count := by lia
      unfold orderSelected
      split
      · exact ih _ hrest h
      · rename_i w hw
        exact ih _ hrest (h.put id _ (horder index w (by lia)))

omit [Scalar F] hzero in
theorem orderEachOwned_offsets {ownerUid : Nat}
    {order : DungeonRoom F -> Nat -> GameUnit F -> DungeonRoom F}
    (horder : forall s id u, OffsetsIn good s -> OffsetsIn good (order s id u))
    (ids : List Nat) (h : OffsetsIn good r) :
    OffsetsIn good (orderEachOwned ownerUid order ids r) := by
  induction ids generalizing r with
  | nil =>
      exact h
  | cons id rest ih =>
      unfold orderEachOwned
      split
      · exact ih h
      · split
        · exact ih h
        · exact ih (horder r id _ h)

theorem assignConstructors_offsets (h : OffsetsIn good r) (ownerUid : Nat)
    (unitIds : List Nat) (site : Nat) :
    OffsetsIn good (r.assignConstructors ownerUid unitIds site) := by
  apply orderEachOwned_offsets _ unitIds h
  intro s id u hs
  exact hs.put id id hzero

variable (hslots : forall index count, index < count -> good (interactionSlot index count))

include hslots

/-- A command gives a unit an interaction slot, or takes its offset away. -/
theorem applyCommand_offsets (h : OffsetsIn good r) (cmd : PendingCommand F) :
    OffsetsIn good (r.applyCommand cmd) := by
  cases htype : cmd.type with
  | move =>
      rw [applyCommand, htype]
      exact orderSelected_offsets (fun _ _ _ => hzero) _ 0 (Nat.le_of_eq (Nat.zero_add _)) h
  | stop =>
      rw [applyCommand, htype]
      apply orderEachOwned_offsets _ _ h
      intro s id u hs
      have hdropped : OffsetsIn good (s.dropCarried u).1 := by
        unfold dropCarried
        split
        · exact hs.congr rfl
        · exact hs
      exact hdropped.put id id hzero
  | attack =>
      rw [applyCommand, htype]
      apply orderEachOwned_offsets _ _ h
      intro s id u hs
      split
      · exact hs
      · exact hs.put id id hzero
  | harvest =>
      rw [applyCommand, htype]
      dsimp only
      unfold applyHarvest
      split
      · exact h
      · exact orderSelected_offsets (fun index _ hindex => hslots index _ hindex) _ 0
          (Nat.le_of_eq (Nat.zero_add _)) h
  | store =>
      rw [applyCommand, htype]
      exact orderSelected_offsets (fun index _ hindex => hslots index _ hindex) _ 0
        (Nat.le_of_eq (Nat.zero_add _)) h
  | pickup =>
      rw [applyCommand, htype]
      dsimp only
      unfold applyPickup
      split
      · exact h
      · exact orderSelected_offsets (fun index _ hindex => hslots index _ hindex) _ 0
          (Nat.le_of_eq (Nat.zero_add _)) h
  | build =>
      rw [applyCommand_build r htype]
      rcases applyBuild_cases r cmd with ⟨res, _, heq⟩ | ⟨code, _, heq⟩
      · rw [heq]
        have hsite : OffsetsIn good ((r.payFrom cmd.ownerUid res
            (buildingCost cmd.auxType)).spawnBuilding cmd.ownerUid (r.teamOf cmd.ownerUid)
            cmd.auxType cmd.target cmd.yaw true) := h.congr rfl
        exact assignConstructors_offsets hzero hsite _ _ _
      · rw [heq]
        exact h.congr rfl
  | construct =>
      rw [applyCommand, htype]
      dsimp only
      unfold applyConstruct
      split
      · exact h
      · split
        · exact h
        · exact assignConstructors_offsets hzero h _ _ _
  | train =>
      rw [applyCommand_train r htype]
      rcases applyTrain_cases r cmd with ⟨b, res, _, heq⟩ | ⟨code, _, heq⟩
      · rw [heq]
        exact h.congr rfl
      · rw [heq]
        exact h.congr rfl

/-!
### Runs
-/

theorem OffsetsIn.turn (h : OffsetsIn good r) (t : Turn F) : OffsetsIn good (r.turn t) := by
  cases t with
  | call c plain =>
      change OffsetsIn good (r.call c)
      rcases plain_cases r plain with ⟨_, _, _, _, _, _, _, rfl⟩ |
        ⟨_, _, _, _, _, _, rfl⟩ | ⟨hunits, _⟩
      · exact h.insert hzero
      · exact h.congr rfl
      · exact h.congr hunits
  | command cmd => exact applyCommand_offsets hzero hslots h cmd
  | clearPending => exact h.congr rfl
  | scanTick => exact h.congr rfl
  | unit ω dt doAggro id => exact stepUnit_offsets hzero ω dt doAggro h id
  | building dt id =>
      change OffsetsIn good (stepBuilding dt r id)
      rcases stepBuilding_cases dt r id with
        heq | ⟨b, item, rest, _, _, _, ⟨_, heq⟩ | ⟨_, heq⟩⟩
      · rw [heq]
        exact h
      · rw [heq]
        have htrained : OffsetsIn good (r.spawnTrained b item.unitType) := h.insert hzero
        exact htrained.congr rfl
      · rw [heq]
        exact h.congr rfl
  | deadUnit id =>
      change OffsetsIn good (removeDeadUnit r id)
      rcases removeDeadUnit_cases r id with heq | ⟨_, _, _, heq⟩
      · rw [heq]
        exact h
      · rw [heq]
        exact h.erase id
  | deadBuilding id =>
      change OffsetsIn good (removeDeadBuilding r id)
      rcases removeDeadBuilding_cases r id with heq | ⟨_, _, _, heq⟩
      · rw [heq]
        exact h
      · rw [heq]
        exact h.congr rfl

theorem OffsetsIn.turns (h : OffsetsIn good r) (ts : List (Turn F)) :
    OffsetsIn good (ts.foldl DungeonRoom.turn r) := by
  induction ts generalizing r with
  | nil => exact h
  | cons t rest ih => exact ih (h.turn hzero hslots t)

end Offsets

end DungeonRoom

end RtsGame
