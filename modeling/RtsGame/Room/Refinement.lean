import RtsGame.Room.Effects

/-!
# The code performs effects

The commands and the simulation step of a room are sequences of effects.  Each
function of the source is unfolded once, here; everything that is proved later
about commands and steps goes through these theorems.
-/

namespace RtsGame

open Scalar

namespace DungeonRoom

variable {F : Type} [Scalar F]

/-!
## What the movement helpers change
-/

theorem moveToward_steered (u : GameUnit F) (dest : Vec3f F) (arriveDist dt : F) :
    Steered u (moveToward u dest arriveDist dt).1 := by
  unfold moveToward
  dsimp only
  split
  · exact Steered.refl u
  · split
    · exact ⟨⟨rfl, rfl, rfl, rfl, rfl⟩, ⟨rfl, rfl⟩, ⟨rfl, rfl, rfl⟩⟩
    · exact Steered.refl u

theorem faceToward_steered (u : GameUnit F) (target : Vec3f F) :
    Steered u (faceToward u target) := by
  unfold faceToward
  dsimp only
  split
  · exact ⟨⟨rfl, rfl, rfl, rfl, rfl⟩, ⟨rfl, rfl⟩, ⟨rfl, rfl, rfl⟩⟩
  · exact Steered.refl u

theorem chaseToward_steered (u : GameUnit F) (tpos : Vec3f F) (dt range : F) :
    Steered u (chaseToward u tpos dt range).1 := by
  unfold chaseToward
  dsimp only
  repeat' split
  all_goals exact ⟨⟨rfl, rfl, rfl, rfl, rfl⟩, ⟨rfl, rfl⟩, ⟨rfl, rfl, rfl⟩⟩

theorem followPath_steered (waypoints : List (Vec3f F)) (u : GameUnit F)
    (remaining : F) : Steered u (followPath waypoints u remaining) := by
  induction waypoints generalizing u remaining with
  | nil =>
      unfold followPath
      dsimp only
      repeat' split
      all_goals exact ⟨⟨rfl, rfl, rfl, rfl, rfl⟩, ⟨rfl, rfl⟩, ⟨rfl, rfl, rfl⟩⟩
  | cons waypoint rest ih =>
      unfold followPath
      dsimp only
      split
      · split
        · split
          · exact ⟨⟨rfl, rfl, rfl, rfl, rfl⟩, ⟨rfl, rfl⟩, ⟨rfl, rfl, rfl⟩⟩
          · have hnext := ih { u with
                pos := waypoint
                pathIndex := u.pathIndex + 1 }
            exact (hnext _).after
              ⟨⟨rfl, rfl, rfl, rfl, rfl⟩, ⟨rfl, rfl⟩, ⟨rfl, rfl, rfl⟩⟩
        · exact ⟨⟨rfl, rfl, rfl, rfl, rfl⟩, ⟨rfl, rfl⟩, ⟨rfl, rfl, rfl⟩⟩
      · exact Steered.refl u

theorem switchToPreparingReturn_body (u : GameUnit F) (face : Vec3f F) :
    SameBody u (switchToPreparingReturn u face) ∧
      SameLoad u (switchToPreparingReturn u face) ∧
      (switchToPreparingReturn u face).task = WorkerTask.preparingReturn := by
  have hface := faceToward_steered
    { u with
      task := WorkerTask.preparingReturn
      target := face
      hasTarget := false
      workCd := kCarryLiftDuration
      state := UnitState.working } face
  exact ⟨⟨hface.body.id, hface.body.ownerUid, hface.body.team,
      hface.body.unitType, hface.body.hp⟩,
    ⟨hface.load.amount, hface.load.raw⟩, hface.job.task⟩

/-!
## The harvesting loop

The guard of the loop makes every iteration move exactly one unit of resource,
so that no word operation wraps and the sum of both sides is kept.
-/

theorem harvestTake_eq_one {carried left : UInt32}
    (hcarried : carried < kVillagerCarryCapacity) (hleft : left > 0) :
    min kHarvestAmount (min left (kVillagerCarryCapacity - carried)) = 1 := by
  have hc : carried.toNat < 10 := hcarried
  have hl : 0 < left.toNat := hleft
  have hspace : (kVillagerCarryCapacity - carried).toNat = 10 - carried.toNat :=
    toNat_sub_of_toNat_le (Nat.le_of_lt hc)
  apply UInt32.toNat_inj.mp
  rw [toNat_min_word, toNat_min_word, hspace]
  change min 1 (min left.toNat (10 - carried.toNat)) = 1
  lia

/-- What the harvesting loop does to the unit and to the field. -/
theorem harvestLoop_spec (fuel : Nat) (u : GameUnit F) (left : UInt32)
    (wrapped : Bool) (hu : u.carriedAmount.toNat ≤ 10) :
    exists carried workCd,
      (harvestLoop fuel u left wrapped).1 =
          { u with carriedAmount := carried, workCd := workCd } ∧
        (harvestLoop fuel u left wrapped).2.2 = wrapped ∧
        carried.toNat ≤ 10 ∧
        (harvestLoop fuel u left wrapped).2.1.toNat ≤ left.toNat ∧
        carried.toNat + (harvestLoop fuel u left wrapped).2.1.toNat =
          u.carriedAmount.toNat + left.toNat := by
  induction fuel generalizing u left wrapped with
  | zero =>
      exact ⟨u.carriedAmount, u.workCd, rfl, rfl, hu, Nat.le_refl _, rfl⟩
  | succ fuel ih =>
      unfold harvestLoop
      split
      · rename_i hguard
        rcases hguard with ⟨_, hcarried, hleft⟩
        dsimp only
        rw [harvestTake_eq_one hcarried hleft]
        have hc : u.carriedAmount.toNat < 10 := hcarried
        have hl : 1 ≤ left.toNat := hleft
        have hadd : (u.carriedAmount + 1).toNat = u.carriedAmount.toNat + 1 :=
          toNat_add_of_lt (b := 1) (by
            change u.carriedAmount.toNat + 1 < 2 ^ 32
            lia)
        have hsub : (left - 1).toNat = left.toNat - 1 :=
          toNat_sub_of_toNat_le (b := 1) hl
        have hspace : subWraps kVillagerCarryCapacity u.carriedAmount = false :=
          subWraps_eq_false.mpr (Nat.le_of_lt hc)
        have hload : addWraps u.carriedAmount 1 = false :=
          addWraps_eq_false.mpr (by
            change u.carriedAmount.toNat + 1 < 2 ^ 32
            lia)
        have hfield : subWraps left 1 = false := subWraps_eq_false.mpr hl
        rw [hspace, hload, hfield, Bool.or_false, Bool.or_false, Bool.or_false]
        rcases ih
            { u with
              carriedAmount := u.carriedAmount + 1
              workCd := u.workCd - kHarvestInterval }
            (left - 1) wrapped (by
              change (u.carriedAmount + 1).toNat ≤ 10
              lia) with
          ⟨carried, workCd, hshape, hw, hcap, hmono, hsum⟩
        refine ⟨carried, workCd, hshape, hw, hcap, ?_, ?_⟩
        · lia
        · rw [hsum]
          change (u.carriedAmount + 1).toNat + (left - 1).toNat = _
          lia
      · exact ⟨u.carriedAmount, u.workCd, rfl, rfl, hu, Nat.le_refl _, rfl⟩

/-!
## Writing a unit back
-/

/-- A unit that is only steered, and perhaps given another displayed state. -/
theorem steered_effects {r : DungeonRoom F} {id : Nat} {u v : GameUnit F}
    (hu : r.units.lookup id = some u) (hs : Steered u v) :
    Effects Routine r [] (r.commit id v) :=
  Moves.single (Effect.redirect hu hs.body hs.load (KeepsJob.of_same hs.job))

theorem goIdle_effects {r : DungeonRoom F} {id : Nat} {u v : GameUnit F}
    (hu : r.units.lookup id = some u) (hs : Steered u v) :
    Effects Routine r [] (r.commit id (goIdle v)) :=
  Moves.single (Effect.redirect hu
    (hs.body.trans ⟨rfl, rfl, rfl, rfl, rfl⟩) (hs.load.trans ⟨rfl, rfl⟩)
    (KeepsJob.of_idle rfl))

theorem preparingReturn_effects {r : DungeonRoom F} {id : Nat}
    {u : GameUnit F} (hu : r.units.lookup id = some u) (face : Vec3f F) :
    Effects Routine r [] (r.commit id (switchToPreparingReturn u face)) := by
  rcases switchToPreparingReturn_body u face with ⟨hbody, hload, htask⟩
  exact Moves.single
    (Effect.redirect hu hbody hload (KeepsJob.of_returning (Or.inl htask)))

theorem switchToReturn_effects {r : DungeonRoom F} {id : Nat}
    {u v : GameUnit F} (hu : r.units.lookup id = some u) (hs : Steered u v) :
    Effects Routine r [] (r.commit id (switchToReturn v)) :=
  Moves.single (Effect.redirect hu
    (hs.body.trans ⟨rfl, rfl, rfl, rfl, rfl⟩) (hs.load.trans ⟨rfl, rfl⟩)
    (KeepsJob.of_returning (Or.inr rfl)))

/-!
## Movement and combat
-/

theorem stepMove_effects {r : DungeonRoom F} {id : Nat} {u : GameUnit F}
    (hu : r.units.lookup id = some u) (dt : F) :
    Effects Routine r [] (r.stepMove id u dt) :=
  steered_effects hu
    (followPath_steered (u.path.drop u.pathIndex) u (u.speed * dt))

theorem stopAttack_effects {r : DungeonRoom F} {id : Nat} {u : GameUnit F}
    (hu : r.units.lookup id = some u) :
    Effects Routine r [] (r.stopAttack id u) :=
  steered_effects hu
    ⟨⟨rfl, rfl, rfl, rfl, rfl⟩, ⟨rfl, rfl⟩, ⟨rfl, rfl, rfl⟩⟩

theorem attackUnit_effects {r : DungeonRoom F} {id : Nat}
    {u target : GameUnit F} (hu : r.units.lookup id = some u)
    (ht : r.units.lookup u.attackTarget = some target) (dt : F) :
    Effects Routine r [] (r.attackUnit id u target dt) := by
  unfold attackUnit
  dsimp only
  split
  · exact stopAttack_effects hu
  · rename_i hfoe
    have hchase : Steered u
        (chaseToward { u with state := UnitState.attacking } target.pos dt
          kAttackRange).1 :=
      (chaseToward_steered _ _ _ _).after
        ⟨⟨rfl, rfl, rfl, rfl, rfl⟩, ⟨rfl, rfl⟩, ⟨rfl, rfl, rfl⟩⟩
    split
    · exact Moves.single (Effect.strikeUnit hu
        (hchase.body.trans ⟨rfl, rfl, rfl, rfl, rfl⟩)
        (hchase.load.trans ⟨rfl, rfl⟩)
        (KeepsJob.of_same (hchase.job.trans ⟨rfl, rfl, rfl⟩)) ht
        (fun hteam => hfoe (Or.inr hteam)) (fun hhp => hfoe (Or.inl hhp)))
    · exact steered_effects hu hchase

theorem attackBuilding_effects {r : DungeonRoom F} {id : Nat}
    {u : GameUnit F} {target : Building F} (hu : r.units.lookup id = some u)
    (ht : r.buildings.lookup u.attackTarget = some target) (dt : F) :
    Effects Routine r [] (r.attackBuilding id u target dt) := by
  unfold attackBuilding
  dsimp only
  split
  · exact stopAttack_effects hu
  · rename_i hfoe
    have hchase : Steered u
        (chaseToward { u with state := UnitState.attacking } target.pos dt
          kBuildingAttackRange).1 :=
      (chaseToward_steered _ _ _ _).after
        ⟨⟨rfl, rfl, rfl, rfl, rfl⟩, ⟨rfl, rfl⟩, ⟨rfl, rfl, rfl⟩⟩
    split
    · exact Moves.single (Effect.strikeBuilding hu
        (hchase.body.trans ⟨rfl, rfl, rfl, rfl, rfl⟩)
        (hchase.load.trans ⟨rfl, rfl⟩)
        (KeepsJob.of_same (hchase.job.trans ⟨rfl, rfl, rfl⟩)) ht
        (fun hteam => hfoe (Or.inr hteam)) (fun hhp => hfoe (Or.inl hhp)))
    · exact steered_effects hu hchase

theorem stepCombat_effects {r : DungeonRoom F} {id : Nat} {u : GameUnit F}
    (hu : r.units.lookup id = some u) (dt : F) :
    Effects Routine r [] (r.stepCombat id u dt) := by
  unfold stepCombat
  split
  · exact steered_effects hu
      ⟨⟨rfl, rfl, rfl, rfl, rfl⟩, ⟨rfl, rfl⟩, ⟨rfl, rfl, rfl⟩⟩
  · split
    · rename_i target ht
      exact attackUnit_effects hu ht dt
    · split
      · rename_i target ht
        exact attackBuilding_effects hu ht dt
      · exact stopAttack_effects hu

/-!
## Gathering, returning and picking up
-/

omit [Scalar F] in
theorem noteWrap_false (r : DungeonRoom F) : r.noteWrap false = r := by
  unfold noteWrap
  rw [Bool.or_false]

theorem workField_effects {r : DungeonRoom F} {id : Nat} {u w : GameUnit F}
    {field : ResourceFieldEntity F} (hu : r.units.lookup id = some u)
    (hs : Steered u w) (htask : u.task = WorkerTask.gathering)
    (hf : r.fields.lookup u.gatherFieldId = some field)
    (hcap : ¬ u.carriedAmount ≥ kVillagerCarryCapacity) (dt : F) :
    Effects Routine r [] (r.workField id w field dt) := by
  unfold workField
  dsimp only
  have hface := hs.trans (faceToward_steered w field.pos)
  generalize faceToward w field.pos = faced at hface
  have hlt : faced.carriedAmount.toNat ≤ 10 := by
    rw [hface.load.amount]
    have hcap' : ¬ 10 ≤ u.carriedAmount.toNat := hcap
    lia
  have hspace : u.carriedAmount < kVillagerCarryCapacity := by
    have hcap' : ¬ 10 ≤ u.carriedAmount.toNat := hcap
    change u.carriedAmount.toNat < 10
    lia
  rcases harvestLoop_spec kVillagerCarryCapacity.toNat
      { faced with
        state := UnitState.working
        carriedRaw := field.raw
        workCd := w.workCd + dt } field.amountLeft false hlt with
    ⟨carried, workCd, hshape, hwrap, hle, hleft, hsum⟩
  generalize harvestLoop kVillagerCarryCapacity.toNat
    { faced with
      state := UnitState.working
      carriedRaw := field.raw
      workCd := w.workCd + dt } field.amountLeft false = loop at *
  rcases loop with ⟨v, left, wrapped⟩
  dsimp only at hshape hwrap hleft hsum ⊢
  subst hshape
  subst hwrap
  rw [noteWrap_false, hs.job.gatherFieldId]
  have hsum' : carried.toNat + left.toNat =
      u.carriedAmount.toNat + field.amountLeft.toNat := by
    rw [← hface.load.amount]
    exact hsum
  have hbody : SameBody u
      { faced with
        state := UnitState.working
        carriedAmount := carried
        carriedRaw := field.raw
        workCd := workCd } :=
    hface.body.trans ⟨rfl, rfl, rfl, rfl, rfl⟩
  have hjob : SameJob u
      { faced with
        state := UnitState.working
        carriedAmount := carried
        carriedRaw := field.raw
        workCd := workCd } :=
    hface.job.trans ⟨rfl, rfl, rfl⟩
  rcases switchToPreparingReturn_body
      { faced with
        state := UnitState.working
        carriedAmount := carried
        carriedRaw := field.raw
        workCd := workCd } field.pos with ⟨hpbody, hpload, hptask⟩
  have hprepare : Effects Routine r []
      ((r.settleField u.gatherFieldId field left).commit id
        (switchToPreparingReturn
          { faced with
            state := UnitState.working
            carriedAmount := carried
            carriedRaw := field.raw
            workCd := workCd } field.pos)) :=
    Moves.single (Effect.harvest hu (hbody.trans hpbody)
      (KeepsJob.of_returning (Or.inl hptask)) htask rfl hspace hf hpload.raw
      (by rw [hpload.amount]; exact hle) hleft
      (by rw [hpload.amount]; exact hsum'))
  split
  · exact hprepare
  · split
    · exact hprepare
    · exact Moves.single (Effect.harvest hu hbody (KeepsJob.of_same hjob) htask
        rfl hspace hf rfl hle hleft hsum')

theorem stepGather_effects {r : DungeonRoom F} {id : Nat} {u : GameUnit F}
    (hu : r.units.lookup id = some u) (htask : u.task = WorkerTask.gathering)
    (dt : F) : Effects Routine r [] (r.stepGather id u dt) := by
  unfold stepGather
  dsimp only
  split
  · split
    · exact preparingReturn_effects hu _
    · exact preparingReturn_effects hu _
  · rename_i hcap
    split
    · split
      · exact preparingReturn_effects hu _
      · exact goIdle_effects hu (Steered.refl u)
    · rename_i field hf
      split
      · split
        · exact preparingReturn_effects hu _
        · exact goIdle_effects hu (Steered.refl u)
      · have hmove : Steered u
            (moveToward { u with target := field.pos }
              (offsetBy field.pos u.interactionOffset) (lit 0.15) dt).1 :=
          (moveToward_steered _ _ _ _).after
            ⟨⟨rfl, rfl, rfl, rfl, rfl⟩, ⟨rfl, rfl⟩, ⟨rfl, rfl, rfl⟩⟩
        split
        · exact steered_effects hu (hmove.trans
            ⟨⟨rfl, rfl, rfl, rfl, rfl⟩, ⟨rfl, rfl⟩, ⟨rfl, rfl, rfl⟩⟩)
        · exact workField_effects hu hmove htask hf hcap dt

theorem stepPreparingReturn_effects {r : DungeonRoom F} {id : Nat}
    {u : GameUnit F} (hu : r.units.lookup id = some u) (dt : F) :
    Effects Routine r [] (r.stepPreparingReturn id u dt) := by
  unfold stepPreparingReturn
  dsimp only
  have hlift : Steered u
      { faceToward u u.target with
        state := UnitState.working
        workCd := u.workCd - dt } :=
    (faceToward_steered u u.target).trans
      ⟨⟨rfl, rfl, rfl, rfl, rfl⟩, ⟨rfl, rfl⟩, ⟨rfl, rfl, rfl⟩⟩
  split
  · exact steered_effects hu hlift
  · exact switchToReturn_effects hu hlift

theorem resumeGathering_body (r : DungeonRoom F) (u : GameUnit F) :
    SameBody u (r.resumeGathering u) ∧ SameLoad u (r.resumeGathering u) := by
  unfold resumeGathering
  split
  · exact ⟨⟨rfl, rfl, rfl, rfl, rfl⟩, ⟨rfl, rfl⟩⟩
  · exact ⟨⟨rfl, rfl, rfl, rfl, rfl⟩, ⟨rfl, rfl⟩⟩

theorem resumeGathering_job (r : DungeonRoom F) {u w : GameUnit F}
    (hw : w.carriedAmount = 0) : KeepsJob u (r.resumeGathering w) := by
  unfold resumeGathering
  split
  · constructor
    · intro _
      exact Or.inl hw
    · intro hv
      cases hv
  · exact KeepsJob.of_idle rfl

omit [Scalar F] in
theorem deposit_congr (r : DungeonRoom F) {u w : GameUnit F}
    (hs : Steered u w) : r.deposit w = r.deposit u := by
  unfold deposit
  rw [hs.body.ownerUid, hs.load.raw, hs.load.amount]

theorem carryTo_effects {r : DungeonRoom F} {id : Nat} {u w : GameUnit F}
    (hu : r.units.lookup id = some u) (hs : Steered u w) (camp : Building F)
    (dt : F) : Effects Routine r [] (r.carryTo id w camp dt) := by
  unfold carryTo
  dsimp only
  have hmove := hs.trans (moveToward_steered w
    (offsetBy camp.pos w.interactionOffset) (lit 0.15) dt)
  generalize moveToward w (offsetBy camp.pos w.interactionOffset) (lit 0.15) dt
    = move at hmove
  rcases move with ⟨v, arrived⟩
  dsimp only at hmove ⊢
  split
  · exact steered_effects hu (hmove.trans
      ⟨⟨rfl, rfl, rfl, rfl, rfl⟩, ⟨rfl, rfl⟩, ⟨rfl, rfl, rfl⟩⟩)
  · rw [deposit_congr r hmove]
    rcases resumeGathering_body r { v with carriedAmount := 0 } with
      ⟨hbody, hload⟩
    have hbody' : SameBody u (r.resumeGathering { v with carriedAmount := 0 }) :=
      ⟨hbody.id.trans hmove.body.id, hbody.ownerUid.trans hmove.body.ownerUid,
        hbody.team.trans hmove.body.team,
        hbody.unitType.trans hmove.body.unitType, hbody.hp.trans hmove.body.hp⟩
    have hraw : (r.resumeGathering { v with carriedAmount := 0 }).carriedRaw =
        u.carriedRaw :=
      hload.raw.trans hmove.load.raw
    have hjob : KeepsJob u (r.resumeGathering { v with carriedAmount := 0 }) :=
      resumeGathering_job r rfl
    cases hres : r.playerRes.lookup u.ownerUid with
    | none =>
        have hnone : r.deposit u = r := by
          unfold deposit
          rw [hres]
        rw [hnone]
        exact Moves.single
          (Effect.forfeit hu hbody' hjob hres hload.amount hraw)
    | some res =>
        exact Moves.single
          (Effect.credit hu hbody' hjob hres hload.amount hraw)

theorem stepReturn_effects {r : DungeonRoom F} {id : Nat} {u : GameUnit F}
    (hu : r.units.lookup id = some u) (ω : IterOrder) (dt : F) :
    Effects Routine r [] (r.stepReturn ω id u dt) := by
  unfold stepReturn
  split
  · rename_i hzero
    rcases resumeGathering_body r u with ⟨hbody, hload⟩
    exact Moves.single
      (Effect.redirect hu hbody hload (resumeGathering_job r hzero))
  · split
    · exact carryTo_effects hu (Steered.refl u) _ dt
    · split
      · refine carryTo_effects hu ?_ _ dt
        exact ⟨⟨rfl, rfl, rfl, rfl, rfl⟩, ⟨rfl, rfl⟩, ⟨rfl, rfl, rfl⟩⟩
      · exact steered_effects hu
          ⟨⟨rfl, rfl, rfl, rfl, rfl⟩, ⟨rfl, rfl⟩, ⟨rfl, rfl, rfl⟩⟩

theorem takeDrop_effects {r : DungeonRoom F} {id : Nat} {u w : GameUnit F}
    {drop : ResourceDropEntity F} (hu : r.units.lookup id = some u)
    (hs : Steered u w) (htask : u.task = WorkerTask.pickup)
    (hd : r.drops.lookup u.pickupDropId = some drop) :
    Effects Routine r [] (r.takeDrop id w drop) := by
  have htake : takeAmount w drop = takeAmount u drop := by
    unfold takeAmount
    rw [hs.load.amount]
  have hwraps : takeWraps w drop = takeWraps u drop := by
    unfold takeWraps
    rw [htake, hs.load.amount]
  unfold takeDrop
  dsimp only
  rw [hwraps, htake, hs.job.pickupDropId, hs.load.amount]
  exact Moves.single (Effect.take hu
    (hs.body.trans ⟨rfl, rfl, rfl, rfl, rfl⟩)
    (KeepsJob.of_returning (Or.inr rfl)) htask rfl hd rfl rfl)

theorem stepPickup_effects {r : DungeonRoom F} {id : Nat} {u : GameUnit F}
    (hu : r.units.lookup id = some u) (htask : u.task = WorkerTask.pickup)
    (dt : F) : Effects Routine r [] (r.stepPickup id u dt) := by
  unfold stepPickup
  dsimp only
  split
  · split
    · exact switchToReturn_effects hu (Steered.refl u)
    · exact goIdle_effects hu (Steered.refl u)
  · rename_i drop hd
    have hmove := moveToward_steered u (offsetBy drop.pos u.interactionOffset)
      (lit 0.15) dt
    split
    · exact steered_effects hu (hmove.trans
        ⟨⟨rfl, rfl, rfl, rfl, rfl⟩, ⟨rfl, rfl⟩, ⟨rfl, rfl, rfl⟩⟩)
    · exact takeDrop_effects hu hmove htask hd

/-!
## Construction and training
-/

theorem stepConstruct_effects {r : DungeonRoom F} {id : Nat} {u : GameUnit F}
    (hu : r.units.lookup id = some u) (dt : F) :
    Effects Routine r [] (r.stepConstruct id u dt) := by
  unfold stepConstruct
  dsimp only
  split
  · exact goIdle_effects hu (Steered.refl u)
  · rename_i b hb
    split
    · exact goIdle_effects hu (Steered.refl u)
    · rename_i hsite
      have hsite' : b.underConstruction = true := by simpa using hsite
      have hmove := moveToward_steered u b.pos kBuildRange dt
      split
      · exact steered_effects hu (hmove.trans
          ⟨⟨rfl, rfl, rfl, rfl, rfl⟩, ⟨rfl, rfl⟩, ⟨rfl, rfl, rfl⟩⟩)
      · split
        · exact Moves.single (Effect.construct dt hu
            (hmove.body.trans ⟨rfl, rfl, rfl, rfl, rfl⟩)
            (hmove.load.trans ⟨rfl, rfl⟩)
            (KeepsJob.of_same (hmove.job.trans ⟨rfl, rfl, rfl⟩)) hb hsite')
        · exact Moves.single (Effect.construct dt hu
            (hmove.body.trans ⟨rfl, rfl, rfl, rfl, rfl⟩)
            (hmove.load.trans ⟨rfl, rfl⟩) (KeepsJob.of_idle rfl) hb hsite')

theorem stepBuilding_effects (r : DungeonRoom F) (dt : F) (id : Nat) :
    Effects Routine r [] (stepBuilding dt r id) := by
  unfold stepBuilding
  dsimp only
  split
  · exact Moves.nil r
  · rename_i b hb
    split
    · exact Moves.nil r
    · split
      · exact Moves.nil r
      · split
        · exact Moves.single (Effect.graduate _ _ hb)
        · exact Moves.single (Effect.train _ hb)

/-!
## The step of one unit
-/

theorem engageAuto_effects {r : DungeonRoom F} {id : Nat} {u : GameUnit F}
    (hu : r.units.lookup id = some u) (target : Nat) :
    Effects Routine r [] (r.engageAuto id u target) :=
  steered_effects hu
    ⟨⟨rfl, rfl, rfl, rfl, rfl⟩, ⟨rfl, rfl⟩, ⟨rfl, rfl, rfl⟩⟩

theorem scanAggro_effects {r : DungeonRoom F} {id : Nat} {u : GameUnit F}
    (hu : r.units.lookup id = some u) (ω : IterOrder) :
    Effects Routine r [] (r.scanAggro ω id u) := by
  unfold scanAggro
  dsimp only
  split
  · exact Moves.nil r
  · split
    · split
      · unfold acquireAutoTarget
        dsimp only
        split
        · exact engageAuto_effects hu _
        · exact Moves.nil r
      · exact Moves.nil r
    · split
      · unfold dropCarried
        split
        · rename_i hload
          exact Moves.single (Effect.dropLoad hu ⟨rfl, rfl, rfl, rfl, rfl⟩
            (KeepsJob.of_idle rfl) hload rfl rfl)
        · exact Moves.single (Effect.redirect hu ⟨rfl, rfl, rfl, rfl, rfl⟩
            ⟨rfl, rfl⟩ (KeepsJob.of_idle rfl))
      · exact Moves.nil r

theorem act_effects {r : DungeonRoom F} {id : Nat} {u : GameUnit F}
    (hu : r.units.lookup id = some u) (ω : IterOrder) (dt : F) :
    Effects Routine r [] (act ω dt r id u) := by
  unfold act
  split
  · exact stepCombat_effects hu dt
  · split
    · rename_i htask
      exact stepGather_effects hu htask dt
    · exact stepPreparingReturn_effects hu dt
    · exact stepReturn_effects hu ω dt
    · rename_i htask
      exact stepPickup_effects hu htask dt
    · exact stepConstruct_effects hu dt
    · split
      · exact stepMove_effects hu dt
      · exact Moves.nil r

theorem withUnit_effects {keep : DungeonRoom F -> GameUnit F -> GameUnit F -> Prop}
    (r : DungeonRoom F) (id : Nat)
    {k : DungeonRoom F -> Nat -> GameUnit F -> DungeonRoom F}
    (hk : forall u, r.units.lookup id = some u -> Effects keep r [] (k r id u)) :
    Effects keep r [] (r.withUnit id k) := by
  unfold withUnit
  split
  · exact Moves.nil r
  · rename_i u hu
    exact hk u hu

theorem coolDown_effects {r : DungeonRoom F} {id : Nat} {u : GameUnit F}
    (hu : r.units.lookup id = some u) (dt : F) :
    Effects Routine r [] (r.putUnit id (coolDown dt u)) := by
  unfold coolDown
  split
  · exact Moves.single (Effect.cool _ hu)
  · exact Moves.single (Effect.cool u.attackCd hu)

theorem stepUnit_effects (ω : IterOrder) (dt : F) (doAggro : Bool)
    (r : DungeonRoom F) (id : Nat) :
    Effects Routine r [] (stepUnit ω dt doAggro r id) := by
  unfold stepUnit
  dsimp only
  split
  · exact Moves.nil r
  · rename_i u hu
    split
    · exact Moves.nil r
    · have hcool := coolDown_effects hu dt
      have hact := fun s : DungeonRoom F =>
        withUnit_effects s id fun v hv => act_effects hv ω dt
      split
      · have hscan := withUnit_effects (r.putUnit id (coolDown dt u)) id
          fun v hv => scanAggro_effects hv ω
        exact hcool.append (hscan.append (hact _))
      · exact hcool.append (hact _)

/-!
## The whole step

Everything before the removal of the dead keeps the resources in the room; the
removal takes away the loads of the units that are removed.
-/

theorem stepAlive_effects (ω : IterOrder) (dt : F) (r : DungeonRoom F) :
    Effects Routine r [] (stepAlive ω dt r) := by
  unfold stepAlive
  have htick : Effects Routine r [] { r with aggroScanTick := r.nextScanTick } :=
    Moves.single (Effect.scanTick r.nextScanTick)
  have hunits := fun doAggro s =>
    Moves.foldl (fun s id => stepUnit_effects ω dt doAggro s id) s
      (ω.visit s.units)
  have hbuildings := fun s : DungeonRoom F =>
    Moves.foldl (fun s id => stepBuilding_effects s dt id) s
      (ω.visit s.buildings)
  exact htick.append ((hunits _ _).append (hbuildings _))

/-- The load of a unit that is about to be removed. -/
def deadLoadOf (u : GameUnit F) : Nat :=
  if u.hp ≤ lit 0 then u.carriedAmount.toNat else 0

/-- The loads of all units that are about to be removed. -/
def deadLoad (r : DungeonRoom F) : Nat := r.units.total deadLoadOf

/-- Everything that the removal of a dead unit can do. -/
theorem removeDeadUnit_cases (r : DungeonRoom F) (id : Nat) :
    removeDeadUnit r id = r ∨
      exists u, r.units.lookup id = some u ∧ u.hp ≤ lit 0 ∧
        removeDeadUnit r id =
          { r with despawned := r.despawned ++ [id], units := r.units.erase id } := by
  unfold removeDeadUnit
  split
  · exact Or.inl rfl
  · rename_i u hu
    split
    · rename_i hhp
      exact Or.inr ⟨u, hu, hhp, rfl⟩
    · exact Or.inl rfl

theorem removeDeadBuilding_cases (r : DungeonRoom F) (id : Nat) :
    removeDeadBuilding r id = r ∨
      exists b, r.buildings.lookup id = some b ∧ b.hp ≤ lit 0 ∧
        removeDeadBuilding r id =
          { r with
            buildingDespawned := r.buildingDespawned ++ [id]
            buildings := r.buildings.erase id } := by
  unfold removeDeadBuilding
  split
  · exact Or.inl rfl
  · rename_i b hb
    split
    · rename_i hhp
      exact Or.inr ⟨b, hb, hhp, rfl⟩
    · exact Or.inl rfl

theorem removeDeadUnit_effects (keep : DungeonRoom F -> GameUnit F -> GameUnit F -> Prop)
    (r : DungeonRoom F) (id : Nat) :
    exists out, Effects keep r out (removeDeadUnit r id) ∧
      out.sum + deadLoad (removeDeadUnit r id) = deadLoad r := by
  rcases removeDeadUnit_cases r id with heq | ⟨u, hu, hhp, heq⟩
  · rw [heq]
    exact ⟨[], Moves.nil r, by simp⟩
  · rw [heq]
    refine ⟨[u.carriedAmount.toNat], Moves.single (Effect.buryUnit hu hhp), ?_⟩
    have herase := Table.total_erase (f := deadLoadOf) hu
    have hload : deadLoadOf u = u.carriedAmount.toNat := if_pos hhp
    simp only [deadLoad, List.sum_cons, List.sum_nil]
    lia

theorem removeDeadUnits_fold (keep : DungeonRoom F -> GameUnit F -> GameUnit F -> Prop)
    (ids : List Nat) (r : DungeonRoom F) :
    exists out, Effects keep r out (ids.foldl removeDeadUnit r) ∧
      out.sum + deadLoad (ids.foldl removeDeadUnit r) = deadLoad r := by
  induction ids generalizing r with
  | nil =>
      exact ⟨[], Moves.nil r, by simp⟩
  | cons id rest ih =>
      rcases removeDeadUnit_effects keep r id with ⟨out, heff, hsum⟩
      rcases ih (removeDeadUnit r id) with ⟨later, hlater, hrest⟩
      refine ⟨out ++ later, heff.append hlater, ?_⟩
      rw [List.foldl_cons, List.sum_append]
      lia

def unitDead (u : GameUnit F) : Bool := u.hp ≤ lit 0

def buildingDead (b : Building F) : Bool := b.hp ≤ lit 0

theorem removeDeadUnits_eq (ids : List Nat) (r : DungeonRoom F) :
    ids.foldl removeDeadUnit r =
      { r with
        units := (Table.prune unitDead ids r.units).1
        despawned := r.despawned ++ (Table.prune unitDead ids r.units).2 } := by
  induction ids generalizing r with
  | nil =>
      simp [Table.prune]
  | cons id rest ih =>
      rw [List.foldl_cons, ih]
      unfold removeDeadUnit
      cases hu : r.units.lookup id with
      | none =>
          rw [Table.prune_cons_none hu]
      | some u =>
          by_cases hhp : u.hp ≤ lit 0
          · rw [Table.prune_cons_dead hu (by simpa [unitDead] using hhp)]
            simp [hhp, List.append_assoc]
          · rw [Table.prune_cons_alive hu (by simpa [unitDead] using hhp)]
            simp [hhp]

theorem removeDeadBuildings_eq (ids : List Nat) (r : DungeonRoom F) :
    ids.foldl removeDeadBuilding r =
      { r with
        buildings := (Table.prune buildingDead ids r.buildings).1
        buildingDespawned :=
          r.buildingDespawned ++ (Table.prune buildingDead ids r.buildings).2 } := by
  induction ids generalizing r with
  | nil =>
      simp [Table.prune]
  | cons id rest ih =>
      rw [List.foldl_cons, ih]
      unfold removeDeadBuilding
      cases hb : r.buildings.lookup id with
      | none =>
          rw [Table.prune_cons_none hb]
      | some b =>
          by_cases hhp : b.hp ≤ lit 0
          · rw [Table.prune_cons_dead hb (by simpa [buildingDead] using hhp)]
            simp [hhp, List.append_assoc]
          · rw [Table.prune_cons_alive hb (by simpa [buildingDead] using hhp)]
            simp [hhp]

/-- The removal of the dead, as one update of the room. -/
theorem removeDead_eq (ω : IterOrder) (r : DungeonRoom F) :
    removeDead ω r =
      { r with
        units := (Table.prune unitDead (ω.visit r.units) r.units).1
        despawned :=
          r.despawned ++ (Table.prune unitDead (ω.visit r.units) r.units).2
        buildings := (Table.prune buildingDead (ω.visit r.buildings) r.buildings).1
        buildingDespawned := r.buildingDespawned ++
          (Table.prune buildingDead (ω.visit r.buildings) r.buildings).2 } := by
  unfold removeDead removeDeadUnits removeDeadBuildings
  rw [removeDeadUnits_eq, removeDeadBuildings_eq]

theorem removeDeadBuilding_effects (keep : DungeonRoom F -> GameUnit F -> GameUnit F -> Prop)
    (r : DungeonRoom F) (id : Nat) :
    Effects keep r [] (removeDeadBuilding r id) := by
  rcases removeDeadBuilding_cases r id with heq | ⟨b, hb, hhp, heq⟩
  · rw [heq]
    exact Moves.nil r
  · rw [heq]
    exact Moves.single (Effect.buryBuilding hb hhp)

/-- No load of a dead unit is left behind. -/
theorem deadLoad_removeDeadUnits (ω : IterOrder) (r : DungeonRoom F) :
    deadLoad (removeDeadUnits ω r) = 0 := by
  have hall : (removeDeadUnits ω r).units.AllAt fun _ u => ¬ u.hp ≤ lit 0 := by
    intro k u hu
    unfold removeDeadUnits at hu
    rw [removeDeadUnits_eq] at hu
    dsimp only at hu
    rw [IterOrder.prune_visit_lookup] at hu
    have hfilter := Option.filter_eq_some_iff.mp hu
    simpa [unitDead] using hfilter.2
  have hle := Table.total_le_size_mul (f := deadLoadOf) (c := 0) (by
    intro k u hu
    unfold deadLoadOf
    rw [if_neg (hall k u hu)])
  unfold deadLoad
  lia

/-- The removal of the dead takes away exactly the loads of the removed units. -/
theorem removeDead_effects (keep : DungeonRoom F -> GameUnit F -> GameUnit F -> Prop)
    (ω : IterOrder) (r : DungeonRoom F) :
    exists out, Effects keep r out (removeDead ω r) ∧ out.sum = deadLoad r := by
  rcases removeDeadUnits_fold keep (ω.visit r.units) r with ⟨out, heff, hsum⟩
  have hbuildings : Effects keep (removeDeadUnits ω r) []
      (removeDead ω r) :=
    Moves.foldl (removeDeadBuilding_effects keep) (removeDeadUnits ω r) _
  refine ⟨out ++ [], Moves.append heff hbuildings, ?_⟩
  have hzero := deadLoad_removeDeadUnits ω r
  rw [List.append_nil]
  unfold removeDeadUnits at hzero
  lia

theorem step_effects (ω : IterOrder) (dt : F) (r : DungeonRoom F) :
    exists out, Effects Routine r out (step ω dt r) ∧
      out.sum = deadLoad (stepAlive ω dt r) := by
  rcases removeDead_effects Routine ω (stepAlive ω dt r) with ⟨out, heff, hsum⟩
  exact ⟨[] ++ out, (stepAlive_effects ω dt r).append heff, hsum⟩

end DungeonRoom

end RtsGame
