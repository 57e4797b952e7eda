import RtsGame.Room.Commands

/-!
# The simulation step of a room

`DungeonRoom::Step` visits the units in the iteration order of the hash map,
lets each of them act, advances the training queues and removes what has died.
A unit that the source modifies through a reference is read from the table,
changed, and written back.
-/

namespace RtsGame

open Scalar

namespace DungeonRoom

variable {F : Type} [Scalar F]

/-- Write a unit back and mark it. -/
def commit (r : DungeonRoom F) (id : Nat) (u : GameUnit F) : DungeonRoom F :=
  (r.putUnit id u).markDirty u.id

/-!
## Movement
-/

/-- The unit after one straight step, and whether it had already arrived. -/
def moveToward (u : GameUnit F) (dest : Vec3f F) (arriveDist dt : F) :
    GameUnit F × Bool :=
  let dx := dest.x - u.pos.x
  let dz := dest.z - u.pos.z
  let dist := sqrt (dx * dx + dz * dz)
  if dist ≤ arriveDist then (u, true)
  else
    let stride := u.speed * dt
    if stride > lit 0 ∧ dist > lit 0.0001 then
      ({ u with
          pos := ⟨u.pos.x + dx / dist * stride, u.pos.y,
            u.pos.z + dz / dist * stride⟩
          yaw := atan2 dx dz }, false)
    else (u, false)

def faceToward (u : GameUnit F) (target : Vec3f F) : GameUnit F :=
  let dx := target.x - u.pos.x
  let dz := target.z - u.pos.z
  if dx * dx + dz * dz > lit 0.0001 then { u with yaw := atan2 dx dz } else u

/-- The last part of a step of `StepMove`: walk towards a point out of reach. -/
def walkToward (u : GameUnit F) (dx dz dist remaining : F) : GameUnit F :=
  { u with
    pos := ⟨u.pos.x + dx / dist * remaining, u.pos.y,
      u.pos.z + dz / dist * remaining⟩
    yaw := atan2 dx dz
    state := UnitState.moving }

/--
The loop of `StepMove`.  The list holds the waypoints that are still ahead; it
is empty when the unit walks straight to its target.
-/
def followPath : List (Vec3f F) -> GameUnit F -> F -> GameUnit F
  | [], u, remaining =>
      if remaining > lit 0.00001 then
        let dx := u.target.x - u.pos.x
        let dz := u.target.z - u.pos.z
        let dist := sqrt (dx * dx + dz * dz)
        if dist ≤ remaining ∨ dist < lit 0.0001 then
          { u with
            pos := u.target
            hasTarget := false
            state := UnitState.idle }
        else walkToward u dx dz dist remaining
      else u
  | waypoint :: rest, u, remaining =>
      if remaining > lit 0.00001 then
        let dx := waypoint.x - u.pos.x
        let dz := waypoint.z - u.pos.z
        let dist := sqrt (dx * dx + dz * dz)
        if dist ≤ remaining ∨ dist < lit 0.0001 then
          if rest.isEmpty then
            { u with
              pos := waypoint
              path := []
              pathIndex := 0
              hasTarget := false
              state := UnitState.idle }
          else
            followPath rest
              { u with pos := waypoint, pathIndex := u.pathIndex + 1 }
              (remaining - (if dist > lit 0 then dist else lit 0))
        else walkToward u dx dz dist remaining
      else u

def stepMove (r : DungeonRoom F) (id : Nat) (u : GameUnit F) (dt : F) :
    DungeonRoom F :=
  r.commit id (followPath (u.path.drop u.pathIndex) u (u.speed * dt))

/-- The unit after one step of the chase, and whether it is within range. -/
def chaseToward (u : GameUnit F) (tpos : Vec3f F) (dt range : F) :
    GameUnit F × Bool :=
  let dx := tpos.x - u.pos.x
  let dz := tpos.z - u.pos.z
  let dist := sqrt (dx * dx + dz * dz)
  let faced := if dist > lit 0.0001 then { u with yaw := atan2 dx dz } else u
  if dist > range then
    let stride := u.speed * dt
    if stride > lit 0 then
      ({ faced with
          pos := ⟨u.pos.x + dx / dist * stride, u.pos.y,
            u.pos.z + dz / dist * stride⟩ }, false)
    else (faced, false)
  else (faced, true)

/-!
## Combat
-/

def stopAttack (r : DungeonRoom F) (id : Nat) (u : GameUnit F) :
    DungeonRoom F :=
  r.commit id
    { u with
      attackTarget := 0
      autoAggro := false
      state := UnitState.idle }

/-- The nearest living unit of another team strictly within range, or zero. -/
def nearestEnemy (ω : IterOrder) (r : DungeonRoom F) (u : GameUnit F)
    (range : F) : Nat :=
  ((ω.visit r.units).foldl (fun (best : F × Nat) id =>
    match r.units.lookup id with
    | none => best
    | some other =>
        if other.team = u.team ∨ other.hp ≤ lit 0 then best
        else
          let dx := other.pos.x - u.pos.x
          let dz := other.pos.z - u.pos.z
          let d2 := dx * dx + dz * dz
          if d2 < best.1 then (d2, id) else best) (range * range, 0)).2

def engageAuto (r : DungeonRoom F) (id : Nat) (u : GameUnit F)
    (target : Nat) : DungeonRoom F :=
  r.commit id
    { u with
      attackTarget := target
      autoAggro := true
      aggroOrigin := u.pos
      state := UnitState.attacking }

def acquireAutoTarget (ω : IterOrder) (r : DungeonRoom F) (id : Nat)
    (u : GameUnit F) : DungeonRoom F :=
  let target := r.nearestEnemy ω u kAggroRange
  if target ≠ 0 then r.engageAuto id u target else r

def hitUnit (target : GameUnit F) : GameUnit F :=
  { target with hp := max (lit 0) (target.hp - kAttackDamage) }

def hitBuilding (target : Building F) : Building F :=
  { target with hp := max (lit 0) (target.hp - kAttackDamage) }

def beyondLeash (u : GameUnit F) : Bool :=
  let dx := u.pos.x - u.aggroOrigin.x
  let dz := u.pos.z - u.aggroOrigin.z
  dx * dx + dz * dz > kAggroLeash * kAggroLeash

def attackUnit (r : DungeonRoom F) (id : Nat) (u target : GameUnit F)
    (dt : F) : DungeonRoom F :=
  if target.hp ≤ lit 0 ∨ target.team = u.team then r.stopAttack id u
  else
    let chase := chaseToward { u with state := UnitState.attacking } target.pos
      dt kAttackRange
    if chase.2 ∧ chase.1.attackCd ≤ lit 0 then
      ((r.putUnit u.attackTarget (hitUnit target)).markDirty target.id).commit id
        { chase.1 with attackCd := kAttackCooldown }
    else r.commit id chase.1

def attackBuilding (r : DungeonRoom F) (id : Nat) (u : GameUnit F)
    (target : Building F) (dt : F) : DungeonRoom F :=
  if target.hp ≤ lit 0 ∨ target.team = u.team then r.stopAttack id u
  else
    let chase := chaseToward { u with state := UnitState.attacking } target.pos
      dt kBuildingAttackRange
    if chase.2 ∧ chase.1.attackCd ≤ lit 0 then
      ((r.putBuilding u.attackTarget (hitBuilding target)).markBuilding
        target.id).commit id { chase.1 with attackCd := kAttackCooldown }
    else r.commit id chase.1

def stepCombat (r : DungeonRoom F) (id : Nat) (u : GameUnit F) (dt : F) :
    DungeonRoom F :=
  if u.autoAggro ∧ beyondLeash u then
    r.commit id
      { u with
        autoAggro := false
        attackTarget := 0
        hasTarget := true
        target := u.aggroOrigin
        state := UnitState.moving }
  else
    match r.units.lookup u.attackTarget with
    | some target => r.attackUnit id u target dt
    | none =>
        match r.buildings.lookup u.attackTarget with
        | some target => r.attackBuilding id u target dt
        | none => r.stopAttack id u

/-!
## Gathering and returning
-/

def switchToPreparingReturn (u : GameUnit F) (faceTarget : Vec3f F) :
    GameUnit F :=
  faceToward
    { u with
      task := WorkerTask.preparingReturn
      target := faceTarget
      hasTarget := false
      workCd := kCarryLiftDuration
      state := UnitState.working } faceTarget

def switchToReturn (u : GameUnit F) : GameUnit F :=
  { u with
    task := WorkerTask.returning
    workCd := lit 0
    state := UnitState.moving }

def goIdle (u : GameUnit F) : GameUnit F :=
  { clearWorkerTask u with state := UnitState.idle }

/--
The harvesting loop: the unit, the amount left in the field and whether a word
operation wrapped.  Every iteration fills the backpack by one, so that the free
space bounds the number of iterations.
-/
def harvestLoop : Nat -> GameUnit F -> UInt32 -> Bool ->
    GameUnit F × UInt32 × Bool
  | 0, u, amountLeft, wrapped => (u, amountLeft, wrapped)
  | fuel + 1, u, amountLeft, wrapped =>
      if u.workCd ≥ kHarvestInterval ∧
          u.carriedAmount < kVillagerCarryCapacity ∧ amountLeft > 0 then
        let take := min kHarvestAmount
          (min amountLeft (kVillagerCarryCapacity - u.carriedAmount))
        harvestLoop fuel
          { u with
            carriedAmount := u.carriedAmount + take
            workCd := u.workCd - kHarvestInterval }
          (amountLeft - take)
          (wrapped || subWraps kVillagerCarryCapacity u.carriedAmount ||
            addWraps u.carriedAmount take || subWraps amountLeft take)
      else (u, amountLeft, wrapped)

/-- The field after a harvest: written back, or removed when it is empty. -/
def settleField (r : DungeonRoom F) (fieldId : Nat)
    (field : ResourceFieldEntity F) (amountLeft : UInt32) : DungeonRoom F :=
  if amountLeft = 0 then
    { r with
      fieldDirty := r.fieldDirty.insert field.id
      fieldDespawned := r.fieldDespawned ++ [field.id]
      fields := r.fields.erase fieldId }
  else
    { r with
      fieldDirty := r.fieldDirty.insert field.id
      fields := r.fields.insert fieldId { field with amountLeft := amountLeft } }

def workField (r : DungeonRoom F) (id : Nat) (u : GameUnit F)
    (field : ResourceFieldEntity F) (dt : F) : DungeonRoom F :=
  let faced := faceToward u field.pos
  let ready : GameUnit F :=
    { faced with
      state := UnitState.working
      carriedRaw := field.raw
      workCd := u.workCd + dt }
  let loop := harvestLoop kVillagerCarryCapacity.toNat ready field.amountLeft false
  let settled := (r.settleField u.gatherFieldId field loop.2.1).noteWrap loop.2.2
  if loop.2.1 = 0 ∧ loop.1.carriedAmount > 0 then
    settled.commit id (switchToPreparingReturn loop.1 field.pos)
  else if loop.1.carriedAmount ≥ kVillagerCarryCapacity then
    settled.commit id (switchToPreparingReturn loop.1 field.pos)
  else settled.commit id loop.1

def offsetBy (pos offset : Vec3f F) : Vec3f F :=
  ⟨pos.x + offset.x, pos.y, pos.z + offset.z⟩

def stepGather (r : DungeonRoom F) (id : Nat) (u : GameUnit F) (dt : F) :
    DungeonRoom F :=
  if u.carriedAmount ≥ kVillagerCarryCapacity then
    match r.fields.lookup u.gatherFieldId with
    | some field => r.commit id (switchToPreparingReturn u field.pos)
    | none => r.commit id (switchToPreparingReturn u u.target)
  else
    match r.fields.lookup u.gatherFieldId with
    | none =>
        if u.carriedAmount > 0 then
          r.commit id (switchToPreparingReturn u u.target)
        else r.commit id (goIdle u)
    | some field =>
        if field.amountLeft = 0 then
          if u.carriedAmount > 0 then
            r.commit id (switchToPreparingReturn u u.target)
          else r.commit id (goIdle u)
        else
          let move := moveToward { u with target := field.pos }
            (offsetBy field.pos u.interactionOffset) (lit 0.15) dt
          if !move.2 then
            r.commit id { move.1 with state := UnitState.moving }
          else r.workField id move.1 field dt

def stepPreparingReturn (r : DungeonRoom F) (id : Nat) (u : GameUnit F)
    (dt : F) : DungeonRoom F :=
  let lifted : GameUnit F :=
    { faceToward u u.target with
      state := UnitState.working
      workCd := u.workCd - dt }
  if lifted.workCd > lit 0 then r.commit id lifted
  else r.commit id (switchToReturn lifted)

/-- The nearest finished camp or crystal of the team. -/
def findNearestDropoff (ω : IterOrder) (r : DungeonRoom F) (team : Nat)
    (origin : Vec3f F) : Option (Building F) :=
  ((ω.visit r.buildings).foldl (fun (best : F × Option (Building F)) id =>
    match r.buildings.lookup id with
    | none => best
    | some b =>
        if b.team ≠ team ∨ b.underConstruction then best
        else if b.buildingType ≠ kBuildingResourceCamp ∧
            b.buildingType ≠ kBuildingCrystal then best
        else
          let dx := b.pos.x - origin.x
          let dz := b.pos.z - origin.z
          let d := dx * dx + dz * dz
          if d < best.1 then (d, some b) else best)
    (lit ((2 ^ 24 - 1) * 2 ^ 104), none)).2

/-- The building named by the unit, if it may be used. -/
def namedDropoff (r : DungeonRoom F) (u : GameUnit F) : Option (Building F) :=
  if u.dropoffId ≠ 0 then
    match r.buildings.lookup u.dropoffId with
    | none => none
    | some b => if b.underConstruction ∨ b.team ≠ u.team then none else some b
  else none

/-- After the load is gone: back to the field if it is still there. -/
def resumeGathering (r : DungeonRoom F) (u : GameUnit F) : GameUnit F :=
  if u.gatherFieldId ≠ 0 ∧ (r.fields.lookup u.gatherFieldId).isSome then
    { u with task := WorkerTask.gathering, state := UnitState.moving }
  else goIdle u

/-- Arrival at the drop-off: credit the owner's ledger, if there is one. -/
def deposit (r : DungeonRoom F) (u : GameUnit F) : DungeonRoom F :=
  match r.playerRes.lookup u.ownerUid with
  | none => r
  | some res =>
      let resType := rawToResourceType u.carriedRaw
      ({ r with
          playerRes :=
            r.playerRes.insert u.ownerUid (res.add resType u.carriedAmount) }.noteWrap
        (res.addingWraps resType u.carriedAmount)).markResource u.ownerUid

def carryTo (r : DungeonRoom F) (id : Nat) (u : GameUnit F)
    (camp : Building F) (dt : F) : DungeonRoom F :=
  let move := moveToward u (offsetBy camp.pos u.interactionOffset) (lit 0.15) dt
  if !move.2 then r.commit id { move.1 with state := UnitState.moving }
  else
    (r.deposit move.1).commit id
      (r.resumeGathering { move.1 with carriedAmount := 0 })

def stepReturn (ω : IterOrder) (r : DungeonRoom F) (id : Nat) (u : GameUnit F)
    (dt : F) : DungeonRoom F :=
  if u.carriedAmount = 0 then r.commit id (r.resumeGathering u)
  else
    match r.namedDropoff u with
    | some camp => r.carryTo id u camp dt
    | none =>
        match r.findNearestDropoff ω u.team u.pos with
        | some camp => r.carryTo id { u with dropoffId := camp.id } camp dt
        | none => r.commit id { u with state := UnitState.idle }

/-- What a unit takes from a drop: no more than fits into the backpack. -/
def takeAmount (u : GameUnit F) (drop : ResourceDropEntity F) : UInt32 :=
  min (kVillagerCarryCapacity - u.carriedAmount) drop.amount

/-- Does one of the word operations of a pickup wrap? -/
def takeWraps (u : GameUnit F) (drop : ResourceDropEntity F) : Bool :=
  subWraps kVillagerCarryCapacity u.carriedAmount ||
    addWraps u.carriedAmount (takeAmount u drop) ||
    subWraps drop.amount (takeAmount u drop)

/-- The drop after a pickup: written back, or removed when it is empty. -/
def settleDrop (r : DungeonRoom F) (dropId : Nat)
    (drop : ResourceDropEntity F) (amount : UInt32) : DungeonRoom F :=
  if amount = 0 then
    { r with
      dropDespawned := r.dropDespawned ++ [drop.id]
      drops := r.drops.erase dropId }
  else { r with drops := r.drops.insert dropId { drop with amount := amount } }

def takeDrop (r : DungeonRoom F) (id : Nat) (u : GameUnit F)
    (drop : ResourceDropEntity F) : DungeonRoom F :=
  let loaded : GameUnit F :=
    { u with
      carriedRaw := drop.raw
      carriedAmount := u.carriedAmount + takeAmount u drop }
  ((r.settleDrop u.pickupDropId drop
    (drop.amount - takeAmount u drop)).noteWrap (takeWraps u drop)).commit id
    (switchToReturn loaded)

def stepPickup (r : DungeonRoom F) (id : Nat) (u : GameUnit F) (dt : F) :
    DungeonRoom F :=
  match r.drops.lookup u.pickupDropId with
  | none =>
      if u.carriedAmount > 0 then r.commit id (switchToReturn u)
      else r.commit id (goIdle u)
  | some drop =>
      let move := moveToward u (offsetBy drop.pos u.interactionOffset)
        (lit 0.15) dt
      if !move.2 then r.commit id { move.1 with state := UnitState.moving }
      else r.takeDrop id move.1 drop

/-!
## Construction, training and death
-/

/-- A building after one worker's work for `dt` seconds. -/
def buildProgress (b : Building F) (dt : F) : Building F :=
  let percent := b.constructedPercent + kConstructPercentPerSec * dt
  if percent ≥ lit 100 then
    { b with
      constructedPercent := lit 100
      underConstruction := false
      hp := b.maxHp }
  else
    { b with
      constructedPercent := percent
      hp := max b.hp (b.maxHp * percent / lit 100) }

def stepConstruct (r : DungeonRoom F) (id : Nat) (u : GameUnit F) (dt : F) :
    DungeonRoom F :=
  match r.buildings.lookup u.buildTargetId with
  | none => r.commit id (goIdle u)
  | some b =>
      if !b.underConstruction then r.commit id (goIdle u)
      else
        let move := moveToward u b.pos kBuildRange dt
        if !move.2 then r.commit id { move.1 with state := UnitState.moving }
        else
          let built := (r.putBuilding u.buildTargetId
            (buildProgress b dt)).markBuilding b.id
          if (buildProgress b dt).underConstruction then
            built.commit id { move.1 with state := UnitState.working }
          else built.commit id (goIdle move.1)

/-- The unit that a finished training order puts in front of the building. -/
def trainedUnit (newId : Nat) (b : Building F) (unitType : Nat) : GameUnit F :=
  let fx := sin b.yaw
  let fz := cos b.yaw
  let spawnPos : Vec3f F :=
    ⟨b.pos.x + fx * kTrainSpawnFront, b.pos.y, b.pos.z + fz * kTrainSpawnFront⟩
  let rx := fz
  let rz := -fx
  let lateral : F := (ofNat (newId % 5) - lit 2) * kTrainLateralSpacing
  { newUnit newId b.ownerUid b.team unitType spawnPos (lit 100)
      kVillagerMoveSpeed b.yaw with
    target :=
      ⟨b.pos.x + fx * (kTrainSpawnFront + kTrainWalkOut) + rx * lateral, lit 0,
        b.pos.z + fz * (kTrainSpawnFront + kTrainWalkOut) + rz * lateral⟩
    hasTarget := true }

def spawnTrained (r : DungeonRoom F) (b : Building F) (unitType : Nat) :
    DungeonRoom F :=
  { r with
    nextEntityId := r.nextEntityId + 1
    units := r.units.insert r.nextEntityId
      (trainedUnit r.nextEntityId b unitType)
    spawned := r.spawned ++ [r.nextEntityId] }

def stepBuilding (dt : F) (r : DungeonRoom F) (id : Nat) : DungeonRoom F :=
  match r.buildings.lookup id with
  | none => r
  | some b =>
      match b.trainQueue with
      | [] => r
      | item :: rest =>
          if b.underConstruction then r
          else
            let remaining := item.remaining - dt
            if remaining ≤ lit 0 then
              ((r.spawnTrained b item.unitType).putBuilding id
                { b with trainQueue := rest }).markBuilding b.id
            else
              (r.putBuilding id
                { b with
                  trainQueue :=
                    { item with remaining := remaining } :: rest }).markBuilding
                b.id

def stepBuildings (ω : IterOrder) (dt : F) (r : DungeonRoom F) :
    DungeonRoom F :=
  (ω.visit r.buildings).foldl (stepBuilding dt) r

def removeDeadUnit (r : DungeonRoom F) (id : Nat) : DungeonRoom F :=
  match r.units.lookup id with
  | none => r
  | some u =>
      if u.hp ≤ lit 0 then
        { r with
          despawned := r.despawned ++ [id]
          units := r.units.erase id }
      else r

def removeDeadBuilding (r : DungeonRoom F) (id : Nat) : DungeonRoom F :=
  match r.buildings.lookup id with
  | none => r
  | some b =>
      if b.hp ≤ lit 0 then
        { r with
          buildingDespawned := r.buildingDespawned ++ [id]
          buildings := r.buildings.erase id }
      else r

def removeDeadUnits (ω : IterOrder) (r : DungeonRoom F) : DungeonRoom F :=
  (ω.visit r.units).foldl removeDeadUnit r

def removeDeadBuildings (ω : IterOrder) (r : DungeonRoom F) : DungeonRoom F :=
  (ω.visit r.buildings).foldl removeDeadBuilding r

def removeDead (ω : IterOrder) (r : DungeonRoom F) : DungeonRoom F :=
  removeDeadBuildings ω (removeDeadUnits ω r)

/-!
## The step
-/

def coolDown (dt : F) (u : GameUnit F) : GameUnit F :=
  if u.attackCd > lit 0 then
    let left := u.attackCd - dt
    { u with attackCd := if left < lit 0 then lit 0 else left }
  else u

/-- The periodic scan: idle units look for enemies, workers defend themselves. -/
def scanAggro (ω : IterOrder) (r : DungeonRoom F) (id : Nat)
    (u : GameUnit F) : DungeonRoom F :=
  if u.attackTarget ≠ 0 then r
  else if u.task = WorkerTask.none then
    if !u.hasTarget then r.acquireAutoTarget ω id u else r
  else
    let threat := r.nearestEnemy ω u kDefendRange
    if threat ≠ 0 then
      let dropped := r.dropCarried u
      dropped.1.engageAuto id
        { clearWorkerTask dropped.2 with hasTarget := false } threat
    else r

/-- The part of a unit's step that depends on what it is doing. -/
def act (ω : IterOrder) (dt : F) (r : DungeonRoom F) (id : Nat)
    (u : GameUnit F) : DungeonRoom F :=
  if u.attackTarget ≠ 0 then r.stepCombat id u dt
  else
    match u.task with
    | WorkerTask.gathering => r.stepGather id u dt
    | WorkerTask.preparingReturn => r.stepPreparingReturn id u dt
    | WorkerTask.returning => r.stepReturn ω id u dt
    | WorkerTask.pickup => r.stepPickup id u dt
    | WorkerTask.constructing => r.stepConstruct id u dt
    | WorkerTask.none => if u.hasTarget then r.stepMove id u dt else r

/-- Continue with a unit as it now stands in the table. -/
def withUnit (r : DungeonRoom F) (id : Nat)
    (k : DungeonRoom F -> Nat -> GameUnit F -> DungeonRoom F) : DungeonRoom F :=
  match r.units.lookup id with
  | none => r
  | some u => k r id u

def stepUnit (ω : IterOrder) (dt : F) (doAggro : Bool) (r : DungeonRoom F)
    (id : Nat) : DungeonRoom F :=
  match r.units.lookup id with
  | none => r
  | some u =>
      if u.hp ≤ lit 0 then r
      else
        let cooled := r.putUnit id (coolDown dt u)
        let scanned :=
          if doAggro then cooled.withUnit id (scanAggro ω) else cooled
        scanned.withUnit id (act ω dt)

def stepUnits (ω : IterOrder) (dt : F) (doAggro : Bool) (r : DungeonRoom F) :
    DungeonRoom F :=
  (ω.visit r.units).foldl (stepUnit ω dt doAggro) r

/-- The scan counter after the increment of this step. -/
def nextScanTick (r : DungeonRoom F) : Nat := (r.aggroScanTick + 1) % 2 ^ 32

/-- The first part of `Step`: everything before the removal of the dead. -/
def stepAlive (ω : IterOrder) (dt : F) (r : DungeonRoom F) : DungeonRoom F :=
  stepBuildings ω dt
    (stepUnits ω dt (r.nextScanTick % kAggroScanTicks = 0)
      { r with aggroScanTick := r.nextScanTick })

def step (ω : IterOrder) (dt : F) (r : DungeonRoom F) : DungeonRoom F :=
  removeDead ω (stepAlive ω dt r)

/-!
## Battle start, victory and frame changes
-/

def beginBattle (r : DungeonRoom F) : DungeonRoom F :=
  { r with
    initialTeamCount := (r.units.entries.map fun e => e.2.team).dedup.length
    initialCrystalTeamCount :=
      ((r.buildings.entries.filter fun e =>
        e.2.buildingType = kBuildingCrystal).map fun e => e.2.team).dedup.length
    playerRes := r.playerRes.keys.foldl
      (fun m uid => m.insert uid ⟨kStartFood, kStartWood, kStartGold⟩)
      r.playerRes
    resourceDirty := r.playerRes.keys.foldl (fun l uid => l.insert uid)
      r.resourceDirty
    battleBegun := true }

/-- The teams that still have a standing crystal. -/
def aliveCrystalTeams (r : DungeonRoom F) : List Nat :=
  ((r.buildings.entries.filter fun e =>
    e.2.buildingType = kBuildingCrystal ∧ e.2.hp > lit 0).map
      fun e => e.2.team).dedup

def livingTeams (r : DungeonRoom F) : List Nat :=
  (r.units.entries.map fun e => e.2.team).dedup

/-- The winner that the source uses when no team is left. -/
def noTeam : Nat := 0xFFFFFFFF

/-- The winner if at most one of the teams is left. -/
def lastTeam : List Nat -> Option Nat
  | [] => some noTeam
  | [team] => some team
  | _ => none

def checkGameOver (r : DungeonRoom F) : Option Nat :=
  if !r.battleBegun then none
  else if r.initialCrystalTeamCount ≥ 2 then lastTeam r.aliveCrystalTeams
  else if r.initialTeamCount < 2 then none
  else lastTeam r.livingTeams

def setStarted (r : DungeonRoom F) (started : Bool) : DungeonRoom F :=
  { r with started := started }

def setGameOver (r : DungeonRoom F) (finished : Bool) : DungeonRoom F :=
  { r with gameOver := finished }

def nextServerTick (r : DungeonRoom F) : DungeonRoom F :=
  { r with serverTick := r.serverTick + 1 }

/-- The rejected commands are handed out and forgotten. -/
def takeRejected (r : DungeonRoom F) : DungeonRoom F × List RejectedCommand :=
  ({ r with rejected := [] }, r.rejected)

def clearFrameChanges (r : DungeonRoom F) : DungeonRoom F :=
  { r with
    dirty := []
    spawned := []
    despawned := []
    buildingDirty := []
    buildingSpawned := []
    buildingDespawned := []
    fieldDirty := []
    fieldSpawned := []
    fieldDespawned := []
    dropSpawned := []
    dropDespawned := []
    resourceDirty := [] }

end DungeonRoom

end RtsGame
