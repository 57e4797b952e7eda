import Mathlib.Data.List.Sort
import RtsGame.Room.Types

/-!
# Commands of a room

Membership, spawning and the nine client commands of `DungeonRoom`, which are
queued on arrival and applied together at the tick boundary.
-/

namespace RtsGame

open Scalar

namespace DungeonRoom

variable {F : Type}

/-!
## Membership and flags
-/

def create (roomId : Nat) (roomName : String) (maxPlayers : Nat) :
    DungeonRoom F where
  roomId := roomId
  roomName := roomName
  maxPlayers := if maxPlayers = 0 then 2 else maxPlayers

def hasPlayer (r : DungeonRoom F) (uid : Nat) : Bool :=
  (r.players.lookup uid).isSome

def isFull (r : DungeonRoom F) : Bool := r.players.size ≥ r.maxPlayers

/-- The room after the call and the assigned team, or nothing if it is full. -/
def addPlayer (r : DungeonRoom F) (uid : Nat) : Option (DungeonRoom F × Nat) :=
  match r.players.lookup uid with
  | some player => some (r, player.team)
  | none =>
      if r.isFull then none
      else
        let team := r.players.size
        some ({ r with
          players := r.players.insert uid ⟨uid, team, false⟩
          playerRes := r.playerRes.emplace uid {} }, team)

def setReady (r : DungeonRoom F) (uid : Nat) (ready : Bool) :
    Option (DungeonRoom F) :=
  match r.players.lookup uid with
  | none => none
  | some player =>
      some { r with players := r.players.insert uid { player with ready := ready } }

/-- The room after the call and whether the player was in it. -/
def removePlayer (r : DungeonRoom F) (uid : Nat) : DungeonRoom F × Bool :=
  ({ r with
      playerRes := r.playerRes.erase uid
      players := r.players.erase uid },
    r.hasPlayer uid)

def isEmpty (r : DungeonRoom F) : Bool := r.players.size = 0

def allReady (r : DungeonRoom F) : Bool :=
  !r.isEmpty && r.players.entries.all fun e => e.2.ready

def playerList (ω : IterOrder) (r : DungeonRoom F) : List RoomPlayerState :=
  ω.values r.players

def playerUids (ω : IterOrder) (r : DungeonRoom F) : List Nat :=
  ω.visit r.players

def teamOf (r : DungeonRoom F) (uid : Nat) : Nat :=
  match r.players.lookup uid with
  | none => 0
  | some player => player.team

/-!
## Writing entities and marks
-/

def putUnit (r : DungeonRoom F) (id : Nat) (u : GameUnit F) : DungeonRoom F :=
  { r with units := r.units.insert id u }

def putBuilding (r : DungeonRoom F) (id : Nat) (b : Building F) : DungeonRoom F :=
  { r with buildings := r.buildings.insert id b }

def markDirty (r : DungeonRoom F) (id : Nat) : DungeonRoom F :=
  { r with dirty := r.dirty.insert id }

def markBuilding (r : DungeonRoom F) (id : Nat) : DungeonRoom F :=
  { r with buildingDirty := r.buildingDirty.insert id }

def markResource (r : DungeonRoom F) (uid : Nat) : DungeonRoom F :=
  { r with resourceDirty := r.resourceDirty.insert uid }

/-- Record that an operation on 32-bit words wrapped. -/
def noteWrap (r : DungeonRoom F) (wrapped : Bool) : DungeonRoom F :=
  { r with wrapped := r.wrapped || wrapped }

/-!
## Spawning
-/

variable [Scalar F]

def newUnit (id ownerUid team unitType : Nat) (pos : Vec3f F)
    (hp speed yaw : F) : GameUnit F where
  id := id
  ownerUid := ownerUid
  team := team
  unitType := unitType
  pos := pos
  target := pos
  hasTarget := false
  path := []
  pathIndex := 0
  yaw := yaw
  hp := hp
  speed := speed
  state := UnitState.idle
  attackTarget := 0
  attackCd := lit 0
  task := WorkerTask.none
  gatherFieldId := 0
  dropoffId := 0
  pickupDropId := 0
  buildTargetId := 0
  interactionOffset := Vec3f.zero
  carriedAmount := 0
  carriedRaw := 0
  workCd := lit 0
  autoAggro := false
  aggroOrigin := Vec3f.zero

def spawnUnit (r : DungeonRoom F) (ownerUid team unitType : Nat)
    (pos : Vec3f F) (hp speed yaw : F) : DungeonRoom F :=
  { r with
    nextEntityId := r.nextEntityId + 1
    units := r.units.insert r.nextEntityId
      (newUnit r.nextEntityId ownerUid team unitType pos hp speed yaw)
    spawned := r.spawned ++ [r.nextEntityId] }

def newBuilding (id ownerUid team buildingType : Nat) (pos : Vec3f F)
    (yaw : F) (underConstruction : Bool) : Building F where
  id := id
  ownerUid := ownerUid
  team := team
  buildingType := buildingType
  pos := pos
  yaw := yaw
  hp :=
    if underConstruction then max (lit 1) (buildingMaxHp buildingType * lit 0.05)
    else buildingMaxHp buildingType
  maxHp := buildingMaxHp buildingType
  constructedPercent := if underConstruction then lit 0 else lit 100
  underConstruction := underConstruction
  trainQueue := []

def spawnBuilding (r : DungeonRoom F) (ownerUid team buildingType : Nat)
    (pos : Vec3f F) (yaw : F) (underConstruction : Bool) : DungeonRoom F :=
  { r with
    nextEntityId := r.nextEntityId + 1
    buildings := r.buildings.insert r.nextEntityId
      (newBuilding r.nextEntityId ownerUid team buildingType pos yaw
        underConstruction)
    buildingSpawned := r.buildingSpawned ++ [r.nextEntityId] }

def spawnResourceField (r : DungeonRoom F) (raw : Nat) (pos : Vec3f F)
    (amount : UInt32) : DungeonRoom F :=
  { r with
    nextEntityId := r.nextEntityId + 1
    fields := r.fields.insert r.nextEntityId
      ⟨r.nextEntityId, raw, pos, lit 0, amount⟩
    fieldSpawned := r.fieldSpawned ++ [r.nextEntityId] }

def spawnResourceDrop (r : DungeonRoom F) (raw : Nat) (pos : Vec3f F)
    (amount : UInt32) : DungeonRoom F :=
  { r with
    nextEntityId := r.nextEntityId + 1
    drops := r.drops.insert r.nextEntityId
      ⟨r.nextEntityId, raw, pos, amount⟩
    dropSpawned := r.dropSpawned ++ [r.nextEntityId] }

/-!
## Building blocks of the commands
-/

def clearWorkerTask (u : GameUnit F) : GameUnit F :=
  { u with
    task := WorkerTask.none
    gatherFieldId := 0
    dropoffId := 0
    pickupDropId := 0
    buildTargetId := 0
    interactionOffset := Vec3f.zero
    workCd := lit 0
    path := []
    pathIndex := 0 }

/-- Put the load down as a drop; the unit itself is written by the caller. -/
def dropCarried (r : DungeonRoom F) (u : GameUnit F) :
    DungeonRoom F × GameUnit F :=
  if u.carriedAmount > 0 then
    (r.spawnResourceDrop u.carriedRaw u.pos u.carriedAmount,
      { u with carriedAmount := 0 })
  else (r, u)

def ownsUnit (r : DungeonRoom F) (ownerUid id : Nat) : Bool :=
  match r.units.lookup id with
  | none => false
  | some u => u.ownerUid = ownerUid

def unitIdAt (r : DungeonRoom F) (key : Nat) : Nat :=
  match r.units.lookup key with
  | none => 0
  | some u => u.id

/--
The keys of the units among `unitIds` that belong to the owner, sorted by
entity id.  A repeated key stays repeated.
-/
def collectOwnedUnits (r : DungeonRoom F) (ownerUid : Nat)
    (unitIds : List Nat) : List Nat :=
  (unitIds.filter fun id => r.ownsUnit ownerUid id).insertionSort
    fun a b => r.unitIdAt a ≤ r.unitIdAt b

/-- The loop of the group commands over the collected units. -/
def orderSelected (order : Nat -> GameUnit F -> GameUnit F) :
    Nat -> List Nat -> DungeonRoom F -> DungeonRoom F
  | _, [], r => r
  | index, id :: rest, r =>
      match r.units.lookup id with
      | none => orderSelected order (index + 1) rest r
      | some u =>
          orderSelected order (index + 1) rest
            ((r.putUnit id (order index u)).markDirty (order index u).id)

/-- The loop of the other commands, which checks the owner unit by unit. -/
def orderEachOwned (ownerUid : Nat)
    (order : DungeonRoom F -> Nat -> GameUnit F -> DungeonRoom F) :
    List Nat -> DungeonRoom F -> DungeonRoom F
  | [], r => r
  | id :: rest, r =>
      match r.units.lookup id with
      | none => orderEachOwned ownerUid order rest r
      | some u =>
          if u.ownerUid ≠ ownerUid then orderEachOwned ownerUid order rest r
          else orderEachOwned ownerUid order rest (order r id u)

def formationSlot (index count : Nat) (forwardX forwardZ : F) : Vec3f F :=
  if count ≤ 1 then Vec3f.zero
  else
    let columns := ceil (sqrt (ofNat count : F))
    let rows := (count + columns - 1) / columns
    let row := index / columns
    let column := index % columns
    let rowCount := min columns (count - row * columns)
    let lateral : F :=
      (ofNat column - (ofNat rowCount - lit 1) * lit 0.5) * lit 2.8
    let longitudinal : F :=
      ((ofNat rows - lit 1) * lit 0.5 - ofNat row) * lit 3
    let rightX := forwardZ
    let rightZ := -forwardX
    ⟨rightX * lateral + forwardX * longitudinal, lit 0,
      rightZ * lateral + forwardZ * longitudinal⟩

def interactionSlot (index count : Nat) : Vec3f F :=
  if count = 0 then Vec3f.zero
  else
    let angle : F :=
      lit 2 * lit 3.14159265358979323846 * ofNat index / ofNat count
    ⟨cos angle * lit 1.8, lit 0, sin angle * lit 1.8⟩

/-!
## The commands
-/

/-- The sum of the positions of the selected units. -/
def centerSum (r : DungeonRoom F) (selected : List Nat) : Vec3f F :=
  selected.foldl (fun c id =>
    match r.units.lookup id with
    | none => c
    | some u => ⟨c.x + u.pos.x, c.y + u.pos.y, c.z + u.pos.z⟩) Vec3f.zero

/-- The unit direction, in the x-z plane, from the group's centre to the target. -/
def moveDirection (r : DungeonRoom F) (selected : List Nat)
    (target : Vec3f F) : F × F :=
  let sum := r.centerSum selected
  let inverseCount : F := lit 1 / ofNat selected.length
  let forwardX := target.x - sum.x * inverseCount
  let forwardZ := target.z - sum.z * inverseCount
  let directionLength := sqrt (forwardX * forwardX + forwardZ * forwardZ)
  if directionLength > lit 0.0001 then
    (forwardX / directionLength, forwardZ / directionLength)
  else (lit 0, lit 1)

def moveOrder (count : Nat) (forward : F × F) (target : Vec3f F)
    (path : List (Vec3f F)) (index : Nat) (u : GameUnit F) : GameUnit F :=
  let offset := formationSlot index count forward.1 forward.2
  { clearWorkerTask u with
    target := ⟨target.x + offset.x, target.y, target.z + offset.z⟩
    path := path.map fun w => ⟨w.x + offset.x, w.y, w.z + offset.z⟩
    pathIndex := 0
    hasTarget := true
    attackTarget := 0
    state := UnitState.moving }

def applyMove (r : DungeonRoom F) (ownerUid : Nat) (unitIds : List Nat)
    (target : Vec3f F) (path : List (Vec3f F)) : DungeonRoom F :=
  let selected := r.collectOwnedUnits ownerUid unitIds
  orderSelected
    (moveOrder selected.length (r.moveDirection selected target) target path)
    0 selected r

def stopOrder (u : GameUnit F) : GameUnit F :=
  { clearWorkerTask u with
    hasTarget := false
    attackTarget := 0
    state := UnitState.idle }

def applyStop (r : DungeonRoom F) (ownerUid : Nat) (unitIds : List Nat) :
    DungeonRoom F :=
  orderEachOwned ownerUid (fun r id u =>
    let dropped := r.dropCarried u
    (dropped.1.putUnit id (stopOrder dropped.2)).markDirty id) unitIds r

def attackOrder (targetEntity : Nat) (u : GameUnit F) : GameUnit F :=
  { clearWorkerTask u with
    attackTarget := targetEntity
    autoAggro := false
    hasTarget := false
    state := UnitState.attacking }

def applyAttack (r : DungeonRoom F) (ownerUid : Nat) (unitIds : List Nat)
    (targetEntity : Nat) : DungeonRoom F :=
  orderEachOwned ownerUid (fun r id u =>
    if id = targetEntity then r
    else (r.putUnit id (attackOrder targetEntity u)).markDirty id) unitIds r

def harvestOrder (count fieldId : Nat) (fieldPos : Vec3f F) (index : Nat)
    (u : GameUnit F) : GameUnit F :=
  { clearWorkerTask u with
    interactionOffset := interactionSlot index count
    attackTarget := 0
    hasTarget := false
    task := WorkerTask.gathering
    gatherFieldId := fieldId
    target := fieldPos
    state := UnitState.moving }

def applyHarvest (r : DungeonRoom F) (ownerUid : Nat) (unitIds : List Nat)
    (fieldId : Nat) : DungeonRoom F :=
  match r.fields.lookup fieldId with
  | none => r
  | some field =>
      let selected := r.collectOwnedUnits ownerUid unitIds
      orderSelected (harvestOrder selected.length fieldId field.pos) 0 selected r

def storeOrder (count campId : Nat) (index : Nat) (u : GameUnit F) :
    GameUnit F :=
  { clearWorkerTask u with
    interactionOffset := interactionSlot index count
    attackTarget := 0
    hasTarget := false
    task := WorkerTask.returning
    dropoffId := campId
    state := UnitState.moving }

def applyStore (r : DungeonRoom F) (ownerUid : Nat) (unitIds : List Nat)
    (campId : Nat) : DungeonRoom F :=
  let selected := r.collectOwnedUnits ownerUid unitIds
  orderSelected (storeOrder selected.length campId) 0 selected r

def pickupOrder (count dropId : Nat) (index : Nat) (u : GameUnit F) :
    GameUnit F :=
  { clearWorkerTask u with
    interactionOffset := interactionSlot index count
    attackTarget := 0
    hasTarget := false
    task := WorkerTask.pickup
    pickupDropId := dropId
    state := UnitState.moving }

def applyPickup (r : DungeonRoom F) (ownerUid : Nat) (unitIds : List Nat)
    (dropId : Nat) : DungeonRoom F :=
  match r.drops.lookup dropId with
  | none => r
  | some _ =>
      let selected := r.collectOwnedUnits ownerUid unitIds
      orderSelected (pickupOrder selected.length dropId) 0 selected r

def constructOrder (buildingId : Nat) (u : GameUnit F) : GameUnit F :=
  { clearWorkerTask u with
    attackTarget := 0
    hasTarget := false
    task := WorkerTask.constructing
    buildTargetId := buildingId
    state := UnitState.moving }

def assignConstructors (r : DungeonRoom F) (ownerUid : Nat)
    (unitIds : List Nat) (buildingId : Nat) : DungeonRoom F :=
  orderEachOwned ownerUid (fun r id u =>
    (r.putUnit id (constructOrder buildingId u)).markDirty id) unitIds r

def reject (r : DungeonRoom F) (cmd : PendingCommand F) (code : RejectCode) :
    DungeonRoom F :=
  { r with rejected := r.rejected ++ [⟨cmd.ownerUid, cmd.clientSeq, code⟩] }

/-- Deduct a cost from a ledger that is known to be there. -/
def payFrom (r : DungeonRoom F) (uid : Nat) (res : PlayerRes) (cost : ResCost) :
    DungeonRoom F :=
  ({ r with playerRes := r.playerRes.insert uid (res.pay cost) }.noteWrap
    (res.payWraps cost)).markResource uid

def applyBuild (r : DungeonRoom F) (cmd : PendingCommand F) : DungeonRoom F :=
  match r.playerRes.lookup cmd.ownerUid with
  | none => r.reject cmd RejectCode.invalidRequest
  | some res =>
      let buildingType := cmd.auxType
      if buildingType = kBuildingCrystal then
        r.reject cmd RejectCode.invalidRequest
      else if !res.canAfford (buildingCost buildingType) then
        r.reject cmd RejectCode.notEnoughResources
      else
        let team := r.teamOf cmd.ownerUid
        let paid := r.payFrom cmd.ownerUid res (buildingCost buildingType)
        let buildingId := paid.nextEntityId
        (paid.spawnBuilding cmd.ownerUid team buildingType cmd.target cmd.yaw
          true).assignConstructors cmd.ownerUid cmd.unitIds buildingId

def applyConstruct (r : DungeonRoom F) (ownerUid : Nat) (unitIds : List Nat)
    (buildingId : Nat) : DungeonRoom F :=
  match r.buildings.lookup buildingId with
  | none => r
  | some b =>
      if !b.underConstruction then r
      else r.assignConstructors ownerUid unitIds buildingId

def applyTrain (r : DungeonRoom F) (cmd : PendingCommand F) : DungeonRoom F :=
  match r.buildings.lookup cmd.targetEntity with
  | none => r.reject cmd RejectCode.invalidEntity
  | some b =>
      if b.ownerUid ≠ cmd.ownerUid ∨ b.underConstruction then
        r.reject cmd RejectCode.invalidEntity
      else if !buildingTrainsUnit b.buildingType cmd.auxType then
        r.reject cmd RejectCode.invalidRequest
      else
        match r.playerRes.lookup cmd.ownerUid with
        | none => r.reject cmd RejectCode.invalidRequest
        | some res =>
            if !res.canAfford (unitCost cmd.auxType) then
              r.reject cmd RejectCode.notEnoughResources
            else
              let paid := r.payFrom cmd.ownerUid res (unitCost cmd.auxType)
              let item : TrainItem F :=
                ⟨cmd.auxType, unitTrainTime cmd.auxType⟩
              (paid.putBuilding cmd.targetEntity
                { b with trainQueue := b.trainQueue ++ [item] }).markBuilding b.id

def enqueueCommand (r : DungeonRoom F) (cmd : PendingCommand F) :
    DungeonRoom F :=
  { r with pending := r.pending ++ [cmd] }

/-- One iteration of the loop of `ApplyPending`. -/
def applyCommand (r : DungeonRoom F) (cmd : PendingCommand F) : DungeonRoom F :=
  match cmd.type with
  | CommandType.move => r.applyMove cmd.ownerUid cmd.unitIds cmd.target cmd.path
  | CommandType.stop => r.applyStop cmd.ownerUid cmd.unitIds
  | CommandType.attack =>
      r.applyAttack cmd.ownerUid cmd.unitIds cmd.targetEntity
  | CommandType.harvest =>
      r.applyHarvest cmd.ownerUid cmd.unitIds cmd.targetEntity
  | CommandType.store => r.applyStore cmd.ownerUid cmd.unitIds cmd.targetEntity
  | CommandType.pickup =>
      r.applyPickup cmd.ownerUid cmd.unitIds cmd.targetEntity
  | CommandType.build => r.applyBuild cmd
  | CommandType.construct =>
      r.applyConstruct cmd.ownerUid cmd.unitIds cmd.targetEntity
  | CommandType.train => r.applyTrain cmd

/-- The loop of `ApplyPending` over a list of commands. -/
def applyCommands (r : DungeonRoom F) (cmds : List (PendingCommand F)) :
    DungeonRoom F :=
  cmds.foldl applyCommand r

def applyPending (r : DungeonRoom F) : DungeonRoom F :=
  { r.applyCommands r.pending with pending := [] }

end DungeonRoom

end RtsGame
