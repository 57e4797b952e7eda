import RtsGame.Library.Table
import RtsGame.Library.Words
import RtsGame.Scalar

/-!
# The world state of a room

The entities, commands and tables of `DungeonRoom.h`.  Identifiers, team
numbers, type codes and the 64-bit counters are natural numbers; the 32-bit
quantities that are added and subtracted (ledgers, field and drop amounts,
loads) are machine words.
-/

namespace RtsGame

open Scalar

/-!
## Constants
-/

def kUnitVillager : Nat := 0

def kBuildingResourceCamp : Nat := 0
def kBuildingVillagerInn : Nat := 1
def kBuildingBarracks : Nat := 2
def kBuildingCrystal : Nat := 3

def kResFood : Nat := 0
def kResWood : Nat := 1
def kResGold : Nat := 2
def kResNone : Nat := 3

def kRawBerries : Nat := 0
def kRawGold : Nat := 1
def kRawWood : Nat := 2
def kRawFarm : Nat := 3

def kVillagerCarryCapacity : UInt32 := 10
def kHarvestAmount : UInt32 := 1
def kStartFood : UInt32 := 200
def kStartWood : UInt32 := 200
def kStartGold : UInt32 := 100
def kAggroScanTicks : Nat := 5

section FloatConstants

variable {F : Type} [Scalar F]

def kAttackRange : F := lit 2
def kAttackDamage : F := lit 20
def kAttackCooldown : F := lit 1
def kBuildingAttackRange : F := lit 4
def kTrainSpawnFront : F := lit 4
def kTrainWalkOut : F := lit 3
def kTrainLateralSpacing : F := lit 1.5
def kVillagerMoveSpeed : F := lit 6
def kAggroRange : F := lit 8
def kAggroLeash : F := lit 14
def kDefendRange : F := lit 3
def kHarvestRange : F := lit 2
def kHarvestInterval : F := lit 1
def kCarryLiftDuration : F := lit 2.2
def kDropoffRange : F := lit 2.5
def kPickupRange : F := lit 2
def kBuildRange : F := lit 2.5
def kConstructPercentPerSec : F := lit 25

end FloatConstants

/-- `UnitState` of the protocol. -/
inductive UnitState where
  | idle
  | moving
  | working
  | attacking
  | dead
deriving DecidableEq, Repr

inductive WorkerTask where
  | none
  | gathering
  | preparingReturn
  | returning
  | pickup
  | constructing
deriving DecidableEq, Repr

inductive CommandType where
  | move
  | stop
  | attack
  | harvest
  | store
  | pickup
  | build
  | construct
  | train
deriving DecidableEq, Repr

/-- The subset of `ErrorCode` that a room reports. -/
inductive RejectCode where
  | invalidRequest
  | invalidEntity
  | notEnoughResources
deriving DecidableEq, Repr

/-!
## Costs and ledgers
-/

structure ResCost where
  food : UInt32
  wood : UInt32
  gold : UInt32
deriving DecidableEq, Repr

def buildingCost (buildingType : Nat) : ResCost :=
  if buildingType = kBuildingResourceCamp then ⟨0, 50, 0⟩
  else if buildingType = kBuildingVillagerInn then ⟨0, 100, 0⟩
  else if buildingType = kBuildingBarracks then ⟨0, 150, 0⟩
  else ⟨0, 0, 0⟩

def buildingMaxHp {F : Type} [Scalar F] (buildingType : Nat) : F :=
  if buildingType = kBuildingResourceCamp then lit 200
  else if buildingType = kBuildingVillagerInn then lit 300
  else if buildingType = kBuildingBarracks then lit 400
  else if buildingType = kBuildingCrystal then lit 300
  else lit 200

def unitCost (_unitType : Nat) : ResCost := ⟨50, 0, 0⟩

def unitTrainTime {F : Type} [Scalar F] (_unitType : Nat) : F := lit 2

def buildingTrainsUnit (buildingType unitType : Nat) : Bool :=
  if unitType = kUnitVillager then
    buildingType = kBuildingVillagerInn || buildingType = kBuildingCrystal
  else buildingType = kBuildingBarracks

def rawToResourceType (raw : Nat) : Nat :=
  if raw = kRawBerries then kResFood
  else if raw = kRawFarm then kResFood
  else if raw = kRawWood then kResWood
  else if raw = kRawGold then kResGold
  else kResNone

structure PlayerRes where
  food : UInt32 := 0
  wood : UInt32 := 0
  gold : UInt32 := 0
deriving DecidableEq, Repr

namespace PlayerRes

def canAfford (p : PlayerRes) (c : ResCost) : Bool :=
  p.food ≥ c.food && p.wood ≥ c.wood && p.gold ≥ c.gold

def pay (p : PlayerRes) (c : ResCost) : PlayerRes where
  food := p.food - c.food
  wood := p.wood - c.wood
  gold := p.gold - c.gold

/-- Does one of the subtractions of `pay` wrap? -/
def payWraps (p : PlayerRes) (c : ResCost) : Bool :=
  subWraps p.food c.food || subWraps p.wood c.wood || subWraps p.gold c.gold

def add (p : PlayerRes) (resType : Nat) (amount : UInt32) : PlayerRes :=
  if resType = kResFood then { p with food := p.food + amount }
  else if resType = kResWood then { p with wood := p.wood + amount }
  else if resType = kResGold then { p with gold := p.gold + amount }
  else p

/-- Does the addition of `add` wrap? -/
def addingWraps (p : PlayerRes) (resType : Nat) (amount : UInt32) : Bool :=
  if resType = kResFood then addWraps p.food amount
  else if resType = kResWood then addWraps p.wood amount
  else if resType = kResGold then addWraps p.gold amount
  else false

end PlayerRes

/-!
## Entities
-/

structure Vec3f (F : Type) where
  x : F
  y : F
  z : F
deriving DecidableEq, Repr

def Vec3f.zero {F : Type} [Scalar F] : Vec3f F := ⟨lit 0, lit 0, lit 0⟩

structure RoomPlayerState where
  uid : Nat
  team : Nat
  ready : Bool
deriving DecidableEq, Repr

/-- The `Unit` of the source. -/
structure GameUnit (F : Type) where
  id : Nat
  ownerUid : Nat
  team : Nat
  unitType : Nat
  pos : Vec3f F
  target : Vec3f F
  hasTarget : Bool
  path : List (Vec3f F)
  pathIndex : Nat
  yaw : F
  hp : F
  speed : F
  state : UnitState
  attackTarget : Nat
  attackCd : F
  task : WorkerTask
  gatherFieldId : Nat
  dropoffId : Nat
  pickupDropId : Nat
  buildTargetId : Nat
  interactionOffset : Vec3f F
  carriedAmount : UInt32
  carriedRaw : Nat
  workCd : F
  autoAggro : Bool
  aggroOrigin : Vec3f F
deriving DecidableEq, Repr

structure TrainItem (F : Type) where
  unitType : Nat
  remaining : F
deriving DecidableEq, Repr

structure Building (F : Type) where
  id : Nat
  ownerUid : Nat
  team : Nat
  buildingType : Nat
  pos : Vec3f F
  yaw : F
  hp : F
  maxHp : F
  constructedPercent : F
  underConstruction : Bool
  trainQueue : List (TrainItem F)
deriving DecidableEq, Repr

structure ResourceFieldEntity (F : Type) where
  id : Nat
  raw : Nat
  pos : Vec3f F
  yaw : F
  amountLeft : UInt32
deriving DecidableEq, Repr

structure ResourceDropEntity (F : Type) where
  id : Nat
  raw : Nat
  pos : Vec3f F
  amount : UInt32
deriving DecidableEq, Repr

/-!
## Commands
-/

structure PendingCommand (F : Type) where
  type : CommandType
  ownerUid : Nat
  clientSeq : Nat
  unitIds : List Nat
  target : Vec3f F
  path : List (Vec3f F)
  targetEntity : Nat
  auxType : Nat
  yaw : F
deriving DecidableEq, Repr

structure RejectedCommand where
  uid : Nat
  clientSeq : Nat
  code : RejectCode
deriving DecidableEq, Repr

/-!
## The room

The frame-change sets are lists without repetition, the frame-change vectors
lists in push order.  The last field is not in the source: it is raised when a
32-bit addition or subtraction on ledgers, amounts or loads wraps, and never
lowered again.
-/

structure DungeonRoom (F : Type) where
  roomId : Nat
  roomName : String
  maxPlayers : Nat
  started : Bool := false
  aggroScanTick : Nat := 0
  serverTick : Nat := 0
  players : Table RoomPlayerState := ∅
  playerRes : Table PlayerRes := ∅
  nextEntityId : Nat := 1
  units : Table (GameUnit F) := ∅
  buildings : Table (Building F) := ∅
  fields : Table (ResourceFieldEntity F) := ∅
  drops : Table (ResourceDropEntity F) := ∅
  dirty : List Nat := []
  spawned : List Nat := []
  despawned : List Nat := []
  buildingDirty : List Nat := []
  buildingSpawned : List Nat := []
  buildingDespawned : List Nat := []
  fieldDirty : List Nat := []
  fieldSpawned : List Nat := []
  fieldDespawned : List Nat := []
  dropSpawned : List Nat := []
  dropDespawned : List Nat := []
  resourceDirty : List Nat := []
  pending : List (PendingCommand F) := []
  rejected : List RejectedCommand := []
  initialTeamCount : Nat := 0
  initialCrystalTeamCount : Nat := 0
  battleBegun : Bool := false
  gameOver : Bool := false
  wrapped : Bool := false

end RtsGame
