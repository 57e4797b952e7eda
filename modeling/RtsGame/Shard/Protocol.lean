import RtsGame.Room.Simulation

/-!
# Messages of a logic shard

The requests that reach a logic shard and the messages it sends.  The bytes of
a request are parsed by the generated protocol code, which is not part of the
repository: the parsers are gathered in a `Codec`, about which nothing is
assumed.
-/

namespace RtsGame

open Scalar

/-!
## Requests
-/

/-- The message ids that a server dispatches on; `other` is every other id. -/
inductive MsgId where
  | createRoomReq
  | joinRoomReq
  | leaveRoomReq
  | playerReadyReq
  | enterBattleReq
  | clientDisconnectedNtf
  | moveCmd
  | attackCmd
  | skillCmd
  | harvestCmd
  | storeResourceCmd
  | pickupResourceCmd
  | buildCmd
  | constructCmd
  | trainUnitCmd
  | stopCmd
  | gateToGameEnvelope
  | pingReq
  | other
deriving DecidableEq, Repr

structure GatewayRoute where
  netShard : Nat
  linkId : Nat
  generation : Nat
deriving DecidableEq, Repr

/-- A task for a logic shard; the body is a sequence of bytes. -/
structure LogicTask (B : Type) where
  msgId : MsgId
  uid : Nat
  seq : Nat
  origin : GatewayRoute
  body : B

/-- The envelope of a request; the id of the message inside may be missing. -/
structure GateToGameEnvelope (B : Type) where
  uid : Nat
  roomId : Nat
  innerMsgId : Option MsgId
  clientSeq : Nat
  payload : B

structure CreateRoomReq where
  roomName : String
  maxPlayers : Nat

structure PlayerReadyReq where
  roomId : Nat
  ready : Bool

structure MoveCmd (F : Type) where
  actorUnitIds : List Nat
  targetPosition : Option (Vec3f F)
  path : List (Vec3f F)

structure AttackCmd where
  actorUnitIds : List Nat
  target : Option Nat

/-- Harvest, store and pickup commands: units and one entity. -/
structure TargetCmd where
  actorUnitIds : List Nat
  targetId : Nat

structure BuildCmd (F : Type) where
  builderUnitIds : List Nat
  buildingType : Nat
  position : Option (Vec3f F)
  yaw : F

structure TrainUnitCmd where
  producerBuildingId : Nat
  unitType : Nat

/-!
## Layout of the requests that name a room

The messages that a gateway forwards, except the request to create a room, as
`rts.proto` declares them: every field with its number.
-/

structure EntityRef where
  type : Nat
  id : Nat
deriving DecidableEq, Repr

inductive ClientRequest (F : Type) where
  | joinRoomReq (roomId : Nat)
  | leaveRoomReq (roomId : Nat)
  | playerReadyReq (roomId : Nat) (ready : Bool)
  | enterBattleReq (roomId : Nat)
  | moveCmd (roomId : Nat) (actorUnitIds : List Nat)
      (targetPosition : Option (Vec3f F)) (attackMove : Bool)
      (path : List (Vec3f F))
  | attackCmd (roomId : Nat) (actorUnitIds : List Nat) (target : Option EntityRef)
  | skillCmd (roomId : Nat) (actorUnitIds : List Nat) (skillId : Nat)
      (target : Option EntityRef) (targetPosition : Option (Vec3f F))
  | harvestCmd (roomId : Nat) (actorUnitIds : List Nat) (resourceFieldId : Nat)
  | storeResourceCmd (roomId : Nat) (actorUnitIds : List Nat)
      (resourceCampId : Nat)
  | pickupResourceCmd (roomId : Nat) (actorUnitIds : List Nat)
      (resourceDropId : Nat)
  | buildCmd (roomId : Nat) (builderUnitIds : List Nat) (buildingType : Nat)
      (position : Option (Vec3f F)) (yaw : F)
  | constructCmd (roomId : Nat) (builderUnitIds : List Nat)
      (underConstructionBuildingId : Nat)
  | trainUnitCmd (roomId : Nat) (producerBuildingId : Nat) (unitType : Nat)
  | stopCmd (roomId : Nat) (actorUnitIds : List Nat)

/-- The value of a field, by its kind. -/
inductive FieldValue (F : Type) where
  | varint (n : Nat)
  | varints (ns : List Nat)
  | float (x : F)
  | position (v : Option (Vec3f F))
  | positions (vs : List (Vec3f F))
  | entity (ref : Option EntityRef)

/-- A field that is not written because it has the default value. -/
def FieldValue.IsDefault {F : Type} [Scalar F] : FieldValue F -> Prop
  | varint n => n = 0
  | varints ns => ns = []
  | float x => x = lit 0
  | position v => v = none
  | positions vs => vs = []
  | entity ref => ref = none

namespace ClientRequest

variable {F : Type}

def msgId : ClientRequest F -> MsgId
  | joinRoomReq _ => MsgId.joinRoomReq
  | leaveRoomReq _ => MsgId.leaveRoomReq
  | playerReadyReq _ _ => MsgId.playerReadyReq
  | enterBattleReq _ => MsgId.enterBattleReq
  | moveCmd _ _ _ _ _ => MsgId.moveCmd
  | attackCmd _ _ _ => MsgId.attackCmd
  | skillCmd _ _ _ _ _ => MsgId.skillCmd
  | harvestCmd _ _ _ => MsgId.harvestCmd
  | storeResourceCmd _ _ _ => MsgId.storeResourceCmd
  | pickupResourceCmd _ _ _ => MsgId.pickupResourceCmd
  | buildCmd _ _ _ _ _ => MsgId.buildCmd
  | constructCmd _ _ _ => MsgId.constructCmd
  | trainUnitCmd _ _ _ => MsgId.trainUnitCmd
  | stopCmd _ _ => MsgId.stopCmd

def roomId : ClientRequest F -> Nat
  | joinRoomReq roomId => roomId
  | leaveRoomReq roomId => roomId
  | playerReadyReq roomId _ => roomId
  | enterBattleReq roomId => roomId
  | moveCmd roomId _ _ _ _ => roomId
  | attackCmd roomId _ _ => roomId
  | skillCmd roomId _ _ _ _ => roomId
  | harvestCmd roomId _ _ => roomId
  | storeResourceCmd roomId _ _ => roomId
  | pickupResourceCmd roomId _ _ => roomId
  | buildCmd roomId _ _ _ _ => roomId
  | constructCmd roomId _ _ => roomId
  | trainUnitCmd roomId _ _ => roomId
  | stopCmd roomId _ => roomId

/-- The same request for another room. -/
def withRoom (roomId : Nat) : ClientRequest F -> ClientRequest F
  | joinRoomReq _ => joinRoomReq roomId
  | leaveRoomReq _ => leaveRoomReq roomId
  | playerReadyReq _ ready => playerReadyReq roomId ready
  | enterBattleReq _ => enterBattleReq roomId
  | moveCmd _ ids target attackMove path =>
      moveCmd roomId ids target attackMove path
  | attackCmd _ ids target => attackCmd roomId ids target
  | skillCmd _ ids skill target position => skillCmd roomId ids skill target position
  | harvestCmd _ ids field => harvestCmd roomId ids field
  | storeResourceCmd _ ids camp => storeResourceCmd roomId ids camp
  | pickupResourceCmd _ ids drop => pickupResourceCmd roomId ids drop
  | buildCmd _ ids type position yaw => buildCmd roomId ids type position yaw
  | constructCmd _ ids building => constructCmd roomId ids building
  | trainUnitCmd _ producer type => trainUnitCmd roomId producer type
  | stopCmd _ ids => stopCmd roomId ids

/-- The fields of a message with their numbers. -/
def fields : ClientRequest F -> List (Nat × FieldValue F)
  | joinRoomReq roomId => [(1, FieldValue.varint roomId)]
  | leaveRoomReq roomId => [(1, FieldValue.varint roomId)]
  | playerReadyReq roomId ready =>
      [(1, FieldValue.varint roomId), (2, FieldValue.varint ready.toNat)]
  | enterBattleReq roomId => [(1, FieldValue.varint roomId)]
  | moveCmd roomId ids target attackMove path =>
      [(1, FieldValue.varint roomId), (2, FieldValue.varints ids),
        (3, FieldValue.position target), (4, FieldValue.varint attackMove.toNat),
        (5, FieldValue.positions path)]
  | attackCmd roomId ids target =>
      [(1, FieldValue.varint roomId), (2, FieldValue.varints ids),
        (3, FieldValue.entity target)]
  | skillCmd roomId ids skill target position =>
      [(1, FieldValue.varint roomId), (2, FieldValue.varints ids),
        (3, FieldValue.varint skill), (4, FieldValue.entity target),
        (5, FieldValue.position position)]
  | harvestCmd roomId ids field =>
      [(1, FieldValue.varint roomId), (2, FieldValue.varints ids),
        (3, FieldValue.varint field)]
  | storeResourceCmd roomId ids camp =>
      [(1, FieldValue.varint roomId), (2, FieldValue.varints ids),
        (3, FieldValue.varint camp)]
  | pickupResourceCmd roomId ids drop =>
      [(1, FieldValue.varint roomId), (2, FieldValue.varints ids),
        (3, FieldValue.varint drop)]
  | buildCmd roomId ids type position yaw =>
      [(1, FieldValue.varint roomId), (2, FieldValue.varints ids),
        (3, FieldValue.varint type), (4, FieldValue.position position),
        (5, FieldValue.float yaw)]
  | constructCmd roomId ids building =>
      [(1, FieldValue.varint roomId), (2, FieldValue.varints ids),
        (3, FieldValue.varint building)]
  | trainUnitCmd roomId producer type =>
      [(1, FieldValue.varint roomId), (2, FieldValue.varint producer),
        (3, FieldValue.varint type)]
  | stopCmd roomId ids =>
      [(1, FieldValue.varint roomId), (2, FieldValue.varints ids)]

/-- The number in a field of kind varint; 0 if there is none. -/
def varintField (m : ClientRequest F) (number : Nat) : Nat :=
  match m.fields.lookup number with
  | some (FieldValue.varint n) => n
  | _ => 0

/-- A message all of whose fields have default values takes no bytes. -/
def AllDefault [Scalar F] (m : ClientRequest F) : Prop :=
  forall field, field ∈ m.fields -> field.2.IsDefault

end ClientRequest

/-!
## Parsers
-/

/-- The parsers of the generated protocol code. -/
structure Codec (B F : Type) where
  isEmpty : B -> Bool
  envelope : B -> Option (GateToGameEnvelope B)
  disconnectedUid : B -> Option Nat
  pingReq : B -> Option Nat
  createRoomReq : B -> Option CreateRoomReq
  joinRoomReq : B -> Option Nat
  leaveRoomReq : B -> Option Nat
  playerReadyReq : B -> Option PlayerReadyReq
  enterBattleReq : B -> Option Nat
  moveCmd : B -> Option (MoveCmd F)
  stopCmd : B -> Option (List Nat)
  attackCmd : B -> Option AttackCmd
  harvestCmd : B -> Option TargetCmd
  storeResourceCmd : B -> Option TargetCmd
  pickupResourceCmd : B -> Option TargetCmd
  buildCmd : B -> Option (BuildCmd F)
  constructCmd : B -> Option TargetCmd
  trainUnitCmd : B -> Option TrainUnitCmd
  roomRouteHint : B -> Option Nat

/--
A body that has not been turned into bytes, for concrete runs.  As in the
source, a request is wrapped in an envelope and a disconnect notice is not.
-/
inductive Wire (F : Type) where
  | empty
  | envelope (uid : Nat) (innerMsgId : MsgId) (payload : Wire F)
  | disconnected (uid : Nat)
  | createRoom (req : CreateRoomReq)
  | joinRoom (roomId : Nat)
  | leaveRoom (roomId : Nat)
  | playerReady (req : PlayerReadyReq)
  | enterBattle (roomId : Nat)
  | move (cmd : MoveCmd F)
  | stop (unitIds : List Nat)
  | attack (cmd : AttackCmd)
  | target (cmd : TargetCmd)
  | build (cmd : BuildCmd F)
  | train (cmd : TrainUnitCmd)
  | request (req : ClientRequest F)

namespace Wire

variable {F : Type}

/-- The field `room_id` that a room route hint reads from a payload. -/
def roomRouteHint : Wire F -> Option Nat
  | joinRoom roomId => some roomId
  | leaveRoom roomId => some roomId
  | playerReady req => some req.roomId
  | enterBattle roomId => some roomId
  | request req => some (req.varintField 1)
  | _ => some 0

def targetCmd : Wire F -> Option TargetCmd
  | target cmd => some cmd
  | request (ClientRequest.harvestCmd _ ids field) => some ⟨ids, field⟩
  | request (ClientRequest.storeResourceCmd _ ids camp) => some ⟨ids, camp⟩
  | request (ClientRequest.pickupResourceCmd _ ids drop) => some ⟨ids, drop⟩
  | request (ClientRequest.constructCmd _ ids building) => some ⟨ids, building⟩
  | empty => some ⟨[], 0⟩
  | _ => none

def codec [Scalar F] : Codec (Wire F) F where
  isEmpty := fun | empty => true | _ => false
  envelope := fun
    | envelope uid innerMsgId payload =>
        some ⟨uid, 0, some innerMsgId, 0, payload⟩
    | _ => none
  disconnectedUid := fun | disconnected uid => some uid | _ => none
  pingReq := fun | empty => some 0 | _ => none
  createRoomReq := fun | createRoom req => some req | _ => none
  joinRoomReq := fun
    | joinRoom roomId => some roomId
    | request (ClientRequest.joinRoomReq roomId) => some roomId
    | empty => some 0
    | _ => none
  leaveRoomReq := fun
    | leaveRoom roomId => some roomId
    | request (ClientRequest.leaveRoomReq roomId) => some roomId
    | empty => some 0
    | _ => none
  playerReadyReq := fun
    | playerReady req => some req
    | request (ClientRequest.playerReadyReq roomId ready) => some ⟨roomId, ready⟩
    | empty => some ⟨0, false⟩
    | _ => none
  enterBattleReq := fun
    | enterBattle roomId => some roomId
    | request (ClientRequest.enterBattleReq roomId) => some roomId
    | empty => some 0
    | _ => none
  moveCmd := fun
    | move cmd => some cmd
    | request (ClientRequest.moveCmd _ ids position _ path) =>
        some ⟨ids, position, path⟩
    | empty => some ⟨[], none, []⟩
    | _ => none
  stopCmd := fun
    | stop unitIds => some unitIds
    | request (ClientRequest.stopCmd _ ids) => some ids
    | empty => some []
    | _ => none
  attackCmd := fun
    | attack cmd => some cmd
    | request (ClientRequest.attackCmd _ ids entity) =>
        some ⟨ids, entity.map fun ref => ref.id⟩
    | empty => some ⟨[], none⟩
    | _ => none
  harvestCmd := targetCmd
  storeResourceCmd := targetCmd
  pickupResourceCmd := targetCmd
  buildCmd := fun
    | build cmd => some cmd
    | request (ClientRequest.buildCmd _ ids type position yaw) =>
        some ⟨ids, type, position, yaw⟩
    | empty => some ⟨[], 0, none, lit 0⟩
    | _ => none
  constructCmd := targetCmd
  trainUnitCmd := fun
    | train cmd => some cmd
    | request (ClientRequest.trainUnitCmd _ producer type) => some ⟨producer, type⟩
    | empty => some ⟨0, 0⟩
    | _ => none
  roomRouteHint := roomRouteHint

/-- A request of a player, as it arrives over the first gateway link. -/
def task (msgId : MsgId) (uid : Nat) (payload : Wire F) : LogicTask (Wire F) where
  msgId := msgId
  uid := uid
  seq := 0
  origin := ⟨0, 0, 0⟩
  body := envelope uid msgId payload

end Wire

/-!
## Replies and notifications
-/

inductive ProtoTeam where
  | player
  | enemy1
  | enemy2
  | enemy3
  | neutral
  | none
deriving DecidableEq, Repr

def toProtoTeam (team : Nat) : ProtoTeam :=
  match team with
  | 0 => ProtoTeam.player
  | 1 => ProtoTeam.enemy1
  | 2 => ProtoTeam.enemy2
  | 3 => ProtoTeam.enemy3
  | _ => ProtoTeam.none

inductive ErrorCode where
  | none
  | invalidRequest
  | notLoggedIn
  | roomNotFound
  | notInRoom
  | permissionDenied
  | invalidEntity
  | notEnoughResources
  | invalidBuildPosition
  | serverBusy
deriving DecidableEq, Repr

def RejectCode.toErrorCode : RejectCode -> ErrorCode
  | RejectCode.invalidRequest => ErrorCode.invalidRequest
  | RejectCode.invalidEntity => ErrorCode.invalidEntity
  | RejectCode.notEnoughResources => ErrorCode.notEnoughResources

structure UnitStateSnapshot (F : Type) where
  id : Nat
  team : ProtoTeam
  unitType : Nat
  position : Vec3f F
  yaw : F
  hp : F
  state : UnitState
  carriedAmount : UInt32
  carriedRaw : Nat
deriving DecidableEq, Repr

structure BuildingStateSnapshot (F : Type) where
  id : Nat
  team : ProtoTeam
  buildingType : Nat
  position : Vec3f F
  yaw : F
  hp : F
  constructedPercent : F
deriving DecidableEq, Repr

structure ResourceFieldStateSnapshot (F : Type) where
  id : Nat
  raw : Nat
  position : Vec3f F
  yaw : F
  amountLeft : UInt32
deriving DecidableEq, Repr

structure ResourceDropStateSnapshot (F : Type) where
  id : Nat
  raw : Nat
  position : Vec3f F
  amount : UInt32
deriving DecidableEq, Repr

structure PlayerResources where
  uid : Nat
  food : UInt32
  wood : UInt32
  gold : UInt32
deriving DecidableEq, Repr

section Fill

variable {F : Type}

def fillUnitSnapshot (u : GameUnit F) : UnitStateSnapshot F where
  id := u.id
  team := toProtoTeam u.team
  unitType := u.unitType
  position := u.pos
  yaw := u.yaw
  hp := u.hp
  state := u.state
  carriedAmount := u.carriedAmount
  carriedRaw := u.carriedRaw

def fillBuildingSnapshot (b : Building F) : BuildingStateSnapshot F where
  id := b.id
  team := toProtoTeam b.team
  buildingType := b.buildingType
  position := b.pos
  yaw := b.yaw
  hp := b.hp
  constructedPercent := b.constructedPercent

def fillFieldSnapshot (f : ResourceFieldEntity F) :
    ResourceFieldStateSnapshot F where
  id := f.id
  raw := f.raw
  position := f.pos
  yaw := f.yaw
  amountLeft := f.amountLeft

def fillDropSnapshot (d : ResourceDropEntity F) :
    ResourceDropStateSnapshot F where
  id := d.id
  raw := d.raw
  position := d.pos
  amount := d.amount

def fillPlayerResources (uid : Nat) (p : PlayerRes) : PlayerResources where
  uid := uid
  food := p.food
  wood := p.wood
  gold := p.gold

end Fill

structure SnapshotNtf (F : Type) where
  roomId : Nat
  serverTick : Nat
  units : List (UnitStateSnapshot F)
  buildings : List (BuildingStateSnapshot F)
  resourceFields : List (ResourceFieldStateSnapshot F)
  resourceDrops : List (ResourceDropStateSnapshot F)
  resources : List PlayerResources

structure WorldDeltaNtf (F : Type) where
  roomId : Nat
  serverTick : Nat
  units : List (UnitStateSnapshot F)
  buildings : List (BuildingStateSnapshot F)
  resources : List PlayerResources

inductive EntityType where
  | unit
  | building
  | resourceField
  | resourceDrop
deriving DecidableEq, Repr

/-- The state that an `EntitySpawnNtf` carries. -/
inductive EntityState (F : Type) where
  | unit (state : UnitStateSnapshot F)
  | building (state : BuildingStateSnapshot F)
  | resourceField (state : ResourceFieldStateSnapshot F)
  | resourceDrop (state : ResourceDropStateSnapshot F)

structure RoomPlayer where
  uid : Nat
  team : ProtoTeam
  ready : Bool
deriving DecidableEq, Repr

inductive ServerMsg (F : Type) where
  | createRoomRsp (code : ErrorCode) (roomId : Nat) (reason : String)
  | joinRoomRsp (code : ErrorCode) (roomId : Nat) (assignedTeam : ProtoTeam)
      (reason : String)
  | enterBattleRsp (code : ErrorCode) (roomId serverTick : Nat)
      (reason : String)
  | commandRejectedNtf (roomId clientSeq : Nat) (code : ErrorCode)
      (reason : String)
  | roomStateNtf (roomId : Nat) (players : List RoomPlayer)
  | gameStartNtf (roomId serverTick tickRate snapshotRate randomSeed : Nat)
  | snapshotNtf (snapshot : SnapshotNtf F)
  | entitySpawnNtf (roomId serverTick : Nat) (state : EntityState F)
  | entityDespawnNtf (roomId serverTick : Nat) (type : EntityType) (id : Nat)
  | worldDeltaNtf (delta : WorldDeltaNtf F)
  | gameOverNtf (roomId serverTick : Nat) (winner : ProtoTeam)

end RtsGame
