import RtsGame.Shard.Protocol

/-!
# What a room tells its players

The full snapshot, the delta of a tick and the broadcasts of the room life
cycle.  A message is recorded with the players it is for, the routes that are
known for them, and its sequence number.
-/

namespace RtsGame

open Scalar

/-- The calls that the life cycle of a room is made of. -/
inductive RoomCall where
  | spawnInitialUnits
  | beginBattle
  | step
  | broadcastGameOver (winnerTeam : Nat)
deriving DecidableEq, Repr

/-- What a shard does that can be seen from outside. -/
inductive ShardEvent (F : Type) where
  | sent (uids : List Nat) (targets : List (Nat × GatewayRoute))
      (msg : ServerMsg F) (seq : Nat)
  | ran (call : RoomCall) (room : DungeonRoom F)

/-- The iteration orders of the hash maps of a room. -/
structure RoomOrders where
  players : IterOrder
  world : IterOrder
  ledgers : IterOrder

/-- The iteration orders of the hash maps of a shard. -/
structure Orders where
  rooms : IterOrder
  room : Nat -> RoomOrders

/-- The orders in which the entries happen to be stored. -/
def Orders.stored : Orders :=
  ⟨IterOrder.stored, fun _ =>
    ⟨IterOrder.stored, IterOrder.stored, IterOrder.stored⟩⟩

abbrev Routes := Table GatewayRoute

def kDefaultTickRate : Nat := 20
def kFullSnapshotInterval : Nat := 20

def kTickSeconds {F : Type} [Scalar F] : F := lit 0.05

variable {F : Type} [Scalar F]

def sendToPlayers (routes : Routes) (uids : List Nat) (msg : ServerMsg F)
    (seq : Nat) : List (ShardEvent F) :=
  if uids.isEmpty then []
  else
    [ShardEvent.sent uids
      (uids.filterMap fun uid =>
        (routes.lookup uid).map fun route => (uid, route)) msg seq]

def sendToPlayer (routes : Routes) (uid : Nat) (msg : ServerMsg F) :
    List (ShardEvent F) :=
  sendToPlayers routes [uid] msg 0

def sendCommandRejected (routes : Routes) (uid roomId clientSeq : Nat)
    (code : ErrorCode) (reason : String) : List (ShardEvent F) :=
  sendToPlayer routes uid (ServerMsg.commandRejectedNtf roomId clientSeq code reason)

/-!
## Broadcasts
-/

def broadcastRoomState (routes : Routes) (ω : RoomOrders)
    (room : DungeonRoom F) : List (ShardEvent F) :=
  let players := (room.playerList ω.players).map fun p =>
    (⟨p.uid, toProtoTeam p.team, p.ready⟩ : RoomPlayer)
  (room.playerUids ω.players).flatMap fun uid =>
    sendToPlayer routes uid (ServerMsg.roomStateNtf room.roomId players)

def broadcastGameStart (routes : Routes) (ω : RoomOrders)
    (room : DungeonRoom F) : List (ShardEvent F) :=
  (room.playerUids ω.players).flatMap fun uid =>
    sendToPlayer routes uid
      (ServerMsg.gameStartNtf room.roomId room.serverTick kDefaultTickRate
        kFullSnapshotInterval ((room.roomId * 1103515245 + 12345) % 2 ^ 64))

def broadcastGameOver (routes : Routes) (ω : RoomOrders)
    (room : DungeonRoom F) (winnerTeam : Nat) : List (ShardEvent F) :=
  ShardEvent.ran (RoomCall.broadcastGameOver winnerTeam) room ::
    sendToPlayers routes (room.playerUids ω.players)
      (ServerMsg.gameOverNtf room.roomId room.serverTick
        (toProtoTeam winnerTeam)) room.serverTick

/-!
## Snapshots and deltas
-/

def snapshotOf (ω : RoomOrders) (room : DungeonRoom F) : SnapshotNtf F where
  roomId := room.roomId
  serverTick := room.serverTick
  units := (ω.world.values room.units).map fillUnitSnapshot
  buildings := (ω.world.values room.buildings).map fillBuildingSnapshot
  resourceFields := (ω.world.values room.fields).map fillFieldSnapshot
  resourceDrops := (ω.world.values room.drops).map fillDropSnapshot
  resources := (ω.ledgers.visit room.playerRes).filterMap fun uid =>
    (room.playerRes.lookup uid).map (fillPlayerResources uid)

def sendFullSnapshot (routes : Routes) (ω : RoomOrders)
    (room : DungeonRoom F) : List (ShardEvent F) :=
  sendToPlayers routes (room.playerUids ω.players)
    (ServerMsg.snapshotNtf (snapshotOf ω room)) room.serverTick

/-- The states that the `EntitySpawnNtf` messages of a tick carry, in order. -/
def spawnStates (room : DungeonRoom F) : List (EntityState F) :=
  (room.spawned.filterMap fun id =>
      (room.units.lookup id).map fun u =>
        EntityState.unit (fillUnitSnapshot u)) ++
    (room.buildingSpawned.filterMap fun id =>
      (room.buildings.lookup id).map fun b =>
        EntityState.building (fillBuildingSnapshot b)) ++
    (room.fieldSpawned.filterMap fun id =>
      (room.fields.lookup id).map fun f =>
        EntityState.resourceField (fillFieldSnapshot f)) ++
    (room.dropSpawned.filterMap fun id =>
      (room.drops.lookup id).map fun d =>
        EntityState.resourceDrop (fillDropSnapshot d))

/-- The entities that the `EntityDespawnNtf` messages of a tick name, in order. -/
def despawnRefs (room : DungeonRoom F) : List (EntityType × Nat) :=
  room.despawned.map (fun id => (EntityType.unit, id)) ++
    room.buildingDespawned.map (fun id => (EntityType.building, id)) ++
    room.fieldDespawned.map (fun id => (EntityType.resourceField, id)) ++
    room.dropDespawned.map (fun id => (EntityType.resourceDrop, id))

/-- The `WorldDeltaNtf` of a tick; newly spawned entities are left out. -/
def deltaOf (ω : RoomOrders) (room : DungeonRoom F) : WorldDeltaNtf F where
  roomId := room.roomId
  serverTick := room.serverTick
  units := (ω.world.order room.dirty).filterMap fun id =>
    if id ∈ room.spawned then none
    else (room.units.lookup id).map fillUnitSnapshot
  buildings := (ω.world.order room.buildingDirty).filterMap fun id =>
    if id ∈ room.buildingSpawned then none
    else (room.buildings.lookup id).map fillBuildingSnapshot
  resources := (ω.ledgers.order room.resourceDirty).filterMap fun uid =>
    (room.playerRes.lookup uid).map (fillPlayerResources uid)

def WorldDeltaNtf.hasChanges (delta : WorldDeltaNtf F) : Bool :=
  !(delta.units.isEmpty && delta.buildings.isEmpty && delta.resources.isEmpty)

/-- The messages of `SendDelta`, in the order in which they are sent. -/
def deltaMsgs (ω : RoomOrders) (room : DungeonRoom F) : List (ServerMsg F) :=
  (spawnStates room).map (ServerMsg.entitySpawnNtf room.roomId room.serverTick) ++
    (despawnRefs room).map (fun ref =>
      ServerMsg.entityDespawnNtf room.roomId room.serverTick ref.1 ref.2) ++
    (if (deltaOf ω room).hasChanges then
      [ServerMsg.worldDeltaNtf (deltaOf ω room)] else [])

def sendDelta (routes : Routes) (ω : RoomOrders) (room : DungeonRoom F) :
    List (ShardEvent F) :=
  (deltaMsgs ω room).flatMap fun msg =>
    sendToPlayers routes (room.playerUids ω.players) msg room.serverTick

/-!
## One tick of one room
-/

/-- The room when the simulation step of a tick begins. -/
def DungeonRoom.beforeStep (room : DungeonRoom F) : DungeonRoom F :=
  room.applyPending.takeRejected.1

/-- The room when a tick is announced: stepped and counted, but not cleared. -/
def DungeonRoom.afterStep (ω : RoomOrders) (room : DungeonRoom F) :
    DungeonRoom F :=
  (room.beforeStep.step ω.world kTickSeconds).nextServerTick

def syncEvents (routes : Routes) (ω : RoomOrders) (room : DungeonRoom F) :
    List (ShardEvent F) :=
  if room.serverTick % kFullSnapshotInterval = 0 then
    sendFullSnapshot routes ω room
  else sendDelta routes ω room

/-- The body of the loop of `TickRooms` for a running room. -/
def tickRoom (routes : Routes) (ω : RoomOrders) (roomId : Nat)
    (room : DungeonRoom F) : DungeonRoom F × List (ShardEvent F) :=
  let rejections := room.applyPending.takeRejected.2.flatMap fun rej =>
    sendCommandRejected routes rej.uid roomId rej.clientSeq
      rej.code.toErrorCode "command rejected"
  let stepped := room.afterStep ω
  let events := rejections ++
    [ShardEvent.ran RoomCall.step room.beforeStep] ++
    syncEvents routes ω stepped
  let cleared := stepped.clearFrameChanges
  match cleared.checkGameOver with
  | none => (cleared, events)
  | some winnerTeam =>
      (cleared.setGameOver true,
        events ++ broadcastGameOver routes ω (cleared.setGameOver true) winnerTeam)

end RtsGame
