import RtsGame.Library.Runs
import RtsGame.Shard.Sync

/-!
# The logic shard

A logic shard owns a set of rooms and an index from players to rooms.  It
handles one task at a time and ticks all running rooms.  Everything it does is
a function of its state, the input and the iteration orders of its hash maps.
-/

namespace RtsGame

open Scalar

def kDefaultMaxPlayers : Nat := 2
def kMaxRoomPlayers : Nat := 4
def kStartUnitsPerPlayer : Nat := 6

section Layout

variable {F : Type} [Scalar F]

def kUnitHp : F := lit 100
def kFormationColumnSpacing : F := lit 2.8
def kFormationRowSpacing : F := lit 3

structure InitialTeamLayout (F : Type) where
  barracks : Vec3f F
  unitCenter : Vec3f F
  right : Vec3f F
  forward : Vec3f F

def initialLayoutForTeam (team : Nat) : InitialTeamLayout F :=
  if team = 0 then
    ⟨⟨lit 19.3, lit 0, lit 43.71⟩, ⟨lit 31, lit 0, lit 50⟩,
      ⟨lit 1, lit 0, lit 0⟩, ⟨lit 0, lit 0, lit 1⟩⟩
  else if team = 1 then
    ⟨⟨lit 118.63121, lit 0, lit 133.266647⟩, ⟨lit 111.708, lit 0, lit 128.335⟩,
      ⟨lit (-0.5801302), lit 0, lit 0.814503⟩,
      ⟨lit (-0.8144982), lit 0, lit (-0.5801538)⟩⟩
  else
    let offset : F := ofNat (team - 1) * lit 30
    ⟨⟨lit 118.63121 + offset, lit 0, lit 133.266647⟩,
      ⟨lit 111.708 + offset, lit 0, lit 128.335⟩,
      ⟨lit 1, lit 0, lit 0⟩, ⟨lit 0, lit 0, lit (-1)⟩⟩

/-- The helper `Offset` of the source. -/
def offsetAlong (origin direction : Vec3f F) (distance : F) : Vec3f F :=
  ⟨origin.x + direction.x * distance, origin.y + direction.y * distance,
    origin.z + direction.z * distance⟩

def directionYaw (direction : Vec3f F) : F := atan2 direction.x direction.z

/-- The resource fields around a base: raw material, distances and amount. -/
def startFields : List (Nat × Rat × Rat × UInt32) :=
  [(kRawBerries, -11, 10, 450), (kRawBerries, -14, 13.5, 450),
    (kRawBerries, -8, 15.5, 450),
    (kRawWood, 16, 7, 600), (kRawWood, 19, 11, 600), (kRawWood, 22, 14.5, 600),
    (kRawGold, -3.5, 20, 400), (kRawGold, 3.5, 21.5, 400)]

def spawnStartUnit (layout : InitialTeamLayout F) (player : RoomPlayerState)
    (room : DungeonRoom F) (i : Nat) : DungeonRoom F :=
  let row : F := ofNat (i / 3)
  let column : F := ofNat (i % 3)
  let pos := offsetAlong layout.unitCenter layout.right
    ((column - lit 1) * kFormationColumnSpacing)
  room.spawnUnit player.uid player.team kUnitVillager
    (offsetAlong pos layout.forward ((row - lit 0.5) * kFormationRowSpacing))
    kUnitHp kVillagerMoveSpeed (directionYaw layout.forward)

def spawnStartField (layout : InitialTeamLayout F) (room : DungeonRoom F)
    (entry : Nat × Rat × Rat × UInt32) : DungeonRoom F :=
  room.spawnResourceField entry.1
    (offsetAlong (offsetAlong layout.barracks layout.right (lit entry.2.1))
      layout.forward (lit entry.2.2.1))
    entry.2.2.2

/-- The iteration of `SpawnInitialUnits` for one player. -/
def spawnBase (room : DungeonRoom F) (player : RoomPlayerState) :
    DungeonRoom F :=
  let layout : InitialTeamLayout F := initialLayoutForTeam player.team
  let withCrystal := room.spawnBuilding player.uid player.team kBuildingCrystal
    layout.barracks (directionYaw layout.forward) false
  let withUnits := (List.range kStartUnitsPerPlayer).foldl
    (spawnStartUnit layout player) withCrystal
  startFields.foldl (spawnStartField layout) withUnits

def spawnInitialUnits (ω : RoomOrders) (room : DungeonRoom F) : DungeonRoom F :=
  (room.playerList ω.players).foldl spawnBase room

end Layout

/-!
## State
-/

structure LogicShard (F : Type) where
  shardId : Nat
  shardCount : Nat
  uidToRoom : Table Nat := ∅
  uidRoute : Routes := ∅
  rooms : Table (DungeonRoom F) := ∅
  nextRoomId : Nat := 1

namespace LogicShard

variable {B F : Type} [Scalar F]

def create (shardId shardCount : Nat) : LogicShard F where
  shardId := shardId
  shardCount := if shardCount = 0 then 1 else shardCount

def putRoom (s : LogicShard F) (roomId : Nat) (room : DungeonRoom F) :
    LogicShard F :=
  { s with rooms := s.rooms.insert roomId room }

def normalizeMaxPlayers (maxPlayers : Nat) : Nat :=
  if maxPlayers = 0 then kDefaultMaxPlayers else min maxPlayers kMaxRoomPlayers

def resolveRoomId (envelope : GateToGameEnvelope B) (uidToRoom : Table Nat)
    (uid : Nat) : Nat :=
  if envelope.roomId ≠ 0 then envelope.roomId
  else
    match uidToRoom.lookup uid with
    | some roomId => roomId
    | none => 0

/-- The room id of a request, or the one the envelope or the index suggests. -/
def requestedRoomId (s : LogicShard F) (envelope : GateToGameEnvelope B)
    (uid roomId : Nat) : Nat :=
  if roomId = 0 then resolveRoomId envelope s.uidToRoom uid else roomId

/-- Parse the envelope of a task and then its payload. -/
def parseRequest {alpha : Type} (codec : Codec B F)
    (parse : B -> Option alpha) (task : LogicTask B) :
    Option (GateToGameEnvelope B × alpha) :=
  match codec.envelope task.body with
  | none => none
  | some envelope =>
      match parse envelope.payload with
      | none => none
      | some req => some (envelope, req)

/-!
## Leaving
-/

/-- The team of the first player that the iteration meets. -/
def firstTeam (ω : RoomOrders) (room : DungeonRoom F) : Nat :=
  match room.playerList ω.players with
  | [] => 0
  | player :: _ => player.team

/--
What both leave paths do after the player was removed: drop an empty room, end
a running game, or tell the others.
-/
def settleDeparture (ω : Orders) (s : LogicShard F) (roomId : Nat)
    (wasActive : Bool) (room : DungeonRoom F) :
    LogicShard F × List (ShardEvent F) :=
  if room.isEmpty then ({ s with rooms := s.rooms.erase roomId }, [])
  else if wasActive then
    let finished := room.setGameOver true
    (s.putRoom roomId finished,
      broadcastGameOver s.uidRoute (ω.room roomId) finished
        (firstTeam (ω.room roomId) room))
  else
    (s.putRoom roomId room, broadcastRoomState s.uidRoute (ω.room roomId) room)

def isActive (room : DungeonRoom F) : Bool := room.started && !room.gameOver

def leaveRoomInternal (ω : Orders) (s : LogicShard F) (uid : Nat) :
    LogicShard F × List (ShardEvent F) :=
  match s.uidToRoom.lookup uid with
  | none => (s, [])
  | some roomId =>
      let unlisted := { s with uidToRoom := s.uidToRoom.erase uid }
      match s.rooms.lookup roomId with
      | none => (unlisted, [])
      | some room =>
          settleDeparture ω unlisted roomId (isActive room)
            (room.removePlayer uid).1

def handleClientDisconnected (codec : Codec B F) (ω : Orders)
    (s : LogicShard F) (task : LogicTask B) :
    LogicShard F × List (ShardEvent F) :=
  match codec.disconnectedUid task.body with
  | none => (s, [])
  | some uid =>
      if uid = 0 then (s, [])
      else
        leaveRoomInternal ω { s with uidRoute := s.uidRoute.erase uid } uid

def handleLeaveRoom (codec : Codec B F) (ω : Orders) (s : LogicShard F)
    (task : LogicTask B) : LogicShard F × List (ShardEvent F) :=
  match parseRequest codec codec.leaveRoomReq task with
  | none => (s, [])
  | some (envelope, reqRoomId) =>
      let roomId := s.requestedRoomId envelope task.uid reqRoomId
      match s.rooms.lookup roomId with
      | none => (s, [])
      | some room =>
          let removed := room.removePlayer task.uid
          if !removed.2 then (s.putRoom roomId removed.1, [])
          else
            settleDeparture ω
              { s with uidToRoom := s.uidToRoom.erase task.uid } roomId
              (isActive room) removed.1

/-!
## Creating and joining
-/

/-- Put a player into a room and into the index, and tell everybody. -/
def seat (s : LogicShard F) (uid roomId : Nat) (room : DungeonRoom F) :
    LogicShard F :=
  { s with
    rooms := s.rooms.insert roomId room
    uidToRoom := s.uidToRoom.insert uid roomId }

def newRoomName (roomName : String) (roomId : Nat) : String :=
  if roomName.isEmpty then "room-" ++ toString roomId else roomName

def handleCreateRoom (codec : Codec B F) (ω : Orders) (s : LogicShard F)
    (task : LogicTask B) : LogicShard F × List (ShardEvent F) :=
  match parseRequest codec codec.createRoomReq task with
  | none =>
      (s, sendToPlayer s.uidRoute task.uid
        (ServerMsg.createRoomRsp ErrorCode.invalidRequest 0
          "invalid CreateRoomReq"))
  | some (_, req) =>
      let left := leaveRoomInternal ω s task.uid
      let roomId := s.shardId + s.shardCount * left.1.nextRoomId
      let fresh : DungeonRoom F :=
        match left.1.rooms.lookup roomId with
        | some room => room
        | none =>
            DungeonRoom.create roomId (newRoomName req.roomName roomId)
              (normalizeMaxPlayers req.maxPlayers)
      let room :=
        match fresh.addPlayer task.uid with
        | some (room, _) => room
        | none => fresh
      let seated := seat { left.1 with nextRoomId := left.1.nextRoomId + 1 }
        task.uid roomId room
      (seated,
        left.2 ++
          sendToPlayer seated.uidRoute task.uid
            (ServerMsg.createRoomRsp ErrorCode.none roomId "") ++
          broadcastRoomState seated.uidRoute (ω.room roomId) room)

/-- Leave the current room of a player who asks to join another one. -/
def leaveForJoin (ω : Orders) (s : LogicShard F) (uid roomId : Nat) :
    LogicShard F × List (ShardEvent F) :=
  match s.uidToRoom.lookup uid with
  | none => (s, [])
  | some current =>
      if current ≠ roomId then leaveRoomInternal ω s uid else (s, [])

def handleJoinRoom (codec : Codec B F) (ω : Orders) (s : LogicShard F)
    (task : LogicTask B) : LogicShard F × List (ShardEvent F) :=
  match parseRequest codec codec.joinRoomReq task with
  | none =>
      (s, sendToPlayer s.uidRoute task.uid
        (ServerMsg.joinRoomRsp ErrorCode.invalidRequest 0 ProtoTeam.player
          "invalid JoinRoomReq"))
  | some (_, roomId) =>
      let left := leaveForJoin ω s task.uid roomId
      match left.1.rooms.lookup roomId with
      | none =>
          (left.1, left.2 ++ sendToPlayer left.1.uidRoute task.uid
            (ServerMsg.joinRoomRsp ErrorCode.roomNotFound roomId
              ProtoTeam.player "room not found"))
      | some room =>
          match room.addPlayer task.uid with
          | none =>
              (left.1, left.2 ++ sendToPlayer left.1.uidRoute task.uid
                (ServerMsg.joinRoomRsp ErrorCode.invalidRequest roomId
                  ProtoTeam.player "room is full"))
          | some (joined, team) =>
              (seat left.1 task.uid roomId joined,
                left.2 ++
                  sendToPlayer left.1.uidRoute task.uid
                    (ServerMsg.joinRoomRsp ErrorCode.none roomId
                      (toProtoTeam team) "") ++
                  broadcastRoomState left.1.uidRoute (ω.room roomId) joined)

/-!
## Starting a game
-/

/-- The rooms in which the units are spawned and the battle begins. -/
def startGame (routes : Routes) (ω : RoomOrders) (room : DungeonRoom F) :
    DungeonRoom F × List (ShardEvent F) :=
  let started := room.setStarted true
  let spawned := spawnInitialUnits ω started
  let begun := spawned.beginBattle
  (begun.clearFrameChanges,
    broadcastGameStart routes ω started ++
      [ShardEvent.ran RoomCall.spawnInitialUnits started,
        ShardEvent.ran RoomCall.beginBattle spawned] ++
      sendFullSnapshot routes ω begun)

def handlePlayerReady (codec : Codec B F) (ω : Orders) (s : LogicShard F)
    (task : LogicTask B) : LogicShard F × List (ShardEvent F) :=
  match parseRequest codec codec.playerReadyReq task with
  | none => (s, [])
  | some (envelope, req) =>
      let roomId := s.requestedRoomId envelope task.uid req.roomId
      match s.rooms.lookup roomId with
      | none => (s, [])
      | some room =>
          match room.setReady task.uid req.ready with
          | none => (s, [])
          | some readied =>
              let state := broadcastRoomState s.uidRoute (ω.room roomId) readied
              if readied.isFull && readied.allReady && !readied.started then
                let game := startGame s.uidRoute (ω.room roomId) readied
                (s.putRoom roomId game.1, state ++ game.2)
              else (s.putRoom roomId readied, state)

def handleEnterBattle (codec : Codec B F) (s : LogicShard F)
    (task : LogicTask B) : LogicShard F × List (ShardEvent F) :=
  match parseRequest codec codec.enterBattleReq task with
  | none =>
      (s, sendToPlayer s.uidRoute task.uid
        (ServerMsg.enterBattleRsp ErrorCode.invalidRequest 0 0
          "invalid EnterBattleReq"))
  | some (envelope, reqRoomId) =>
      let roomId := s.requestedRoomId envelope task.uid reqRoomId
      match s.rooms.lookup roomId with
      | none =>
          (s, sendToPlayer s.uidRoute task.uid
            (ServerMsg.enterBattleRsp ErrorCode.roomNotFound roomId 0
              "room not found"))
      | some room =>
          if !room.hasPlayer task.uid then
            (s, sendToPlayer s.uidRoute task.uid
              (ServerMsg.enterBattleRsp ErrorCode.notInRoom roomId 0
                "player is not in room"))
          else
            (s, sendToPlayer s.uidRoute task.uid
              (ServerMsg.enterBattleRsp ErrorCode.none roomId room.serverTick ""))

/-!
## Commands
-/

/-- The result of reading the payload of a command. -/
inductive CommandReading (F : Type) where
  | malformed (reason : String)
  | notSimulated
  | command (cmd : PendingCommand F)

/-- A command with the defaults of `PendingCommand`. -/
def blankCommand (type : CommandType) (ownerUid : Nat) : PendingCommand F where
  type := type
  ownerUid := ownerUid
  clientSeq := 0
  unitIds := []
  target := Vec3f.zero
  path := []
  targetEntity := 0
  auxType := 0
  yaw := lit 0

def readTargetCmd (type : CommandType) (uid clientSeq : Nat)
    (reason : String) : Option TargetCmd -> CommandReading F
  | none => CommandReading.malformed reason
  | some cmd =>
      CommandReading.command
        { blankCommand type uid with
          clientSeq := clientSeq
          unitIds := cmd.actorUnitIds
          targetEntity := cmd.targetId }

/-- The last waypoint of a path, if there is one. -/
def moveTarget (cmd : MoveCmd F) : Vec3f F :=
  match cmd.path.getLast? with
  | some waypoint => waypoint
  | none =>
      match cmd.targetPosition with
      | some position => position
      | none => Vec3f.zero

/-- The cases of `HandlePlayerCommand`. -/
def readCommand (codec : Codec B F) (msgId : MsgId) (uid : Nat)
    (envelope : GateToGameEnvelope B) : CommandReading F :=
  let payload := envelope.payload
  let clientSeq := envelope.clientSeq
  match msgId with
  | MsgId.moveCmd =>
      match codec.moveCmd payload with
      | none => CommandReading.malformed "invalid MoveCmd"
      | some cmd =>
          CommandReading.command
            { blankCommand CommandType.move uid with
              unitIds := cmd.actorUnitIds
              target := moveTarget cmd
              path := cmd.path }
  | MsgId.stopCmd =>
      match codec.stopCmd payload with
      | none => CommandReading.malformed "invalid StopCmd"
      | some unitIds =>
          CommandReading.command
            { blankCommand CommandType.stop uid with unitIds := unitIds }
  | MsgId.attackCmd =>
      match codec.attackCmd payload with
      | none => CommandReading.malformed "invalid AttackCmd"
      | some cmd =>
          CommandReading.command
            { blankCommand CommandType.attack uid with
              unitIds := cmd.actorUnitIds
              targetEntity := cmd.target.getD 0 }
  | MsgId.harvestCmd =>
      readTargetCmd CommandType.harvest uid clientSeq "invalid HarvestCmd"
        (codec.harvestCmd payload)
  | MsgId.storeResourceCmd =>
      readTargetCmd CommandType.store uid clientSeq "invalid StoreResourceCmd"
        (codec.storeResourceCmd payload)
  | MsgId.pickupResourceCmd =>
      readTargetCmd CommandType.pickup uid clientSeq "invalid PickupResourceCmd"
        (codec.pickupResourceCmd payload)
  | MsgId.buildCmd =>
      match codec.buildCmd payload with
      | none => CommandReading.malformed "invalid BuildCmd"
      | some cmd =>
          CommandReading.command
            { blankCommand CommandType.build uid with
              clientSeq := clientSeq
              unitIds := cmd.builderUnitIds
              auxType := cmd.buildingType
              target := cmd.position.getD Vec3f.zero
              yaw := cmd.yaw }
  | MsgId.constructCmd =>
      readTargetCmd CommandType.construct uid clientSeq "invalid ConstructCmd"
        (codec.constructCmd payload)
  | MsgId.trainUnitCmd =>
      match codec.trainUnitCmd payload with
      | none => CommandReading.malformed "invalid TrainUnitCmd"
      | some cmd =>
          CommandReading.command
            { blankCommand CommandType.train uid with
              clientSeq := clientSeq
              targetEntity := cmd.producerBuildingId
              auxType := cmd.unitType }
  | _ => CommandReading.notSimulated

def handlePlayerCommand (codec : Codec B F) (s : LogicShard F)
    (task : LogicTask B) : LogicShard F × List (ShardEvent F) :=
  match codec.envelope task.body with
  | none =>
      (s, sendCommandRejected s.uidRoute task.uid 0 task.seq
        ErrorCode.invalidRequest "invalid GateToGameEnvelope")
  | some envelope =>
      let rejected := fun (roomId : Nat) (code : ErrorCode) (reason : String) =>
        (s, (sendCommandRejected s.uidRoute task.uid roomId envelope.clientSeq
          code reason : List (ShardEvent F)))
      let roomId := resolveRoomId envelope s.uidToRoom task.uid
      if roomId = 0 then rejected 0 ErrorCode.notInRoom "player is not in room"
      else
        match s.rooms.lookup roomId with
        | none => rejected roomId ErrorCode.roomNotFound "room not found"
        | some room =>
            if !room.hasPlayer task.uid then
              rejected roomId ErrorCode.notInRoom "player is not in room"
            else if codec.isEmpty envelope.payload then
              rejected roomId ErrorCode.invalidRequest "empty command payload"
            else
              match readCommand codec task.msgId task.uid envelope with
              | CommandReading.malformed reason =>
                  rejected roomId ErrorCode.invalidRequest reason
              | CommandReading.notSimulated => (s, [])
              | CommandReading.command cmd =>
                  (s.putRoom roomId (room.enqueueCommand cmd), [])

/-!
## Dispatch and ticks
-/

/-- The callbacks of `LogicRouter`. -/
def dispatch (codec : Codec B F) (ω : Orders) (s : LogicShard F)
    (task : LogicTask B) : LogicShard F × List (ShardEvent F) :=
  match task.msgId with
  | MsgId.createRoomReq => handleCreateRoom codec ω s task
  | MsgId.joinRoomReq => handleJoinRoom codec ω s task
  | MsgId.leaveRoomReq => handleLeaveRoom codec ω s task
  | MsgId.playerReadyReq => handlePlayerReady codec ω s task
  | MsgId.enterBattleReq => handleEnterBattle codec s task
  | MsgId.clientDisconnectedNtf => handleClientDisconnected codec ω s task
  | MsgId.gateToGameEnvelope => (s, [])
  | MsgId.pingReq => (s, [])
  | MsgId.other => (s, [])
  | _ => handlePlayerCommand codec s task

def handleTask (codec : Codec B F) (ω : Orders) (s : LogicShard F)
    (task : LogicTask B) : LogicShard F × List (ShardEvent F) :=
  dispatch codec ω
    (if task.uid ≠ 0 then
      { s with uidRoute := s.uidRoute.insert task.uid task.origin }
    else s) task

/-- One iteration of the loop of `TickRooms`. -/
def tickOne (ω : Orders) (acc : LogicShard F × List (ShardEvent F))
    (roomId : Nat) : LogicShard F × List (ShardEvent F) :=
  match acc.1.rooms.lookup roomId with
  | none => acc
  | some room =>
      if isActive room then
        let ticked := tickRoom acc.1.uidRoute (ω.room roomId) roomId room
        (acc.1.putRoom roomId ticked.1, acc.2 ++ ticked.2)
      else acc

def tickRooms (ω : Orders) (s : LogicShard F) :
    LogicShard F × List (ShardEvent F) :=
  (ω.rooms.visit s.rooms).foldl (tickOne ω) (s, [])

/-!
## Runs
-/

/-- What a shard is driven by: tasks from its queue and ticks of its timer. -/
inductive ShardInput (B : Type) where
  | task (task : LogicTask B) (ω : Orders)
  | tick (ω : Orders)

def handle (codec : Codec B F) (s : LogicShard F) :
    ShardInput B -> LogicShard F × List (ShardEvent F)
  | ShardInput.task task ω => handleTask codec ω s task
  | ShardInput.tick ω => tickRooms ω s

/-- Start with an empty shard and handle a list of inputs. -/
def run (codec : Codec B F) (shardId shardCount : Nat)
    (inputs : List (ShardInput B)) : LogicShard F × List (ShardEvent F) :=
  runMachine (handle codec) (create shardId shardCount) inputs

/-- A request, handled while the entries are visited as they are stored. -/
def asks (msgId : MsgId) (uid : Nat) (payload : Wire F) : ShardInput (Wire F) :=
  ShardInput.task (Wire.task msgId uid payload) Orders.stored

def waits (ticks : Nat) : List (ShardInput B) :=
  List.replicate ticks (ShardInput.tick Orders.stored)

end LogicShard

end RtsGame
