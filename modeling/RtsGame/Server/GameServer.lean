import RtsGame.Shard.LogicShard

/-!
# The game server

A server has network shards, which read packets from the gateways, and logic
shards, which own the rooms.  They share nothing but the queues of the logic
shards.  A run is any interleaving of packets that arrive, tasks that are taken
from a queue, and ticks.
-/

namespace RtsGame

structure GameServer (B F : Type) where
  logicShardCount : Nat
  shards : Nat -> LogicShard F
  queues : Nat -> List (LogicTask B)
  nextLogicIdx : Nat -> Nat

namespace GameServer

variable {B F : Type}

def create (logicShardCount : Nat) : GameServer B F where
  logicShardCount := logicShardCount
  shards := fun shardId => LogicShard.create shardId logicShardCount
  queues := fun _ => []
  nextLogicIdx := fun _ => 0

def postToLogic (g : GameServer B F) (shardId : Nat) (task : LogicTask B) :
    GameServer B F :=
  if shardId < g.logicShardCount then
    { g with
      queues := Function.update g.queues shardId (g.queues shardId ++ [task]) }
  else g

/-!
## Network shards
-/

def pickLogicShard (g : GameServer B F) (net : Nat) : Nat × GameServer B F :=
  if g.logicShardCount = 0 then (0, g)
  else
    (g.nextLogicIdx net % g.logicShardCount,
      { g with
        nextLogicIdx := Function.update g.nextLogicIdx net
          ((g.nextLogicIdx net + 1) % 2 ^ 64) })

/-- The room that an envelope or its payload names, or 0. -/
def hintedRoom (codec : Codec B F) (envelope : GateToGameEnvelope B) : Nat :=
  if envelope.roomId = 0 then
    match codec.roomRouteHint envelope.payload with
    | some roomId => roomId
    | none => 0
  else envelope.roomId

def resolveLogicShard (codec : Codec B F) (g : GameServer B F) (net : Nat)
    (msgId : MsgId) (envelope : GateToGameEnvelope B) : Nat × GameServer B F :=
  if g.logicShardCount = 0 then (0, g)
  else if msgId = MsgId.createRoomReq then g.pickLogicShard net
  else if hintedRoom codec envelope ≠ 0 then
    (hintedRoom codec envelope % g.logicShardCount, g)
  else (0, g)

def parseGateToGameEnvelope (codec : Codec B F) (body : B) :
    Option (GateToGameEnvelope B × MsgId) :=
  match codec.envelope body with
  | none => none
  | some envelope =>
      match envelope.innerMsgId with
      | none => none
      | some innerMsgId => some (envelope, innerMsgId)

def forwardToLogic (codec : Codec B F) (g : GameServer B F) (net : Nat)
    (route : GatewayRoute) (msgId : MsgId) (seq : Nat) (body : B) :
    GameServer B F :=
  match parseGateToGameEnvelope codec body with
  | none => g
  | some (envelope, _) =>
      if envelope.uid = 0 then g
      else if g.logicShardCount = 0 then g
      else
        let resolved := resolveLogicShard codec g net msgId envelope
        resolved.2.postToLogic resolved.1
          ⟨msgId, envelope.uid, seq, route, body⟩

/-- The task that tells every logic shard about a lost connection. -/
def disconnectTask (body : B) : LogicTask B :=
  ⟨MsgId.clientDisconnectedNtf, 0, 0, ⟨0, 0, 0⟩, body⟩

def handleClientDisconnected (codec : Codec B F) (g : GameServer B F)
    (body : B) : GameServer B F :=
  match codec.disconnectedUid body with
  | none => g
  | some uid =>
      if uid = 0 then g
      else
        (List.range g.logicShardCount).foldl
          (fun g shardId => g.postToLogic shardId (disconnectTask body)) g

def dispatchPacket (codec : Codec B F) (g : GameServer B F) (net : Nat)
    (route : GatewayRoute) (msgId : MsgId) (seq : Nat) (body : B) :
    GameServer B F :=
  match msgId with
  | MsgId.clientDisconnectedNtf => handleClientDisconnected codec g body
  | MsgId.gateToGameEnvelope => g
  | MsgId.pingReq => g
  | MsgId.other => g
  | _ => forwardToLogic codec g net route msgId seq body

def onPacket (codec : Codec B F) (g : GameServer B F) (net : Nat)
    (route : GatewayRoute) (msgId : MsgId) (seq : Nat) (body : B) :
    GameServer B F :=
  if msgId = MsgId.gateToGameEnvelope then
    match parseGateToGameEnvelope codec body with
    | none => g
    | some (envelope, innerMsgId) =>
        dispatchPacket codec g net route innerMsgId envelope.clientSeq body
  else dispatchPacket codec g net route msgId seq body

/-!
## Runs
-/

/-- What can happen next: a packet arrives, or a logic shard works or ticks. -/
inductive ServerInput (B : Type) where
  | packet (net : Nat) (route : GatewayRoute) (msgId : MsgId) (seq : Nat)
      (body : B)
  | work (shardId : Nat) (ω : Orders)
  | tick (shardId : Nat) (ω : Orders)

variable [Scalar F]

/-- A logic shard takes the next task from its queue. -/
def work (codec : Codec B F) (ω : Orders) (g : GameServer B F)
    (shardId : Nat) : GameServer B F × List (ShardEvent F) :=
  match g.queues shardId with
  | [] => (g, [])
  | task :: rest =>
      let handled := LogicShard.handleTask codec ω (g.shards shardId) task
      ({ g with
          shards := Function.update g.shards shardId handled.1
          queues := Function.update g.queues shardId rest }, handled.2)

def tick (ω : Orders) (g : GameServer B F) (shardId : Nat) :
    GameServer B F × List (ShardEvent F) :=
  let ticked := LogicShard.tickRooms ω (g.shards shardId)
  ({ g with shards := Function.update g.shards shardId ticked.1 }, ticked.2)

def handle (codec : Codec B F) (g : GameServer B F) :
    ServerInput B -> GameServer B F × List (ShardEvent F)
  | ServerInput.packet net route msgId seq body =>
      (onPacket codec g net route msgId seq body, [])
  | ServerInput.work shardId ω => work codec ω g shardId
  | ServerInput.tick shardId ω => tick ω g shardId

/-- Start a server and let things happen in the given order. -/
def run (codec : Codec B F) (logicShardCount : Nat)
    (inputs : List (ServerInput B)) : GameServer B F × List (ShardEvent F) :=
  runMachine (handle codec) (create logicShardCount) inputs

end GameServer

end RtsGame
