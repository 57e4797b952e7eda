import RtsGame.Server.NetworkShard
import RtsGame.Server.Placement
import Mathlib.Data.Nat.Pairing

/-!
# Gateways, links and the game server

Clients connect to the work shards of a gateway.  Every work shard has a pool of
connections to the game server and sends each packet over the next one.  Every
connection ends at a slot of some network shard.  Replies go back over the
connection that the logic shard has last heard a player on.

Everything that runs on its own is driven by the inputs: the two ends of every
connection, the network shards, the logic shards and the work shards.  A
connection is a queue at the sender and what is on the wire, in both directions.
Packets carry a stamp that the program does not have: it tells when and over
which connection they were sent.
-/

namespace RtsGame

/-!
## Stamps
-/

/-- When a packet was sent, by whom, over which connection, and past which others. -/
structure Stamp where
  session : Nat
  index : Nat
  conn : Nat
  inFlight : List Nat
deriving DecidableEq, Repr

/-- Which shard sent a message to whom, when, to which link, and past which others. -/
structure OutStamp where
  shardId : Nat
  uid : Nat
  index : Nat
  route : GatewayRoute
  inFlight : List Nat
deriving DecidableEq, Repr

section Codecs

variable {B F : Type}

/-- Parsers do not see a stamp. -/
def Codec.stamped (codec : Codec B F) : Codec (Stamp × B) F where
  isEmpty := fun body => codec.isEmpty body.2
  envelope := fun body =>
    (codec.envelope body.2).map fun e =>
      ⟨e.uid, e.roomId, e.innerMsgId, e.clientSeq, (body.1, e.payload)⟩
  disconnectedUid := fun body => codec.disconnectedUid body.2
  pingReq := fun body => codec.pingReq body.2
  createRoomReq := fun body => codec.createRoomReq body.2
  joinRoomReq := fun body => codec.joinRoomReq body.2
  leaveRoomReq := fun body => codec.leaveRoomReq body.2
  playerReadyReq := fun body => codec.playerReadyReq body.2
  enterBattleReq := fun body => codec.enterBattleReq body.2
  moveCmd := fun body => codec.moveCmd body.2
  stopCmd := fun body => codec.stopCmd body.2
  attackCmd := fun body => codec.attackCmd body.2
  harvestCmd := fun body => codec.harvestCmd body.2
  storeResourceCmd := fun body => codec.storeResourceCmd body.2
  pickupResourceCmd := fun body => codec.pickupResourceCmd body.2
  buildCmd := fun body => codec.buildCmd body.2
  constructCmd := fun body => codec.constructCmd body.2
  trainUnitCmd := fun body => codec.trainUnitCmd body.2
  roomRouteHint := fun body => codec.roomRouteHint body.2

/--
What a gateway writes and the game server reads back.  An envelope that would
exceed the largest body is not built.
-/
structure GateCodec (codec : Codec B F) where
  buildEnvelope : Nat -> MsgId -> B -> Option B
  buildClientDisconnectedNtf : Nat -> B
  envelope : forall uid msgId payload body,
    buildEnvelope uid msgId payload = some body ->
      codec.envelope body = some (buildGateToGameEnvelope uid msgId payload)
  disconnectedUid : forall uid,
    codec.disconnectedUid (buildClientDisconnectedNtf uid) = some uid

end Codecs

/-- The uid of a login: a hash of the account, the token and the id of the session. -/
def makeLoginUid (hash : Nat -> String -> String -> Nat) (session : Nat)
    (account token : String) : Nat :=
  if hash session account token = 0 then 1 else hash session account token

/-- A hash that gives every session uids of its own, as the comment in the source says. -/
structure LoginHash where
  hash : Nat -> String -> String -> Nat
  own : forall session session' account account' token token',
    makeLoginUid hash session account token =
      makeLoginUid hash session' account' token' -> session = session'

/-!
## State
-/

/-- A packet from a gateway to the game server. -/
structure InPacket (B : Type) where
  stamp : Stamp
  msgId : MsgId
  body : B

/-- A packet from the game server to a gateway: a message for some players. -/
structure OutEnvelope (F : Type) where
  targets : List OutStamp
  msg : ServerMsg F
  serverTick : Nat

structure OutTarget where
  linkId : Nat
  generation : Nat
  uids : List OutStamp

structure OutTask (F : Type) where
  targets : List OutTarget
  msg : ServerMsg F
  seq : Nat

/-- `Busy` is `connected` while something is written; every way to fail is `closed`. -/
inductive ConnState where
  | connecting
  | connected
  | closed
deriving DecidableEq, Repr

/-- A connection of a pool, with the slot that it ends at. -/
structure Conn (B F : Type) where
  shard : Nat
  state : ConnState
  route : GatewayRoute
  sendQue : List (InPacket B)
  wire : List (InPacket B)
  backQue : List (OutEnvelope F)
  backWire : List (OutEnvelope F)

/--
A client.  Not in the program are the uids that it has been bound to, those under
which requests have been sent, and the messages that it has received.
-/
structure Csession (F : Type) where
  shard : Nat
  isOpen : Bool
  uid : Nat
  boundUids : List Nat
  sentAs : List Nat
  received : List (OutStamp × ServerMsg F)

/-- A message that waits on another work shard for a session. -/
structure PostedSend (F : Type) where
  session : Nat
  stamp : OutStamp
  msg : ServerMsg F

structure Cluster (B F : Type) where
  workShardCount : Nat
  sessionCount : Nat
  sessions : Nat -> Csession F
  userIdMgr : Nat -> Nat -> Option Nat
  registry : Nat -> Option (Nat × Nat)
  rrIdx : Nat -> Nat
  pool : Nat -> Nat -> Nat
  posts : Nat -> List (PostedSend F)
  connCount : Nat
  conns : Nat -> Conn B F
  netShardCount : Nat
  slots : Nat -> Nat -> Nat × Option Nat
  netQueues : Nat -> List (OutTask F)
  server : GameServer (Stamp × B) F
  nextIndex : Nat
  nextOut : Nat

/-- A task has been handled by a logic shard. -/
structure Handled where
  shardId : Nat
  stamp : Stamp
deriving DecidableEq, Repr

def kGameServerConnCnt : Nat := 8

namespace Cluster

variable {B F : Type}

def newConn (shard : Nat) : Conn B F :=
  ⟨shard, ConnState.connecting, ⟨0, 0, 0⟩, [], [], [], []⟩

def newSession (shard : Nat) : Csession F := ⟨shard, true, 0, [], [], []⟩

def create (workShardCount netShardCount logicShardCount : Nat) : Cluster B F where
  workShardCount := workShardCount
  sessionCount := 0
  sessions := fun _ => ⟨0, false, 0, [], [], []⟩
  userIdMgr := fun _ _ => none
  registry := fun _ => none
  rrIdx := fun _ => 0
  pool := fun w i => w * kGameServerConnCnt + i
  posts := fun _ => []
  connCount := workShardCount * kGameServerConnCnt
  conns := fun c => newConn (c / kGameServerConnCnt)
  netShardCount := netShardCount
  slots := fun _ _ => (0, none)
  netQueues := fun _ => []
  server := GameServer.create logicShardCount
  nextIndex := 0
  nextOut := 0

def setSession (s : Cluster B F) (c : Nat) (session : Csession F) : Cluster B F :=
  { s with sessions := Function.update s.sessions c session }

def setConn (s : Cluster B F) (c : Nat) (conn : Conn B F) : Cluster B F :=
  { s with conns := Function.update s.conns c conn }

/-!
## The pool of a work shard
-/

def isConnAvailable (conn : Conn B F) : Bool := conn.state = ConnState.connected

def isConnPendingOrAvailable (conn : Conn B F) : Bool :=
  conn.state = ConnState.connecting || isConnAvailable conn

/-- `SelectConnUnsafe`, with the number of rounds that are left. -/
def selectConn (w : Nat) : Nat -> Cluster B F -> Option Nat × Cluster B F
  | 0, s => (none, s)
  | rounds + 1, s =>
      let conn := s.pool w (s.rrIdx w % kGameServerConnCnt)
      let moved :=
        { s with rrIdx := Function.update s.rrIdx w ((s.rrIdx w + 1) % 2 ^ 64) }
      if isConnAvailable (s.conns conn) then (some conn, moved)
      else selectConn w rounds moved

/-- `ClientSession::SendData` drops the oldest packet of a full queue. -/
def sendData (s : Cluster B F) (c : Nat) (packet : InPacket B) : Cluster B F :=
  let conn := s.conns c
  let kept :=
    if conn.sendQue.length ≥ kMaxSendQueueDepth then conn.sendQue.tail
    else conn.sendQue
  s.setConn c { conn with sendQue := kept ++ [packet] }

/-- The numbers of the packets on their way to the game server. -/
def inFlight (s : Cluster B F) : List Nat :=
  (List.range s.connCount).flatMap fun c =>
    ((s.conns c).wire ++ (s.conns c).sendQue).map fun packet => packet.stamp.index

def postMessage (s : Cluster B F) (w session : Nat) (msgId : MsgId) (body : B) :
    Cluster B F :=
  let selected := selectConn w kGameServerConnCnt s
  match selected.1 with
  | none => selected.2
  | some c =>
      let sent := selected.2.sendData c
        ⟨⟨session, s.nextIndex, c, s.inFlight⟩, msgId, body⟩
      { sent with nextIndex := s.nextIndex + 1 }

/-- One round of the loop of `detection`. -/
def rebuild (w : Nat) (s : Cluster B F) (i : Nat) : Cluster B F :=
  if isConnPendingOrAvailable (s.conns (s.pool w i)) then s
  else
    { s with
      conns := Function.update s.conns s.connCount (newConn w)
      connCount := s.connCount + 1
      pool := Function.update s.pool w (Function.update (s.pool w) i s.connCount) }

/-!
## Sessions of clients
-/

/-- The messages for which the gateway registers `ForwardClientMsgToGame`. -/
def registersForward : MsgId -> Bool
  | MsgId.clientDisconnectedNtf => false
  | MsgId.gateToGameEnvelope => false
  | MsgId.pingReq => false
  | MsgId.other => false
  | _ => true

def forwardClientMsgToGame {codec : Codec B F} (gc : GateCodec codec)
    (s : Cluster B F) (c : Nat) (msgId : MsgId) (body : B) : Cluster B F :=
  let session := s.sessions c
  if session.uid = 0 then s
  else
    match gc.buildEnvelope session.uid msgId body with
    | none => s
    | some envelope =>
        (s.setSession c
          { session with sentAs := session.uid :: session.sentAs }).postMessage
            session.shard c MsgId.gateToGameEnvelope envelope

def unregister (s : Cluster B F) (uid c : Nat) : Cluster B F :=
  if uid = 0 then s
  else
    match s.registry uid with
    | none => s
    | some (_, owner) =>
        if owner ≠ c then s
        else { s with registry := Function.update s.registry uid none }

def setUserId (s : Cluster B F) (w uid : Nat) (entry : Option Nat) : Cluster B F :=
  { s with
    userIdMgr := Function.update s.userIdMgr w
      (Function.update (s.userIdMgr w) uid entry) }

def bindUid (s : Cluster B F) (c uid : Nat) : Cluster B F :=
  if uid = 0 then s
  else
    let session := s.sessions c
    let unbound :=
      if session.uid ≠ 0 ∧ session.uid ≠ uid then
        (s.unregister session.uid c).setUserId session.shard session.uid none
      else s
    let bound := (unbound.setSession c
      { session with
        uid := uid
        boundUids := uid :: session.boundUids }).setUserId session.shard uid (some c)
    { bound with registry := Function.update bound.registry uid (some (session.shard, c)) }

def handleLoginReq (lh : LoginHash) (s : Cluster B F) (c : Nat)
    (account token : String) : Cluster B F :=
  s.bindUid c (makeLoginUid lh.hash c account token)

def notifyGameServerDisconnect {codec : Codec B F} (gc : GateCodec codec)
    (s : Cluster B F) (c : Nat) : Cluster B F :=
  let session := s.sessions c
  if session.uid = 0 then s
  else
    s.postMessage session.shard c MsgId.clientDisconnectedNtf
      (gc.buildClientDisconnectedNtf session.uid)

/-- `delete_user_session` forgets every uid of the session. -/
def deleteUserSession (s : Cluster B F) (c : Nat) : Cluster B F :=
  let w := (s.sessions c).shard
  { s with
    userIdMgr := Function.update s.userIdMgr w fun uid =>
      if s.userIdMgr w uid = some c then none else s.userIdMgr w uid }

def closeSession {codec : Codec B F} (gc : GateCodec codec) (s : Cluster B F)
    (c : Nat) : Cluster B F :=
  let session := s.sessions c
  if session.isOpen then
    let closed := (s.unregister session.uid c).setSession c
      { session with isOpen := false }
    let notified := notifyGameServerDisconnect gc closed c
    (notified.setUserId session.shard session.uid none).deleteUserSession c
  else s

/-!
## What comes back
-/

/-- `Csession::SendData`. -/
def receive (s : Cluster B F) (c : Nat) (stamp : OutStamp) (msg : ServerMsg F) :
    Cluster B F :=
  let session := s.sessions c
  if session.isOpen then
    s.setSession c { session with received := session.received ++ [(stamp, msg)] }
  else s

def findSessionByUid (s : Cluster B F) (w uid : Nat) : Option Nat :=
  match s.userIdMgr w uid with
  | none => none
  | some c => if (s.sessions c).isOpen then some c else none

/-- `WorkShard::SendToUid`: a session of this shard, or of another one. -/
def sendToUid (w : Nat) (msg : ServerMsg F) (s : Cluster B F) (stamp : OutStamp) :
    Cluster B F :=
  match s.findSessionByUid w stamp.uid with
  | some c => s.receive c stamp msg
  | none =>
      match s.registry stamp.uid with
      | none => s
      | some (target, c) =>
          { s with
            posts := Function.update s.posts target
              (s.posts target ++ [⟨c, stamp, msg⟩]) }

/-- An envelope for nobody would be for everybody, but none is ever built. -/
def forwardGameToClients (s : Cluster B F) (w : Nat) (envelope : OutEnvelope F) :
    Cluster B F :=
  envelope.targets.foldl (sendToUid w envelope.msg) s

/-!
## Messages of the logic shards
-/

/-- The generation of a group is that of the player who was put in last. -/
def groupGeneration (targets : List (Nat × GatewayRoute)) (net linkId : Nat) : Nat :=
  targets.foldl (fun generation target =>
    if target.2.netShard = net ∧ target.2.linkId = linkId then target.2.generation
    else generation) 0

/-- The numbers of the messages on their way to the clients. -/
def outFlight (s : Cluster B F) : List Nat :=
  ((List.range s.netShardCount).flatMap fun net =>
      (s.netQueues net).flatMap fun task =>
        task.targets.flatMap fun target => target.uids.map fun stamp => stamp.index) ++
    ((List.range s.connCount).flatMap fun c =>
      ((s.conns c).backWire ++ (s.conns c).backQue).flatMap fun envelope =>
        envelope.targets.map fun stamp => stamp.index) ++
    ((List.range s.workShardCount).flatMap fun w =>
      (s.posts w).map fun post => post.stamp.index)

/-- The players of a message, numbered and with the link that their group is sent to. -/
def stampTargets (s : Cluster B F) (shardId : Nat)
    (targets : List (Nat × GatewayRoute)) : List OutStamp :=
  targets.zipIdx.map fun entry =>
    { shardId := shardId
      uid := entry.1.1
      index := s.nextOut + entry.2
      route := ⟨entry.1.2.netShard, entry.1.2.linkId,
        groupGeneration targets entry.1.2.netShard entry.1.2.linkId⟩
      inFlight := s.outFlight ++
        (List.range entry.2).map fun earlier => s.nextOut + earlier }

/-- The targets of the task for one network shard, one for each link. -/
def groupTargets (stamps : List OutStamp) (net : Nat) : List OutTarget :=
  let own := stamps.filter fun stamp => stamp.route.netShard = net
  (own.map fun stamp => (stamp.route.linkId, stamp.route.generation)).dedup.map
    fun link =>
      ⟨link.1, link.2, own.filter fun stamp =>
        (stamp.route.linkId, stamp.route.generation) = link⟩

def postToNetwork (s : Cluster B F) (net : Nat) (task : OutTask F) : Cluster B F :=
  if s.netShardCount ≤ net then s
  else
    { s with
      netQueues := Function.update s.netQueues net (s.netQueues net ++ [task]) }

/-- What `SendToPlayers` does once the message is serialized. -/
def sendToNetwork (s : Cluster B F) (shardId : Nat)
    (targets : List (Nat × GatewayRoute)) (msg : ServerMsg F) (seq : Nat) :
    Cluster B F :=
  let stamps := s.stampTargets shardId targets
  let posted := (stamps.map fun stamp => stamp.route.netShard).dedup.foldl
    (fun s net => s.postToNetwork net ⟨groupTargets stamps net, msg, seq⟩) s
  { posted with nextOut := s.nextOut + targets.length }

def sendEvent (shardId : Nat) (s : Cluster B F) : ShardEvent F -> Cluster B F
  | ShardEvent.sent _ targets msg seq => s.sendToNetwork shardId targets msg seq
  | ShardEvent.ran _ _ => s

/-- `PostSend` of the connection at the slot of a target, if it has that generation. -/
def sendToTarget (net : Nat) (task : OutTask F) (s : Cluster B F)
    (target : OutTarget) : Cluster B F :=
  let slot := s.slots net target.linkId
  if slot.1 ≠ target.generation then s
  else
    match slot.2 with
    | none => s
    | some c =>
        let conn := s.conns c
        if conn.state = ConnState.connected then
          let kept :=
            if conn.backQue.length ≥ kMaxSendQueueDepth then conn.backQue.tail
            else conn.backQue
          s.setConn c
            { conn with backQue := kept ++ [⟨target.uids, task.msg, task.seq⟩] }
        else s

/-!
## One step of each party
-/

/-- A client is connected to a work shard. -/
def accept (s : Cluster B F) (w : Nat) : Cluster B F :=
  if w < s.workShardCount then
    { s with
      sessions := Function.update s.sessions s.sessionCount (newSession w)
      sessionCount := s.sessionCount + 1 }
  else s

def login (lh : LoginHash) (s : Cluster B F) (c : Nat) (account token : String) :
    Cluster B F :=
  if (s.sessions c).isOpen then s.handleLoginReq lh c account token else s

def request {codec : Codec B F} (gc : GateCodec codec) (s : Cluster B F) (c : Nat)
    (msgId : MsgId) (body : B) : Cluster B F :=
  if (s.sessions c).isOpen && registersForward msgId then
    forwardClientMsgToGame gc s c msgId body
  else s

/-- Nothing is bound to the slot, or its connection is gone. -/
def slotFree (s : Cluster B F) (net linkId : Nat) : Bool :=
  (s.slots net linkId).2.all fun c => (s.conns c).state = ConnState.closed

/-- A network shard accepts a connection on a free slot. -/
def connect (s : Cluster B F) (c net linkId : Nat) : Cluster B F :=
  if c < s.connCount ∧ (s.conns c).state = ConnState.connecting ∧
      net < s.netShardCount ∧ s.slotFree net linkId then
    let generation := (s.slots net linkId).1 + 1
    { s.setConn c
        { s.conns c with
          state := ConnState.connected
          route := ⟨net, linkId, generation⟩ } with
      slots := Function.update s.slots net
        (Function.update (s.slots net) linkId (generation, some c)) }
  else s

/-- A connection fails; what is on the wire may still arrive. -/
def breakConn (s : Cluster B F) (c : Nat) : Cluster B F :=
  s.setConn c { s.conns c with state := ConnState.closed, backQue := [] }

/-- What is left on the wire of a failed connection is lost. -/
def cutConn (s : Cluster B F) (c : Nat) : Cluster B F :=
  if (s.conns c).state = ConnState.closed then
    s.setConn c { s.conns c with wire := [], backWire := [] }
  else s

/-- The loop of `detection` over the connections of a pool. -/
def detect (s : Cluster B F) (w : Nat) : Cluster B F :=
  if w < s.workShardCount then
    (List.range kGameServerConnCnt).foldl (rebuild w) s
  else s

/-- The gateway writes the next packet of a connection. -/
def write (s : Cluster B F) (c : Nat) : Cluster B F :=
  match (s.conns c).sendQue with
  | [] => s
  | packet :: rest =>
      if isConnAvailable (s.conns c) then
        s.setConn c
          { s.conns c with sendQue := rest, wire := (s.conns c).wire ++ [packet] }
      else s

/-- A network shard reads the next packet of a connection. -/
def arrive (codec : Codec B F) (s : Cluster B F) (c : Nat) : Cluster B F :=
  match (s.conns c).wire with
  | [] => s
  | packet :: rest =>
      { s.setConn c { s.conns c with wire := rest } with
        server := GameServer.onPacket codec.stamped s.server
          (s.conns c).route.netShard (s.conns c).route packet.msgId 0
          (packet.stamp, packet.body) }

/-- A network shard takes the next task from its queue. -/
def netWork (s : Cluster B F) (net : Nat) : Cluster B F :=
  match s.netQueues net with
  | [] => s
  | task :: rest =>
      task.targets.foldl (sendToTarget net task)
        { s with netQueues := Function.update s.netQueues net rest }

/-- A network shard writes the next envelope of a connection. -/
def writeBack (s : Cluster B F) (c : Nat) : Cluster B F :=
  match (s.conns c).backQue with
  | [] => s
  | envelope :: rest =>
      s.setConn c
        { s.conns c with
          backQue := rest, backWire := (s.conns c).backWire ++ [envelope] }

/-- The gateway reads the next envelope of a connection. -/
def arriveBack (s : Cluster B F) (c : Nat) : Cluster B F :=
  match (s.conns c).backWire with
  | [] => s
  | envelope :: rest =>
      (s.setConn c { s.conns c with backWire := rest }).forwardGameToClients
        (s.conns c).shard envelope

/-- A work shard hands over a message that another one has posted. -/
def postWork (s : Cluster B F) (w : Nat) : Cluster B F :=
  match s.posts w with
  | [] => s
  | post :: rest =>
      { s with posts := Function.update s.posts w rest }.receive post.session
        post.stamp post.msg

variable [Scalar F]

/-- A logic shard handles the next task of its queue and sends what it has to say. -/
def work (codec : Codec B F) (s : Cluster B F) (shardId : Nat) (ω : Orders) :
    Cluster B F :=
  let worked := GameServer.work codec.stamped ω s.server shardId
  worked.2.foldl (sendEvent shardId) { s with server := worked.1 }

def tick (s : Cluster B F) (shardId : Nat) (ω : Orders) : Cluster B F :=
  let ticked := GameServer.tick ω s.server shardId
  ticked.2.foldl (sendEvent shardId) { s with server := ticked.1 }

/-!
## Runs
-/

inductive ClusterInput (B : Type) where
  | accepts (w : Nat)
  | logsIn (session : Nat) (account token : String)
  | requests (session : Nat) (msgId : MsgId) (body : B)
  | closes (session : Nat)
  | connects (conn net linkId : Nat)
  | breaks (conn : Nat)
  | cuts (conn : Nat)
  | detects (w : Nat)
  | writes (conn : Nat)
  | arrives (conn : Nat)
  | works (shardId : Nat) (ω : Orders)
  | ticks (shardId : Nat) (ω : Orders)
  | netWorks (net : Nat)
  | writesBack (conn : Nat)
  | arrivesBack (conn : Nat)
  | postWorks (w : Nat)

/-- The next state. -/
def next {codec : Codec B F} (gc : GateCodec codec) (lh : LoginHash)
    (s : Cluster B F) : ClusterInput B -> Cluster B F
  | ClusterInput.accepts w => s.accept w
  | ClusterInput.logsIn c account token => s.login lh c account token
  | ClusterInput.requests c msgId body => request gc s c msgId body
  | ClusterInput.closes c => closeSession gc s c
  | ClusterInput.connects c net linkId => s.connect c net linkId
  | ClusterInput.breaks c => s.breakConn c
  | ClusterInput.cuts c => s.cutConn c
  | ClusterInput.detects w => s.detect w
  | ClusterInput.writes c => s.write c
  | ClusterInput.arrives c => s.arrive codec c
  | ClusterInput.works shardId ω => s.work codec shardId ω
  | ClusterInput.ticks shardId ω => s.tick shardId ω
  | ClusterInput.netWorks net => s.netWork net
  | ClusterInput.writesBack c => s.writeBack c
  | ClusterInput.arrivesBack c => s.arriveBack c
  | ClusterInput.postWorks w => s.postWork w

/-- The task that a step handles. -/
def handled (s : Cluster B F) : ClusterInput B -> List Handled
  | ClusterInput.works shardId _ =>
      ((s.server.queues shardId).take 1).map fun task => ⟨shardId, task.body.1⟩
  | _ => []

def handle {codec : Codec B F} (gc : GateCodec codec) (lh : LoginHash)
    (s : Cluster B F) (input : ClusterInput B) : Cluster B F × List Handled :=
  (next gc lh s input, s.handled input)

/-- Start everything and let things happen in the given order. -/
def run {codec : Codec B F} (gc : GateCodec codec) (lh : LoginHash)
    (workShardCount netShardCount logicShardCount : Nat)
    (inputs : List (ClusterInput B)) : Cluster B F × List Handled :=
  runMachine (handle gc lh) (create workShardCount netShardCount logicShardCount)
    inputs

end Cluster

/-!
## Instances for concrete runs
-/

def Wire.gateCodec {F : Type} [Scalar F] : GateCodec (Wire.codec (F := F)) where
  buildEnvelope := fun uid msgId payload => some (Wire.envelope uid msgId payload)
  buildClientDisconnectedNtf := Wire.disconnected
  envelope := by
    intro uid msgId payload body h
    cases h
    rfl
  disconnectedUid := fun _ => rfl

def LoginHash.byAccount : LoginHash where
  hash := fun session account _ => Nat.pair session account.length + 1
  own := by
    intro session session' account account' token token' h
    have hpair : Nat.pair session account.length =
        Nat.pair session' account'.length := by
      simpa [makeLoginUid] using h
    exact (Nat.pair_eq_pair.mp hpair).left

end RtsGame
