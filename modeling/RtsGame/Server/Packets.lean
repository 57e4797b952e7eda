import RtsGame.Server.Queues
import RtsGame.Server.Recipients
import RtsGame.Shard.Capacity

/-!
# The packets of a game server

A message of a logic shard is serialized once.  A network shard wraps it in an
envelope for every link it goes to and puts that on the link as a packet.  The
server does not look at sizes; the gateway refuses a packet whose body is too
long and closes the link.  As long as no tick announces too large a world, no
packet is refused.
-/

namespace RtsGame

variable {B F : Type}

/-!
## Building packets
-/

/-- The `SendNode` around a serialized message. -/
def buildPacket (msgId : UInt16) (payload : Bytes) : MsgNode :=
  sendNode payload (UInt32.ofNat payload.length) msgId 0

def packetOf (bits : F -> UInt32) (msg : ServerMsg F) : Option MsgNode :=
  (serializeProtoToString (msg.fields bits)).map (buildPacket msg.msgId)

def NetworkShard.buildGameToGatewayEnvelope (task : NetworkTask MsgNode)
    (targetUids : List Nat) : Option MsgNode :=
  (serializeProtoToString (GameToGateEnvelope.fields targetUids task.msgId task.seq
    (extractPacketPayload (some task.body)))).map (buildPacket 20002)

def NetworkShard.buildPongRsp (clientTimeMs serverTimeMs : Nat) : Option MsgNode :=
  (serializeProtoToString (PongRsp.fields clientTimeMs serverTimeMs)).map
    (buildPacket 10004)

/-- A network shard whose packets are bytes. -/
def LinkCodec.bytes (codec : Codec B F) (noBody : B) : LinkCodec B MsgNode F where
  codec := codec
  noBody := noBody
  buildPongRsp := NetworkShard.buildPongRsp
  buildGameToGatewayEnvelope := NetworkShard.buildGameToGatewayEnvelope

/-- The tasks that an event of a logic shard posts, with their network shards. -/
def ShardEvent.networkTasks (bits : F -> UInt32) (ω : SendToPlayers.GroupOrders) :
    ShardEvent F -> List (Nat × NetworkTask MsgNode)
  | ShardEvent.sent _ targets msg seq =>
      match packetOf bits msg with
      | none => []
      | some packet =>
          SendToPlayers.tasks ω (SendToPlayers.group targets) msg.msgId seq packet
  | ShardEvent.ran _ _ => []

/-!
## What the gateway accepts
-/

/-- The gateway reads the packet, whatever follows it on the connection. -/
structure Accepted (packet : MsgNode) : Prop where
  len : packet.totalLen ≤ kPacketHeaderLen + kMaxPacketBodyLen
  read : forall rest, exists node,
    readPacket ClientSession.invalidId (packet.data ++ rest) = some (node, rest)

theorem buildPacket_totalLen {payload : Bytes}
    (h : payload.length < UInt32.size) (msgId : UInt16) :
    (buildPacket msgId payload).totalLen = kPacketHeaderLen + payload.length := by
  unfold buildPacket MsgNode.totalLen
  rw [sendNode_data (UInt32.toNat_ofNat_of_lt' h).symm, List.length_append,
    header_length]

theorem buildPacket_accepted {payload : Bytes} {msgId : UInt16} (hid : msgId ≠ 0)
    (h : payload.length ≤ kMaxPacketBodyLen) : Accepted (buildPacket msgId payload) := by
  have hsize : payload.length < UInt32.size := by
    have hmax : kMaxPacketBodyLen < UInt32.size := by decide
    omega
  constructor
  · rw [buildPacket_totalLen hsize]
    omega
  · intro rest
    exact ⟨⟨payload, msgId, 0⟩,
      (readPacket_eq_some rejectsZero_le).mpr ⟨⟨hid, h⟩, rfl⟩⟩

/-- A longer body is refused, and the link is closed. -/
theorem buildPacket_refused {payload : Bytes} (msgId : UInt16)
    (h : kMaxPacketBodyLen < payload.length) (hsize : payload.length < UInt32.size)
    (rest : Bytes) :
    readPacket ClientSession.invalidId ((buildPacket msgId payload).data ++ rest) =
      none := by
  cases hread : readPacket ClientSession.invalidId
      ((buildPacket msgId payload).data ++ rest) with
  | none => rfl
  | some read =>
      rcases read with ⟨node, left⟩
      rcases (readPacket_eq_some rejectsZero_le).mp hread with ⟨⟨_, hle⟩, hstream⟩
      have hlen := UInt32.toNat_ofNat_of_lt' hsize
      unfold buildPacket at hstream
      rw [sendNode_data hlen.symm, encoding_eq hle, List.append_assoc,
        List.append_assoc] at hstream
      -- Both streams start with ten bytes of header, the last four of which agree.
      have hheaders := (List.append_inj hstream (by rw [header_length, header_length])).left
      have hslices := slices_of_header msgId 0 (UInt32.ofNat payload.length)
      have hslices' := slices_of_header node.msgId node.flags
        (UInt32.ofNat node.data.length)
      rw [hheaders] at hslices
      have hsame := hslices.right.right.right.symm.trans hslices'.right.right.right
      have hnumbers := congrArg networkToHostLong hsame
      rw [networkToHostLong_hostToNetworkLong, networkToHostLong_hostToNetworkLong]
        at hnumbers
      have hlengths := congrArg UInt32.toNat hnumbers
      rw [hlen, bodyLen_toNat hle] at hlengths
      omega

theorem serializeProtoToString_eq {fields : List ProtoField} {payload : Bytes}
    (h : serializeProtoToString fields = some payload) :
    payload = encodeFields fields ∧ payload.length < 2 ^ 31 := by
  unfold serializeProtoToString at h
  split at h
  · rename_i hlength
    cases h
    exact ⟨rfl, hlength⟩
  · cases h

/-!
## Tasks that fit
-/

theorem buildPongRsp_accepted {clientTimeMs serverTimeMs : Nat} {packet : MsgNode}
    (h : NetworkShard.buildPongRsp clientTimeMs serverTimeMs = some packet) : Accepted packet := by
  rcases Option.map_eq_some_iff.mp h with ⟨payload, hpayload, rfl⟩
  rw [(serializeProtoToString_eq hpayload).left]
  refine buildPacket_accepted (by decide) ?_
  exact Nat.le_trans (PongRsp.fields_le clientTimeMs serverTimeMs) (by decide)

/-- The packet inside a task holds the serialized message. -/
theorem packetOf_payload {bits : F -> UInt32} {msg : ServerMsg F} {packet : MsgNode}
    (h : packetOf bits msg = some packet) :
    extractPacketPayload (some packet) = encodeFields (msg.fields bits) := by
  rcases Option.map_eq_some_iff.mp h with ⟨payload, hpayload, rfl⟩
  rcases serializeProtoToString_eq hpayload with ⟨heq, hlength⟩
  rw [← heq]
  have hsize : payload.length < UInt32.size := Nat.lt_trans hlength (by decide)
  exact extractPacketPayload_sendNode ⟨payload, hsize⟩ msg.msgId 0

/-- A target names players of the event only. -/
theorem target_uids_length {ω : SendToPlayers.GroupOrders}
    {recipients : List (Nat × GatewayRoute)} {msgId : UInt16} {seq : Nat}
    {packet : MsgNode} {netShard : Nat} {task : NetworkTask MsgNode}
    {target : NetworkSendTarget}
    (htask : (netShard, task) ∈
      SendToPlayers.tasks ω (SendToPlayers.group recipients) msgId seq packet)
    (htarget : target ∈ task.targets) :
    target.uids.length ≤ recipients.length := by
  rcases SendToPlayers.mem_tasks_target htask htarget with ⟨linkId, hfound⟩
  have huids := (SendToPlayers.group_merged recipients).uids netShard linkId
  rw [hfound] at huids
  change target.uids = _ at huids
  rw [huids, List.length_map]
  exact List.length_filter_le _ recipients

theorem networkTasks_accepted {bits : F -> UInt32} {e : ShardEvent F}
    (hfits : e.Fits bits) (ω : SendToPlayers.GroupOrders) {netShard : Nat}
    {task : NetworkTask MsgNode} (htask : (netShard, task) ∈ e.networkTasks bits ω)
    (codec : Codec B F) (noBody : B) :
    NetworkShard.BuildsOnly Accepted (LinkCodec.bytes codec noBody) task := by
  cases e with
  | ran call room => cases htask
  | sent uids targets msg seq =>
      simp only [ShardEvent.networkTasks] at htask
      cases hpacket : packetOf bits msg with
      | none =>
          rw [hpacket] at htask
          cases htask
      | some packet =>
          rw [hpacket] at htask
          rcases hfits with ⟨hfew, hlength⟩
          intro target built htarget hbuilt
          have huids := Nat.le_trans (target_uids_length htask htarget) hfew
          have hbody : task.body = packet := by
            rcases List.mem_filterMap.mp htask with ⟨net, _, hnet⟩
            rcases Option.map_eq_some_iff.mp hnet with ⟨links, _, heq⟩
            cases heq
            rfl
          rcases Option.map_eq_some_iff.mp hbuilt with ⟨payload, hpayload, rfl⟩
          rw [(serializeProtoToString_eq hpayload).left, hbody,
            packetOf_payload hpacket]
          refine buildPacket_accepted (by decide) ?_
          simp only [kEnvelopeLen, kMaxPacketBodyLen] at hlength
          have hshort : (encodeFields (msg.fields bits)).length < 128 ^ (2 + 1) := by
            omega
          have henvelope :=
            GameToGateEnvelope.fields_le huids task.msgId task.seq hshort
          simp only [kMaxPacketBodyLen]
          omega

/-!
## Runs
-/

variable [Scalar F]

/-- The tasks that reach a network shard come from the events of a run. -/
def Posted (bits : F -> UInt32) (events : List (ShardEvent F)) (netShard : Nat)
    (inputs : List (NetworkShard.LinkInput B MsgNode)) : Prop :=
  forall task, NetworkShard.LinkInput.task task ∈ inputs ->
    exists e ω, e ∈ events ∧ (netShard, task) ∈ e.networkTasks bits ω

/--
In every run of the game server in which the running rooms have few enough
entities whenever they tick, and for every order of what happens on a network
shard meanwhile, the gateway accepts every packet that waits on a link.
-/
theorem GameServer.run_packets_accepted (bits : F -> UInt32) (codec : Codec B F)
    (noBody : B) (logicShardCount : Nat) (inputs : List (GameServer.ServerInput B))
    (hwithin : Along (GameServer.handle codec) GameServer.TicksWithin
      (GameServer.create logicShardCount) inputs)
    (netShard maxLinks : Nat) (linkInputs : List (NetworkShard.LinkInput B MsgNode))
    (hposted : Posted bits (GameServer.run codec logicShardCount inputs).2 netShard
      linkInputs) :
    NetworkShard.AllQueued Accepted
      (NetworkShard.run (LinkCodec.bytes codec noBody) netShard logicShardCount
        maxLinks linkInputs).1 := by
  have hfit := GameServer.run_fit bits codec logicShardCount inputs hwithin
  refine NetworkShard.run_allQueued ?_ netShard logicShardCount maxLinks linkInputs ?_
  · intro clientTimeMs serverTimeMs packet hpacket
    exact buildPongRsp_accepted hpacket
  · intro task htask
    rcases hposted task htask with ⟨e, ω, he, hnetwork⟩
    exact networkTasks_accepted (hfit e he) ω hnetwork codec noBody

/-!
## One player on one link
-/

namespace OneLink

open GameServer

/-- A request of the player 7 that arrives over the first link, bound once. -/
def request (msgId : MsgId) (payload : Wire Rat) : ServerInput (Wire Rat) :=
  ServerInput.packet 0 ⟨0, 0, 1⟩ MsgId.gateToGameEnvelope 0
    (Wire.envelope 7 msgId payload)

/-- The player creates a room and is ready, and all but one tick pass. -/
def opening : List (ServerInput (Wire Rat)) :=
  [request MsgId.createRoomReq (Wire.createRoom ⟨"", 1⟩),
    ServerInput.work 0 Orders.stored,
    request MsgId.playerReadyReq (Wire.playerReady ⟨1, true⟩),
    ServerInput.work 0 Orders.stored] ++
    List.replicate 19 (ServerInput.tick 0 Orders.stored)

/-- The network shard accepts the link. -/
def linkOpens : List (NetworkShard.LinkInput (Wire Rat) MsgNode) :=
  [NetworkShard.LinkInput.start, NetworkShard.LinkInput.postedAccept,
    NetworkShard.LinkInput.acceptEnds 0 NetworkShard.AcceptResult.accepted]

/-- The tasks of a list of events that go to a network shard. -/
def deliveries (bits : F -> UInt32) (ω : SendToPlayers.GroupOrders)
    (events : List (ShardEvent F)) (netShard : Nat) :
    List (NetworkShard.LinkInput B MsgNode) :=
  ((events.flatMap (ShardEvent.networkTasks bits ω)).filter fun entry =>
    entry.1 = netShard).map fun entry => NetworkShard.LinkInput.task entry.2

theorem opening_packets_accepted :
    NetworkShard.AllQueued Accepted
      (NetworkShard.run (LinkCodec.bytes Wire.codec Wire.empty) 0 1 1
        (linkOpens ++ deliveries (fun _ => 0) SendToPlayers.storedOrders
          (run Wire.codec 1 opening).2 0)).1 := by
  refine GameServer.run_packets_accepted (fun _ => 0) Wire.codec Wire.empty 1 opening
    ?_ 0 1 _ ?_
  · decide +kernel
  · intro task htask
    rcases List.mem_append.mp htask with hopen | hsent
    · simp [linkOpens] at hopen
    · rcases List.mem_map.mp hsent with ⟨⟨net, posted⟩, hposted, heq⟩
      rcases List.mem_filter.mp hposted with ⟨hmem, hnet⟩
      rcases List.mem_flatMap.mp hmem with ⟨e, he, hentry⟩
      cases of_decide_eq_true hnet
      cases heq
      exact ⟨e, SendToPlayers.storedOrders, he, hentry⟩

end OneLink

end RtsGame
