import RtsGame.Gate.Forwarding
import RtsGame.Server.Packets
import RtsGame.Wire.Decoding

/-!
# From a logic shard to a client, byte by byte

The message of a shard is serialized, framed, taken out of its frame again and put into an
envelope, which is framed as well.  A gateway reads the frames of a link, parses the
envelopes and frames each payload anew for the clients that the envelope names.  What a
client reads is what the shard had to say to it, in the same order, with nothing in between.
-/

namespace RtsGame

open ProtoValue

/-!
## The gateway
-/

/-- `rts::v1::GameToGateEnvelope` as a gateway finds it. -/
structure GameToGateEnvelope where
  targetUids : List Nat
  innerMsgId : UInt32
  serverTick : Nat
  payload : Bytes

def GameToGateEnvelope.read (fields : List (Nat × ProtoValue)) :
    Option GameToGateEnvelope := do
  let targetUids ← numbers (valuesOf 1 fields)
  return ⟨targetUids, uint32Of (valuesOf 2 fields), uint64Of (valuesOf 3 fields),
    content (valuesOf 4 fields)⟩

/-- A client gets one copy each time it is named, and everybody gets one if nobody is. -/
def copiesFor {α : Type} (uid : Nat) (targetUids : List Nat) (x : α) : List α :=
  if targetUids = [] then [x]
  else (targetUids.filter fun target => target = uid).map fun _ => x

namespace GateProtocol

/-- A packet for some clients, or for all of them if none is named. -/
structure Forwarded where
  targetUids : List Nat
  packet : MsgNode

def forwardGameToClients (body : Bytes) : Option Forwarded :=
  match parseProtoFromBytes GameToGateEnvelope.read body with
  | none => none
  | some envelope =>
      (buildPacket envelope.innerMsgId.toUInt16 envelope.payload 0).map fun packet =>
        ⟨envelope.targetUids, packet⟩

def Forwarded.packetsFor (uid : Nat) (forwarded : Forwarded) : List MsgNode :=
  copiesFor uid forwarded.targetUids forwarded.packet

end GateProtocol

namespace ClientSession

/-- The replies to pings are kept, and only envelopes have a callback. -/
def dispatch (node : MsgNode) : Option GateProtocol.Forwarded :=
  if node.msgId = 20002 then GateProtocol.forwardGameToClients node.data else none

/-- What a gateway writes to a client, given what it reads from a link. -/
def bytesFor (uid : Nat) (stream : Bytes) : Bytes :=
  (((handleRead stream).1.filterMap dispatch).flatMap
    (GateProtocol.Forwarded.packetsFor uid)).flatMap MsgNode.data

end ClientSession

/-!
## The link
-/

/-- What a network shard sends on a link. -/
inductive LinkPacket (F : Type) where
  | envelope (targetUids : List Nat) (msg : ServerMsg F) (seq : Nat)
  | pong (clientTimeMs serverTimeMs : Nat)

namespace LinkPacket

variable {F : Type}

def packet (bits : F -> UInt32) : LinkPacket F -> Option MsgNode
  | envelope targetUids msg seq =>
      (packetOf bits msg).bind fun node =>
        NetworkShard.buildGameToGatewayEnvelope ⟨msg.msgId, seq, [], node⟩ targetUids
  | pong clientTimeMs serverTimeMs => NetworkShard.buildPongRsp clientTimeMs serverTimeMs

def InRange : LinkPacket F -> Prop
  | envelope targetUids msg seq =>
      (forall uid, uid ∈ targetUids -> uid < 2 ^ 64) ∧ msg.InRange ∧ seq < 2 ^ 64
  | pong _ _ => True

/-- The messages for a client. -/
def messagesFor (uid : Nat) : LinkPacket F -> List (ServerMsg F)
  | envelope targetUids msg _ => copiesFor uid targetUids msg
  | pong _ _ => []

end LinkPacket

/-!
## One packet
-/

theorem map_copiesFor {α β : Type} (f : α -> β) (uid : Nat) (targetUids : List Nat) (x : α) :
    (copiesFor uid targetUids x).map f = copiesFor uid targetUids (f x) := by
  unfold copiesFor
  split
  · rfl
  · rw [List.map_map]
    rfl

theorem eq_of_mem_copiesFor {α : Type} {uid : Nat} {targetUids : List Nat} {x y : α}
    (h : y ∈ copiesFor uid targetUids x) : y = x := by
  unfold copiesFor at h
  split at h
  · exact List.mem_singleton.mp h
  · rcases List.mem_map.mp h with ⟨_, _, heq⟩
    exact heq.symm

theorem GameToGateEnvelope.fields_few (targetUids : List Nat) (innerMsgId : UInt16)
    (serverTick : Nat) (payload : Bytes) :
    FewFields (GameToGateEnvelope.fields targetUids innerMsgId serverTick payload) := by
  simp [FewFields, GameToGateEnvelope.fields]

theorem GameToGateEnvelope.read_fields {targetUids : List Nat}
    (huids : forall uid, uid ∈ targetUids -> uid < 2 ^ 64) (innerMsgId : UInt16)
    {serverTick : Nat} (htick : serverTick < 2 ^ 64) (payload : Bytes) :
    GameToGateEnvelope.read ((GameToGateEnvelope.fields targetUids innerMsgId serverTick
        payload).flatMap ProtoField.values) =
      some ⟨targetUids, innerMsgId.toUInt32, serverTick, payload⟩ := by
  have hnumbers : numbers (ProtoField.bytes 1
      (targetUids.flatMap fun uid => varint (UInt64.ofNat uid))).found = some targetUids := by
    have hfound := numbers_found 1 (targetUids.map UInt64.ofNat)
    rw [List.flatMap_map, List.map_map] at hfound
    refine hfound.trans (congrArg some ?_)
    refine (List.map_congr_left fun uid huid => ?_).trans (List.map_id _)
    exact Nat.mod_eq_of_lt (huids uid huid)
  have hid : uint32Of (ProtoField.varint 2 innerMsgId.toUInt64).found = innerMsgId.toUInt32 :=
    uint32Of_found 2 innerMsgId.toUInt32
  simp [GameToGateEnvelope.read, GameToGateEnvelope.fields, hnumbers, hid, uint64Of_field _ htick]

theorem ServerMsg.msgId_ne {F : Type} (msg : ServerMsg F) : msg.msgId ≠ 0 := by
  cases msg with
  | _ => exact of_decide_eq_true rfl

namespace LinkPacket

variable {F : Type} (fb : FloatBits F)

/-- What a packet of the link becomes: packets for the client with its messages. -/
structure Carried (uid : Nat) (item : LinkPacket F) (p : MsgNode) (outer : Packet)
    (inner : List Packet) : Prop where
  framed : p.data = outer.bytes
  written : ((ClientSession.dispatch outer.node).toList.flatMap
    (GateProtocol.Forwarded.packetsFor uid)).flatMap MsgNode.data = inner.flatMap Packet.bytes
  parsed : inner.mapM (fun q => ServerMsg.parse fb q.msgId q.body) =
    some (item.messagesFor uid)

/-- A packet that the gateway accepts has a short payload. -/
theorem payload_le {payload : Bytes} {msgId : UInt16} {fields : List ProtoField}
    (hpayload : serializeProtoToString fields = some payload)
    (h : (buildPacket msgId payload).totalLen ≤ kPacketHeaderLen + kMaxPacketBodyLen) :
    payload.length ≤ kMaxPacketBodyLen := by
  have hlength := (serializeProtoToString_eq hpayload).right
  rw [buildPacket_totalLen (Nat.lt_trans hlength (by decide))] at h
  exact Nat.le_of_add_le_add_left h

theorem pong_carried (uid clientTimeMs serverTimeMs : Nat) {p : MsgNode}
    (hp : NetworkShard.buildPongRsp clientTimeMs serverTimeMs = some p)
    (hsize : p.totalLen ≤ kPacketHeaderLen + kMaxPacketBodyLen) :
    exists outer inner,
      Carried fb uid (pong clientTimeMs serverTimeMs : LinkPacket F) p outer inner := by
  rcases Option.map_eq_some_iff.mp hp with ⟨payload, hpayload, rfl⟩
  refine ⟨⟨10004, 0, payload, by decide, payload_le hpayload hsize⟩, [], rfl, ?_, rfl⟩
  have hnone : ClientSession.dispatch ⟨payload, 10004, 0⟩ = none := rfl
  simp only [Packet.node, hnone]
  rfl

/-- The gateway takes the payload out of its envelope and frames it for the clients. -/
theorem forwardGameToClients_envelope {targetUids : List Nat} {innerMsgId : UInt16}
    {seq : Nat} {content payload : Bytes}
    (huids : forall uid, uid ∈ targetUids -> uid < 2 ^ 64) (hseq : seq < 2 ^ 64)
    (hcontent : content.length ≤ kMaxPacketBodyLen)
    (hpayload : serializeProtoToString
      (GameToGateEnvelope.fields targetUids innerMsgId seq content) = some payload) :
    GateProtocol.forwardGameToClients payload =
      some ⟨targetUids, RtsGame.buildPacket innerMsgId content⟩ := by
  unfold GateProtocol.forwardGameToClients
  rw [parseProtoFromBytes_serialize _ (GameToGateEnvelope.fields_few _ _ _ _) hpayload,
    GameToGateEnvelope.read_fields huids innerMsgId hseq content]
  dsimp only
  unfold GateProtocol.buildPacket
  have hsmall : content.length ≤ 2 ^ 32 - 1 := Nat.le_trans hcontent (by decide)
  rw [if_neg (Nat.not_lt.mpr hsmall), UInt16.toUInt16_toUInt32]
  rfl

theorem envelope_carried (uid : Nat) {targetUids : List Nat} {msg : ServerMsg F} {seq : Nat}
    {p : MsgNode} (hrange : (envelope targetUids msg seq).InRange)
    (hp : (envelope targetUids msg seq).packet fb.bits = some p)
    (hsize : p.totalLen ≤ kPacketHeaderLen + kMaxPacketBodyLen) :
    exists outer inner, Carried fb uid (envelope targetUids msg seq) p outer inner := by
  rcases hrange with ⟨huids, hmsg, hseq⟩
  rcases Option.bind_eq_some_iff.mp hp with ⟨node, hnode, hbuild⟩
  rcases Option.map_eq_some_iff.mp hbuild with ⟨payload, hpayload, rfl⟩
  rcases Option.map_eq_some_iff.mp hnode with ⟨content, hcontent, rfl⟩
  have hextract : extractPacketPayload (some (buildPacket msg.msgId content)) = content := by
    rw [packetOf_payload hnode, (serializeProtoToString_eq hcontent).left]
  rw [hextract] at hpayload
  have hle := payload_le hpayload hsize
  have hinner : content.length ≤ kMaxPacketBodyLen := by
    have hfields := GameToGateEnvelope.le_fields targetUids msg.msgId seq content
    rw [(serializeProtoToString_eq hpayload).left] at hle
    exact Nat.le_trans hfields hle
  have hforward := forwardGameToClients_envelope huids hseq hinner hpayload
  let q : Packet := ⟨msg.msgId, 0, content, msg.msgId_ne, hinner⟩
  refine ⟨⟨20002, 0, payload, by decide, hle⟩, copiesFor uid targetUids q, rfl, ?_, ?_⟩
  · have hdispatch : ClientSession.dispatch ⟨payload, 20002, 0⟩ =
        some ⟨targetUids, buildPacket msg.msgId content⟩ := hforward
    simp only [Packet.node, hdispatch, Option.toList_some, List.flatMap_singleton,
      GateProtocol.Forwarded.packetsFor]
    rw [List.flatMap_def, List.flatMap_def, map_copiesFor,
      map_copiesFor]
    rfl
  · have hcopies := map_copiesFor (fun _ => q) uid targetUids msg
    rw [← hcopies]
    refine mapM_map_some fun copy hcopy => ?_
    rw [eq_of_mem_copiesFor hcopy]
    exact serverMsg_inverse fb hmsg hcontent

theorem carried (uid : Nat) {item : LinkPacket F} {p : MsgNode} (hrange : item.InRange)
    (hp : item.packet fb.bits = some p)
    (hsize : p.totalLen ≤ kPacketHeaderLen + kMaxPacketBodyLen) :
    exists outer inner, Carried fb uid item p outer inner := by
  cases item with
  | envelope targetUids msg seq => exact envelope_carried fb uid hrange hp hsize
  | pong clientTimeMs serverTimeMs =>
      exact pong_carried fb uid clientTimeMs serverTimeMs hp hsize

/-!
## The whole link
-/

theorem carried_all (uid : Nat) {items : List (LinkPacket F)} {packets : List MsgNode}
    (hsent : List.Forall₂ (fun item p => item.packet fb.bits = some p) items packets)
    (hrange : forall item, item ∈ items -> item.InRange)
    (hsize : forall p, p ∈ packets ->
      p.totalLen ≤ kPacketHeaderLen + kMaxPacketBodyLen) :
    exists outers inners : List Packet,
      packets.flatMap MsgNode.data = outers.flatMap Packet.bytes ∧
      (((outers.map Packet.node).filterMap ClientSession.dispatch).flatMap
        (GateProtocol.Forwarded.packetsFor uid)).flatMap MsgNode.data =
          inners.flatMap Packet.bytes ∧
      inners.mapM (fun q => ServerMsg.parse fb q.msgId q.body) =
        some (items.flatMap (messagesFor uid)) := by
  induction hsent with
  | nil => exact ⟨[], [], rfl, rfl, rfl⟩
  | @cons item p items packets hp hrest ih =>
      obtain ⟨outer, inner, hcarried⟩ := carried fb uid (hrange item List.mem_cons_self) hp
        (hsize p List.mem_cons_self)
      obtain ⟨outers, inners, hframed, hwritten, hparsed⟩ :=
        ih (fun other hother => hrange other (List.mem_cons_of_mem item hother))
          (fun other hother => hsize other (List.mem_cons_of_mem p hother))
      refine ⟨outer :: outers, inner ++ inners, ?_, ?_, ?_⟩
      · rw [List.flatMap_cons, List.flatMap_cons, hcarried.framed, hframed]
      · rw [List.flatMap_append, ← hcarried.written, ← hwritten, List.map_cons,
          List.filterMap_cons]
        cases ClientSession.dispatch outer.node with
        | none => simp
        | some forwarded => simp
      · rw [List.mapM_append, hcarried.parsed, hparsed]
        rfl

/--
A client that reads the frames of its stream finds the messages that name it, in the order
in which they went on the link, whatever else the link carries.
-/
theorem delivery_inverse {handleRead : Bytes -> List MsgNode × Bytes}
    (hclient : Frames handleRead) (uid : Nat) {items : List (LinkPacket F)}
    {packets : List MsgNode}
    (hsent : List.Forall₂ (fun item p => item.packet fb.bits = some p) items packets)
    (hrange : forall item, item ∈ items -> item.InRange)
    (hsize : forall p, p ∈ packets -> p.totalLen ≤ kPacketHeaderLen + kMaxPacketBodyLen) :
    ((handleRead (ClientSession.bytesFor uid (packets.flatMap MsgNode.data))).1.mapM fun node =>
        ServerMsg.parse fb node.msgId node.data) = some (items.flatMap (messagesFor uid)) ∧
      (handleRead (ClientSession.bytesFor uid (packets.flatMap MsgNode.data))).2 = [] := by
  obtain ⟨outers, inners, hframed, hwritten, hparsed⟩ := carried_all fb uid hsent hrange hsize
  have hframes : Frames ClientSession.handleRead := readLoop_frames rejectsZero_le
  have hgate := hframes.roundTrip outers
  have hbytes : ClientSession.bytesFor uid (packets.flatMap MsgNode.data) =
      inners.flatMap Packet.bytes := by
    unfold ClientSession.bytesFor
    rw [hframed, hgate, hwritten]
  rw [hbytes, hclient.roundTrip inners]
  refine ⟨?_, rfl⟩
  rw [List.mapM_map]
  exact hparsed

/-- A reply to a ping, the end of a game for two players, and a word to everybody. -/
def farewells : List (LinkPacket UInt32) :=
  [pong 1 2, envelope [7, 8] (ServerMsg.gameOverNtf 1 5 ProtoTeam.player) 5,
    envelope [9] (ServerMsg.roomStateNtf 1 [⟨9, ProtoTeam.enemy1, true⟩]) 6,
    envelope [] (ServerMsg.createRoomRsp ErrorCode.none 1 "") 0]

theorem farewells_delivered :
    ((Csession.handleRead (ClientSession.bytesFor 7
        ((farewells.filterMap (packet id)).flatMap MsgNode.data))).1.mapM fun node =>
      ServerMsg.parse ⟨id, id, fun _ => rfl⟩ node.msgId node.data) =
        some [ServerMsg.gameOverNtf 1 5 ProtoTeam.player,
          ServerMsg.createRoomRsp ErrorCode.none 1 ""] ∧
      (Csession.handleRead (ClientSession.bytesFor 7
        ((farewells.filterMap (packet id)).flatMap MsgNode.data))).2 = [] := by
  refine delivery_inverse ⟨id, id, fun _ => rfl⟩ (readLoop_frames rejectsZero_le) 7
    (forall₂_filterMap ?_) ?_ ?_
  · decide +kernel
  · intro item hitem
    simp only [farewells, List.mem_cons, List.not_mem_nil, or_false] at hitem
    rcases hitem with rfl | rfl | rfl | rfl
    · exact trivial
    · exact ⟨by decide, ⟨by decide, by decide⟩, by decide⟩
    · exact ⟨by decide, ⟨by decide, by decide⟩, by decide⟩
    · exact ⟨by decide, (by decide : 1 < 2 ^ 64), by decide⟩
  · decide +kernel

end LinkPacket

end RtsGame
