import RtsGame.Gate.Forwarding
import RtsGame.Gate.Requests

/-!
# From a client to a logic shard, byte by byte

A gateway wraps the bytes of a request into an envelope, frames it and puts it on a link.
The game server reads the frames and parses the envelopes.  Each packet is the request of
the player who sent it: the envelope names the player, the hint in the payload names the
room, and the parser that the logic shard uses finds the request as the client wrote it.
-/

namespace RtsGame

/-- What a player asks for: a new room, or something in a room. -/
inductive PlayerRequest (F : Type) where
  | createRoom (request : CreateRoomReq)
  | inRoom (request : ClientRequest F)

/-- A request on a link: who sent it, and in which session. -/
structure Upload (F : Type) where
  uid : UInt64
  sessionId : UInt64
  request : PlayerRequest F

variable {F : Type}

namespace PlayerRequest

def msgId : PlayerRequest F -> MsgId
  | createRoom _ => MsgId.createRoomReq
  | inRoom request => request.msgId

def protoFields (bits : F -> UInt32) : PlayerRequest F -> List ProtoField
  | createRoom request => request.fields
  | inRoom request => request.protoFields bits

def InRange : PlayerRequest F -> Prop
  | createRoom request => request.maxPlayers < 2 ^ 32
  | inRoom request => request.InRange

/-- A logic shard reads the request, and a network shard its room. -/
def ReadFrom (fb : FloatBits F) (envelope : GateToGameEnvelope Bytes) : PlayerRequest F -> Prop
  | createRoom request => (Codec.rts fb).createRoomReq envelope.payload = some request
  | inRoom request =>
      (Codec.rts fb).Reads envelope.payload request ∧
        GameServer.hintedRoom (Codec.rts fb) envelope = request.roomId

end PlayerRequest

namespace Upload

def packet (bits : F -> UInt32) (upload : Upload F) : Option MsgNode :=
  (serializeProtoToString (upload.request.protoFields bits)).bind fun payload =>
    GateProtocol.buildGateToGameEnvelope upload.uid upload.sessionId
      (UInt16.ofNat upload.request.msgId.code) payload

/-- The packet is taken for the request of the player. -/
structure Arrives (fb : FloatBits F) (upload : Upload F) (node : MsgNode) : Prop where
  msgId : node.msgId = 20001
  envelope : exists envelope,
    GameServer.parseGateToGameEnvelope (Codec.rts fb) node.data =
      some (envelope, upload.request.msgId) ∧
    envelope.uid = upload.uid.toNat ∧ envelope.roomId = 0 ∧ envelope.clientSeq = 0 ∧
    upload.request.ReadFrom fb envelope

end Upload

/-!
## One packet
-/

theorem envelopeFields_few (uid sessionId : UInt64) (innerMsgId : UInt16) (payload : Bytes) :
    FewFields (GateProtocol.envelopeFields uid sessionId innerMsgId payload) := by
  simp [FewFields, GateProtocol.envelopeFields]

/-- The ids that a gateway forwards are not 0 and take 16 bits. -/
theorem MsgId.code_bounds (msgId : MsgId) : msgId.code ≠ 0 ∧ msgId.code < 2 ^ 16 := by
  cases msgId with
  | _ => exact ⟨by decide, by decide⟩

/-- The envelope of a gateway has neither a room nor a sequence number. -/
theorem GateToGameEnvelope.read_envelopeFields (uid sessionId : UInt64) (msgId : MsgId)
    (payload : Bytes) :
    GateToGameEnvelope.read ((GateProtocol.envelopeFields uid sessionId
        (UInt16.ofNat msgId.code) payload).flatMap ProtoField.values) =
      some (buildGateToGameEnvelope uid.toNat msgId payload) := by
  have hcode := msgId.code_bounds
  have hid : (uint32Of (ProtoField.varint 4
      (UInt16.ofNat msgId.code).toUInt64).found).toNat = msgId.code := by
    unfold uint32Of
    rw [ProtoValue.number_found, UInt16.toNat_toUInt64, UInt32.toNat_ofNat',
      UInt16.toNat_ofNat']
    lia
  have huid : uint64Of (ProtoField.varint 1 uid).found = uid.toNat :=
    ProtoValue.number_found 1 uid
  have hroom : uint64Of [] = 0 := rfl
  have hinner : MsgId.ofCode (msgId.code % 65536) = msgId := by
    have hmod : msgId.code % 65536 = msgId.code := Nat.mod_eq_of_lt hcode.right
    rw [hmod, MsgId.ofCode_code]
  simp [GateToGameEnvelope.read, GateProtocol.envelopeFields, hid, huid, hroom, hcode.left,
    hinner, buildGateToGameEnvelope]

/-- An envelope that is built is a frame, and is parsed as it was built. -/
theorem buildGateToGameEnvelope_frame (fb : FloatBits F) {uid sessionId : UInt64}
    {msgId : MsgId} {payload : Bytes} {p : MsgNode}
    (h : GateProtocol.buildGateToGameEnvelope uid sessionId (UInt16.ofNat msgId.code) payload =
      some p) :
    exists frame : Packet, p.data = frame.bytes ∧ frame.msgId = 20001 ∧
      (Codec.rts fb).envelope frame.body =
        some (buildGateToGameEnvelope uid.toNat msgId payload) := by
  unfold GateProtocol.buildGateToGameEnvelope GateProtocol.serializeMessage at h
  dsimp only at h
  generalize hout : encodeFields (GateProtocol.envelopeFields uid sessionId
    (UInt16.ofNat msgId.code) payload) = out at h
  by_cases hlength : out.length ≤ kMaxPacketBodyLen
  · rw [if_neg (Nat.not_lt.mpr hlength)] at h
    dsimp only at h
    rw [MsgContext.buildPacket_eq hlength] at h
    cases h
    have hserialize : serializeProtoToString (GateProtocol.envelopeFields uid sessionId
        (UInt16.ofNat msgId.code) payload) = some out := by
      unfold serializeProtoToString
      rw [hout, if_pos (Nat.lt_of_le_of_lt hlength (by decide))]
    refine ⟨⟨20001, 0, out, by decide, hlength⟩, rfl, rfl, ?_⟩
    exact (parseProtoFromBytes_serialize _ (envelopeFields_few _ _ _ _) hserialize).trans
      (GateToGameEnvelope.read_envelopeFields uid sessionId msgId payload)
  · rw [if_pos (Nat.lt_of_not_le hlength)] at h
    cases h

theorem CreateRoomReq.read_fields {request : CreateRoomReq} (h : request.maxPlayers < 2 ^ 32) :
    CreateRoomReq.read (request.fields.flatMap ProtoField.values) = some request := by
  simp [CreateRoomReq.read, CreateRoomReq.fields, uint32Of_uint64Field _ h]

namespace Upload

theorem readFrom_envelope (fb : FloatBits F) {request : PlayerRequest F} {payload : Bytes}
    (hrange : request.InRange)
    (h : serializeProtoToString (request.protoFields fb.bits) = some payload) (uid : Nat) :
    request.ReadFrom fb (buildGateToGameEnvelope uid request.msgId payload) := by
  cases request with
  | createRoom request =>
      have hfew : FewFields request.fields := by simp [FewFields, CreateRoomReq.fields]
      exact (parseProtoFromBytes_serialize _ hfew h).trans (CreateRoomReq.read_fields hrange)
  | inRoom request =>
      refine ⟨reads_request fb hrange h, ?_⟩
      have hhint := roomRouteHint_request fb hrange.roomId_lt h
      unfold GameServer.hintedRoom buildGateToGameEnvelope
      rw [if_pos rfl]
      dsimp only
      rw [hhint]

theorem arrives (fb : FloatBits F) {upload : Upload F} {p : MsgNode}
    (hrange : upload.request.InRange) (h : upload.packet fb.bits = some p) :
    exists frame : Packet, p.data = frame.bytes ∧ upload.Arrives fb frame.node := by
  rcases Option.bind_eq_some_iff.mp h with ⟨payload, hpayload, hbuild⟩
  obtain ⟨frame, hframe, hid, hparse⟩ := buildGateToGameEnvelope_frame fb hbuild
  refine ⟨frame, hframe, hid, buildGateToGameEnvelope upload.uid.toNat upload.request.msgId
    payload, ?_, rfl, rfl, rfl, readFrom_envelope fb hrange hpayload _⟩
  unfold GameServer.parseGateToGameEnvelope
  have hdata : (Codec.rts fb).envelope frame.node.data =
      some (buildGateToGameEnvelope upload.uid.toNat upload.request.msgId payload) := hparse
  rw [hdata]
  rfl

/--
Whatever the players of a gateway ask for, the game server reads their requests from the
bytes of the link, one after the other and nothing else.
-/
theorem upload_inverse (fb : FloatBits F) {uploads : List (Upload F)} {packets : List MsgNode}
    (hsent : List.Forall₂ (fun upload p => upload.packet fb.bits = some p) uploads packets)
    (hrange : forall upload, upload ∈ uploads -> upload.request.InRange) :
    exists nodes, GatewayLinkSession.handleRead (packets.flatMap MsgNode.data) = (nodes, []) ∧
      List.Forall₂ (Arrives fb) uploads nodes := by
  have hframes : exists frames : List Packet,
      packets.flatMap MsgNode.data = frames.flatMap Packet.bytes ∧
      List.Forall₂ (Arrives fb) uploads (frames.map Packet.node) := by
    induction hsent with
    | nil => exact ⟨[], rfl, List.Forall₂.nil⟩
    | @cons upload p uploads packets hp hrest ih =>
        obtain ⟨frame, hframe, harrives⟩ := arrives fb (hrange upload List.mem_cons_self) hp
        obtain ⟨frames, hframes, hall⟩ :=
          ih fun other hother => hrange other (List.mem_cons_of_mem upload hother)
        refine ⟨frame :: frames, ?_, List.Forall₂.cons harrives hall⟩
        rw [List.flatMap_cons, List.flatMap_cons, hframe, hframes]
  obtain ⟨frames, hbytes, hall⟩ := hframes
  refine ⟨frames.map Packet.node, ?_, hall⟩
  rw [hbytes]
  exact (readLoop_frames rejectsZero_eq).roundTrip frames

/-- Two players of one gateway: one opens a room, the other moves units along a path. -/
def calls : List (Upload UInt32) :=
  [⟨7, 1, PlayerRequest.createRoom ⟨"room", 2⟩⟩,
    ⟨8, 2, PlayerRequest.inRoom (ClientRequest.moveCmd 3 [1, 300] (some ⟨1, 0, 2⟩) true
      [⟨0, 0, 0⟩, ⟨1, 0, 2⟩])⟩]

theorem calls_arrive :
    exists nodes,
      GatewayLinkSession.handleRead
          ((calls.filterMap (packet id)).flatMap MsgNode.data) = (nodes, []) ∧
        List.Forall₂ (Arrives ⟨id, id, fun _ => rfl⟩) calls nodes := by
  refine upload_inverse ⟨id, id, fun _ => rfl⟩ (forall₂_filterMap ?_) ?_
  · decide +kernel
  · intro upload hupload
    rcases List.mem_cons.mp hupload with rfl | hupload
    · exact (by decide : 2 < 2 ^ 32)
    · rcases List.mem_singleton.mp hupload with rfl
      exact ⟨by decide, by decide⟩

end Upload

end RtsGame
