import RtsGame.Gate.ConnPool
import RtsGame.Gate.Frontend
import RtsGame.Gate.SendQueues
import RtsGame.Wire.Messages

/-!
# Forwarding a request

A request of a client is wrapped into an envelope and posted to the pool of the work
shard.  The client may send as many bytes as the game server reads, but the envelope
takes some bytes of its own; an envelope that has become too long is not built, and
nobody is told.
-/

namespace RtsGame

namespace GateProtocol

/-!
## Packets of the gateway
-/

def serializeMessage (fields : List ProtoField) : Option Bytes :=
  let out := encodeFields fields
  if out.length > kMaxPacketBodyLen then none else some out

def buildPacket (msgId : UInt16) (payload : Bytes) (flags : UInt16) : Option MsgNode :=
  if payload.length > 2 ^ 32 - 1 then none
  else some (sendNode payload (UInt32.ofNat payload.length) msgId flags)

/-- The fields of a `GateToGameEnvelope` that are set. -/
def envelopeFields (uid sessionId : UInt64) (innerMsgId : UInt16) (payload : Bytes) :
    List ProtoField :=
  [ProtoField.varint 1 uid, ProtoField.varint 2 sessionId,
    ProtoField.varint 4 innerMsgId.toUInt64, ProtoField.bytes 7 payload]

def buildGateToGameEnvelope (uid sessionId : UInt64) (innerMsgId : UInt16)
    (body : Bytes) : Option MsgNode :=
  match serializeMessage (envelopeFields uid sessionId innerMsgId body) with
  | none => none
  | some payload => buildPacket 20001 payload 0

def buildCommandRejected (roomId clientSeq : Nat) (code : ErrorCode) (reason : String) :
    Option MsgNode :=
  match serializeMessage
      [uint64Field 1 roomId, uint64Field 2 clientSeq, ProtoField.varint 3 code.code,
        stringField 4 reason] with
  | none => none
  | some payload => buildPacket 12003 payload 0

end GateProtocol

/-!
## The router
-/

/-- What the router reads of a client session, and the queue of its packets. -/
structure RoutedSession where
  uid : UInt64
  sessionId : UInt64
  outbox : Outbox SessionState MsgNode

/-- The context of a message: the session and the pool of its work shard. -/
structure MsgContext where
  session : RoutedSession
  connPool : Option (GameServerConnPool MsgNode)

namespace MsgContext

def sendToClient (ctx : MsgContext) : Option MsgNode -> MsgContext
  | none => ctx
  | some packet =>
      { ctx with
        session :=
          { ctx.session with outbox := Csession.outlet.send ctx.session.outbox packet } }

/-- `WorkShard::PostMessage`. -/
def postMessage (ctx : MsgContext) (packet : MsgNode) : MsgContext :=
  { ctx with connPool := ctx.connPool.map fun pool => (pool.postMessage packet).1 }

def forwardClientMsgToGame (ctx : MsgContext) (msgId : UInt16) (body : Bytes) :
    MsgContext :=
  if ctx.session.uid = 0 then
    ctx.sendToClient (GateProtocol.buildCommandRejected 0 0 ErrorCode.notLoggedIn
      "client is not logged in")
  else
    match GateProtocol.buildGateToGameEnvelope ctx.session.uid ctx.session.sessionId
        msgId body with
    | none => ctx
    | some packet => ctx.postMessage packet

end MsgContext

/-!
## Posting
-/

namespace GameServerConnPool

variable {packet : Type}

/-- Some slot below the number of connections is usable. -/
def HasLink (pool : GameServerConnPool packet) : Prop :=
  exists slot, slot < pool.connCnt ∧ isConnAvailable (pool.conn slot) = true

/-- A packet has been put into the queue of a usable connection. -/
def Queued (p : packet) (before after : GameServerConnPool packet) : Prop :=
  exists (number : Nat) (c c' : PoolConn packet), before.created[number]? = some c ∧
    isConnAvailable (some c.session) = true ∧ after.created[number]? = some c' ∧
    c'.session.outbox.posted = c.session.outbox.posted ++ [p] ∧
    p ∈ c'.session.outbox.queue

theorem available_number {pool : GameServerConnPool packet} {slot : Nat}
    (h : isConnAvailable (pool.conn slot) = true) :
    exists number c, pool.sessions[slot]?.join = some number ∧
      pool.created[number]? = some c ∧ isConnAvailable (some c.session) = true := by
  unfold conn at h
  split at h
  · rename_i number hslot
    cases hc : pool.created[number]? with
    | none =>
        rw [hc] at h
        cases h
    | some c =>
        rw [hc] at h
        exact ⟨number, c, by rw [hslot]; rfl, hc, h⟩
  · cases h

/-- Who finds nothing has looked at every slot from the one whose turn it is. -/
theorem selectFrom_none {pool : GameServerConnPool packet} {n rrIdx : Nat}
    (h : (pool.selectFrom n rrIdx).2 = none) {i : Nat} (hi : i < n) :
    isConnAvailable (pool.conn ((rrIdx + i) % pool.connCnt)) = false := by
  induction n generalizing rrIdx i with
  | zero => cases hi
  | succ n ih =>
      unfold selectFrom at h
      dsimp only at h
      split at h
      · rename_i havailable
        obtain ⟨number, c, hnumber, _, _⟩ := available_number havailable
        rw [hnumber] at h
        cases h
      · rename_i hunavailable
        cases i with
        | zero => exact Bool.eq_false_iff.mpr hunavailable
        | succ i =>
            have hrest := ih h (Nat.lt_of_succ_lt_succ hi)
            rw [Nat.add_right_comm] at hrest
            exact hrest

theorem selectFrom_some {pool : GameServerConnPool packet} {n rrIdx number : Nat}
    (h : (pool.selectFrom n rrIdx).2 = some number) :
    exists c, pool.created[number]? = some c ∧ isConnAvailable (some c.session) = true := by
  induction n generalizing rrIdx with
  | zero => cases h
  | succ n ih =>
      unfold selectFrom at h
      dsimp only at h
      split at h
      · rename_i havailable
        obtain ⟨found, c, hfound, hc, hsession⟩ := available_number havailable
        rw [hfound] at h
        cases h
        exact ⟨c, hc, hsession⟩
      · exact ih h

/-- Any slot is the one whose turn comes after some others. -/
theorem turn_of_slot {n slot : Nat} (rrIdx : Nat) (h : slot < n) :
    exists i, i < n ∧ (rrIdx + i) % n = slot := by
  refine ⟨(slot + (n - rrIdx % n)) % n, Nat.mod_lt _ (by omega), ?_⟩
  have hmod := Nat.mod_lt rrIdx (show 0 < n by omega)
  calc
    (rrIdx + (slot + (n - rrIdx % n)) % n) % n
        = (rrIdx % n + (slot + (n - rrIdx % n))) % n := by
          rw [Nat.add_mod_mod, Nat.mod_add_mod]
    _ = (slot + n) % n := by
          congr 1
          omega
    _ = slot := by rw [Nat.add_mod_right, Nat.mod_eq_of_lt h]

/-- A usable link takes the packet. -/
theorem postMessage_queued {pool : GameServerConnPool packet} (h : pool.HasLink)
    (p : packet) : Queued p pool (pool.postMessage p).1 := by
  obtain ⟨slot, hslot, havailable⟩ := h
  obtain ⟨i, hi, hturn⟩ := turn_of_slot pool.rrIdx hslot
  unfold postMessage selectConnUnsafe
  dsimp only
  cases hfound : (pool.selectFrom pool.connCnt pool.rrIdx).2 with
  | none =>
      have hnone := selectFrom_none hfound hi
      rw [hturn, havailable] at hnone
      cases hnone
  | some number =>
      obtain ⟨c, hc, hsession⟩ := selectFrom_some hfound
      refine ⟨number, c, { c with session := c.session.sendData p }, hc, hsession, ?_, ?_, ?_⟩
      · show (pool.created.modify number _)[number]? = _
        rw [List.getElem?_modify, hc]
        simp
      · rfl
      · show p ∈ _ ++ [p]
        exact List.mem_append_right _ List.mem_cons_self

theorem not_queued_self (p : packet) (pool : GameServerConnPool packet) :
    ¬ Queued p pool pool := by
  rintro ⟨number, c, c', hc, _, hc', hposted, _⟩
  rw [hc] at hc'
  cases hc'
  have hlen := congrArg List.length hposted
  rw [List.length_append, List.length_singleton] at hlen
  omega

end GameServerConnPool

/-!
## Requests that are answered
-/

namespace MsgContext

/-- The game server reads the packet as the request of a player. -/
def Carries (packet : MsgNode) (uid : UInt64) (msgId : UInt16) (body : Bytes) : Prop :=
  forall rest, exists payload fields,
    readPacket GatewayLinkSession.invalidId (packet.data ++ rest) =
      some (⟨payload, 20001, 0⟩, rest) ∧
    readMessage payload = some fields ∧ varintOf 1 fields = uid.toNat ∧
    varintOf 4 fields = msgId.toNat ∧ bytesOf 7 fields = body

/-- The packet tells the client that a command was rejected. -/
def Rejects (packet : MsgNode) : Prop :=
  exists roomId clientSeq code reason, code ≠ ErrorCode.none ∧
    GateProtocol.buildCommandRejected roomId clientSeq code reason = some packet

/-- The request is on its way to the game server, or the client is told that it is not. -/
def Served (before after : MsgContext) (msgId : UInt16) (body : Bytes) : Prop :=
  (exists packet pool pool', before.connPool = some pool ∧ after.connPool = some pool' ∧
    GameServerConnPool.Queued packet pool pool' ∧
    Carries packet before.session.uid msgId body) ∨
  (exists packet, Rejects packet ∧
    after.session.outbox.posted = before.session.outbox.posted ++ [packet] ∧
    packet ∈ after.session.outbox.queue)

theorem not_served_self (ctx : MsgContext) (msgId : UInt16) (body : Bytes) :
    ¬ Served ctx ctx msgId body := by
  rintro (⟨packet, pool, pool', hpool, hpool', hqueued, _⟩ | ⟨packet, _, hposted, _⟩)
  · rw [hpool] at hpool'
    cases hpool'
    exact GameServerConnPool.not_queued_self packet pool hqueued
  · have hlen := congrArg List.length hposted
    rw [List.length_append, List.length_singleton] at hlen
    omega

/-!
### The size of an envelope
-/

/-- A number that is set, and its key. -/
def numberLen (n : UInt64) : Nat := if n = 0 then 0 else 1 + (varint n).length

/-- What the envelope adds to a body that is long enough for three bytes of length. -/
def envelopeLen (uid sessionId : UInt64) : Nat := numberLen uid + numberLen sessionId + 7

theorem numberLen_le (n : UInt64) : numberLen n ≤ 11 := by
  have hlen := varint_length_le n
  unfold numberLen
  split
  · exact Nat.zero_le 11
  · omega

theorem varint_encode_length {number : Nat} (hnumber : number < 16) (n : UInt64) :
    (ProtoField.varint number n).encode.length = numberLen n := by
  simp only [ProtoField.encode]
  unfold numberLen
  split
  · rfl
  · rw [List.length_append, protoKey_length hnumber (by decide)]

/-- An id of a registered message takes two bytes. -/
theorem numberLen_msgId {msgId : UInt16} (h : 128 ≤ msgId.toNat ∧ msgId.toNat < 16384) :
    numberLen msgId.toUInt64 = 3 := by
  have hnat : msgId.toUInt64.toNat = msgId.toNat := UInt16.toNat_toUInt64 msgId
  have hne : msgId.toUInt64 ≠ 0 := by
    intro hzero
    rw [hzero] at hnat
    have : (0 : UInt64).toNat = 0 := rfl
    omega
  have hlen : (varint msgId.toUInt64).length = 1 + 1 :=
    varint_length_eq (by decide) (by omega) (by omega)
  unfold numberLen
  rw [if_neg hne, hlen]

theorem bytes_encode_length {number : Nat} (hnumber : number < 16) {content : Bytes}
    (hsome : content ≠ []) :
    (ProtoField.bytes number content).encode.length =
      1 + (varint (UInt64.ofNat content.length)).length + content.length := by
  simp only [ProtoField.encode]
  rw [if_neg hsome]
  unfold delimited
  rw [List.length_append, List.length_append, protoKey_length hnumber (by decide)]

/-- The envelope of a body that a client may send is short enough exactly if the body
leaves room for what the envelope adds. -/
theorem envelope_fits_iff {uid sessionId : UInt64} {msgId : UInt16} {body : Bytes}
    (hid : 128 ≤ msgId.toNat ∧ msgId.toNat < 16384)
    (hbody : body.length ≤ kMaxPacketBodyLen) :
    (encodeFields (GateProtocol.envelopeFields uid sessionId msgId body)).length ≤
        kMaxPacketBodyLen <->
      body.length + envelopeLen uid sessionId ≤ kMaxPacketBodyLen := by
  have huid := numberLen_le uid
  have hsession := numberLen_le sessionId
  have hmax : kMaxPacketBodyLen = 65536 := rfl
  have hlen : (encodeFields (GateProtocol.envelopeFields uid sessionId msgId body)).length =
      numberLen uid + numberLen sessionId + 3 + (ProtoField.bytes 7 body).encode.length := by
    unfold encodeFields GateProtocol.envelopeFields
    simp only [List.flatMap_cons, List.flatMap_nil, List.length_append, List.length_nil]
    rw [varint_encode_length (by decide), varint_encode_length (by decide),
      varint_encode_length (by decide), numberLen_msgId hid]
    omega
  have hnat : (UInt64.ofNat body.length).toNat = body.length :=
    Nat.mod_eq_of_lt (by omega)
  rw [hlen]
  unfold envelopeLen
  by_cases hlong : 16384 ≤ body.length
  · have hsome : body ≠ [] := by
      intro hnil
      rw [hnil] at hlong
      exact absurd hlong (by decide)
    have hvarint : (varint (UInt64.ofNat body.length)).length = 2 + 1 :=
      varint_length_eq (by decide) (by omega) (by omega)
    rw [bytes_encode_length (by decide) hsome, hvarint]
    omega
  · have hshort : (ProtoField.bytes 7 body).encode.length ≤ 1 + (1 + 1) + body.length :=
      ProtoField.bytes_le (by decide) (by omega)
    omega

theorem envelopeFields_fit {uid sessionId : UInt64} {msgId : UInt16} {body : Bytes}
    (hbody : body.length ≤ kMaxPacketBodyLen) :
    forall field, field ∈ GateProtocol.envelopeFields uid sessionId msgId body ->
      field.Fits := by
  have hmax : kMaxPacketBodyLen = 65536 := rfl
  intro field hfield
  simp only [GateProtocol.envelopeFields, List.mem_cons, List.not_mem_nil, or_false] at hfield
  rcases hfield with rfl | rfl | rfl | rfl
  · show 1 < 2 ^ 29
    decide
  · show 2 < 2 ^ 29
    decide
  · show 4 < 2 ^ 29
    decide
  · exact ⟨by decide, by omega⟩

/-- The fields of an envelope, as its reader sees them. -/
theorem envelopeFields_read (uid sessionId : UInt64) (msgId : UInt16) {body : Bytes}
    (hbody : body.length ≤ kMaxPacketBodyLen) :
    let fields := GateProtocol.envelopeFields uid sessionId msgId body
    readMessage (encodeFields fields) = some (fields.flatMap ProtoField.values) ∧
      varintOf 1 (fields.flatMap ProtoField.values) = uid.toNat ∧
      varintOf 4 (fields.flatMap ProtoField.values) = msgId.toNat ∧
      bytesOf 7 (fields.flatMap ProtoField.values) = body := by
  intro fields
  have hvalues : fields.flatMap ProtoField.values =
      [] ++ (ProtoField.varint 1 uid).values ++ (ProtoField.varint 2 sessionId).values ++
        (ProtoField.varint 4 msgId.toUInt64).values ++ (ProtoField.bytes 7 body).values := by
    simp only [fields, GateProtocol.envelopeFields, List.flatMap_cons, List.flatMap_nil,
      List.append_nil, List.nil_append, List.append_assoc]
  refine ⟨readMessage_encodeFields (envelopeFields_fit hbody), ?_, ?_, ?_⟩
  · rw [hvalues, varintOf_bytes, varintOf_varint, varintOf_varint, varintOf_varint]
    by_cases huid : uid = 0
    · simp [huid, varintOf]
    · simp [huid]
  · rw [hvalues, varintOf_bytes, varintOf_varint, varintOf_varint, varintOf_varint]
    have hnat : msgId.toUInt64.toNat = msgId.toNat := UInt16.toNat_toUInt64 msgId
    by_cases hid : msgId.toUInt64 = 0
    · rw [hid] at hnat
      simp [hid, varintOf, ← hnat]
    · simp [hid]
  · rw [hvalues, bytesOf_bytes, bytesOf_varint, bytesOf_varint, bytesOf_varint]
    by_cases hnil : body = []
    · simp [hnil, bytesOf]
    · simp [hnil]

/-!
### What becomes of a request
-/

theorem buildPacket_eq {msgId flags : UInt16} {payload : Bytes}
    (h : payload.length ≤ kMaxPacketBodyLen) :
    GateProtocol.buildPacket msgId payload flags =
      some (sendNode payload (UInt32.ofNat payload.length) msgId flags) := by
  have hmax : kMaxPacketBodyLen = 65536 := rfl
  unfold GateProtocol.buildPacket
  exact if_neg (by omega)

/-- An envelope that is short enough is built, and read by the game server. -/
theorem buildGateToGameEnvelope_carries {uid sessionId : UInt64} {msgId : UInt16}
    {body : Bytes} (hbody : body.length ≤ kMaxPacketBodyLen)
    (hfits : (encodeFields (GateProtocol.envelopeFields uid sessionId msgId body)).length ≤
      kMaxPacketBodyLen) :
    exists packet, GateProtocol.buildGateToGameEnvelope uid sessionId msgId body =
      some packet ∧ Carries packet uid msgId body := by
  generalize hpayload :
    encodeFields (GateProtocol.envelopeFields uid sessionId msgId body) = payload at hfits
  have hbuilt : GateProtocol.buildGateToGameEnvelope uid sessionId msgId body =
      some (sendNode payload (UInt32.ofNat payload.length) 20001 0) := by
    unfold GateProtocol.buildGateToGameEnvelope GateProtocol.serializeMessage
    dsimp only
    rw [hpayload, if_neg (Nat.not_lt.mpr hfits)]
    exact buildPacket_eq hfits
  refine ⟨_, hbuilt, ?_⟩
  intro rest
  obtain ⟨hread, huid, hid, hpayload'⟩ := envelopeFields_read uid sessionId msgId hbody
  rw [hpayload] at hread
  have hid0 : (20001 : UInt16) ≠ 0 := by decide
  exact ⟨payload, _, (readPacket_eq_some rejectsZero_eq).mpr ⟨⟨hid0, hfits⟩, rfl⟩, hread,
    huid, hid, hpayload'⟩

/-- An envelope that is too long is not built. -/
theorem buildGateToGameEnvelope_none {uid sessionId : UInt64} {msgId : UInt16}
    {body : Bytes}
    (hlong : ¬ (encodeFields (GateProtocol.envelopeFields uid sessionId msgId body)).length ≤
      kMaxPacketBodyLen) :
    GateProtocol.buildGateToGameEnvelope uid sessionId msgId body = none := by
  unfold GateProtocol.buildGateToGameEnvelope GateProtocol.serializeMessage
  dsimp only
  rw [if_pos (Nat.lt_of_not_le hlong)]

/-- The ids for which requests are forwarded take two bytes in an envelope. -/
theorem forward_id {code : UInt16} {msgId : MsgId}
    (h : ClientIngressRouter.handler code = some (ClientHandler.forward msgId)) :
    128 ≤ code.toNat ∧ code.toNat < 16384 := by
  have hall : forall entry, entry ∈ ClientIngressRouter.callbacks ->
      128 ≤ entry.1.toNat ∧ entry.1.toNat < 16384 := by
    decide
  obtain ⟨front, back, hcallbacks, _⟩ := List.lookup_eq_some_iff.mp h
  apply hall (code, ClientHandler.forward msgId)
  rw [hcallbacks]
  exact List.mem_append_right front List.mem_cons_self

/-- A request of a player who is logged in is served exactly if its envelope is short
enough. -/
theorem forward_served {ctx : MsgContext} {pool : GameServerConnPool MsgNode}
    {code : UInt16} {msgId : MsgId} {body : Bytes}
    (hbody : body.length ≤ kMaxPacketBodyLen)
    (hforward : ClientIngressRouter.handler code = some (ClientHandler.forward msgId))
    (hlogged : ctx.session.uid ≠ 0) (hpool : ctx.connPool = some pool)
    (hlink : pool.HasLink) :
    Served ctx (ctx.forwardClientMsgToGame code body) code body <->
      body.length + envelopeLen ctx.session.uid ctx.session.sessionId ≤
        kMaxPacketBodyLen := by
  rw [← envelope_fits_iff (forward_id hforward) hbody]
  unfold forwardClientMsgToGame
  rw [if_neg hlogged]
  constructor
  · intro hserved
    by_contra hlong
    rw [buildGateToGameEnvelope_none hlong] at hserved
    exact not_served_self ctx code body hserved
  · intro hfits
    obtain ⟨packet, hbuilt, hcarries⟩ := buildGateToGameEnvelope_carries hbody hfits
    rw [hbuilt]
    refine Or.inl ⟨packet, pool, _, hpool, ?_,
      GameServerConnPool.postMessage_queued hlink packet, hcarries⟩
    show ctx.connPool.map _ = _
    rw [hpool]
    rfl

/--
Whatever the session and the pool, a request that the gateway has read from a player who
is logged in is posted to the game server, which reads it with its id and its body, or is
answered with a rejection, exactly if its body leaves room for what the envelope adds.
-/
theorem request_served_iff (ctx : MsgContext) (pool : GameServerConnPool MsgNode)
    (stream rest : Bytes) (node : MsgNode) (msgId : MsgId)
    (hread : readPacket Csession.invalidId stream = some (node, rest))
    (hforward : ClientIngressRouter.handler node.msgId = some (ClientHandler.forward msgId))
    (hlogged : ctx.session.uid ≠ 0) (hpool : ctx.connPool = some pool)
    (hlink : pool.HasLink) :
    Served ctx (ctx.forwardClientMsgToGame node.msgId node.data) node.msgId node.data <->
      node.data.length + envelopeLen ctx.session.uid ctx.session.sessionId ≤
        kMaxPacketBodyLen :=
  forward_served ((readPacket_eq_some rejectsZero_le).mp hread).left.right hforward hlogged
    hpool hlink

/-!
### A pool with one usable link
-/

/-- The first connection of the pool has been made. -/
def linkedPool : GameServerConnPool MsgNode :=
  (GameServerConnPool.init kGameServerConnCnt).run
    [GameServerConnPool.PoolInput.session 0
        (ClientSession.ClientInput.connectRuns ConfigResult.usable ⟨[], 20003, 0⟩
          ⟨[], 10003, 0⟩),
      GameServerConnPool.PoolInput.session 0 (ClientSession.ClientInput.connectEnds true),
      GameServerConnPool.PoolInput.session 0
        (ClientSession.ClientInput.connectRuns ConfigResult.usable ⟨[], 20003, 0⟩
          ⟨[], 10003, 0⟩)]

theorem linkedPool_hasLink : linkedPool.HasLink := ⟨0, by decide, by decide⟩

/-- A player who is logged in, on a shard with that pool. -/
def loggedIn : MsgContext where
  session :=
    { uid := 1, sessionId := 1, outbox := Outbox.create SessionState.connected }
  connPool := some linkedPool

/-- A request to move of so many bytes. -/
def moveRequest (len : Nat) : MsgNode := ⟨List.replicate len 0, 11002, 0⟩

theorem read_moveRequest {len : Nat} (h : len ≤ kMaxPacketBodyLen) :
    readPacket Csession.invalidId (encoding (moveRequest len) ++ []) =
      some (moveRequest len, []) := by
  have hid : (11002 : UInt16) ≠ 0 := by decide
  have hlen : (List.replicate len (0 : UInt8)).length ≤ kMaxPacketBodyLen := by
    rw [List.length_replicate]
    exact h
  exact (readPacket_eq_some rejectsZero_le).mpr ⟨⟨hid, hlen⟩, rfl⟩

theorem moveRequest_served :
    Served loggedIn
        (loggedIn.forwardClientMsgToGame (moveRequest 3).msgId (moveRequest 3).data)
        (moveRequest 3).msgId (moveRequest 3).data <->
      (moveRequest 3).data.length +
        envelopeLen loggedIn.session.uid loggedIn.session.sessionId ≤ kMaxPacketBodyLen :=
  request_served_iff loggedIn linkedPool (encoding (moveRequest 3) ++ []) []
    (moveRequest 3) MsgId.moveCmd (read_moveRequest (by decide)) rfl (by decide) rfl
    linkedPool_hasLink

/-- A body of the largest size is neither posted nor answered. -/
theorem largestRequest_vanishes :
    ¬ forall (ctx : MsgContext) (pool : GameServerConnPool MsgNode) (stream rest : Bytes)
        (node : MsgNode) (msgId : MsgId),
      readPacket Csession.invalidId stream = some (node, rest) ->
      ClientIngressRouter.handler node.msgId = some (ClientHandler.forward msgId) ->
      ctx.session.uid ≠ 0 -> ctx.connPool = some pool -> pool.HasLink ->
      Served ctx (ctx.forwardClientMsgToGame node.msgId node.data) node.msgId
        node.data := by
  intro h
  have hlen : (moveRequest kMaxPacketBodyLen).data.length = kMaxPacketBodyLen :=
    List.length_replicate
  have hserved := h loggedIn linkedPool (encoding (moveRequest kMaxPacketBodyLen) ++ []) []
    (moveRequest kMaxPacketBodyLen) MsgId.moveCmd (read_moveRequest (Nat.le_refl _)) rfl
    (by decide) rfl linkedPool_hasLink
  have hfits := (forward_served (Nat.le_of_eq hlen) rfl (by decide) rfl
    linkedPool_hasLink).mp hserved
  rw [hlen] at hfits
  unfold envelopeLen at hfits
  omega

end MsgContext

end RtsGame
