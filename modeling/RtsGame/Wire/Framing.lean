import RtsGame.Library.Bytes

/-!
# Packets on a connection

`SendNode` lays a message out as a ten-byte header and a body.  The three
session classes read a connection with the same loop: a header, whose checks
close the session, then as many bytes of body as the header says.  The loop is
run on everything the connection delivers before it ends or breaks; a read that
asks for more than is left fails.
-/

namespace RtsGame

/-!
## Constants of the protocol
-/

def kPacketMagic : UInt16 := 0x5254
def kPacketMagicLen : Nat := 2
def kPacketMsgIdLen : Nat := 2
def kPacketFlagsLen : Nat := 2
def kPacketBodyLenLen : Nat := 4
def kPacketHeaderLen : Nat :=
  kPacketMagicLen + kPacketMsgIdLen + kPacketFlagsLen + kPacketBodyLenLen
def kPacketMagicOffset : Nat := 0
def kPacketMsgIdOffset : Nat := kPacketMagicOffset + kPacketMagicLen
def kPacketFlagsOffset : Nat := kPacketMsgIdOffset + kPacketMsgIdLen
def kPacketBodyLenOffset : Nat := kPacketFlagsOffset + kPacketFlagsLen
def kMaxPacketBodyLen : Nat := 64 * 1024

/-!
## The encoder
-/

/-- The bytes in memory of a number in network byte order. -/
def hostToNetworkShort (n : UInt16) : Bytes := bigEndian 2 n.toNat

def hostToNetworkLong (n : UInt32) : Bytes := bigEndian 4 n.toNat

def networkToHostShort (bytes : Bytes) : UInt16 := UInt16.ofNat (fromBigEndian bytes)

def networkToHostLong (bytes : Bytes) : UInt32 := UInt32.ofNat (fromBigEndian bytes)

/-- A node owns `_total_len` bytes. -/
structure MsgNode where
  data : Bytes
  msgId : UInt16
  flags : UInt16
deriving DecidableEq, Repr

def MsgNode.totalLen (node : MsgNode) : Nat := node.data.length

/-- The constructor of `SendNode`; the caller owns at least `maxLen` bytes. -/
def sendNode (msg : Bytes) (maxLen : UInt32) (msgId flags : UInt16) : MsgNode :=
  let data := List.replicate (maxLen.toNat + kPacketHeaderLen) 0
  let data := memcpy data kPacketMagicOffset (hostToNetworkShort kPacketMagic)
  let data := memcpy data kPacketMsgIdOffset (hostToNetworkShort msgId)
  let data := memcpy data kPacketFlagsOffset (hostToNetworkShort flags)
  let data := memcpy data kPacketBodyLenOffset (hostToNetworkLong maxLen)
  let data :=
    if maxLen > 0 then memcpy data kPacketHeaderLen (msg.take maxLen.toNat)
    else data
  ⟨data, msgId, flags⟩

/-- `ExtractPacketPayload`; a null pointer is no node. -/
def extractPacketPayload : Option MsgNode -> Bytes
  | none => []
  | some packet =>
      if packet.totalLen = 0 then []
      else if packet.totalLen ≥ kPacketHeaderLen ∧
          networkToHostShort (slice packet.data 0 2) = kPacketMagic then
        slice packet.data kPacketHeaderLen (packet.totalLen - kPacketHeaderLen)
      else packet.data

/-!
## The read loop
-/

/-- `async_read`: exactly the requested bytes and what is left, or an error. -/
def asyncRead (length : Nat) (stream : Bytes) : Option (Bytes × Bytes) :=
  if length ≤ stream.length then some (stream.take length, stream.drop length)
  else none

/-- `ReadHead`: message id, flags, length of the body and what is left. -/
def readHead (invalidId : UInt16 -> Bool) (stream : Bytes) :
    Option (UInt16 × UInt16 × UInt32 × Bytes) :=
  match asyncRead kPacketHeaderLen stream with
  | none => none
  | some (buffer, rest) =>
      let magic := networkToHostShort (slice buffer kPacketMagicOffset kPacketMagicLen)
      if magic ≠ kPacketMagic then none
      else
        let msgId := networkToHostShort (slice buffer kPacketMsgIdOffset kPacketMsgIdLen)
        let flags := networkToHostShort (slice buffer kPacketFlagsOffset kPacketFlagsLen)
        let dataLen :=
          networkToHostLong (slice buffer kPacketBodyLenOffset kPacketBodyLenLen)
        if invalidId msgId then none
        else if dataLen.toNat > kMaxPacketBodyLen then none
        else some (msgId, flags, dataLen, rest)

/-- `ReadData`: the body and what is left. -/
def readData (len : Nat) (stream : Bytes) : Option (Bytes × Bytes) :=
  if len = 0 then some ([], stream) else asyncRead len stream

/-- One round of the loop: the node that is dispatched and what is left. -/
def readPacket (invalidId : UInt16 -> Bool) (stream : Bytes) :
    Option (MsgNode × Bytes) :=
  match readHead invalidId stream with
  | none => none
  | some (msgId, flags, dataLen, rest) =>
      match readData dataLen.toNat rest with
      | none => none
      | some (body, rest) => some (⟨body, msgId, flags⟩, rest)

/-!
## Layout of an encoding
-/

theorem networkToHostShort_hostToNetworkShort (n : UInt16) :
    networkToHostShort (hostToNetworkShort n) = n := by
  unfold networkToHostShort hostToNetworkShort
  rw [fromBigEndian_bigEndian n.toNat_lt]
  exact UInt16.ofNat_toNat

theorem networkToHostLong_hostToNetworkLong (n : UInt32) :
    networkToHostLong (hostToNetworkLong n) = n := by
  unfold networkToHostLong hostToNetworkLong
  rw [fromBigEndian_bigEndian n.toNat_lt]
  exact UInt32.ofNat_toNat

theorem hostToNetworkShort_networkToHostShort {bytes : Bytes}
    (h : bytes.length = 2) :
    hostToNetworkShort (networkToHostShort bytes) = bytes := by
  have hlt := fromBigEndian_lt bytes
  rw [h] at hlt
  unfold hostToNetworkShort networkToHostShort
  rw [UInt16.toNat_ofNat_of_lt' hlt, ← h]
  exact bigEndian_fromBigEndian bytes

theorem hostToNetworkLong_networkToHostLong {bytes : Bytes}
    (h : bytes.length = 4) :
    hostToNetworkLong (networkToHostLong bytes) = bytes := by
  have hlt := fromBigEndian_lt bytes
  rw [h] at hlt
  unfold hostToNetworkLong networkToHostLong
  rw [UInt32.toNat_ofNat_of_lt' hlt, ← h]
  exact bigEndian_fromBigEndian bytes

@[simp] theorem hostToNetworkShort_length (n : UInt16) :
    (hostToNetworkShort n).length = 2 := bigEndian_length 2 n.toNat

@[simp] theorem hostToNetworkLong_length (n : UInt32) :
    (hostToNetworkLong n).length = 4 := bigEndian_length 4 n.toNat

/-- The header of a packet. -/
def header (msgId flags : UInt16) (dataLen : UInt32) : Bytes :=
  hostToNetworkShort kPacketMagic ++ (hostToNetworkShort msgId ++
    (hostToNetworkShort flags ++ hostToNetworkLong dataLen))

@[simp] theorem header_length (msgId flags : UInt16) (dataLen : UInt32) :
    (header msgId flags dataLen).length = kPacketHeaderLen := by
  simp [header, kPacketHeaderLen, kPacketMagicLen, kPacketMsgIdLen,
    kPacketFlagsLen, kPacketBodyLenLen]

/-- The writes of the constructor put the packet together. -/
theorem sendNode_data {msg : Bytes} {maxLen : UInt32}
    (h : msg.length = maxLen.toNat) (msgId flags : UInt16) :
    (sendNode msg maxLen msgId flags).data = header msgId flags maxLen ++ msg := by
  have hfresh : List.replicate (maxLen.toNat + kPacketHeaderLen) (0 : UInt8) =
      [] ++ List.replicate (2 + (2 + (2 + (4 + maxLen.toNat)))) 0 := by
    rw [List.nil_append]
    congr 1
    simp only [kPacketHeaderLen, kPacketMagicLen, kPacketMsgIdLen,
      kPacketFlagsLen, kPacketBodyLenLen]
    omega
  have hheader : memcpy (memcpy (memcpy (memcpy
      (List.replicate (maxLen.toNat + kPacketHeaderLen) 0)
      kPacketMagicOffset (hostToNetworkShort kPacketMagic))
      kPacketMsgIdOffset (hostToNetworkShort msgId))
      kPacketFlagsOffset (hostToNetworkShort flags))
      kPacketBodyLenOffset (hostToNetworkLong maxLen) =
      header msgId flags maxLen ++ List.replicate maxLen.toNat 0 := by
    rw [hfresh, memcpy_fresh, memcpy_fresh, memcpy_fresh, memcpy_fresh]
    · simp [header]
    all_goals rfl
  unfold sendNode
  dsimp only
  rw [hheader, ← h, List.take_length]
  split
  · have hbody := memcpy_fresh (n := 0) (header msgId flags maxLen) msg 0
      (header_length msgId flags maxLen) rfl
    simpa using hbody
  · rename_i hzero
    have hmsg : msg.length = 0 := by
      rw [h]
      have hle : maxLen.toNat ≤ 0 := by
        simpa [UInt32.le_iff_toNat_le] using UInt32.not_lt.mp hzero
      omega
    rw [hmsg, List.length_eq_zero_iff.mp hmsg]
    rfl

/-!
## One packet

A packet is read off a stream exactly if the stream starts with its encoding.
-/

/-- The nodes that pass the checks of the header. -/
def Acceptable (node : MsgNode) : Prop :=
  node.msgId ≠ 0 ∧ node.data.length ≤ kMaxPacketBodyLen

/-- The bytes of the `SendNode` for the same id, flags and body. -/
def encoding (node : MsgNode) : Bytes :=
  (sendNode node.data (UInt32.ofNat node.data.length) node.msgId node.flags).data

theorem bodyLen_toNat {n : Nat} (h : n ≤ kMaxPacketBodyLen) :
    (UInt32.ofNat n).toNat = n := by
  apply UInt32.toNat_ofNat_of_lt'
  have hmax : kMaxPacketBodyLen < UInt32.size := by decide
  omega

theorem encoding_eq {node : MsgNode} (h : node.data.length ≤ kMaxPacketBodyLen) :
    encoding node = header node.msgId node.flags (UInt32.ofNat node.data.length) ++
      node.data :=
  sendNode_data (bodyLen_toNat h).symm node.msgId node.flags

theorem asyncRead_eq_some {length : Nat} {stream front rest : Bytes} :
    asyncRead length stream = some (front, rest) <->
      front.length = length ∧ stream = front ++ rest := by
  unfold asyncRead
  constructor
  · intro h
    split at h
    · rename_i hle
      cases h
      exact ⟨List.length_take_of_le hle, (List.take_append_drop _ _).symm⟩
    · cases h
  · rintro ⟨hlength, hstream⟩
    subst hlength
    subst hstream
    simp

theorem readData_eq_some {len : Nat} {stream body rest : Bytes} :
    readData len stream = some (body, rest) <->
      body.length = len ∧ stream = body ++ rest := by
  unfold readData
  split
  · rename_i hzero
    subst hzero
    rw [List.length_eq_zero_iff]
    constructor
    · intro h
      cases h
      exact ⟨rfl, rfl⟩
    · rintro ⟨hbody, hstream⟩
      subst hbody
      rw [hstream]
      rfl
  · exact asyncRead_eq_some

/-- The ten bytes of a header, field by field. -/
theorem header_of_slices {buffer : Bytes} (h : buffer.length = kPacketHeaderLen)
    (hmagic : networkToHostShort (slice buffer kPacketMagicOffset kPacketMagicLen) =
      kPacketMagic) :
    buffer = header
      (networkToHostShort (slice buffer kPacketMsgIdOffset kPacketMsgIdLen))
      (networkToHostShort (slice buffer kPacketFlagsOffset kPacketFlagsLen))
      (networkToHostLong (slice buffer kPacketBodyLenOffset kPacketBodyLenLen)) := by
  have hlength : forall offset length, offset + length ≤ kPacketHeaderLen ->
      (slice buffer offset length).length = length := by
    intro offset length hle
    unfold slice
    rw [List.length_take, List.length_drop, h]
    omega
  have hshort : forall offset, offset + 2 ≤ kPacketHeaderLen ->
      hostToNetworkShort (networkToHostShort (slice buffer offset 2)) =
        slice buffer offset 2 :=
    fun offset hle => hostToNetworkShort_networkToHostShort (hlength offset 2 hle)
  have hlong : hostToNetworkLong (networkToHostLong
      (slice buffer kPacketBodyLenOffset kPacketBodyLenLen)) = buffer.drop 6 := by
    have hend : buffer.drop 10 = [] := by
      apply List.drop_eq_nil_of_le
      rw [h]
      decide
    have hlast := slice_append_drop buffer 6 4
    rw [hend, List.append_nil] at hlast
    rw [← hlast]
    exact hostToNetworkLong_networkToHostLong (hlength 6 4 (by decide))
  unfold header
  calc buffer = slice buffer 0 2 ++ (slice buffer 2 2 ++
        (slice buffer 4 2 ++ buffer.drop 6)) := by
        rw [slice_append_drop buffer 4 2, slice_append_drop buffer 2 2,
          slice_append_drop buffer 0 2, List.drop_zero]
    _ = _ := by
        rw [hlong, ← hmagic]
        exact congrArg₂ (· ++ ·) (hshort 0 (by decide)).symm
          (congrArg₂ (· ++ ·) (hshort 2 (by decide)).symm
            (congrArg₂ (· ++ ·) (hshort 4 (by decide)).symm rfl))

theorem slices_of_header (msgId flags : UInt16) (dataLen : UInt32) :
    slice (header msgId flags dataLen) kPacketMagicOffset kPacketMagicLen =
        hostToNetworkShort kPacketMagic ∧
      slice (header msgId flags dataLen) kPacketMsgIdOffset kPacketMsgIdLen =
        hostToNetworkShort msgId ∧
      slice (header msgId flags dataLen) kPacketFlagsOffset kPacketFlagsLen =
        hostToNetworkShort flags ∧
      slice (header msgId flags dataLen) kPacketBodyLenOffset kPacketBodyLenLen =
        hostToNetworkLong dataLen := by
  unfold header
  refine ⟨?_, ?_, ?_, ?_⟩
  · exact slice_middle [] (hostToNetworkShort kPacketMagic) _ rfl rfl
  · exact slice_middle (hostToNetworkShort kPacketMagic) _ _ rfl rfl
  · rw [← List.append_assoc]
    exact slice_middle _ _ _ rfl rfl
  · rw [← List.append_assoc, ← List.append_assoc,
      ← List.append_nil (hostToNetworkLong dataLen)]
    exact slice_middle _ _ [] rfl rfl

/-- A session class rejects the message id zero and no other. -/
def RejectsZero (invalidId : UInt16 -> Bool) : Prop :=
  forall id, invalidId id = true <-> id = 0

theorem readHead_eq_some {invalidId : UInt16 -> Bool}
    (hid : RejectsZero invalidId) {stream rest : Bytes} {msgId flags : UInt16}
    {dataLen : UInt32} :
    readHead invalidId stream = some (msgId, flags, dataLen, rest) <->
      msgId ≠ 0 ∧ dataLen.toNat ≤ kMaxPacketBodyLen ∧
        stream = header msgId flags dataLen ++ rest := by
  unfold readHead
  constructor
  · intro h
    split at h
    · cases h
    · rename_i buffer left hread
      rcases asyncRead_eq_some.mp hread with ⟨hlength, hstream⟩
      dsimp only at h
      split at h
      · cases h
      · rename_i hmagic
        split at h
        · cases h
        · rename_i hvalid
          split at h
          · cases h
          · rename_i hlen
            cases h
            refine ⟨fun hzero => hvalid ((hid _).mpr hzero), Nat.le_of_not_lt hlen, ?_⟩
            rw [← header_of_slices hlength (not_not.mp hmagic)]
            exact hstream
  · rintro ⟨hne, hle, hstream⟩
    have hread : asyncRead kPacketHeaderLen stream =
        some (header msgId flags dataLen, rest) :=
      asyncRead_eq_some.mpr ⟨header_length msgId flags dataLen, hstream⟩
    have hinvalid : invalidId msgId = false := by
      cases hcase : invalidId msgId with
      | false => rfl
      | true => exact absurd ((hid msgId).mp hcase) hne
    rcases slices_of_header msgId flags dataLen with ⟨hmagic, hmsg, hflags, hlen⟩
    rw [hread]
    simp only [hmagic, hmsg, hflags, hlen, networkToHostShort_hostToNetworkShort,
      networkToHostLong_hostToNetworkLong, hinvalid, ne_eq, not_true_eq_false,
      if_false, Bool.false_eq_true]
    rw [if_neg (by omega)]

theorem readPacket_eq_some {invalidId : UInt16 -> Bool}
    (hid : RejectsZero invalidId) {stream rest : Bytes} {node : MsgNode} :
    readPacket invalidId stream = some (node, rest) <->
      Acceptable node ∧ stream = encoding node ++ rest := by
  unfold readPacket
  constructor
  · intro h
    split at h
    · cases h
    · rename_i msgId flags dataLen left hhead
      rcases (readHead_eq_some hid).mp hhead with ⟨hne, hle, hstream⟩
      split at h
      · cases h
      · rename_i body last hdata
        rcases readData_eq_some.mp hdata with ⟨hlength, hleft⟩
        cases h
        have hbody : body.length ≤ kMaxPacketBodyLen := by omega
        refine ⟨⟨hne, hbody⟩, ?_⟩
        rw [encoding_eq hbody, hstream, hleft, hlength, UInt32.ofNat_toNat,
          List.append_assoc]
  · rintro ⟨⟨hne, hle⟩, hstream⟩
    rw [encoding_eq hle, List.append_assoc] at hstream
    have hlen := bodyLen_toNat hle
    have hhead := (readHead_eq_some hid).mpr ⟨hne, by rw [hlen]; exact hle, hstream⟩
    have hdata : readData (UInt32.ofNat node.data.length).toNat (node.data ++ rest) =
        some (node.data, rest) :=
      readData_eq_some.mpr ⟨hlen.symm, rfl⟩
    rw [hhead]
    dsimp only
    rw [hdata]

/-!
## The sessions

The loop ends when a read fails, a check of the header fails, or the session is
closed in between; what was dispatched until then is the result of the run.
-/

theorem readHead_length {invalidId : UInt16 -> Bool} {stream rest : Bytes}
    {msgId flags : UInt16} {dataLen : UInt32}
    (h : readHead invalidId stream = some (msgId, flags, dataLen, rest)) :
    stream.length = kPacketHeaderLen + rest.length := by
  unfold readHead at h
  split at h
  · cases h
  · rename_i buffer left hread
    rcases asyncRead_eq_some.mp hread with ⟨hlength, hstream⟩
    dsimp only at h
    split at h
    · cases h
    · split at h
      · cases h
      · split at h
        · cases h
        · cases h
          rw [hstream, List.length_append, hlength]

theorem readPacket_shrinks (invalidId : UInt16 -> Bool) (stream : Bytes)
    (node : MsgNode) (rest : Bytes)
    (h : readPacket invalidId stream = some (node, rest)) :
    rest.length < stream.length := by
  unfold readPacket at h
  split at h
  · cases h
  · rename_i msgId flags dataLen left hhead
    have hstream := readHead_length hhead
    split at h
    · cases h
    · rename_i body last hdata
      cases h
      rw [hstream, (readData_eq_some.mp hdata).right, List.length_append]
      have hpos : 0 < kPacketHeaderLen := by decide
      omega

/-- The loop of `handle_read` over the bytes of a connection. -/
def readLoop (invalidId : UInt16 -> Bool) : Reader MsgNode where
  read := readPacket invalidId
  shrinks := readPacket_shrinks invalidId

namespace Csession

/-- The check of a client connection at the gateway. -/
def invalidId (id : UInt16) : Bool := id ≤ 0

def handleRead (stream : Bytes) : List MsgNode × Bytes :=
  (readLoop invalidId).run stream

end Csession

namespace ClientSession

/-- The check of a backend connection at the gateway. -/
def invalidId (id : UInt16) : Bool := id ≤ 0

def handleRead (stream : Bytes) : List MsgNode × Bytes :=
  (readLoop invalidId).run stream

end ClientSession

namespace GatewayLinkSession

/-- The check of a gateway connection at the game server. -/
def invalidId (id : UInt16) : Bool := id = 0

def handleRead (stream : Bytes) : List MsgNode × Bytes :=
  (readLoop invalidId).run stream

end GatewayLinkSession

theorem rejectsZero_le : RejectsZero fun id => id ≤ 0 := by
  intro id
  rw [decide_eq_true_iff, UInt16.le_iff_toNat_le, ← UInt16.toNat_inj]
  exact Nat.le_zero

theorem rejectsZero_eq : RejectsZero fun id => id = 0 := by
  intro id
  exact decide_eq_true_iff

/-!
## Framing
-/

/-- What a peer may send as one packet. -/
structure Packet where
  msgId : UInt16
  flags : UInt16
  body : Bytes
  msgId_ne : msgId ≠ 0
  body_le : body.length ≤ kMaxPacketBodyLen

namespace Packet

/-- The packet as it is dispatched. -/
def node (p : Packet) : MsgNode := ⟨p.body, p.msgId, p.flags⟩

/-- The packet as `SendNode` lays it out. -/
def bytes (p : Packet) : Bytes :=
  (sendNode p.body (UInt32.ofNat p.body.length) p.msgId p.flags).data

end Packet

/-- The stream does not start with a packet: the next one is malformed or cut off. -/
def Broken (stream : Bytes) : Prop := forall p : Packet, ¬ p.bytes <+: stream

/-- A read loop that is an inverse of the encoder. -/
structure Frames (handleRead : Bytes -> List MsgNode × Bytes) : Prop where
  roundTrip : forall packets : List Packet,
    handleRead (packets.flatMap Packet.bytes) = (packets.map Packet.node, [])
  consumed : forall stream,
    (handleRead stream).1.flatMap encoding ++ (handleRead stream).2 = stream
  accepted : forall stream node, node ∈ (handleRead stream).1 ->
    exists p : Packet, p.node = node
  stops : forall stream, Broken (handleRead stream).2
  silent : forall (packets : List Packet) rest, Broken rest ->
    handleRead (packets.flatMap Packet.bytes ++ rest) =
      (packets.map Packet.node, rest)

theorem broken_iff (stream : Bytes) :
    Broken stream <-> forall node, Acceptable node -> ¬ encoding node <+: stream := by
  constructor
  · intro h node hnode
    exact h ⟨node.msgId, node.flags, node.data, hnode.left, hnode.right⟩
  · intro h p
    exact h p.node ⟨p.msgId_ne, p.body_le⟩

theorem broken_nil : Broken [] := by
  intro p hprefix
  have hlength := hprefix.length_le
  unfold Packet.bytes at hlength
  rw [sendNode_data (bodyLen_toNat p.body_le).symm, List.length_append,
    header_length] at hlength
  have hpos : 0 < kPacketHeaderLen := by decide
  simp at hlength
  omega

theorem readLoop_frames {invalidId : UInt16 -> Bool}
    (hid : RejectsZero invalidId) : Frames (readLoop invalidId).run := by
  have hreads : (readLoop invalidId).Reads Acceptable encoding :=
    fun _ _ _ => readPacket_eq_some hid
  have hsilent : forall (packets : List Packet) rest, Broken rest ->
      (readLoop invalidId).run (packets.flatMap Packet.bytes ++ rest) =
        (packets.map Packet.node, rest) := by
    intro packets rest hrest
    have hnone := (hreads.read_none_iff rest).mpr ((broken_iff rest).mp hrest)
    have hvalid : forall node, node ∈ packets.map Packet.node -> Acceptable node := by
      intro node hnode
      rcases List.mem_map.mp hnode with ⟨p, _, hp⟩
      rw [← hp]
      exact ⟨p.msgId_ne, p.body_le⟩
    have hrun := hreads.run_complete (packets.map Packet.node) hvalid hnone
    rw [List.flatMap_map] at hrun
    exact hrun
  constructor
  · intro packets
    have h := hsilent packets [] broken_nil
    rw [List.append_nil] at h
    exact h
  · intro stream
    exact (hreads.run_sound stream).right.left
  · intro stream node hnode
    rcases (hreads.run_sound stream).left node hnode with ⟨hne, hle⟩
    exact ⟨⟨node.msgId, node.flags, node.data, hne, hle⟩, rfl⟩
  · intro stream
    rw [broken_iff]
    exact (hreads.read_none_iff _).mp (hreads.run_sound stream).right.right
  · exact hsilent

/-- A message whose length `SendNode` can be told. -/
structure Payload where
  bytes : Bytes
  fits : bytes.length < UInt32.size

theorem extractPacketPayload_sendNode (payload : Payload) (msgId flags : UInt16) :
    extractPacketPayload (some
      (sendNode payload.bytes (UInt32.ofNat payload.bytes.length) msgId flags)) =
      payload.bytes := by
  have hlen : payload.bytes.length =
      (UInt32.ofNat payload.bytes.length).toNat :=
    (UInt32.toNat_ofNat_of_lt' payload.fits).symm
  have hdata := sendNode_data hlen msgId flags
  have htotal : (sendNode payload.bytes (UInt32.ofNat payload.bytes.length) msgId
      flags).totalLen = kPacketHeaderLen + payload.bytes.length := by
    unfold MsgNode.totalLen
    rw [hdata, List.length_append, header_length]
  have hmagic : slice (sendNode payload.bytes (UInt32.ofNat payload.bytes.length)
      msgId flags).data 0 2 = hostToNetworkShort kPacketMagic := by
    rw [hdata]
    unfold header
    rw [List.append_assoc]
    exact slice_middle [] (hostToNetworkShort kPacketMagic) _ rfl rfl
  unfold extractPacketPayload
  dsimp only
  rw [htotal, hmagic, networkToHostShort_hostToNetworkShort]
  have hpos : 0 < kPacketHeaderLen := by decide
  rw [if_neg (by omega), if_pos ⟨by omega, rfl⟩, hdata, Nat.add_sub_cancel_left,
    ← List.append_nil payload.bytes]
  simpa using slice_middle (header msgId flags
    (UInt32.ofNat payload.bytes.length)) payload.bytes []
    (header_length msgId flags _) rfl

/--
Every session class reads back what `SendNode` writes, stops in front of the
first packet that is malformed or cut off, and the payload of a packet can be
taken out again, whatever its bytes are.
-/
theorem framing_inverse :
    Frames Csession.handleRead ∧ Frames ClientSession.handleRead ∧
      Frames GatewayLinkSession.handleRead ∧
      forall (payload : Payload) (msgId flags : UInt16),
        extractPacketPayload (some (sendNode payload.bytes
          (UInt32.ofNat payload.bytes.length) msgId flags)) = payload.bytes :=
  ⟨readLoop_frames rejectsZero_le, readLoop_frames rejectsZero_le,
    readLoop_frames rejectsZero_eq, extractPacketPayload_sendNode⟩

end RtsGame
