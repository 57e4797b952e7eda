import RtsGame.Gate.Frontend
import RtsGame.Wire.Decoding

/-!
# The bytes of the requests

The parsers that a game server takes from the generated protocol code, on bytes, as
`rts.proto` declares the messages; a field is taken to be written the way its type asks for.
A request that a client serializes is read back as it was, the parser of every other request
aside, and the hint that looks for a room finds the room of the request.
-/

namespace RtsGame

open ProtoValue

variable {F : Type}

/-!
## Reading
-/

section Readers

variable (fb : FloatBits F)

/-- A first field that is a number: a room, a client or a time. -/
def readFirst (fields : List (Nat × ProtoValue)) : Option Nat :=
  some (uint64Of (valuesOf 1 fields))

def CreateRoomReq.read (fields : List (Nat × ProtoValue)) : Option CreateRoomReq := do
  let roomName ← text (valuesOf 1 fields)
  return ⟨roomName, (uint32Of (valuesOf 2 fields)).toNat⟩

def PlayerReadyReq.read (fields : List (Nat × ProtoValue)) : Option PlayerReadyReq :=
  some ⟨uint64Of (valuesOf 1 fields), boolOf (valuesOf 2 fields)⟩

def MoveCmd.read (fields : List (Nat × ProtoValue)) : Option (MoveCmd F) := do
  let actorUnitIds ← numbers (valuesOf 2 fields)
  let targetPosition ← optionalMessage (Vec3f.read fb) (valuesOf 3 fields)
  let path ← submessages (Vec3f.read fb) (valuesOf 5 fields)
  return ⟨actorUnitIds, targetPosition, path⟩

/-- The reference to an entity; of its type only the number is kept. -/
def EntityRef.read (fields : List (Nat × ProtoValue)) : Option EntityRef :=
  some ⟨enumeratorOf (valuesOf 1 fields), uint64Of (valuesOf 2 fields)⟩

def AttackCmd.read (fields : List (Nat × ProtoValue)) : Option AttackCmd := do
  let actorUnitIds ← numbers (valuesOf 2 fields)
  let target ← optionalMessage EntityRef.read (valuesOf 3 fields)
  return ⟨actorUnitIds, target.map EntityRef.id⟩

/-- The four commands that name units and one entity number their fields alike. -/
def TargetCmd.read (fields : List (Nat × ProtoValue)) : Option TargetCmd := do
  let unitIds ← numbers (valuesOf 2 fields)
  return ⟨unitIds, uint64Of (valuesOf 3 fields)⟩

def BuildCmd.read (fields : List (Nat × ProtoValue)) : Option (BuildCmd F) := do
  let builderUnitIds ← numbers (valuesOf 2 fields)
  let position ← optionalMessage (Vec3f.read fb) (valuesOf 4 fields)
  return ⟨builderUnitIds, enumeratorOf (valuesOf 3 fields), position,
    floatOf fb (valuesOf 5 fields)⟩

def TrainUnitCmd.read (fields : List (Nat × ProtoValue)) : Option TrainUnitCmd :=
  some ⟨uint64Of (valuesOf 2 fields), enumeratorOf (valuesOf 3 fields)⟩

/-- An inner id of 0 is missing; of any other the lowest 16 bits are the id. -/
def GateToGameEnvelope.read (fields : List (Nat × ProtoValue)) :
    Option (GateToGameEnvelope Bytes) :=
  let innerMsgId := (uint32Of (valuesOf 4 fields)).toNat
  some
    { uid := uint64Of (valuesOf 1 fields)
      roomId := uint64Of (valuesOf 3 fields)
      innerMsgId := if innerMsgId = 0 then none else some (MsgId.ofCode (innerMsgId % 2 ^ 16))
      clientSeq := uint64Of (valuesOf 5 fields)
      payload := content (valuesOf 7 fields) }

/-- The parsers of `rts.proto`. -/
def Codec.rts : Codec Bytes F where
  isEmpty := List.isEmpty
  envelope := parseProtoFromBytes GateToGameEnvelope.read
  disconnectedUid := parseProtoFromBytes readFirst
  pingReq := parseProtoFromBytes readFirst
  createRoomReq := parseProtoFromBytes CreateRoomReq.read
  joinRoomReq := parseProtoFromBytes readFirst
  leaveRoomReq := parseProtoFromBytes readFirst
  playerReadyReq := parseProtoFromBytes PlayerReadyReq.read
  enterBattleReq := parseProtoFromBytes readFirst
  moveCmd := parseProtoFromBytes (MoveCmd.read fb)
  stopCmd := parseProtoFromBytes fun fields => numbers (valuesOf 2 fields)
  attackCmd := parseProtoFromBytes AttackCmd.read
  harvestCmd := parseProtoFromBytes TargetCmd.read
  storeResourceCmd := parseProtoFromBytes TargetCmd.read
  pickupResourceCmd := parseProtoFromBytes TargetCmd.read
  buildCmd := parseProtoFromBytes (BuildCmd.read fb)
  constructCmd := parseProtoFromBytes TargetCmd.read
  trainUnitCmd := parseProtoFromBytes TrainUnitCmd.read
  roomRouteHint := parseProtoFromBytes readFirst

end Readers

/-!
## Writing
-/

section Writers

variable (bits : F -> UInt32)

/-- The fields of a message, as a client writes them. -/
def FieldValue.protoFields (number : Nat) : FieldValue F -> List ProtoField
  | varint n => [uint64Field number n]
  | varints ns =>
      [ProtoField.bytes number ((ns.map UInt64.ofNat).flatMap RtsGame.varint)]
  | float x => [floatField bits number x]
  | position v => v.toList.map fun v => messageField number (v.fields bits)
  | positions vs => vs.map fun v => messageField number (v.fields bits)
  | entity ref =>
      ref.toList.map fun ref =>
        messageField number [uint64Field 1 ref.type, uint64Field 2 ref.id]

def ClientRequest.protoFields (request : ClientRequest F) : List ProtoField :=
  request.fields.flatMap fun field => field.2.protoFields bits field.1

def CreateRoomReq.fields (request : CreateRoomReq) : List ProtoField :=
  [stringField 1 request.roomName, uint64Field 2 request.maxPlayers]

end Writers

/-- Every number of a request fits its type, and enumerators are not negative. -/
def ClientRequest.InRange : ClientRequest F -> Prop
  | joinRoomReq roomId => roomId < 2 ^ 64
  | leaveRoomReq roomId => roomId < 2 ^ 64
  | playerReadyReq roomId _ => roomId < 2 ^ 64
  | enterBattleReq roomId => roomId < 2 ^ 64
  | moveCmd roomId ids _ _ _ => roomId < 2 ^ 64 ∧ forall id, id ∈ ids -> id < 2 ^ 64
  | attackCmd roomId ids target =>
      roomId < 2 ^ 64 ∧ (forall id, id ∈ ids -> id < 2 ^ 64) ∧
        forall ref, ref ∈ target -> ref.type < 2 ^ 31 ∧ ref.id < 2 ^ 64
  | skillCmd roomId _ _ _ _ => roomId < 2 ^ 64
  | harvestCmd roomId ids field =>
      roomId < 2 ^ 64 ∧ (forall id, id ∈ ids -> id < 2 ^ 64) ∧ field < 2 ^ 64
  | storeResourceCmd roomId ids camp =>
      roomId < 2 ^ 64 ∧ (forall id, id ∈ ids -> id < 2 ^ 64) ∧ camp < 2 ^ 64
  | pickupResourceCmd roomId ids drop =>
      roomId < 2 ^ 64 ∧ (forall id, id ∈ ids -> id < 2 ^ 64) ∧ drop < 2 ^ 64
  | buildCmd roomId ids type _ _ =>
      roomId < 2 ^ 64 ∧ (forall id, id ∈ ids -> id < 2 ^ 64) ∧ type < 2 ^ 31
  | constructCmd roomId ids building =>
      roomId < 2 ^ 64 ∧ (forall id, id ∈ ids -> id < 2 ^ 64) ∧ building < 2 ^ 64
  | trainUnitCmd roomId producer type =>
      roomId < 2 ^ 64 ∧ producer < 2 ^ 64 ∧ type < 2 ^ 31
  | stopCmd roomId ids => roomId < 2 ^ 64 ∧ forall id, id ∈ ids -> id < 2 ^ 64

/-- The parser for a request finds it; no shard looks inside a `SkillCmd`. -/
def Codec.Reads {B : Type} (codec : Codec B F) (body : B) : ClientRequest F -> Prop
  | ClientRequest.joinRoomReq roomId => codec.joinRoomReq body = some roomId
  | ClientRequest.leaveRoomReq roomId => codec.leaveRoomReq body = some roomId
  | ClientRequest.playerReadyReq roomId ready =>
      codec.playerReadyReq body = some ⟨roomId, ready⟩
  | ClientRequest.enterBattleReq roomId => codec.enterBattleReq body = some roomId
  | ClientRequest.moveCmd _ ids target _ path => codec.moveCmd body = some ⟨ids, target, path⟩
  | ClientRequest.attackCmd _ ids target =>
      codec.attackCmd body = some ⟨ids, target.map EntityRef.id⟩
  | ClientRequest.skillCmd _ _ _ _ _ => True
  | ClientRequest.harvestCmd _ ids field => codec.harvestCmd body = some ⟨ids, field⟩
  | ClientRequest.storeResourceCmd _ ids camp => codec.storeResourceCmd body = some ⟨ids, camp⟩
  | ClientRequest.pickupResourceCmd _ ids drop =>
      codec.pickupResourceCmd body = some ⟨ids, drop⟩
  | ClientRequest.buildCmd _ ids type position yaw =>
      codec.buildCmd body = some ⟨ids, type, position, yaw⟩
  | ClientRequest.constructCmd _ ids building => codec.constructCmd body = some ⟨ids, building⟩
  | ClientRequest.trainUnitCmd _ producer type =>
      codec.trainUnitCmd body = some ⟨producer, type⟩
  | ClientRequest.stopCmd _ ids => codec.stopCmd body = some ids

/-!
## Requests are read back
-/

section RoundTrip

variable (fb : FloatBits F)

theorem FieldValue.protoFields_few {number : Nat} (hnumber : number < 16)
    (value : FieldValue F) : FewFields (value.protoFields fb.bits number) := by
  cases value with
  | varint n => simpa [FewFields, FieldValue.protoFields] using hnumber
  | varints ns => simpa [FewFields, FieldValue.protoFields] using hnumber
  | float x => simpa [FewFields, FieldValue.protoFields] using hnumber
  | position v => exact messageFields_few hnumber _ _
  | positions vs => exact messageFields_few hnumber _ _
  | entity ref => exact messageFields_few hnumber _ _

theorem ClientRequest.fields_lt (request : ClientRequest F) :
    forall field, field ∈ request.fields -> field.1 < 16 := by
  cases request with
  | _ => simp [ClientRequest.fields]

theorem ClientRequest.protoFields_few (request : ClientRequest F) :
    FewFields (request.protoFields fb.bits) := by
  intro protoField hmem
  rcases List.mem_flatMap.mp hmem with ⟨field, hfield, hmem⟩
  exact field.2.protoFields_few fb (request.fields_lt field hfield) protoField hmem

/-- The ids of a command are read back. -/
theorem numbers_ids (k : Nat) {ids : List Nat} (h : forall id, id ∈ ids -> id < 2 ^ 64) :
    numbers (ProtoField.bytes k ((ids.map UInt64.ofNat).flatMap RtsGame.varint)).found =
      some ids := by
  rw [numbers_found, List.map_map]
  refine congrArg some ((List.map_congr_left fun id hid => ?_).trans (List.map_id _))
  exact Nat.mod_eq_of_lt (h id hid)

theorem optional_position (v : Option (Vec3f F)) :
    optionalMessage (Vec3f.read fb)
        (v.toList.map fun v => ProtoValue.bytes (encodeFields (v.fields fb.bits))) = some v :=
  optionalMessage_messages (fun v _ => v.fields_fit fb) fun v _ => v.read_fields fb

theorem submessages_path (path : List (Vec3f F)) :
    submessages (Vec3f.read fb)
        (path.map fun v => ProtoValue.bytes (encodeFields (v.fields fb.bits))) = some path :=
  submessages_messages (fun v _ => v.fields_fit fb) fun v _ => v.read_fields fb

theorem enumeratorOf_uint64Field (k : Nat) {n : Nat} (h : n < 2 ^ 31) :
    enumeratorOf (uint64Field k n).found = n := by
  unfold enumeratorOf uint64Field
  rw [number_found, UInt64.toNat_ofNat']
  lia

/-- What is found of a field of a request. -/
theorem FieldValue.valuesOf_protoFields (k number : Nat) (value : FieldValue F) :
    valuesOf k ((value.protoFields fb.bits number).flatMap ProtoField.values) =
      if number = k then valuesOf number ((value.protoFields fb.bits number).flatMap
        ProtoField.values) else [] := by
  by_cases hk : number = k
  · rw [if_pos hk, hk]
  · rw [if_neg hk]
    cases value with
    | _ => simp [FieldValue.protoFields, hk]

theorem ClientRequest.valuesOf_protoFields (k : Nat) (request : ClientRequest F) :
    valuesOf k ((request.protoFields fb.bits).flatMap ProtoField.values) =
      request.fields.flatMap fun field =>
        if field.1 = k then valuesOf k ((field.2.protoFields fb.bits k).flatMap
          ProtoField.values) else [] := by
  unfold ClientRequest.protoFields
  induction request.fields with
  | nil => rfl
  | cons field rest ih =>
      rw [List.flatMap_cons, List.flatMap_append, valuesOf_append, ih, List.flatMap_cons,
        FieldValue.valuesOf_protoFields]
      by_cases hk : field.1 = k
      · rw [if_pos hk, if_pos hk, hk]
      · rw [if_neg hk, if_neg hk]

theorem ClientRequest.readFirst_protoFields {request : ClientRequest F}
    (h : request.roomId < 2 ^ 64) :
    readFirst ((request.protoFields fb.bits).flatMap ProtoField.values) =
      some request.roomId := by
  unfold readFirst
  rw [ClientRequest.valuesOf_protoFields]
  cases request with
  | _ =>
      simpa [ClientRequest.fields, FieldValue.protoFields, ClientRequest.roomId] using
        uint64Of_field 1 h

theorem PlayerReadyReq.read_protoFields {roomId : Nat} {ready : Bool}
    (hroom : roomId < 2 ^ 64) :
    PlayerReadyReq.read (((ClientRequest.playerReadyReq roomId ready).protoFields
      fb.bits).flatMap ProtoField.values) = some ⟨roomId, ready⟩ := by
  unfold PlayerReadyReq.read
  simp only [ClientRequest.valuesOf_protoFields, ClientRequest.fields]
  simp [FieldValue.protoFields, uint64Of_field _ hroom]

theorem MoveCmd.read_protoFields {roomId : Nat} {ids : List Nat} {target : Option (Vec3f F)}
    {attackMove : Bool} {path : List (Vec3f F)} (hids : forall id, id ∈ ids -> id < 2 ^ 64) :
    MoveCmd.read fb (((ClientRequest.moveCmd roomId ids target attackMove path).protoFields
      fb.bits).flatMap ProtoField.values) = some ⟨ids, target, path⟩ := by
  unfold MoveCmd.read
  simp only [ClientRequest.valuesOf_protoFields, ClientRequest.fields]
  simp [FieldValue.protoFields, numbers_ids _ hids, optional_position, submessages_path]

theorem optional_entity {target : Option EntityRef}
    (h : forall ref, ref ∈ target -> ref.type < 2 ^ 31 ∧ ref.id < 2 ^ 64) :
    optionalMessage EntityRef.read (target.toList.map fun ref =>
        ProtoValue.bytes (encodeFields [uint64Field 1 ref.type, uint64Field 2 ref.id])) =
      some target := by
  refine optionalMessage_messages (fun ref _ => ?_) fun ref href => ?_
  · simp [Writable, ProtoField.Fits, uint64Field]
  · simp [EntityRef.read, enumeratorOf_uint64Field _ (h ref href).left,
      uint64Of_field _ (h ref href).right]

theorem AttackCmd.read_protoFields {roomId : Nat} {ids : List Nat}
    {target : Option EntityRef} (hids : forall id, id ∈ ids -> id < 2 ^ 64)
    (htarget : forall ref, ref ∈ target -> ref.type < 2 ^ 31 ∧ ref.id < 2 ^ 64) :
    AttackCmd.read (((ClientRequest.attackCmd roomId ids target).protoFields fb.bits).flatMap
      ProtoField.values) = some ⟨ids, target.map EntityRef.id⟩ := by
  unfold AttackCmd.read
  simp only [ClientRequest.valuesOf_protoFields, ClientRequest.fields]
  simp [FieldValue.protoFields, numbers_ids _ hids, optional_entity htarget]

/-- A request with a room, some units and one entity, whatever it is. -/
theorem TargetCmd.read_protoFields {request : ClientRequest F} {roomId id : Nat}
    {ids : List Nat} (hfields : request.fields =
      [(1, FieldValue.varint roomId), (2, FieldValue.varints ids), (3, FieldValue.varint id)])
    (hids : forall id, id ∈ ids -> id < 2 ^ 64)
    (hid : id < 2 ^ 64) :
    TargetCmd.read ((request.protoFields fb.bits).flatMap ProtoField.values) =
      some ⟨ids, id⟩ := by
  unfold TargetCmd.read
  simp only [ClientRequest.valuesOf_protoFields, hfields]
  simp [FieldValue.protoFields, numbers_ids _ hids, uint64Of_field _ hid]

theorem BuildCmd.read_protoFields {roomId : Nat} {ids : List Nat} {type : Nat}
    {position : Option (Vec3f F)} {yaw : F} (hids : forall id, id ∈ ids -> id < 2 ^ 64)
    (htype : type < 2 ^ 31) :
    BuildCmd.read fb (((ClientRequest.buildCmd roomId ids type position yaw).protoFields
      fb.bits).flatMap ProtoField.values) = some ⟨ids, type, position, yaw⟩ := by
  unfold BuildCmd.read
  simp only [ClientRequest.valuesOf_protoFields, ClientRequest.fields]
  simp [FieldValue.protoFields, numbers_ids _ hids, optional_position,
    enumeratorOf_uint64Field _ htype]

theorem TrainUnitCmd.read_protoFields {roomId producer type : Nat}
    (hproducer : producer < 2 ^ 64) (htype : type < 2 ^ 31) :
    TrainUnitCmd.read (((ClientRequest.trainUnitCmd roomId producer type).protoFields
      fb.bits).flatMap ProtoField.values) = some ⟨producer, type⟩ := by
  unfold TrainUnitCmd.read
  simp only [ClientRequest.valuesOf_protoFields, ClientRequest.fields]
  simp [FieldValue.protoFields, uint64Of_field _ hproducer, enumeratorOf_uint64Field _ htype]

theorem stopCmd_read_protoFields {roomId : Nat} {ids : List Nat}
    (hids : forall id, id ∈ ids -> id < 2 ^ 64) :
    numbers (valuesOf 2 (((ClientRequest.stopCmd roomId ids).protoFields fb.bits).flatMap
      ProtoField.values)) = some ids := by
  simp only [ClientRequest.valuesOf_protoFields, ClientRequest.fields]
  simp [FieldValue.protoFields, numbers_ids _ hids]

theorem ClientRequest.InRange.roomId_lt {request : ClientRequest F} (h : request.InRange) :
    request.roomId < 2 ^ 64 := by
  cases request with
  | joinRoomReq roomId => exact h
  | leaveRoomReq roomId => exact h
  | playerReadyReq roomId ready => exact h
  | enterBattleReq roomId => exact h
  | skillCmd roomId ids skill target position => exact h
  | _ => exact h.left

/-- What is parsed from the bytes of a request. -/
theorem parse_request {α : Type} (read : List (Nat × ProtoValue) -> Option α)
    {request : ClientRequest F} {payload : Bytes}
    (h : serializeProtoToString (request.protoFields fb.bits) = some payload) :
    parseProtoFromBytes read payload =
      read ((request.protoFields fb.bits).flatMap ProtoField.values) :=
  parseProtoFromBytes_serialize read (request.protoFields_few fb) h

/-- The payload of a request names its room in the first field. -/
theorem roomRouteHint_request {request : ClientRequest F} {payload : Bytes}
    (hroom : request.roomId < 2 ^ 64)
    (h : serializeProtoToString (request.protoFields fb.bits) = some payload) :
    (Codec.rts fb).roomRouteHint payload = some request.roomId :=
  (parse_request fb readFirst h).trans (ClientRequest.readFirst_protoFields fb hroom)

/-- The parser for a request finds what was serialized. -/
theorem reads_request {request : ClientRequest F} {payload : Bytes} (hrange : request.InRange)
    (h : serializeProtoToString (request.protoFields fb.bits) = some payload) :
    (Codec.rts fb).Reads payload request := by
  have hhint := roomRouteHint_request fb hrange.roomId_lt h
  cases request with
  | joinRoomReq roomId => exact hhint
  | leaveRoomReq roomId => exact hhint
  | playerReadyReq roomId ready =>
      exact (parse_request fb _ h).trans (PlayerReadyReq.read_protoFields fb hrange)
  | enterBattleReq roomId => exact hhint
  | moveCmd roomId ids target attackMove path =>
      exact (parse_request fb _ h).trans (MoveCmd.read_protoFields fb hrange.right)
  | attackCmd roomId ids target =>
      exact (parse_request fb _ h).trans
        (AttackCmd.read_protoFields fb hrange.right.left hrange.right.right)
  | skillCmd roomId ids skill target position => exact trivial
  | harvestCmd roomId ids field =>
      exact (parse_request fb _ h).trans
        (TargetCmd.read_protoFields fb rfl hrange.right.left hrange.right.right)
  | storeResourceCmd roomId ids camp =>
      exact (parse_request fb _ h).trans
        (TargetCmd.read_protoFields fb rfl hrange.right.left hrange.right.right)
  | pickupResourceCmd roomId ids drop =>
      exact (parse_request fb _ h).trans
        (TargetCmd.read_protoFields fb rfl hrange.right.left hrange.right.right)
  | buildCmd roomId ids type position yaw =>
      exact (parse_request fb _ h).trans
        (BuildCmd.read_protoFields fb hrange.right.left hrange.right.right)
  | constructCmd roomId ids building =>
      exact (parse_request fb _ h).trans
        (TargetCmd.read_protoFields fb rfl hrange.right.left hrange.right.right)
  | trainUnitCmd roomId producer type =>
      exact (parse_request fb _ h).trans
        (TrainUnitCmd.read_protoFields fb hrange.right.left hrange.right.right)
  | stopCmd roomId ids =>
      exact (parse_request fb _ h).trans (stopCmd_read_protoFields fb hrange.right)

end RoundTrip

end RtsGame
