import RtsGame.Library.ProtoFields
import RtsGame.Wire.Messages

/-!
# Reading the messages of the game server

The messages of a logic shard are read back from their bytes as `rts.proto` declares them.
Nothing is lost on the way: whatever a shard has to say, a client that reads the bytes finds
the same message, and the gateway in between finds the envelope.  Numbers are as large as
their types allow.
-/

namespace RtsGame

open ProtoValue

/-- The bits of a `float`, which determine it. -/
structure FloatBits (F : Type) where
  bits : F -> UInt32
  ofBits : UInt32 -> F
  ofBits_bits : forall x, ofBits (bits x) = x

/-!
## Enumerators
-/

def ProtoTeam.ofCode : Nat -> Option ProtoTeam
  | 0 => some ProtoTeam.player
  | 1 => some ProtoTeam.enemy1
  | 2 => some ProtoTeam.enemy2
  | 3 => some ProtoTeam.enemy3
  | 4 => some ProtoTeam.neutral
  | 5 => some ProtoTeam.none
  | _ => none

def UnitState.ofCode : Nat -> Option UnitState
  | 0 => some UnitState.idle
  | 1 => some UnitState.moving
  | 2 => some UnitState.working
  | 3 => some UnitState.attacking
  | 4 => some UnitState.dead
  | _ => none

def ErrorCode.ofCode : Nat -> Option ErrorCode
  | 0 => some ErrorCode.none
  | 1 => some ErrorCode.invalidRequest
  | 2 => some ErrorCode.notLoggedIn
  | 3 => some ErrorCode.roomNotFound
  | 4 => some ErrorCode.notInRoom
  | 5 => some ErrorCode.permissionDenied
  | 6 => some ErrorCode.invalidEntity
  | 7 => some ErrorCode.notEnoughResources
  | 8 => some ErrorCode.invalidBuildPosition
  | 9 => some ErrorCode.serverBusy
  | _ => none

def EntityType.ofCode : Nat -> Option EntityType
  | 0 => some EntityType.unit
  | 1 => some EntityType.building
  | 2 => some EntityType.resourceField
  | 3 => some EntityType.resourceDrop
  | _ => none

@[simp] theorem ProtoTeam.ofCode_code (team : ProtoTeam) : ofCode team.code.toNat = some team := by
  cases team with
  | _ => rfl

@[simp] theorem UnitState.ofCode_code (state : UnitState) :
    ofCode state.code.toNat = some state := by
  cases state with
  | _ => rfl

@[simp] theorem ErrorCode.ofCode_code (code : ErrorCode) : ofCode code.code.toNat = some code := by
  cases code with
  | _ => rfl

@[simp] theorem EntityType.ofCode_code (type : EntityType) :
    ofCode type.code.toNat = some type := by
  cases type with
  | _ => rfl

/-- A field with an enumerator of which only the number is kept. -/
def enumeratorOf (values : List ProtoValue) : Nat := number values % 2 ^ 32

theorem enumeratorOf_found (k : Nat) {n : Nat} (h : n < 2 ^ 32) :
    enumeratorOf (ProtoField.varint k (enumerator n)).found = n := by
  unfold enumeratorOf
  rw [number_found]
  unfold enumerator
  split
  · rw [UInt64.toNat_ofNat']
    lia
  · rw [UInt64.toNat_ofNat']
    lia

section Kinds

variable {F : Type} (fb : FloatBits F)

/-- A field of type `float`. -/
def floatOf (values : List ProtoValue) : F := fb.ofBits (bits values)

/-!
Each kind of field has its number, and what is found of it is its value.
-/

@[simp] theorem varint_number (k : Nat) (v : UInt64) : (ProtoField.varint k v).number = k := rfl

@[simp] theorem bytes_number (k : Nat) (raw : Bytes) : (ProtoField.bytes k raw).number = k := rfl

@[simp] theorem uint64Field_number (k n : Nat) : (uint64Field k n).number = k := rfl

@[simp] theorem uint32Field_number (k : Nat) (n : UInt32) : (uint32Field k n).number = k := rfl

@[simp] theorem floatField_number (bits : F -> UInt32) (k : Nat) (x : F) :
    (floatField bits k x).number = k := rfl

@[simp] theorem stringField_number (k : Nat) (text : String) :
    (stringField k text).number = k := rfl

@[simp] theorem messageField_number (k : Nat) (fields : List ProtoField) :
    (messageField k fields).number = k := rfl

theorem uint64Of_field (k : Nat) {n : Nat} (h : n < 2 ^ 64) :
    uint64Of (uint64Field k n).found = n :=
  uint64Of_found k h

@[simp] theorem uint32Of_field (k : Nat) (n : UInt32) : uint32Of (uint32Field k n).found = n :=
  uint32Of_found k n

theorem uint32Of_uint64Field (k : Nat) {n : Nat} (h : n < 2 ^ 32) :
    (uint32Of (uint64Field k n).found).toNat = n := by
  unfold uint32Of uint64Field
  rw [number_found, UInt64.toNat_ofNat', UInt32.toNat_ofNat']
  lia

@[simp] theorem boolOf_field (k : Nat) (b : Bool) :
    boolOf (uint64Field k b.toNat).found = b :=
  boolOf_found k b

@[simp] theorem floatOf_field (k : Nat) (x : F) :
    floatOf fb (floatField fb.bits k x).found = x := by
  unfold floatOf floatField
  rw [bits_found, fb.ofBits_bits]

@[simp] theorem text_field (k : Nat) (s : String) : text (stringField k s).found = some s :=
  text_found k s

/-- A repeated field is found whole or not at all. -/
@[simp] theorem valuesOf_messageFields {α : Type} (number k : Nat)
    (fieldsOf : α -> List ProtoField) (items : List α) :
    valuesOf number ((items.map fun item => messageField k (fieldsOf item)).flatMap
        ProtoField.values) =
      if k = number then items.map fun item => ProtoValue.bytes (encodeFields (fieldsOf item))
      else [] :=
  valuesOf_messages number k (fun item => encodeFields (fieldsOf item)) items

theorem messageFields_few {α : Type} {k : Nat} (hk : k < 16)
    (fieldsOf : α -> List ProtoField) (items : List α) :
    FewFields (items.map fun item => messageField k (fieldsOf item)) :=
  FewFields.messages hk (fun item => encodeFields (fieldsOf item)) items

end Kinds

/-!
## Messages and bytes
-/

def parseProtoFromBytes {α : Type} (read : List (Nat × ProtoValue) -> Option α)
    (bytes : Bytes) : Option α :=
  if bytes.length > 2 ^ 31 - 1 then none else (readMessage bytes).bind read

/-- What is serialized can be read, whatever a reader then does with the fields. -/
theorem parseProtoFromBytes_serialize {α : Type} (read : List (Nat × ProtoValue) -> Option α)
    {fields : List ProtoField} {payload : Bytes} (hfew : FewFields fields)
    (h : serializeProtoToString fields = some payload) :
    parseProtoFromBytes read payload = read (fields.flatMap ProtoField.values) := by
  unfold serializeProtoToString at h
  split at h
  · rename_i hlength
    have hpayload := Option.some.inj h
    rw [← hpayload]
    unfold parseProtoFromBytes
    rw [if_neg (by lia)]
    exact readMessage_submessage read (hfew.writable (Nat.lt_trans hlength (by decide)))
  · cases h

/-!
## States of entities
-/

section States

variable {F : Type} (fb : FloatBits F)

def Vec3f.read (fields : List (Nat × ProtoValue)) : Option (Vec3f F) :=
  some ⟨floatOf fb (valuesOf 1 fields), floatOf fb (valuesOf 2 fields),
    floatOf fb (valuesOf 3 fields)⟩

def UnitStateSnapshot.read (fields : List (Nat × ProtoValue)) :
    Option (UnitStateSnapshot F) := do
  let team ← ProtoTeam.ofCode (number (valuesOf 2 fields))
  let position ← submessage (Vec3f.read fb) (valuesOf 4 fields)
  let state ← UnitState.ofCode (number (valuesOf 7 fields))
  return {
    id := uint64Of (valuesOf 1 fields)
    team := team
    unitType := enumeratorOf (valuesOf 3 fields)
    position := position
    yaw := floatOf fb (valuesOf 5 fields)
    hp := floatOf fb (valuesOf 6 fields)
    state := state
    carriedAmount := uint32Of (valuesOf 9 fields)
    carriedRaw := enumeratorOf (valuesOf 10 fields) }

def BuildingStateSnapshot.read (fields : List (Nat × ProtoValue)) :
    Option (BuildingStateSnapshot F) := do
  let team ← ProtoTeam.ofCode (number (valuesOf 2 fields))
  let position ← submessage (Vec3f.read fb) (valuesOf 4 fields)
  return {
    id := uint64Of (valuesOf 1 fields)
    team := team
    buildingType := enumeratorOf (valuesOf 3 fields)
    position := position
    yaw := floatOf fb (valuesOf 5 fields)
    hp := floatOf fb (valuesOf 6 fields)
    constructedPercent := floatOf fb (valuesOf 7 fields) }

def ResourceFieldStateSnapshot.read (fields : List (Nat × ProtoValue)) :
    Option (ResourceFieldStateSnapshot F) := do
  let position ← submessage (Vec3f.read fb) (valuesOf 3 fields)
  return {
    id := uint64Of (valuesOf 1 fields)
    raw := enumeratorOf (valuesOf 2 fields)
    position := position
    yaw := floatOf fb (valuesOf 4 fields)
    amountLeft := uint32Of (valuesOf 5 fields) }

def ResourceDropStateSnapshot.read (fields : List (Nat × ProtoValue)) :
    Option (ResourceDropStateSnapshot F) := do
  let position ← submessage (Vec3f.read fb) (valuesOf 3 fields)
  return {
    id := uint64Of (valuesOf 1 fields)
    raw := enumeratorOf (valuesOf 2 fields)
    position := position
    amount := uint32Of (valuesOf 4 fields) }

def PlayerResources.read (fields : List (Nat × ProtoValue)) : Option PlayerResources :=
  some ⟨uint64Of (valuesOf 1 fields), uint32Of (valuesOf 2 fields),
    uint32Of (valuesOf 3 fields), uint32Of (valuesOf 4 fields)⟩

def RoomPlayer.read (fields : List (Nat × ProtoValue)) : Option RoomPlayer := do
  let team ← ProtoTeam.ofCode (number (valuesOf 2 fields))
  return ⟨uint64Of (valuesOf 1 fields), team, boolOf (valuesOf 3 fields)⟩

/-- The state of an entity is read as its type says. -/
def EntityState.read (type : EntityType) (fields : List (Nat × ProtoValue)) :
    Option (EntityState F) :=
  match type with
  | EntityType.unit => (UnitStateSnapshot.read fb fields).map EntityState.unit
  | EntityType.building => (BuildingStateSnapshot.read fb fields).map EntityState.building
  | EntityType.resourceField =>
      (ResourceFieldStateSnapshot.read fb fields).map EntityState.resourceField
  | EntityType.resourceDrop =>
      (ResourceDropStateSnapshot.read fb fields).map EntityState.resourceDrop

/-!
## States are read back
-/

def UnitStateSnapshot.InRange (u : UnitStateSnapshot F) : Prop :=
  u.id < 2 ^ 64 ∧ u.unitType < 2 ^ 32 ∧ u.carriedRaw < 2 ^ 32

def BuildingStateSnapshot.InRange (b : BuildingStateSnapshot F) : Prop :=
  b.id < 2 ^ 64 ∧ b.buildingType < 2 ^ 32

def ResourceFieldStateSnapshot.InRange (f : ResourceFieldStateSnapshot F) : Prop :=
  f.id < 2 ^ 64 ∧ f.raw < 2 ^ 32

def ResourceDropStateSnapshot.InRange (d : ResourceDropStateSnapshot F) : Prop :=
  d.id < 2 ^ 64 ∧ d.raw < 2 ^ 32

def EntityState.InRange : EntityState F -> Prop
  | EntityState.unit state => state.InRange
  | EntityState.building state => state.InRange
  | EntityState.resourceField state => state.InRange
  | EntityState.resourceDrop state => state.InRange

theorem Vec3f.fields_fit (v : Vec3f F) : Writable (v.fields fb.bits) := by
  have hfew : FewFields (v.fields fb.bits) := by simp [FewFields, Vec3f.fields]
  exact hfew.writable (Nat.lt_of_le_of_lt (v.fields_le fb.bits) (by decide))

@[simp] theorem Vec3f.read_fields (v : Vec3f F) :
    Vec3f.read fb ((v.fields fb.bits).flatMap ProtoField.values) = some v := by
  simp [Vec3f.read, Vec3f.fields]

@[simp] theorem submessage_position (k : Nat) (v : Vec3f F) :
    submessage (Vec3f.read fb) (messageField k (v.fields fb.bits)).found = some v := by
  unfold messageField
  rw [submessage_found (Vec3f.read fb) k (v.fields_fit fb), v.read_fields fb]

theorem UnitStateSnapshot.fields_fit (u : UnitStateSnapshot F) : Writable (u.fields fb.bits) := by
  have hfew : FewFields (u.fields fb.bits) := by simp [FewFields, UnitStateSnapshot.fields]
  exact hfew.writable (Nat.lt_of_le_of_lt (u.fields_le fb.bits) (by decide))

theorem UnitStateSnapshot.read_fields {u : UnitStateSnapshot F} (h : u.InRange) :
    UnitStateSnapshot.read fb ((u.fields fb.bits).flatMap ProtoField.values) = some u := by
  rcases h with ⟨hid, htype, hraw⟩
  simp [UnitStateSnapshot.read, UnitStateSnapshot.fields, uint64Of_field _ hid,
    enumeratorOf_found _ htype, enumeratorOf_found _ hraw]

theorem BuildingStateSnapshot.fields_fit (b : BuildingStateSnapshot F) :
    Writable (b.fields fb.bits) := by
  have hfew : FewFields (b.fields fb.bits) := by simp [FewFields, BuildingStateSnapshot.fields]
  exact hfew.writable (Nat.lt_of_le_of_lt (b.fields_le fb.bits) (by decide))

theorem BuildingStateSnapshot.read_fields {b : BuildingStateSnapshot F} (h : b.InRange) :
    BuildingStateSnapshot.read fb ((b.fields fb.bits).flatMap ProtoField.values) = some b := by
  rcases h with ⟨hid, htype⟩
  simp [BuildingStateSnapshot.read, BuildingStateSnapshot.fields, uint64Of_field _ hid,
    enumeratorOf_found _ htype]

theorem ResourceFieldStateSnapshot.fields_fit (f : ResourceFieldStateSnapshot F) :
    Writable (f.fields fb.bits) := by
  have hfew : FewFields (f.fields fb.bits) := by
    simp [FewFields, ResourceFieldStateSnapshot.fields]
  exact hfew.writable (Nat.lt_of_le_of_lt (f.fields_le fb.bits) (by decide))

theorem ResourceFieldStateSnapshot.read_fields {f : ResourceFieldStateSnapshot F}
    (h : f.InRange) :
    ResourceFieldStateSnapshot.read fb ((f.fields fb.bits).flatMap ProtoField.values) =
      some f := by
  rcases h with ⟨hid, hraw⟩
  simp [ResourceFieldStateSnapshot.read, ResourceFieldStateSnapshot.fields, uint64Of_field _ hid,
    enumeratorOf_found _ hraw]

theorem ResourceDropStateSnapshot.fields_fit (d : ResourceDropStateSnapshot F) :
    Writable (d.fields fb.bits) := by
  have hfew : FewFields (d.fields fb.bits) := by
    simp [FewFields, ResourceDropStateSnapshot.fields]
  exact hfew.writable (Nat.lt_of_le_of_lt (d.fields_le fb.bits) (by decide))

theorem ResourceDropStateSnapshot.read_fields {d : ResourceDropStateSnapshot F}
    (h : d.InRange) :
    ResourceDropStateSnapshot.read fb ((d.fields fb.bits).flatMap ProtoField.values) =
      some d := by
  rcases h with ⟨hid, hraw⟩
  simp [ResourceDropStateSnapshot.read, ResourceDropStateSnapshot.fields, uint64Of_field _ hid,
    enumeratorOf_found _ hraw]

theorem PlayerResources.fields_fit (p : PlayerResources) : Writable p.fields := by
  have hfew : FewFields p.fields := by simp [FewFields, PlayerResources.fields]
  exact hfew.writable (Nat.lt_of_le_of_lt p.fields_le (by decide))

theorem PlayerResources.read_fields {p : PlayerResources} (h : p.uid < 2 ^ 64) :
    PlayerResources.read (p.fields.flatMap ProtoField.values) = some p := by
  simp [PlayerResources.read, PlayerResources.fields, uint64Of_field _ h]

theorem RoomPlayer.fields_fit (p : RoomPlayer) : Writable p.fields := by
  have hfew : FewFields p.fields := by simp [FewFields, RoomPlayer.fields]
  exact hfew.writable (Nat.lt_of_le_of_lt p.fields_le (by decide))

theorem RoomPlayer.read_fields {p : RoomPlayer} (h : p.uid < 2 ^ 64) :
    RoomPlayer.read (p.fields.flatMap ProtoField.values) = some p := by
  simp [RoomPlayer.read, RoomPlayer.fields, uint64Of_field _ h]

theorem EntityState.fields_fit (state : EntityState F) : Writable (state.fields fb.bits) := by
  cases state with
  | unit u => exact u.fields_fit fb
  | building b => exact b.fields_fit fb
  | resourceField f => exact f.fields_fit fb
  | resourceDrop d => exact d.fields_fit fb

theorem EntityState.read_fields {state : EntityState F} (h : state.InRange) :
    EntityState.read fb state.entityType ((state.fields fb.bits).flatMap ProtoField.values) =
      some state := by
  cases state with
  | unit u => exact congrArg (Option.map unit) (UnitStateSnapshot.read_fields fb h)
  | building b => exact congrArg (Option.map building) (BuildingStateSnapshot.read_fields fb h)
  | resourceField f =>
      exact congrArg (Option.map resourceField) (ResourceFieldStateSnapshot.read_fields fb h)
  | resourceDrop d =>
      exact congrArg (Option.map resourceDrop) (ResourceDropStateSnapshot.read_fields fb h)

/-!
## Messages
-/

def SnapshotNtf.read (fields : List (Nat × ProtoValue)) : Option (SnapshotNtf F) := do
  let units ← submessages (UnitStateSnapshot.read fb) (valuesOf 3 fields)
  let buildings ← submessages (BuildingStateSnapshot.read fb) (valuesOf 4 fields)
  let resourceFields ← submessages (ResourceFieldStateSnapshot.read fb) (valuesOf 5 fields)
  let resourceDrops ← submessages (ResourceDropStateSnapshot.read fb) (valuesOf 6 fields)
  let resources ← submessages PlayerResources.read (valuesOf 7 fields)
  return ⟨uint64Of (valuesOf 1 fields), uint64Of (valuesOf 2 fields), units, buildings,
    resourceFields, resourceDrops, resources⟩

def WorldDeltaNtf.read (fields : List (Nat × ProtoValue)) : Option (WorldDeltaNtf F) := do
  let units ← submessages (UnitStateSnapshot.read fb) (valuesOf 3 fields)
  let buildings ← submessages (BuildingStateSnapshot.read fb) (valuesOf 4 fields)
  let resources ← submessages PlayerResources.read (valuesOf 5 fields)
  return ⟨uint64Of (valuesOf 1 fields), uint64Of (valuesOf 2 fields), units, buildings, resources⟩

/-- The type of an entity and its id. -/
def readEntityRef (fields : List (Nat × ProtoValue)) : Option (EntityType × Nat) := do
  let type ← EntityType.ofCode (number (valuesOf 1 fields))
  return (type, uint64Of (valuesOf 2 fields))

/-- A message of a shard is read as its id says. -/
def ServerMsg.read (msgId : UInt16) (fields : List (Nat × ProtoValue)) :
    Option (ServerMsg F) :=
  match msgId.toNat with
  | 10102 => do
      let code ← ErrorCode.ofCode (number (valuesOf 1 fields))
      let reason ← text (valuesOf 3 fields)
      return createRoomRsp code (uint64Of (valuesOf 2 fields)) reason
  | 10104 => do
      let code ← ErrorCode.ofCode (number (valuesOf 1 fields))
      let assignedTeam ← ProtoTeam.ofCode (number (valuesOf 3 fields))
      let reason ← text (valuesOf 4 fields)
      return joinRoomRsp code (uint64Of (valuesOf 2 fields)) assignedTeam reason
  | 12001 => do
      let code ← ErrorCode.ofCode (number (valuesOf 1 fields))
      let reason ← text (valuesOf 4 fields)
      return enterBattleRsp code (uint64Of (valuesOf 2 fields)) (uint64Of (valuesOf 3 fields))
        reason
  | 12003 => do
      let code ← ErrorCode.ofCode (number (valuesOf 3 fields))
      let reason ← text (valuesOf 4 fields)
      return commandRejectedNtf (uint64Of (valuesOf 1 fields)) (uint64Of (valuesOf 2 fields))
        code reason
  | 10106 => do
      let players ← submessages RoomPlayer.read (valuesOf 2 fields)
      return roomStateNtf (uint64Of (valuesOf 1 fields)) players
  | 10108 =>
      some (gameStartNtf (uint64Of (valuesOf 1 fields)) (uint64Of (valuesOf 2 fields))
        (uint32Of (valuesOf 3 fields)).toNat (uint32Of (valuesOf 4 fields)).toNat
        (uint64Of (valuesOf 5 fields)))
  | 12007 => (SnapshotNtf.read fb fields).map snapshotNtf
  | 12004 => do
      let type ← EntityType.ofCode (number (valuesOf 3 fields))
      let state ← (readMessage (content (valuesOf 4 fields))).bind (EntityState.read fb type)
      return entitySpawnNtf (uint64Of (valuesOf 1 fields)) (uint64Of (valuesOf 2 fields)) state
  | 12005 => do
      let (type, id) ← submessage readEntityRef (valuesOf 3 fields)
      return entityDespawnNtf (uint64Of (valuesOf 1 fields)) (uint64Of (valuesOf 2 fields))
        type id
  | 12006 => (WorldDeltaNtf.read fb fields).map worldDeltaNtf
  | 12009 => do
      let winner ← ProtoTeam.ofCode (number (valuesOf 3 fields))
      return gameOverNtf (uint64Of (valuesOf 1 fields)) (uint64Of (valuesOf 2 fields)) winner
  | _ => none

/-- A message of a shard from the bytes of its payload. -/
def ServerMsg.parse (msgId : UInt16) (payload : Bytes) : Option (ServerMsg F) :=
  parseProtoFromBytes (ServerMsg.read fb msgId) payload

/-!
## Messages are read back
-/

def SnapshotNtf.InRange (n : SnapshotNtf F) : Prop :=
  n.roomId < 2 ^ 64 ∧ n.serverTick < 2 ^ 64 ∧ (forall u, u ∈ n.units -> u.InRange) ∧
    (forall b, b ∈ n.buildings -> b.InRange) ∧ (forall f, f ∈ n.resourceFields -> f.InRange) ∧
    (forall d, d ∈ n.resourceDrops -> d.InRange) ∧ forall p, p ∈ n.resources -> p.uid < 2 ^ 64

def WorldDeltaNtf.InRange (n : WorldDeltaNtf F) : Prop :=
  n.roomId < 2 ^ 64 ∧ n.serverTick < 2 ^ 64 ∧ (forall u, u ∈ n.units -> u.InRange) ∧
    (forall b, b ∈ n.buildings -> b.InRange) ∧ forall p, p ∈ n.resources -> p.uid < 2 ^ 64

/-- Every number of a message fits its type in the source. -/
def ServerMsg.InRange : ServerMsg F -> Prop
  | createRoomRsp _ roomId _ => roomId < 2 ^ 64
  | joinRoomRsp _ roomId _ _ => roomId < 2 ^ 64
  | enterBattleRsp _ roomId serverTick _ => roomId < 2 ^ 64 ∧ serverTick < 2 ^ 64
  | commandRejectedNtf roomId clientSeq _ _ => roomId < 2 ^ 64 ∧ clientSeq < 2 ^ 64
  | roomStateNtf roomId players =>
      roomId < 2 ^ 64 ∧ forall p, p ∈ players -> p.uid < 2 ^ 64
  | gameStartNtf roomId serverTick tickRate snapshotRate randomSeed =>
      roomId < 2 ^ 64 ∧ serverTick < 2 ^ 64 ∧ tickRate < 2 ^ 32 ∧ snapshotRate < 2 ^ 32 ∧
        randomSeed < 2 ^ 64
  | snapshotNtf snapshot => snapshot.InRange
  | entitySpawnNtf roomId serverTick state =>
      roomId < 2 ^ 64 ∧ serverTick < 2 ^ 64 ∧ state.InRange
  | entityDespawnNtf roomId serverTick _ id =>
      roomId < 2 ^ 64 ∧ serverTick < 2 ^ 64 ∧ id < 2 ^ 64
  | worldDeltaNtf delta => delta.InRange
  | gameOverNtf roomId serverTick _ => roomId < 2 ^ 64 ∧ serverTick < 2 ^ 64

theorem SnapshotNtf.read_fields {n : SnapshotNtf F} (h : n.InRange) :
    SnapshotNtf.read fb ((n.fields fb.bits).flatMap ProtoField.values) = some n := by
  rcases h with ⟨hroom, htick, hunits, hbuildings, hfields, hdrops, hresources⟩
  have hu := submessages_messages (fun u _ => UnitStateSnapshot.fields_fit fb u)
    fun u hu => UnitStateSnapshot.read_fields fb (hunits u hu)
  have hb := submessages_messages (fun b _ => BuildingStateSnapshot.fields_fit fb b)
    fun b hb => BuildingStateSnapshot.read_fields fb (hbuildings b hb)
  have hf := submessages_messages (fun f _ => ResourceFieldStateSnapshot.fields_fit fb f)
    fun f hf => ResourceFieldStateSnapshot.read_fields fb (hfields f hf)
  have hd := submessages_messages (fun d _ => ResourceDropStateSnapshot.fields_fit fb d)
    fun d hd => ResourceDropStateSnapshot.read_fields fb (hdrops d hd)
  have hp := submessages_messages (fun p _ => PlayerResources.fields_fit p)
    fun p hp => PlayerResources.read_fields (hresources p hp)
  simp [SnapshotNtf.read, SnapshotNtf.fields, uint64Of_field _ hroom,
    uint64Of_field _ htick, hu, hb, hf, hd, hp]

theorem WorldDeltaNtf.read_fields {n : WorldDeltaNtf F} (h : n.InRange) :
    WorldDeltaNtf.read fb ((n.fields fb.bits).flatMap ProtoField.values) = some n := by
  rcases h with ⟨hroom, htick, hunits, hbuildings, hresources⟩
  have hu := submessages_messages (fun u _ => UnitStateSnapshot.fields_fit fb u)
    fun u hu => UnitStateSnapshot.read_fields fb (hunits u hu)
  have hb := submessages_messages (fun b _ => BuildingStateSnapshot.fields_fit fb b)
    fun b hb => BuildingStateSnapshot.read_fields fb (hbuildings b hb)
  have hp := submessages_messages (fun p _ => PlayerResources.fields_fit p)
    fun p hp => PlayerResources.read_fields (hresources p hp)
  simp [WorldDeltaNtf.read, WorldDeltaNtf.fields, uint64Of_field _ hroom,
    uint64Of_field _ htick, hu, hb, hp]

theorem submessage_entityRef (k : Nat) (type : EntityType) {id : Nat} (hid : id < 2 ^ 64) :
    submessage readEntityRef
        (messageField k [ProtoField.varint 1 type.code, uint64Field 2 id]).found =
      some (type, id) := by
  have hfit : Writable [ProtoField.varint 1 type.code, uint64Field 2 id] := by
    simp [Writable, ProtoField.Fits, uint64Field]
  unfold messageField
  rw [submessage_found readEntityRef k hfit]
  simp [readEntityRef, uint64Of_field _ hid]

theorem ServerMsg.read_fields {msg : ServerMsg F} (h : msg.InRange) :
    ServerMsg.read fb msg.msgId ((msg.fields fb.bits).flatMap ProtoField.values) =
      some msg := by
  cases msg with
  | createRoomRsp code roomId reason =>
      have hroom : roomId < 2 ^ 64 := h
      simp [ServerMsg.read, ServerMsg.msgId, ServerMsg.fields, uint64Of_field _ hroom]
  | joinRoomRsp code roomId assignedTeam reason =>
      have hroom : roomId < 2 ^ 64 := h
      simp [ServerMsg.read, ServerMsg.msgId, ServerMsg.fields, uint64Of_field _ hroom]
  | enterBattleRsp code roomId serverTick reason =>
      rcases h with ⟨hroom, htick⟩
      simp [ServerMsg.read, ServerMsg.msgId, ServerMsg.fields, uint64Of_field _ hroom,
        uint64Of_field _ htick]
  | commandRejectedNtf roomId clientSeq code reason =>
      rcases h with ⟨hroom, hseq⟩
      simp [ServerMsg.read, ServerMsg.msgId, ServerMsg.fields, uint64Of_field _ hroom,
        uint64Of_field _ hseq]
  | roomStateNtf roomId players =>
      rcases h with ⟨hroom, hplayers⟩
      have hread := submessages_messages (fun p _ => RoomPlayer.fields_fit p)
        fun p hp => RoomPlayer.read_fields (hplayers p hp)
      simp [ServerMsg.read, ServerMsg.msgId, ServerMsg.fields, uint64Of_field _ hroom, hread]
  | gameStartNtf roomId serverTick tickRate snapshotRate randomSeed =>
      rcases h with ⟨hroom, htick, hrate, hsnapshots, hseed⟩
      simp [ServerMsg.read, ServerMsg.msgId, ServerMsg.fields, uint64Of_field _ hroom,
        uint64Of_field _ htick, uint32Of_uint64Field _ hrate,
        uint32Of_uint64Field _ hsnapshots, uint64Of_field _ hseed]
  | snapshotNtf snapshot =>
      exact congrArg (Option.map snapshotNtf) (SnapshotNtf.read_fields fb h)
  | entitySpawnNtf roomId serverTick state =>
      rcases h with ⟨hroom, htick, hstate⟩
      have hread := readMessage_submessage (EntityState.read fb state.entityType)
        (state.fields_fit fb)
      rw [EntityState.read_fields fb hstate] at hread
      simp [ServerMsg.read, ServerMsg.msgId, ServerMsg.fields, uint64Of_field _ hroom,
        uint64Of_field _ htick, hread]
  | entityDespawnNtf roomId serverTick type id =>
      rcases h with ⟨hroom, htick, hid⟩
      simp [ServerMsg.read, ServerMsg.msgId, ServerMsg.fields, uint64Of_field _ hroom,
        uint64Of_field _ htick, submessage_entityRef _ _ hid]
  | worldDeltaNtf delta =>
      exact congrArg (Option.map worldDeltaNtf) (WorldDeltaNtf.read_fields fb h)
  | gameOverNtf roomId serverTick winner =>
      rcases h with ⟨hroom, htick⟩
      simp [ServerMsg.read, ServerMsg.msgId, ServerMsg.fields, uint64Of_field _ hroom,
        uint64Of_field _ htick]

theorem SnapshotNtf.fields_few (n : SnapshotNtf F) : FewFields (n.fields fb.bits) := by
  have hheader : FewFields [uint64Field 1 n.roomId, uint64Field 2 n.serverTick] := by
    simp [FewFields]
  exact ((((hheader.append (messageFields_few (by decide) _ _)).append
    (messageFields_few (by decide) _ _)).append (messageFields_few (by decide) _ _)).append
    (messageFields_few (by decide) _ _)).append (messageFields_few (by decide) _ _)

theorem WorldDeltaNtf.fields_few (n : WorldDeltaNtf F) : FewFields (n.fields fb.bits) := by
  have hheader : FewFields [uint64Field 1 n.roomId, uint64Field 2 n.serverTick] := by
    simp [FewFields]
  exact ((hheader.append (messageFields_few (by decide) _ _)).append
    (messageFields_few (by decide) _ _)).append (messageFields_few (by decide) _ _)

theorem ServerMsg.fields_few (msg : ServerMsg F) : FewFields (msg.fields fb.bits) := by
  cases msg with
  | roomStateNtf roomId players =>
      exact List.forall_mem_cons.mpr ⟨by simp, messageFields_few (by decide) _ _⟩
  | snapshotNtf snapshot => exact snapshot.fields_few fb
  | worldDeltaNtf delta => exact delta.fields_few fb
  | _ => simp [FewFields, ServerMsg.fields]

/--
Whatever a shard serializes is read back from its bytes by the id of the message, with all
the entities that it lists.
-/
theorem serverMsg_inverse {msg : ServerMsg F} {payload : Bytes} (hrange : msg.InRange)
    (h : serializeProtoToString (msg.fields fb.bits) = some payload) :
    ServerMsg.parse fb msg.msgId payload = some msg := by
  unfold ServerMsg.parse
  rw [parseProtoFromBytes_serialize _ (msg.fields_few fb) h, ServerMsg.read_fields fb hrange]

end States

end RtsGame
