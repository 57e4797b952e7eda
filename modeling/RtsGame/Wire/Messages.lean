import RtsGame.Library.Proto
import RtsGame.Shard.Protocol
import RtsGame.Wire.Framing

/-!
# The bytes of the messages to a gateway

The messages of a logic shard, the envelope around them and the reply to a ping,
as `rts.proto` declares them: every field with its number.  The bits of a
`float` are a parameter, of which nothing is assumed.  For every message there is
a bound on its size; those of a snapshot and of a delta depend on how many
entities they list.
-/

namespace RtsGame

/-!
## Enumerators
-/

/-- An enumerator is a 32-bit number that is extended with its sign. -/
def enumerator (n : Nat) : UInt64 :=
  if n % 2 ^ 32 < 2 ^ 31 then UInt64.ofNat (n % 2 ^ 32)
  else UInt64.ofNat (n % 2 ^ 32 + (2 ^ 64 - 2 ^ 32))

def ProtoTeam.code : ProtoTeam -> UInt64
  | ProtoTeam.player => 0
  | ProtoTeam.enemy1 => 1
  | ProtoTeam.enemy2 => 2
  | ProtoTeam.enemy3 => 3
  | ProtoTeam.neutral => 4
  | ProtoTeam.none => 5

def UnitState.code : UnitState -> UInt64
  | UnitState.idle => 0
  | UnitState.moving => 1
  | UnitState.working => 2
  | UnitState.attacking => 3
  | UnitState.dead => 4

def ErrorCode.code : ErrorCode -> UInt64
  | ErrorCode.none => 0
  | ErrorCode.invalidRequest => 1
  | ErrorCode.notLoggedIn => 2
  | ErrorCode.roomNotFound => 3
  | ErrorCode.notInRoom => 4
  | ErrorCode.permissionDenied => 5
  | ErrorCode.invalidEntity => 6
  | ErrorCode.notEnoughResources => 7
  | ErrorCode.invalidBuildPosition => 8
  | ErrorCode.serverBusy => 9

def EntityType.code : EntityType -> UInt64
  | EntityType.unit => 0
  | EntityType.building => 1
  | EntityType.resourceField => 2
  | EntityType.resourceDrop => 3

/-!
## Message ids
-/

namespace ServerMsgId

@[simp] abbrev createRoomRsp : UInt16 := 10102

@[simp] abbrev joinRoomRsp : UInt16 := 10104

@[simp] abbrev roomStateNtf : UInt16 := 10106

@[simp] abbrev gameStartNtf : UInt16 := 10108

@[simp] abbrev enterBattleRsp : UInt16 := 12001

@[simp] abbrev commandRejectedNtf : UInt16 := 12003

@[simp] abbrev entitySpawnNtf : UInt16 := 12004

@[simp] abbrev entityDespawnNtf : UInt16 := 12005

@[simp] abbrev worldDeltaNtf : UInt16 := 12006

@[simp] abbrev snapshotNtf : UInt16 := 12007

@[simp] abbrev gameOverNtf : UInt16 := 12009

end ServerMsgId

/-!
## States of entities
-/

section Fields

variable {F : Type} (bits : F -> UInt32)

def uint64Field (number n : Nat) : ProtoField :=
  ProtoField.varint number (UInt64.ofNat n)

def uint32Field (number : Nat) (n : UInt32) : ProtoField :=
  ProtoField.varint number n.toUInt64

def floatField (number : Nat) (x : F) : ProtoField :=
  ProtoField.fixed32 number (bits x)

def stringField (number : Nat) (text : String) : ProtoField :=
  ProtoField.bytes number text.toUTF8.data.toList

def messageField (number : Nat) (fields : List ProtoField) : ProtoField :=
  ProtoField.message number (encodeFields fields)

def Vec3f.fields (v : Vec3f F) : List ProtoField :=
  [floatField bits 1 v.x, floatField bits 2 v.y, floatField bits 3 v.z]

def UnitStateSnapshot.fields (u : UnitStateSnapshot F) : List ProtoField :=
  [uint64Field 1 u.id, ProtoField.varint 2 u.team.code,
    ProtoField.varint 3 (enumerator u.unitType),
    messageField 4 (u.position.fields bits), floatField bits 5 u.yaw,
    floatField bits 6 u.hp, ProtoField.varint 7 u.state.code,
    uint32Field 9 u.carriedAmount, ProtoField.varint 10 (enumerator u.carriedRaw)]

def BuildingStateSnapshot.fields (b : BuildingStateSnapshot F) : List ProtoField :=
  [uint64Field 1 b.id, ProtoField.varint 2 b.team.code,
    ProtoField.varint 3 (enumerator b.buildingType),
    messageField 4 (b.position.fields bits), floatField bits 5 b.yaw,
    floatField bits 6 b.hp, floatField bits 7 b.constructedPercent]

def ResourceFieldStateSnapshot.fields (f : ResourceFieldStateSnapshot F) :
    List ProtoField :=
  [uint64Field 1 f.id, ProtoField.varint 2 (enumerator f.raw),
    messageField 3 (f.position.fields bits), floatField bits 4 f.yaw,
    uint32Field 5 f.amountLeft]

def ResourceDropStateSnapshot.fields (d : ResourceDropStateSnapshot F) :
    List ProtoField :=
  [uint64Field 1 d.id, ProtoField.varint 2 (enumerator d.raw),
    messageField 3 (d.position.fields bits), uint32Field 4 d.amount]

def PlayerResources.fields (p : PlayerResources) : List ProtoField :=
  [uint64Field 1 p.uid, uint32Field 2 p.food, uint32Field 3 p.wood,
    uint32Field 4 p.gold]

def RoomPlayer.fields (p : RoomPlayer) : List ProtoField :=
  [uint64Field 1 p.uid, ProtoField.varint 2 p.team.code,
    uint64Field 3 p.ready.toNat]

def EntityState.entityType : EntityState F -> EntityType
  | EntityState.unit _ => EntityType.unit
  | EntityState.building _ => EntityType.building
  | EntityState.resourceField _ => EntityType.resourceField
  | EntityState.resourceDrop _ => EntityType.resourceDrop

def EntityState.fields : EntityState F -> List ProtoField
  | EntityState.unit state => state.fields bits
  | EntityState.building state => state.fields bits
  | EntityState.resourceField state => state.fields bits
  | EntityState.resourceDrop state => state.fields bits

/-!
## Messages
-/

def SnapshotNtf.fields (n : SnapshotNtf F) : List ProtoField :=
  [uint64Field 1 n.roomId, uint64Field 2 n.serverTick] ++
    n.units.map (fun u => messageField 3 (u.fields bits)) ++
    n.buildings.map (fun b => messageField 4 (b.fields bits)) ++
    n.resourceFields.map (fun f => messageField 5 (f.fields bits)) ++
    n.resourceDrops.map (fun d => messageField 6 (d.fields bits)) ++
    n.resources.map (fun p => messageField 7 p.fields)

def WorldDeltaNtf.fields (n : WorldDeltaNtf F) : List ProtoField :=
  [uint64Field 1 n.roomId, uint64Field 2 n.serverTick] ++
    n.units.map (fun u => messageField 3 (u.fields bits)) ++
    n.buildings.map (fun b => messageField 4 (b.fields bits)) ++
    n.resources.map (fun p => messageField 5 p.fields)

def ServerMsg.fields : ServerMsg F -> List ProtoField
  | ServerMsg.createRoomRsp code roomId reason =>
      [ProtoField.varint 1 code.code, uint64Field 2 roomId, stringField 3 reason]
  | ServerMsg.joinRoomRsp code roomId assignedTeam reason =>
      [ProtoField.varint 1 code.code, uint64Field 2 roomId,
        ProtoField.varint 3 assignedTeam.code, stringField 4 reason]
  | ServerMsg.enterBattleRsp code roomId serverTick reason =>
      [ProtoField.varint 1 code.code, uint64Field 2 roomId,
        uint64Field 3 serverTick, stringField 4 reason]
  | ServerMsg.commandRejectedNtf roomId clientSeq code reason =>
      [uint64Field 1 roomId, uint64Field 2 clientSeq,
        ProtoField.varint 3 code.code, stringField 4 reason]
  | ServerMsg.roomStateNtf roomId players =>
      uint64Field 1 roomId :: players.map fun p => messageField 2 p.fields
  | ServerMsg.gameStartNtf roomId serverTick tickRate snapshotRate randomSeed =>
      [uint64Field 1 roomId, uint64Field 2 serverTick, uint64Field 3 tickRate,
        uint64Field 4 snapshotRate, uint64Field 5 randomSeed]
  | ServerMsg.snapshotNtf snapshot => snapshot.fields bits
  | ServerMsg.entitySpawnNtf roomId serverTick state =>
      [uint64Field 1 roomId, uint64Field 2 serverTick,
        ProtoField.varint 3 state.entityType.code,
        ProtoField.bytes 4 (encodeFields (state.fields bits))]
  | ServerMsg.entityDespawnNtf roomId serverTick type id =>
      [uint64Field 1 roomId, uint64Field 2 serverTick,
        messageField 3 [ProtoField.varint 1 type.code, uint64Field 2 id]]
  | ServerMsg.worldDeltaNtf delta => delta.fields bits
  | ServerMsg.gameOverNtf roomId serverTick winner =>
      [uint64Field 1 roomId, uint64Field 2 serverTick,
        ProtoField.varint 3 winner.code]

def ServerMsg.msgId : ServerMsg F -> UInt16
  | ServerMsg.createRoomRsp _ _ _ => ServerMsgId.createRoomRsp
  | ServerMsg.joinRoomRsp _ _ _ _ => ServerMsgId.joinRoomRsp
  | ServerMsg.enterBattleRsp _ _ _ _ => ServerMsgId.enterBattleRsp
  | ServerMsg.commandRejectedNtf _ _ _ _ => ServerMsgId.commandRejectedNtf
  | ServerMsg.roomStateNtf _ _ => ServerMsgId.roomStateNtf
  | ServerMsg.gameStartNtf _ _ _ _ _ => ServerMsgId.gameStartNtf
  | ServerMsg.snapshotNtf _ => ServerMsgId.snapshotNtf
  | ServerMsg.entitySpawnNtf _ _ _ => ServerMsgId.entitySpawnNtf
  | ServerMsg.entityDespawnNtf _ _ _ _ => ServerMsgId.entityDespawnNtf
  | ServerMsg.worldDeltaNtf _ => ServerMsgId.worldDeltaNtf
  | ServerMsg.gameOverNtf _ _ _ => ServerMsgId.gameOverNtf

end Fields

def PongRsp.fields (clientTimeMs serverTimeMs : Nat) : List ProtoField :=
  [uint64Field 1 clientTimeMs, uint64Field 2 serverTimeMs]

def GameToGateEnvelope.fields (targetUids : List Nat) (innerMsgId : UInt16)
    (serverTick : Nat) (payload : Bytes) : List ProtoField :=
  [ProtoField.bytes 1 (targetUids.flatMap fun uid => varint (UInt64.ofNat uid)),
    ProtoField.varint 2 innerMsgId.toUInt64, uint64Field 3 serverTick,
    ProtoField.bytes 4 payload]

/-!
## Sizes of states
-/

theorem ProtoTeam.code_lt (team : ProtoTeam) : team.code.toNat < 128 ^ (0 + 1) := by
  cases team <;> decide

theorem UnitState.code_lt (state : UnitState) :
    state.code.toNat < 128 ^ (0 + 1) := by
  cases state <;> decide

theorem ErrorCode.code_lt (code : ErrorCode) : code.code.toNat < 128 ^ (0 + 1) := by
  cases code <;> decide

theorem EntityType.code_lt (type : EntityType) :
    type.code.toNat < 128 ^ (0 + 1) := by
  cases type <;> decide

section Sizes

open ProtoField

variable {F : Type} (bits : F -> UInt32)

theorem Vec3f.fields_le (v : Vec3f F) :
    (encodeFields (v.fields bits)).length ≤ 15 := by
  have hwithin : Within (v.fields bits) [5, 5, 5] :=
    ⟨fixed32_le (by decide) _, fixed32_le (by decide) _, fixed32_le (by decide) _,
      trivial⟩
  exact hwithin.length_le

theorem position_le {number : Nat} (hnumber : number < 16) (v : Vec3f F) :
    (messageField number (v.fields bits)).encode.length ≤ 17 :=
  message_le hnumber (v.fields_le bits) (by decide)

theorem UnitStateSnapshot.fields_le (u : UnitStateSnapshot F) :
    (encodeFields (u.fields bits)).length ≤ 70 := by
  have hwithin : Within (u.fields bits) [11, 2, 11, 17, 5, 5, 2, 6, 11] :=
    ⟨varint_le (by decide) _, varint_le_of_lt (by decide) u.team.code_lt,
      varint_le (by decide) _, position_le bits (by decide) _,
      fixed32_le (by decide) _, fixed32_le (by decide) _,
      varint_le_of_lt (by decide) u.state.code_lt, uint32_le (by decide) _,
      varint_le (by decide) _, trivial⟩
  exact hwithin.length_le

theorem BuildingStateSnapshot.fields_le (b : BuildingStateSnapshot F) :
    (encodeFields (b.fields bits)).length ≤ 56 := by
  have hwithin : Within (b.fields bits) [11, 2, 11, 17, 5, 5, 5] :=
    ⟨varint_le (by decide) _, varint_le_of_lt (by decide) b.team.code_lt,
      varint_le (by decide) _, position_le bits (by decide) _,
      fixed32_le (by decide) _, fixed32_le (by decide) _, fixed32_le (by decide) _,
      trivial⟩
  exact hwithin.length_le

theorem ResourceFieldStateSnapshot.fields_le (f : ResourceFieldStateSnapshot F) :
    (encodeFields (f.fields bits)).length ≤ 50 := by
  have hwithin : Within (f.fields bits) [11, 11, 17, 5, 6] :=
    ⟨varint_le (by decide) _, varint_le (by decide) _,
      position_le bits (by decide) _, fixed32_le (by decide) _,
      uint32_le (by decide) _, trivial⟩
  exact hwithin.length_le

theorem ResourceDropStateSnapshot.fields_le (d : ResourceDropStateSnapshot F) :
    (encodeFields (d.fields bits)).length ≤ 45 := by
  have hwithin : Within (d.fields bits) [11, 11, 17, 6] :=
    ⟨varint_le (by decide) _, varint_le (by decide) _,
      position_le bits (by decide) _, uint32_le (by decide) _, trivial⟩
  exact hwithin.length_le

theorem PlayerResources.fields_le (p : PlayerResources) :
    (encodeFields p.fields).length ≤ 29 := by
  have hwithin : Within p.fields [11, 6, 6, 6] :=
    ⟨varint_le (by decide) _, uint32_le (by decide) _, uint32_le (by decide) _,
      uint32_le (by decide) _, trivial⟩
  exact hwithin.length_le

theorem RoomPlayer.fields_le (p : RoomPlayer) :
    (encodeFields p.fields).length ≤ 24 := by
  have hwithin : Within p.fields [11, 2, 11] :=
    ⟨varint_le (by decide) _, varint_le_of_lt (by decide) p.team.code_lt,
      varint_le (by decide) _, trivial⟩
  exact hwithin.length_le

theorem EntityState.fields_le (state : EntityState F) :
    (encodeFields (state.fields bits)).length ≤ 70 := by
  cases state with
  | unit state => exact state.fields_le bits
  | building state => exact Nat.le_trans (state.fields_le bits) (by decide)
  | resourceField state => exact Nat.le_trans (state.fields_le bits) (by decide)
  | resourceDrop state => exact Nat.le_trans (state.fields_le bits) (by decide)

/-!
## Sizes of messages
-/

theorem header_le (roomId serverTick : Nat) :
    (encodeFields [uint64Field 1 roomId, uint64Field 2 serverTick]).length ≤ 22 := by
  have hwithin : Within [uint64Field 1 roomId, uint64Field 2 serverTick] [11, 11] :=
    ⟨varint_le (by decide) _, varint_le (by decide) _, trivial⟩
  exact hwithin.length_le

theorem SnapshotNtf.fields_le (n : SnapshotNtf F) :
    (encodeFields (n.fields bits)).length ≤ 22 + 72 * n.units.length +
      58 * n.buildings.length + 52 * n.resourceFields.length +
      47 * n.resourceDrops.length + 31 * n.resources.length := by
  have hheader := header_le n.roomId n.serverTick
  have hunits := encodeFields_map_le (fun u => messageField 3 (u.fields bits))
    (fun u => message_le (by decide) (u.fields_le bits) (by decide)) n.units
  have hbuildings := encodeFields_map_le (fun b => messageField 4 (b.fields bits))
    (fun b => message_le (by decide) (b.fields_le bits) (by decide)) n.buildings
  have hfields := encodeFields_map_le (fun f => messageField 5 (f.fields bits))
    (fun f => message_le (by decide) (f.fields_le bits) (by decide))
    n.resourceFields
  have hdrops := encodeFields_map_le (fun d => messageField 6 (d.fields bits))
    (fun d => message_le (by decide) (d.fields_le bits) (by decide))
    n.resourceDrops
  have hresources := encodeFields_map_le
    (fun p : PlayerResources => messageField 7 p.fields)
    (fun p => message_le (by decide) p.fields_le (by decide)) n.resources
  unfold SnapshotNtf.fields
  simp only [encodeFields_append, List.length_append]
  omega

/-- A building is listed with at least its position. -/
theorem SnapshotNtf.le_fields (n : SnapshotNtf F) :
    4 * n.buildings.length ≤ (encodeFields (n.fields bits)).length := by
  have hlisted : forall b : BuildingStateSnapshot F,
      4 ≤ (messageField 4 (b.fields bits)).encode.length := by
    intro b
    have hposition : 2 ≤ (messageField 4 (b.position.fields bits)).encode.length :=
      Nat.le_trans (Nat.le_add_right 2 _) (le_delimited_length (by decide) _)
    have hfields : 2 ≤ (encodeFields (b.fields bits)).length := by
      simp only [encodeFields, BuildingStateSnapshot.fields, List.flatMap_cons,
        List.length_append]
      omega
    have hmessage : 2 + (encodeFields (b.fields bits)).length ≤
        (messageField 4 (b.fields bits)).encode.length :=
      le_delimited_length (by decide) _
    omega
  have hbuildings := le_encodeFields_map _ hlisted n.buildings
  unfold SnapshotNtf.fields
  simp only [encodeFields_append, List.length_append]
  omega

theorem WorldDeltaNtf.fields_le (n : WorldDeltaNtf F) :
    (encodeFields (n.fields bits)).length ≤ 22 + 72 * n.units.length +
      58 * n.buildings.length + 31 * n.resources.length := by
  have hheader := header_le n.roomId n.serverTick
  have hunits := encodeFields_map_le (fun u => messageField 3 (u.fields bits))
    (fun u => message_le (by decide) (u.fields_le bits) (by decide)) n.units
  have hbuildings := encodeFields_map_le (fun b => messageField 4 (b.fields bits))
    (fun b => message_le (by decide) (b.fields_le bits) (by decide)) n.buildings
  have hresources := encodeFields_map_le
    (fun p : PlayerResources => messageField 5 p.fields)
    (fun p => message_le (by decide) p.fields_le (by decide)) n.resources
  unfold WorldDeltaNtf.fields
  simp only [encodeFields_append, List.length_append]
  omega

/-- A message that lists no entities, with a short text and few players. -/
def ServerMsg.IsShort : ServerMsg F -> Prop
  | ServerMsg.createRoomRsp _ _ reason => reason.utf8ByteSize < 128
  | ServerMsg.joinRoomRsp _ _ _ reason => reason.utf8ByteSize < 128
  | ServerMsg.enterBattleRsp _ _ _ reason => reason.utf8ByteSize < 128
  | ServerMsg.commandRejectedNtf _ _ _ reason => reason.utf8ByteSize < 128
  | ServerMsg.roomStateNtf _ players => players.length ≤ 4
  | ServerMsg.snapshotNtf _ => False
  | ServerMsg.worldDeltaNtf _ => False
  | _ => True

theorem stringField_le {number : Nat} (hnumber : number < 16) {text : String}
    (h : text.utf8ByteSize < 128) :
    (stringField number text).encode.length ≤ 129 := by
  have hlen : text.toUTF8.data.toList.length = text.utf8ByteSize := rfl
  have hshort : text.toUTF8.data.toList.length < 128 ^ (0 + 1) := by
    rw [hlen]
    exact h
  have hbytes := bytes_le hnumber hshort
  change (ProtoField.bytes number text.toUTF8.data.toList).encode.length ≤ 129
  omega

theorem ServerMsg.fields_le {msg : ServerMsg F} (h : msg.IsShort) :
    (encodeFields (msg.fields bits)).length ≤ 256 := by
  cases msg with
  | createRoomRsp code roomId reason =>
      have hwithin : Within (ServerMsg.fields bits
          (ServerMsg.createRoomRsp code roomId reason)) [2, 11, 129] :=
        ⟨varint_le_of_lt (by decide) code.code_lt, varint_le (by decide) _,
          stringField_le (by decide) h, trivial⟩
      exact Nat.le_trans hwithin.length_le (by decide)
  | joinRoomRsp code roomId assignedTeam reason =>
      have hwithin : Within (ServerMsg.fields bits
          (ServerMsg.joinRoomRsp code roomId assignedTeam reason))
          [2, 11, 2, 129] :=
        ⟨varint_le_of_lt (by decide) code.code_lt, varint_le (by decide) _,
          varint_le_of_lt (by decide) assignedTeam.code_lt,
          stringField_le (by decide) h, trivial⟩
      exact Nat.le_trans hwithin.length_le (by decide)
  | enterBattleRsp code roomId serverTick reason =>
      have hwithin : Within (ServerMsg.fields bits
          (ServerMsg.enterBattleRsp code roomId serverTick reason))
          [2, 11, 11, 129] :=
        ⟨varint_le_of_lt (by decide) code.code_lt, varint_le (by decide) _,
          varint_le (by decide) _, stringField_le (by decide) h, trivial⟩
      exact Nat.le_trans hwithin.length_le (by decide)
  | commandRejectedNtf roomId clientSeq code reason =>
      have hwithin : Within (ServerMsg.fields bits
          (ServerMsg.commandRejectedNtf roomId clientSeq code reason))
          [11, 11, 2, 129] :=
        ⟨varint_le (by decide) _, varint_le (by decide) _,
          varint_le_of_lt (by decide) code.code_lt, stringField_le (by decide) h,
          trivial⟩
      exact Nat.le_trans hwithin.length_le (by decide)
  | roomStateNtf roomId players =>
      have hroom : (uint64Field 1 roomId).encode.length ≤ 11 :=
        varint_le (by decide) _
      have hplayers := encodeFields_map_le
        (fun p : RoomPlayer => messageField 2 p.fields)
        (fun p => message_le (by decide) p.fields_le (by decide)) players
      have hfew : players.length ≤ 4 := h
      change ((uint64Field 1 roomId).encode ++ encodeFields (players.map
        fun p => messageField 2 p.fields)).length ≤ 256
      rw [List.length_append]
      omega
  | gameStartNtf roomId serverTick tickRate snapshotRate randomSeed =>
      have hwithin : Within (ServerMsg.fields bits
          (ServerMsg.gameStartNtf roomId serverTick tickRate snapshotRate
            randomSeed)) [11, 11, 11, 11, 11] :=
        ⟨varint_le (by decide) _, varint_le (by decide) _, varint_le (by decide) _,
          varint_le (by decide) _, varint_le (by decide) _, trivial⟩
      exact Nat.le_trans hwithin.length_le (by decide)
  | snapshotNtf snapshot => cases h
  | entitySpawnNtf roomId serverTick state =>
      have hstate := state.fields_le bits
      have hcontent : (encodeFields (state.fields bits)).length < 128 ^ (0 + 1) := by
        rw [Nat.zero_add, Nat.pow_one]
        omega
      have hbytes : (ProtoField.bytes 4 (encodeFields
          (state.fields bits))).encode.length ≤ 1 + (0 + 1) +
            (encodeFields (state.fields bits)).length :=
        bytes_le (by decide) hcontent
      have hwithin : Within (ServerMsg.fields bits
          (ServerMsg.entitySpawnNtf roomId serverTick state)) [11, 11, 2, 72] :=
        ⟨varint_le (by decide) _, varint_le (by decide) _,
          varint_le_of_lt (by decide) state.entityType.code_lt, by omega, trivial⟩
      exact Nat.le_trans hwithin.length_le (by decide)
  | entityDespawnNtf roomId serverTick type id =>
      have hentity : Within [ProtoField.varint 1 type.code, uint64Field 2 id]
          [2, 11] :=
        ⟨varint_le_of_lt (by decide) type.code_lt, varint_le (by decide) _, trivial⟩
      have hwithin : Within (ServerMsg.fields bits
          (ServerMsg.entityDespawnNtf roomId serverTick type id)) [11, 11, 15] :=
        ⟨varint_le (by decide) _, varint_le (by decide) _,
          message_le (by decide) hentity.length_le (by decide), trivial⟩
      exact Nat.le_trans hwithin.length_le (by decide)
  | worldDeltaNtf delta => cases h
  | gameOverNtf roomId serverTick winner =>
      have hwithin : Within (ServerMsg.fields bits
          (ServerMsg.gameOverNtf roomId serverTick winner)) [11, 11, 2] :=
        ⟨varint_le (by decide) _, varint_le (by decide) _,
          varint_le_of_lt (by decide) winner.code_lt, trivial⟩
      exact Nat.le_trans hwithin.length_le (by decide)

theorem PongRsp.fields_le (clientTimeMs serverTimeMs : Nat) :
    (encodeFields (PongRsp.fields clientTimeMs serverTimeMs)).length ≤ 22 := by
  have hwithin : Within (PongRsp.fields clientTimeMs serverTimeMs) [11, 11] :=
    ⟨varint_le (by decide) _, varint_le (by decide) _, trivial⟩
  exact hwithin.length_le

/-- The envelope of a message for the players of one room. -/
theorem GameToGateEnvelope.fields_le {targetUids : List Nat}
    (huids : targetUids.length ≤ 4) (innerMsgId : UInt16) (serverTick : Nat)
    {payload : Bytes} (hpayload : payload.length < 128 ^ (2 + 1)) :
    (encodeFields (GameToGateEnvelope.fields targetUids innerMsgId serverTick
      payload)).length ≤ 61 + payload.length := by
  have hpacked : (targetUids.flatMap fun uid => varint (UInt64.ofNat uid)).length ≤
      10 * targetUids.length := by
    clear huids
    induction targetUids with
    | nil =>
        exact Nat.zero_le _
    | cons uid rest ih =>
        have huid := varint_length_le (UInt64.ofNat uid)
        rw [List.flatMap_cons, List.length_append, List.length_cons]
        omega
  have hshort : (targetUids.flatMap fun uid => varint (UInt64.ofNat uid)).length <
      128 ^ (0 + 1) := by
    rw [Nat.zero_add, Nat.pow_one]
    omega
  have htargets : (ProtoField.bytes 1 (targetUids.flatMap fun uid =>
      varint (UInt64.ofNat uid))).encode.length ≤ 1 + (0 + 1) +
        (targetUids.flatMap fun uid => varint (UInt64.ofNat uid)).length :=
    bytes_le (by decide) hshort
  have hid : innerMsgId.toUInt64.toNat < 128 ^ (2 + 1) := by
    have hlt := innerMsgId.toNat_lt
    rw [UInt16.toNat_toUInt64]
    omega
  have hbytes : (ProtoField.bytes 4 payload).encode.length ≤
      1 + (2 + 1) + payload.length := bytes_le (by decide) hpayload
  have hwithin : Within (GameToGateEnvelope.fields targetUids innerMsgId serverTick
      payload) [42, 4, 11, 4 + payload.length] :=
    ⟨by omega, varint_le_of_lt (by decide) hid, varint_le (by decide) _, by omega,
      trivial⟩
  have hlength := hwithin.length_le
  simp only [List.sum_cons, List.sum_nil] at hlength
  omega

theorem GameToGateEnvelope.le_fields (targetUids : List Nat) (innerMsgId : UInt16)
    (serverTick : Nat) (payload : Bytes) :
    payload.length ≤ (encodeFields (GameToGateEnvelope.fields targetUids innerMsgId
      serverTick payload)).length := by
  have hbytes : payload.length ≤ (ProtoField.bytes 4 payload).encode.length :=
    le_bytes (by decide) payload
  simp only [encodeFields, GameToGateEnvelope.fields, List.flatMap_cons,
    List.length_append]
  omega

end Sizes

/-- `SerializeToString` fails for messages of two gigabytes and more. -/
def serializeProtoToString (fields : List ProtoField) : Option Bytes :=
  if (encodeFields fields).length < 2 ^ 31 then some (encodeFields fields) else none

end RtsGame
