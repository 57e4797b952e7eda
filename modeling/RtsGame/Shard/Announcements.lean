import RtsGame.Room.FrameLists
import RtsGame.Shard.Games
import RtsGame.Wire.Messages

/-!
# The sizes of the messages of a shard

A message reaches a gateway inside an envelope that names the players it is for.
Replies, broadcasts and the messages about a single entity are short.  A snapshot
and a delta list entities: they leave room for their envelope as long as the
room has few enough of them, and a game begins with few.
-/

namespace RtsGame

open Scalar

section Fits

variable {F : Type} (bits : F -> UInt32)

/-- What an envelope takes besides the message inside it. -/
def kEnvelopeLen : Nat := 61

/-- A message for the players of one room that leaves room for its envelope. -/
def ShardEvent.Fits : ShardEvent F -> Prop
  | ShardEvent.sent _ targets msg _ =>
      targets.length ≤ kMaxRoomPlayers ∧
        kEnvelopeLen + (encodeFields (msg.fields bits)).length ≤ kMaxPacketBodyLen
  | ShardEvent.ran _ _ => True

def AllFit (events : List (ShardEvent F)) : Prop :=
  forall e, e ∈ events -> e.Fits bits

variable {bits}

theorem AllFit.nil : AllFit bits [] := by
  intro e he
  cases he

theorem AllFit.append {front back : List (ShardEvent F)} (hfront : AllFit bits front)
    (hback : AllFit bits back) : AllFit bits (front ++ back) := by
  intro e he
  rcases List.mem_append.mp he with hleft | hright
  · exact hfront e hleft
  · exact hback e hright

theorem AllFit.flatMap {item : Type} {f : item -> List (ShardEvent F)}
    {items : List item} (h : forall x, x ∈ items -> AllFit bits (f x)) :
    AllFit bits (items.flatMap f) := by
  intro e he
  rcases List.mem_flatMap.mp he with ⟨x, hx, hex⟩
  exact h x hx e hex

theorem sendToPlayers_fit (routes : Routes) {uids : List Nat}
    (huids : uids.length ≤ kMaxRoomPlayers) {msg : ServerMsg F}
    (hmsg : kEnvelopeLen + (encodeFields (msg.fields bits)).length ≤
      kMaxPacketBodyLen) (seq : Nat) :
    AllFit bits (sendToPlayers routes uids msg seq) := by
  unfold sendToPlayers
  split
  · exact AllFit.nil
  · intro e he
    rw [List.mem_singleton.mp he]
    exact ⟨Nat.le_trans (List.length_filterMap_le _ uids) huids, hmsg⟩

theorem short_fits {msg : ServerMsg F} (h : msg.IsShort) :
    kEnvelopeLen + (encodeFields (msg.fields bits)).length ≤ kMaxPacketBodyLen := by
  have hlength := ServerMsg.fields_le bits h
  have hlimit : kEnvelopeLen + 256 ≤ kMaxPacketBodyLen := by decide
  omega

theorem sendToPlayer_fit (routes : Routes) (uid : Nat) {msg : ServerMsg F}
    (h : msg.IsShort) : AllFit bits (sendToPlayer routes uid msg) := by
  have hone : [uid].length ≤ kMaxRoomPlayers := Nat.succ_le_succ (Nat.zero_le 3)
  exact sendToPlayers_fit routes hone (short_fits h) 0

end Fits

variable {B F : Type} {bits : F -> UInt32}

/-!
## Broadcasts
-/

theorem playerUids_length (ω : IterOrder) (r : DungeonRoom F) :
    (r.playerUids ω).length = r.players.size :=
  (ω.perm r.players.keys).length_eq.trans (Table.keys_length r.players)

theorem broadcastRoomState_fit (routes : Routes) (ω : RoomOrders)
    {r : DungeonRoom F} (h : r.players.size ≤ kMaxRoomPlayers) :
    AllFit bits (broadcastRoomState routes ω r) := by
  have hplayers := IterOrder.length_values_le ω.players r.players
  unfold broadcastRoomState
  refine AllFit.flatMap ?_
  intro uid _
  refine sendToPlayer_fit routes uid ?_
  change List.length (List.map _ (r.playerList ω.players)) ≤ 4
  rw [List.length_map]
  exact Nat.le_trans hplayers h

theorem broadcastGameStart_fit (routes : Routes) (ω : RoomOrders)
    (r : DungeonRoom F) : AllFit bits (broadcastGameStart routes ω r) := by
  unfold broadcastGameStart
  refine AllFit.flatMap ?_
  intro uid _
  exact sendToPlayer_fit routes uid trivial

theorem broadcastGameOver_fit (routes : Routes) (ω : RoomOrders)
    {r : DungeonRoom F} (h : r.players.size ≤ kMaxRoomPlayers) (winnerTeam : Nat) :
    AllFit bits (broadcastGameOver routes ω r winnerTeam) := by
  intro e he
  rcases List.mem_cons.mp he with hran | hsent
  · rw [hran]
    trivial
  · have huids : (r.playerUids ω.players).length ≤ kMaxRoomPlayers := by
      rw [playerUids_length]
      exact h
    have hshort : (ServerMsg.gameOverNtf r.roomId r.serverTick
        (toProtoTeam winnerTeam) : ServerMsg F).IsShort := trivial
    exact sendToPlayers_fit routes huids (short_fits hshort) _ e hsent

/-!
## Snapshots and deltas
-/

/-- What the entities of a room take at most in a snapshot. -/
def DungeonRoom.worldLen (r : DungeonRoom F) : Nat :=
  72 * r.units.size + 58 * r.buildings.size + 52 * r.fields.size + 47 * r.drops.size

/-- What envelope, head and ledgers of a snapshot leave for the entities. -/
def kMaxWorldLen : Nat := 65329

/-- The tables of a room whose world is small enough to be sent. -/
structure Sendable (r : DungeonRoom F) : Prop where
  players : r.players.size ≤ kMaxRoomPlayers
  ledgers : r.playerRes.size ≤ kMaxRoomPlayers
  world : r.worldLen ≤ kMaxWorldLen

theorem snapshotOf_fits (ω : RoomOrders) {r : DungeonRoom F} (h : Sendable r) :
    kEnvelopeLen + (encodeFields (ServerMsg.fields bits
      (ServerMsg.snapshotNtf (snapshotOf ω r)))).length ≤ kMaxPacketBodyLen := by
  have hlength := SnapshotNtf.fields_le bits (snapshotOf ω r)
  have hunits := IterOrder.length_values_le ω.world r.units
  have hbuildings := IterOrder.length_values_le ω.world r.buildings
  have hfields := IterOrder.length_values_le ω.world r.fields
  have hdrops := IterOrder.length_values_le ω.world r.drops
  have hledgers : ((ω.ledgers.visit r.playerRes).filterMap fun uid =>
      (r.playerRes.lookup uid).map (fillPlayerResources uid)).length ≤ 4 := by
    refine Nat.le_trans (Table.length_filterMap_le
      (IterOrder.visit_nodup ω.ledgers r.playerRes) ?_) h.ledgers
    intro uid p hp
    rcases Option.map_eq_some_iff.mp hp with ⟨res, hres, _⟩
    exact Table.mem_of_lookup hres
  have hworld := h.world
  simp only [snapshotOf, List.length_map] at hlength
  simp only [DungeonRoom.worldLen, kMaxWorldLen] at hworld
  simp only [ServerMsg.fields, kEnvelopeLen, kMaxPacketBodyLen, snapshotOf]
  omega

theorem sendFullSnapshot_fit (routes : Routes) (ω : RoomOrders)
    {r : DungeonRoom F} (h : Sendable r) :
    AllFit bits (sendFullSnapshot routes ω r) := by
  refine sendToPlayers_fit routes ?_ (snapshotOf_fits ω h) _
  rw [playerUids_length]
  exact h.players

theorem deltaOf_fits (ω : RoomOrders) {r : DungeonRoom F} (h : Sendable r)
    (hdirty : r.DirtySets) :
    kEnvelopeLen + (encodeFields (ServerMsg.fields bits
      (ServerMsg.worldDeltaNtf (deltaOf ω r)))).length ≤ kMaxPacketBodyLen := by
  have hlength := WorldDeltaNtf.fields_le bits (deltaOf ω r)
  have hunits : (deltaOf ω r).units.length ≤ r.units.size := by
    refine Table.length_filterMap_le ((ω.world.perm _).nodup_iff.mpr hdirty.units) ?_
    intro id u hu
    split at hu
    · cases hu
    · rcases Option.map_eq_some_iff.mp hu with ⟨unit, hunit, _⟩
      exact Table.mem_of_lookup hunit
  have hbuildings : (deltaOf ω r).buildings.length ≤ r.buildings.size := by
    refine Table.length_filterMap_le
      ((ω.world.perm _).nodup_iff.mpr hdirty.buildings) ?_
    intro id b hb
    split at hb
    · cases hb
    · rcases Option.map_eq_some_iff.mp hb with ⟨building, hbuilding, _⟩
      exact Table.mem_of_lookup hbuilding
  have hledgers : (deltaOf ω r).resources.length ≤ r.playerRes.size := by
    refine Table.length_filterMap_le
      ((ω.ledgers.perm _).nodup_iff.mpr hdirty.ledgers) ?_
    intro uid p hp
    rcases Option.map_eq_some_iff.mp hp with ⟨res, hres, _⟩
    exact Table.mem_of_lookup hres
  have hfew := h.ledgers
  have hworld := h.world
  simp only [DungeonRoom.worldLen, kMaxWorldLen] at hworld
  simp only [kMaxRoomPlayers] at hfew
  simp only [ServerMsg.fields, kEnvelopeLen, kMaxPacketBodyLen]
  omega

theorem sendDelta_fit (routes : Routes) (ω : RoomOrders) {r : DungeonRoom F}
    (h : Sendable r) (hdirty : r.DirtySets) :
    AllFit bits (sendDelta routes ω r) := by
  have huids : (r.playerUids ω.players).length ≤ kMaxRoomPlayers := by
    rw [playerUids_length]
    exact h.players
  unfold sendDelta
  refine AllFit.flatMap ?_
  intro msg hmsg
  refine sendToPlayers_fit routes huids ?_ _
  unfold deltaMsgs at hmsg
  rw [List.mem_append, List.mem_append] at hmsg
  rcases hmsg with (hspawn | hdespawn) | hdelta
  · rcases List.mem_map.mp hspawn with ⟨state, _, rfl⟩
    exact short_fits trivial
  · rcases List.mem_map.mp hdespawn with ⟨ref, _, rfl⟩
    exact short_fits trivial
  · split at hdelta
    · rw [List.mem_singleton.mp hdelta]
      exact deltaOf_fits ω h hdirty
    · cases hdelta

/-!
## Ticks
-/

variable [Scalar F]

namespace DungeonRoom

/-- No change is noted between two inputs. -/
structure Unmarked (r : DungeonRoom F) : Prop where
  units : r.dirty = []
  buildings : r.buildingDirty = []
  ledgers : r.resourceDirty = []

omit [Scalar F] in
theorem Unmarked.dirtySets {r : DungeonRoom F} (h : Unmarked r) : DirtySets r := by
  refine ⟨?_, ?_, ?_⟩
  · rw [h.units]
    exact List.nodup_nil
  · rw [h.buildings]
    exact List.nodup_nil
  · rw [h.ledgers]
    exact List.nodup_nil

theorem afterStep_dirtySets {r : DungeonRoom F} (hr : Keyed r) (h : Unmarked r)
    (ω : RoomOrders) : DirtySets (r.afterStep ω) := by
  rcases applyPending_effects hr (allJustified_any r r.pending) with
    ⟨_, hcmds, _⟩
  rcases step_effects ω.world kTickSeconds r.beforeStep with ⟨_, hstep, _⟩
  have hcommands := Effects.dirtySets h.dirtySets hcmds
  have hordered : DirtySets r.beforeStep :=
    ⟨hcommands.units, hcommands.buildings, hcommands.ledgers⟩
  have hstepped := Effects.dirtySets hordered hstep
  exact ⟨hstepped.units, hstepped.buildings, hstepped.ledgers⟩

end DungeonRoom

open DungeonRoom

omit [Scalar F] in
theorem RoomShape.players_le {r : DungeonRoom F} (h : RoomShape r) :
    r.players.size ≤ kMaxRoomPlayers :=
  Nat.le_trans h.fits h.maxLe

omit [Scalar F] in
theorem RoomShape.ledgers_le {r : DungeonRoom F} (h : RoomShape r) :
    r.playerRes.size ≤ kMaxRoomPlayers := by
  rw [Table.size_congr h.ledgers]
  exact h.players_le

theorem tickRoom_fit (routes : Routes) (ω : RoomOrders) (roomId : Nat)
    {r : DungeonRoom F} (hshape : RoomShape r) (hmarks : Unmarked r)
    (hworld : (r.afterStep ω).worldLen ≤ kMaxWorldLen) :
    AllFit bits (tickRoom routes ω roomId r).2 := by
  rcases afterStep_setup hshape.keyed ω with ⟨hsame, _⟩
  have hplayers : (r.afterStep ω).players.size ≤ kMaxRoomPlayers := by
    rw [hsame.players]
    exact hshape.players_le
  have hledgers : (r.afterStep ω).playerRes.size ≤ kMaxRoomPlayers := by
    rw [Table.size_congr hsame.ledgers]
    exact hshape.ledgers_le
  have hsendable : Sendable (r.afterStep ω) := ⟨hplayers, hledgers, hworld⟩
  have hsync : AllFit bits (syncEvents routes ω (r.afterStep ω)) := by
    unfold syncEvents
    split
    · exact sendFullSnapshot_fit routes ω hsendable
    · exact sendDelta_fit routes ω hsendable
        (afterStep_dirtySets hshape.keyed hmarks ω)
  have hrejections : AllFit bits
      (r.applyPending.takeRejected.2.flatMap fun rej =>
        sendCommandRejected routes rej.uid roomId rej.clientSeq
          rej.code.toErrorCode "command rejected") := by
    refine AllFit.flatMap ?_
    intro rej _
    refine sendToPlayer_fit routes rej.uid ?_
    show "command rejected".utf8ByteSize < 128
    decide
  have hran : AllFit bits [ShardEvent.ran RoomCall.step r.beforeStep] := by
    intro e he
    rw [List.mem_singleton.mp he]
    trivial
  have hevents := (hrejections.append hran).append hsync
  unfold tickRoom
  dsimp only
  split
  · exact hevents
  · rename_i winner _
    have hover : ((r.afterStep ω).clearFrameChanges.setGameOver
        true).players.size ≤ kMaxRoomPlayers := hplayers
    exact hevents.append (broadcastGameOver_fit routes ω hover winner)

/-!
## The start of a game
-/

namespace DungeonRoom

/-- How many entities the second room has more than the first, at most. -/
structure Grown (units buildings fields : Nat) (r s : DungeonRoom F) : Prop where
  units : s.units.size ≤ r.units.size + units
  buildings : s.buildings.size ≤ r.buildings.size + buildings
  fields : s.fields.size ≤ r.fields.size + fields
  drops : s.drops.size ≤ r.drops.size

omit [Scalar F] in
theorem Grown.trans {u b f u' b' f' : Nat} {r s t : DungeonRoom F}
    (h : Grown u b f r s) (h' : Grown u' b' f' s t) :
    Grown (u + u') (b + b') (f + f') r t := by
  rcases h with ⟨hunits, hbuildings, hfields, hdrops⟩
  rcases h' with ⟨hunits', hbuildings', hfields', hdrops'⟩
  constructor
  all_goals omega

omit [Scalar F] in
/-- A loop adds what its body adds in every round. -/
theorem Grown.foldl {item : Type} {body : DungeonRoom F -> item -> DungeonRoom F}
    {u b f : Nat} (hbody : forall r x, Grown u b f r (body r x))
    (items : List item) (r : DungeonRoom F) :
    Grown (u * items.length) (b * items.length) (f * items.length) r
      (items.foldl body r) := by
  induction items generalizing r with
  | nil =>
      exact ⟨Nat.le_refl _, Nat.le_refl _, Nat.le_refl _, Nat.le_refl _⟩
  | cons x rest ih =>
      have hboth := (hbody r x).trans (ih (body r x))
      rw [List.length_cons, Nat.mul_succ, Nat.mul_succ, Nat.mul_succ,
        Nat.add_comm _ u, Nat.add_comm _ b, Nat.add_comm _ f]
      exact hboth

theorem spawnBase_grown (r : DungeonRoom F) (player : RoomPlayerState) :
    Grown 6 1 8 r (spawnBase r player) := by
  have hcrystal : Grown 0 1 0 r (r.spawnBuilding player.uid player.team
      kBuildingCrystal (initialLayoutForTeam player.team : InitialTeamLayout F).barracks
      (directionYaw (initialLayoutForTeam player.team :
        InitialTeamLayout F).forward) false) :=
    ⟨Nat.le_refl _, Table.size_insert_le _ _ _, Nat.le_refl _, Nat.le_refl _⟩
  have hunit : forall (s : DungeonRoom F) (i : Nat), Grown 1 0 0 s
      (spawnStartUnit (initialLayoutForTeam player.team) player s i) := by
    intro s i
    exact ⟨Table.size_insert_le _ _ _, Nat.le_refl _, Nat.le_refl _, Nat.le_refl _⟩
  have hfield : forall (s : DungeonRoom F) (entry : Nat × Rat × Rat × UInt32),
      Grown 0 0 1 s (spawnStartField (initialLayoutForTeam player.team) s entry) := by
    intro s entry
    exact ⟨Nat.le_refl _, Nat.le_refl _, Table.size_insert_le _ _ _, Nat.le_refl _⟩
  have hunits := Grown.foldl hunit (List.range kStartUnitsPerPlayer)
    (r.spawnBuilding player.uid player.team kBuildingCrystal
      (initialLayoutForTeam player.team : InitialTeamLayout F).barracks
      (directionYaw (initialLayoutForTeam player.team :
        InitialTeamLayout F).forward) false)
  exact (hcrystal.trans hunits).trans (Grown.foldl hfield startFields _)

/-- A game that begins in an empty lobby begins with a small world. -/
theorem begun_sendable (ω : RoomOrders) {r : DungeonRoom F} (hshape : RoomShape r)
    (hlobby : Lobby r) :
    Sendable (spawnInitialUnits ω (r.setStarted true)).beginBattle := by
  have hstarted : Keyed (r.setStarted true) :=
    hshape.keyed.congr rfl rfl rfl rfl rfl
  rcases spawnInitialUnits_setup ω hstarted with ⟨hsame, _⟩
  have hplayers := IterOrder.length_values_le ω.players r.players
  have hfew := hshape.players_le
  have hgrown := Grown.foldl spawnBase_grown
    ((r.setStarted true).playerList ω.players) (r.setStarted true)
  refine ⟨?_, ?_, ?_⟩
  · change (spawnInitialUnits ω (r.setStarted true)).players.size ≤ kMaxRoomPlayers
    rw [hsame.players]
    exact hfew
  · rw [Table.size_congr fun uid => mem_beginBattle_playerRes _ uid,
      Table.size_congr hsame.ledgers]
    exact hshape.ledgers_le
  · rcases hgrown with ⟨hunits, hbuildings, hfields, hdrops⟩
    have hempty : (r.setStarted true).units.size = 0 ∧
        (r.setStarted true).buildings.size = 0 ∧
        (r.setStarted true).fields.size = 0 ∧ (r.setStarted true).drops.size = 0 := by
      refine ⟨?_, ?_, ?_, ?_⟩
      · exact congrArg Table.size hlobby.units
      · exact congrArg Table.size hlobby.buildings
      · exact congrArg Table.size hlobby.fields
      · exact congrArg Table.size hlobby.drops
    change (spawnInitialUnits ω (r.setStarted true)).worldLen ≤ kMaxWorldLen
    unfold spawnInitialUnits worldLen
    simp only [kMaxWorldLen]
    simp only [kMaxRoomPlayers] at hfew
    change ((r.setStarted true).playerList ω.players).length ≤ _ at hplayers
    omega

end DungeonRoom

theorem startGame_fit (routes : Routes) (ω : RoomOrders) {r : DungeonRoom F}
    (hshape : RoomShape r) (hlobby : Lobby r) :
    AllFit bits (LogicShard.startGame routes ω r).2 := by
  have hran : AllFit bits [ShardEvent.ran RoomCall.spawnInitialUnits
      (r.setStarted true), ShardEvent.ran RoomCall.beginBattle
        (spawnInitialUnits ω (r.setStarted true))] := by
    intro e he
    rcases List.mem_cons.mp he with hfirst | hrest
    · rw [hfirst]
      trivial
    · rw [List.mem_singleton.mp hrest]
      trivial
  exact ((broadcastGameStart_fit routes ω _).append hran).append
    (sendFullSnapshot_fit routes ω (begun_sendable ω hshape hlobby))

end RtsGame
