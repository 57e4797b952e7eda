import RtsGame.Server.Membership
import RtsGame.Shard.Announcements

/-!
# What a shard sends fits

Every handler of a shard sends replies and broadcasts, which are short; only a
tick of a running game can send more than a packet holds.
-/

namespace RtsGame

open DungeonRoom

variable {B F : Type} {bits : F -> UInt32}

/-!
## Departures
-/

/-- Rooms for few players. -/
def SmallRooms (s : LogicShard F) : Prop :=
  s.rooms.AllAt fun _ r =>
    r.players.size ≤ kMaxRoomPlayers ∧ r.maxPlayers ≤ kMaxRoomPlayers

theorem removePlayer_small {r : DungeonRoom F}
    (h : r.players.size ≤ kMaxRoomPlayers) (uid : Nat) :
    (r.removePlayer uid).1.players.size ≤ kMaxRoomPlayers :=
  Nat.le_trans (Table.size_erase_le r.players uid) h

theorem settleDeparture_fit (ω : Orders) (s : LogicShard F) (roomId : Nat)
    (wasActive : Bool) {r : DungeonRoom F} (h : r.players.size ≤ kMaxRoomPlayers) :
    AllFit bits (LogicShard.settleDeparture ω s roomId wasActive r).2 := by
  unfold LogicShard.settleDeparture
  split
  · exact AllFit.nil
  · split
    · have hover : (r.setGameOver true).players.size ≤ kMaxRoomPlayers := h
      exact broadcastGameOver_fit _ _ hover _
    · exact broadcastRoomState_fit _ _ h

theorem settleDeparture_small (ω : Orders) {s : LogicShard F} (hs : SmallRooms s)
    (roomId : Nat) (wasActive : Bool) {r : DungeonRoom F}
    (h : r.players.size ≤ kMaxRoomPlayers ∧ r.maxPlayers ≤ kMaxRoomPlayers) :
    SmallRooms (LogicShard.settleDeparture ω s roomId wasActive r).1 := by
  unfold LogicShard.settleDeparture
  split
  · exact Table.AllAt.erase hs roomId
  · split
    · exact Table.AllAt.insert hs h
    · exact Table.AllAt.insert hs h

theorem leaveRoomInternal_fit (ω : Orders) {s : LogicShard F} (hs : SmallRooms s)
    (uid : Nat) : AllFit bits (LogicShard.leaveRoomInternal ω s uid).2 := by
  unfold LogicShard.leaveRoomInternal
  split
  · exact AllFit.nil
  · dsimp only
    split
    · exact AllFit.nil
    · rename_i r hr
      exact settleDeparture_fit ω _ _ _
        (removePlayer_small (hs _ r hr).left uid)

theorem leaveRoomInternal_small (ω : Orders) {s : LogicShard F} (hs : SmallRooms s)
    (uid : Nat) : SmallRooms (LogicShard.leaveRoomInternal ω s uid).1 := by
  unfold LogicShard.leaveRoomInternal
  split
  · exact hs
  · dsimp only
    split
    · exact hs
    · rename_i r hr
      have hroom := hs _ r hr
      have hunlisted : SmallRooms { s with uidToRoom := s.uidToRoom.erase uid } := hs
      exact settleDeparture_small ω hunlisted _ _
        ⟨removePlayer_small hroom.left uid, hroom.right⟩

theorem handleClientDisconnected_fit (codec : Codec B F) (ω : Orders)
    {s : LogicShard F} (hs : SmallRooms s) (task : LogicTask B) :
    AllFit bits (LogicShard.handleClientDisconnected codec ω s task).2 := by
  unfold LogicShard.handleClientDisconnected
  split
  · exact AllFit.nil
  · split
    · exact AllFit.nil
    · rename_i uid _ _
      have hrouted : SmallRooms { s with uidRoute := s.uidRoute.erase uid } := hs
      exact leaveRoomInternal_fit ω hrouted uid

theorem handleLeaveRoom_fit (codec : Codec B F) (ω : Orders) {s : LogicShard F}
    (hs : SmallRooms s) (task : LogicTask B) :
    AllFit bits (LogicShard.handleLeaveRoom codec ω s task).2 := by
  unfold LogicShard.handleLeaveRoom
  split
  · exact AllFit.nil
  · dsimp only
    split
    · exact AllFit.nil
    · rename_i r hr
      split
      · exact AllFit.nil
      · exact settleDeparture_fit ω _ _ _
          (removePlayer_small (hs _ r hr).left task.uid)

/-!
## Arrivals
-/

theorem addPlayer_small {r r' : DungeonRoom F} {uid team : Nat}
    (h : r.players.size ≤ kMaxRoomPlayers ∧ r.maxPlayers ≤ kMaxRoomPlayers)
    (hadd : r.addPlayer uid = some (r', team)) :
    r'.players.size ≤ kMaxRoomPlayers := by
  unfold DungeonRoom.addPlayer at hadd
  split at hadd
  · cases hadd
    exact h.left
  · split at hadd
    · cases hadd
    · rename_i hfull
      cases hadd
      have hroom : r.players.size < r.maxPlayers := by
        simpa [DungeonRoom.isFull] using hfull
      have hinsert := Table.size_insert_le r.players uid ⟨uid, r.players.size, false⟩
      have hmax := h.right
      change Table.size (r.players.insert uid _) ≤ kMaxRoomPlayers
      omega

/-- The room of an id, or else a new one. -/
theorem SmallRooms.found {s : LogicShard F} (hs : SmallRooms s) {roomId maxPlayers : Nat}
    {roomName : String} {r : DungeonRoom F}
    (hr : r = match s.rooms.lookup roomId with
      | some room => room
      | none => freshRoom roomId roomName maxPlayers) :
    r.players.size ≤ kMaxRoomPlayers ∧ r.maxPlayers ≤ kMaxRoomPlayers := by
  split at hr
  · rename_i room hroom
    rw [hr]
    exact hs roomId room hroom
  · rw [hr, freshRoom_maxPlayers]
    exact ⟨Nat.zero_le _, (normalizeMaxPlayers_bounds maxPlayers).right⟩

theorem handleCreateRoom_fit (codec : Codec B F) (ω : Orders) {s : LogicShard F}
    (hs : SmallRooms s) (task : LogicTask B) :
    AllFit bits (LogicShard.handleCreateRoom codec ω s task).2 := by
  unfold LogicShard.handleCreateRoom
  split
  · refine sendToPlayer_fit _ _ ?_
    show "invalid CreateRoomReq".utf8ByteSize < 128
    decide
  · rename_i envelope req _
    dsimp only
    have hleft := leaveRoomInternal_small ω hs task.uid
    refine ((leaveRoomInternal_fit ω hs task.uid).append
      (sendToPlayer_fit _ _ ?_)).append (broadcastRoomState_fit _ _ ?_)
    · show "".utf8ByteSize < 128
      decide
    · split
      · rename_i room team hadd
        exact addPlayer_small (hleft.found rfl) hadd
      · exact (hleft.found rfl).left

theorem handleJoinRoom_fit (codec : Codec B F) (ω : Orders) {s : LogicShard F}
    (hs : SmallRooms s) (task : LogicTask B) :
    AllFit bits (LogicShard.handleJoinRoom codec ω s task).2 := by
  have hleft : forall roomId, AllFit bits
      (LogicShard.leaveForJoin ω s task.uid roomId).2 ∧
        SmallRooms (LogicShard.leaveForJoin ω s task.uid roomId).1 := by
    intro roomId
    unfold LogicShard.leaveForJoin
    split
    · exact ⟨AllFit.nil, hs⟩
    · split
      · exact ⟨leaveRoomInternal_fit ω hs task.uid,
          leaveRoomInternal_small ω hs task.uid⟩
      · exact ⟨AllFit.nil, hs⟩
  unfold LogicShard.handleJoinRoom
  split
  · refine sendToPlayer_fit _ _ ?_
    show "invalid JoinRoomReq".utf8ByteSize < 128
    decide
  · rename_i envelope roomId _
    dsimp only
    rcases hleft roomId with ⟨hevents, hsmall⟩
    split
    · refine hevents.append (sendToPlayer_fit _ _ ?_)
      show "room not found".utf8ByteSize < 128
      decide
    · rename_i r hr
      split
      · refine hevents.append (sendToPlayer_fit _ _ ?_)
        show "room is full".utf8ByteSize < 128
        decide
      · rename_i joined team hadd
        refine (hevents.append (sendToPlayer_fit _ _ ?_)).append
          (broadcastRoomState_fit _ _ (addPlayer_small (hsmall roomId r hr) hadd))
        show "".utf8ByteSize < 128
        decide

/-!
## Requests in a room
-/

theorem handleEnterBattle_fit (codec : Codec B F) (s : LogicShard F)
    (task : LogicTask B) :
    AllFit bits (LogicShard.handleEnterBattle codec s task).2 := by
  unfold LogicShard.handleEnterBattle
  split
  · refine sendToPlayer_fit _ _ ?_
    show "invalid EnterBattleReq".utf8ByteSize < 128
    decide
  · dsimp only
    split
    · refine sendToPlayer_fit _ _ ?_
      show "room not found".utf8ByteSize < 128
      decide
    · split
      · refine sendToPlayer_fit _ _ ?_
        show "player is not in room".utf8ByteSize < 128
        decide
      · refine sendToPlayer_fit _ _ ?_
        show "".utf8ByteSize < 128
        decide

variable [Scalar F]

/-- The texts about commands that cannot be read. -/
theorem readCommand_reason (codec : Codec B F) (msgId : MsgId) (uid : Nat)
    (envelope : GateToGameEnvelope B) {reason : String}
    (h : LogicShard.readCommand codec msgId uid envelope =
      LogicShard.CommandReading.malformed reason) : reason.utf8ByteSize < 128 := by
  have htarget : forall (type : CommandType) (seq : Nat) (text : String)
      (cmd : Option TargetCmd), text.utf8ByteSize < 128 ->
      LogicShard.readTargetCmd (F := F) type uid seq text cmd =
        LogicShard.CommandReading.malformed reason -> reason.utf8ByteSize < 128 := by
    intro type seq text cmd htext hread
    cases cmd with
    | none =>
        injection hread with hreason
        rw [← hreason]
        exact htext
    | some cmd => cases hread
  cases msgId with
  | harvestCmd => exact htarget _ _ _ _ (by decide) h
  | storeResourceCmd => exact htarget _ _ _ _ (by decide) h
  | pickupResourceCmd => exact htarget _ _ _ _ (by decide) h
  | constructCmd => exact htarget _ _ _ _ (by decide) h
  | moveCmd =>
      simp only [LogicShard.readCommand] at h
      split at h
      · injection h with hreason
        rw [← hreason]
        decide
      · cases h
  | stopCmd =>
      simp only [LogicShard.readCommand] at h
      split at h
      · injection h with hreason
        rw [← hreason]
        decide
      · cases h
  | attackCmd =>
      simp only [LogicShard.readCommand] at h
      split at h
      · injection h with hreason
        rw [← hreason]
        decide
      · cases h
  | buildCmd =>
      simp only [LogicShard.readCommand] at h
      split at h
      · injection h with hreason
        rw [← hreason]
        decide
      · cases h
  | trainUnitCmd =>
      simp only [LogicShard.readCommand] at h
      split at h
      · injection h with hreason
        rw [← hreason]
        decide
      · cases h
  | _ => cases h

theorem handlePlayerCommand_fit (codec : Codec B F) (s : LogicShard F)
    (task : LogicTask B) :
    AllFit bits (LogicShard.handlePlayerCommand codec s task).2 := by
  unfold LogicShard.handlePlayerCommand
  split
  · refine sendToPlayer_fit _ _ ?_
    show "invalid GateToGameEnvelope".utf8ByteSize < 128
    decide
  · dsimp only
    split
    · refine sendToPlayer_fit _ _ ?_
      show "player is not in room".utf8ByteSize < 128
      decide
    · split
      · refine sendToPlayer_fit _ _ ?_
        show "room not found".utf8ByteSize < 128
        decide
      · split
        · refine sendToPlayer_fit _ _ ?_
          show "player is not in room".utf8ByteSize < 128
          decide
        · split
          · refine sendToPlayer_fit _ _ ?_
            show "empty command payload".utf8ByteSize < 128
            decide
          · split
            · rename_i reason hread
              exact sendToPlayer_fit _ _ (readCommand_reason codec _ _ _ hread)
            · exact AllFit.nil
            · exact AllFit.nil

/-!
## Tasks and ticks
-/

/-- A room between two inputs. -/
structure Furnished (r : DungeonRoom F) : Prop where
  game : GameState r
  unmarked : Unmarked r

theorem handlePlayerReady_fit (codec : Codec B F) (ω : Orders) {s : LogicShard F}
    (hs : AllRooms Furnished s) (task : LogicTask B) :
    AllFit bits (LogicShard.handlePlayerReady codec ω s task).2 := by
  unfold LogicShard.handlePlayerReady
  cases hparse : LogicShard.parseRequest codec codec.playerReadyReq task with
  | none => exact AllFit.nil
  | some parsed =>
      rcases parsed with ⟨envelope, req⟩
      dsimp only
      generalize s.requestedRoomId envelope task.uid req.roomId = roomId
      cases hr : s.rooms.lookup roomId with
      | none => exact AllFit.nil
      | some r =>
          dsimp only
          have hshape := hs.indexed.shapes roomId r hr
          cases hready : r.setReady task.uid req.ready with
          | none => exact AllFit.nil
          | some readied =>
              dsimp only
              have hinner : InnerMove Policy.free r [] readied := by
                rcases DungeonRoom.setReady_cases hready with ⟨player, hp, rfl⟩
                exact InnerMove.ready req.ready hp
              have hshape' := hinner.shape hshape
              have hgame := hinner.gameState hshape (hs.rooms roomId r hr).game
              have hstate : AllFit bits
                  (broadcastRoomState s.uidRoute (ω.room roomId) readied) :=
                broadcastRoomState_fit _ _ hshape'.players_le
              split
              · rename_i hstart
                simp only [Bool.and_eq_true, Bool.not_eq_true'] at hstart
                exact hstate.append
                  (startGame_fit _ _ hshape' (hgame.lobby hstart.right))
              · exact hstate

omit [Scalar F] in
theorem AllRooms.small {inv : DungeonRoom F -> Prop} {s : LogicShard F}
    (h : AllRooms inv s) : SmallRooms s :=
  h.indexed.shapes.mono fun _ _ hshape => ⟨hshape.players_le, hshape.maxLe⟩

omit [Scalar F] in
theorem AllRooms.routed {inv : DungeonRoom F -> Prop} {s : LogicShard F}
    (h : AllRooms inv s) (routes : Routes) :
    AllRooms inv { s with uidRoute := routes } :=
  ⟨⟨h.indexed.index, h.indexed.shapes, h.indexed.ids, h.indexed.count⟩, h.rooms⟩

theorem dispatch_fit (codec : Codec B F) (ω : Orders) {s : LogicShard F}
    (hs : AllRooms Furnished s) (task : LogicTask B) :
    AllFit bits (LogicShard.dispatch codec ω s task).2 := by
  unfold LogicShard.dispatch
  split
  · exact handleCreateRoom_fit codec ω hs.small task
  · exact handleJoinRoom_fit codec ω hs.small task
  · exact handleLeaveRoom_fit codec ω hs.small task
  · exact handlePlayerReady_fit codec ω hs task
  · exact handleEnterBattle_fit codec s task
  · exact handleClientDisconnected_fit codec ω hs.small task
  · exact AllFit.nil
  · exact AllFit.nil
  · exact AllFit.nil
  · exact handlePlayerCommand_fit codec s task

theorem handleTask_fit (codec : Codec B F) (ω : Orders) {s : LogicShard F}
    (hs : AllRooms Furnished s) (task : LogicTask B) :
    AllFit bits (LogicShard.handleTask codec ω s task).2 := by
  unfold LogicShard.handleTask
  split
  · exact dispatch_fit codec ω (hs.routed _) task
  · exact dispatch_fit codec ω hs task

/-- The running rooms that a tick announces have few enough entities. -/
def TicksFit (ω : Orders) (s : LogicShard F) : Prop :=
  s.rooms.AllAt fun roomId r => LogicShard.isActive r = true ->
    (r.afterStep (ω.room roomId)).worldLen ≤ kMaxWorldLen

instance (ω : Orders) (s : LogicShard F) : Decidable (TicksFit ω s) :=
  inferInstanceAs (Decidable (s.rooms.AllAt fun roomId r =>
    LogicShard.isActive r = true ->
      (r.afterStep (ω.room roomId)).worldLen ≤ kMaxWorldLen))

/-- The loop over the rooms, which finds every room as it was before. -/
theorem tickLoop_fit (ω : Orders) {s : LogicShard F} (hs : AllRooms Furnished s)
    (hworld : TicksFit ω s) (ids : List Nat) (hnodup : ids.Nodup)
    (acc : LogicShard F × List (ShardEvent F)) (hsofar : AllFit bits acc.2)
    (hahead : forall id, id ∈ ids ->
      acc.1.rooms.lookup id = s.rooms.lookup id) :
    AllFit bits (ids.foldl (LogicShard.tickOne ω) acc).2 := by
  induction ids generalizing acc with
  | nil =>
      exact hsofar
  | cons roomId rest ih =>
      rcases List.nodup_cons.mp hnodup with ⟨hnew, hrest⟩
      apply ih hrest
      · unfold LogicShard.tickOne
        rw [hahead roomId List.mem_cons_self]
        cases hr : s.rooms.lookup roomId with
        | none => exact hsofar
        | some r =>
            dsimp only
            split
            · rename_i hactive
              exact hsofar.append (tickRoom_fit _ _ roomId
                (hs.indexed.shapes roomId r hr) (hs.rooms roomId r hr).unmarked
                (hworld roomId r hr hactive))
            · exact hsofar
      · intro id hid
        have hne : id ≠ roomId := fun heq => hnew (heq ▸ hid)
        rw [LogicShard.tickOne_lookup, if_neg hne]
        exact hahead id (List.mem_cons_of_mem _ hid)

theorem tickRooms_fit (ω : Orders) {s : LogicShard F} (hs : AllRooms Furnished s)
    (hworld : TicksFit ω s) : AllFit bits (LogicShard.tickRooms ω s).2 :=
  tickLoop_fit ω hs hworld _ (ω.rooms.visit_nodup s.rooms) (s, []) AllFit.nil
    fun _ _ => rfl

/-!
## Rooms stay furnished
-/

theorem InnerMove.unmarked {p : Policy F} {r r' : DungeonRoom F}
    {events : List (ShardEvent F)} (h : Unmarked r)
    (hmove : InnerMove p r events r') : Unmarked r' := by
  cases hmove with
  | ready flag _ => exact ⟨h.units, h.buildings, h.ledgers⟩
  | start routes ω _ _ _ => exact ⟨rfl, rfl, rfl⟩
  | enqueue cmd _ => exact ⟨h.units, h.buildings, h.ledgers⟩
  | tick routes ω _ _ =>
      rcases tickRoom_cases routes ω r.roomId r with ⟨_, heq⟩ | ⟨_, _, heq⟩
      · rw [heq]
        exact ⟨rfl, rfl, rfl⟩
      · rw [heq]
        exact ⟨rfl, rfl, rfl⟩

theorem furnishedRule :
    RoomRule Policy.free (Furnished (F := F)) fun _ => True where
  chatter := fun _ _ => trivial
  fresh := by
    intro roomId roomName maxPlayers uid
    exact ⟨gameRule.fresh roomId roomName maxPlayers uid, rfl, rfl, rfl⟩
  enter := by
    intro r uid hshape h hnew hfits hseats
    exact ⟨gameRule.enter r uid hshape h.game hnew hfits hseats, h.unmarked.units,
      h.unmarked.buildings, h.unmarked.ledgers⟩
  inner := by
    intro r events r' hshape h hmove
    exact ⟨⟨hmove.gameState hshape h.game, hmove.unmarked h.unmarked⟩,
      fun _ _ => trivial⟩
  leave := by
    intro r events r' uid hshape h huid hothers hparts hmove
    refine ⟨⟨hmove.gameState h.game hothers, ?_⟩, fun _ _ => trivial⟩
    cases hmove with
    | depart _ =>
        exact ⟨h.unmarked.units, h.unmarked.buildings, h.unmarked.ledgers⟩
    | abandon routes ω _ =>
        exact ⟨h.unmarked.units, h.unmarked.buildings, h.unmarked.ledgers⟩

theorem AllRooms.furnished {s : LogicShard F} (h : AllRooms Furnished s)
    (codec : Codec B F) (i : LogicShard.ShardInput B) :
    AllRooms Furnished (LogicShard.handle codec s i).1 :=
  (furnishedRule.moves h (h.indexed.handle codec i Policy.free_respected)).left

/-!
## The server
-/

namespace GameServer

/-- Whenever a logic shard ticks, its running rooms have few enough entities. -/
def TicksWithin (g : GameServer B F) : ServerInput B -> Prop
  | ServerInput.packet _ _ _ _ _ => True
  | ServerInput.work _ _ => True
  | ServerInput.tick shardId ω => TicksFit ω (g.shards shardId)

instance (g : GameServer B F) (i : ServerInput B) : Decidable (g.TicksWithin i) :=
  match i with
  | ServerInput.packet _ _ _ _ _ => isTrue trivial
  | ServerInput.work _ _ => isTrue trivial
  | ServerInput.tick shardId ω =>
      inferInstanceAs (Decidable (TicksFit ω (g.shards shardId)))

/-- One shard of the server handles an input of its own. -/
theorem furnished_update {g : GameServer B F}
    (h : forall i, AllRooms Furnished (g.shards i)) (codec : Codec B F)
    (shardId : Nat) (input : LogicShard.ShardInput B) (i : Nat) :
    AllRooms Furnished (Function.update g.shards shardId
      (LogicShard.handle codec (g.shards shardId) input).1 i) := by
  by_cases hi : i = shardId
  · rw [hi, Function.update_self]
    exact (h shardId).furnished codec input
  · rw [Function.update_of_ne hi]
    exact h i

theorem handle_furnished {g : GameServer B F}
    (h : forall i, AllRooms Furnished (g.shards i)) (codec : Codec B F)
    (input : ServerInput B) (i : Nat) :
    AllRooms Furnished ((handle codec g input).1.shards i) := by
  cases input with
  | packet net route msgId seq body =>
      change AllRooms Furnished ((onPacket codec g net route msgId seq body).shards i)
      rw [(onPacket_same codec g net route msgId seq body).left]
      exact h i
  | work shardId ω =>
      unfold handle work
      dsimp only
      cases hqueue : g.queues shardId with
      | nil => exact h i
      | cons task rest =>
          exact furnished_update h codec shardId
            (LogicShard.ShardInput.task task ω) i
  | tick shardId ω =>
      exact furnished_update h codec shardId (LogicShard.ShardInput.tick ω) i

theorem handle_fit {g : GameServer B F}
    (h : forall i, AllRooms Furnished (g.shards i)) (codec : Codec B F)
    (input : ServerInput B) (hwithin : g.TicksWithin input) :
    AllFit bits (handle codec g input).2 := by
  cases input with
  | packet net route msgId seq body => exact AllFit.nil
  | work shardId ω =>
      unfold handle work
      dsimp only
      cases hqueue : g.queues shardId with
      | nil => exact AllFit.nil
      | cons task rest => exact handleTask_fit codec ω (h shardId) task
  | tick shardId ω => exact tickRooms_fit ω (h shardId) hwithin

/-- As long as no tick announces too large a world, everything sent fits. -/
theorem run_fit (bits : F -> UInt32) (codec : Codec B F) (logicShardCount : Nat)
    (inputs : List (ServerInput B))
    (hwithin : Along (handle codec) TicksWithin (create logicShardCount) inputs) :
    AllFit bits (run codec logicShardCount inputs).2 := by
  have hall := runMachine_along
    (fun past g => (forall i, AllRooms Furnished (g.shards i)) ∧ AllFit bits past)
    (fun past g input hinv hcond =>
      ⟨handle_furnished hinv.left codec input,
        hinv.right.append (handle_fit hinv.left codec input hcond)⟩)
    [] (create logicShardCount : GameServer B F)
    ⟨fun i => AllRooms.create Furnished i logicShardCount, AllFit.nil⟩ inputs hwithin
  exact hall.right

end GameServer

end RtsGame
