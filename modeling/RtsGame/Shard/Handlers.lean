import RtsGame.Shard.Indexing

/-!
# Handlers are sequences of moves

Each callback of the router and the tick loop is unfolded once, into the moves
of the shard.  Everything that is proved about runs is proved about moves.
-/

namespace RtsGame

variable {B F : Type} [Scalar F]

/-!
## Messages without consequences
-/

omit [Scalar F] in
theorem eq_of_mem_sendToPlayers {routes : Routes} {uids : List Nat}
    {msg : ServerMsg F} {seq : Nat} {e : ShardEvent F}
    (he : e ∈ sendToPlayers routes uids msg seq) :
    exists targets, e = ShardEvent.sent uids targets msg seq := by
  unfold sendToPlayers at he
  split at he
  · cases he
  · exact ⟨_, List.mem_singleton.mp he⟩

omit [Scalar F] in
theorem broadcastRoomState_reply (routes : Routes) (ω : RoomOrders)
    (r : DungeonRoom F) :
    forall e, e ∈ broadcastRoomState routes ω r -> e.isReply = true := by
  intro e he
  rcases List.mem_flatMap.mp he with ⟨uid, _, hsent⟩
  rcases eq_of_mem_sendToPlayers hsent with ⟨targets, rfl⟩
  rfl

omit [Scalar F] in
/-- The answer to a player who was seated, and the news for the others. -/
theorem seated_reply (routes : Routes) (ω : RoomOrders) (uid : Nat)
    (msg : ServerMsg F) (r : DungeonRoom F)
    (hmsg : (!msg.isGameOver && msg.syncRoom.isNone) = true) :
    forall e, e ∈ sendToPlayer routes uid msg ++ broadcastRoomState routes ω r ->
      e.isReply = true := by
  intro e he
  rcases List.mem_append.mp he with hrsp | hstate
  · rcases eq_of_mem_sendToPlayers hrsp with ⟨targets, rfl⟩
    exact hmsg
  · exact broadcastRoomState_reply routes ω r e hstate

/-!
## The tick of a shard
-/

namespace LogicShard

/-- What a tick does to the room under a key. -/
def ticked (routes : Routes) (ω : Orders) (roomId : Nat) (r : DungeonRoom F) :
    DungeonRoom F :=
  if isActive r then (tickRoom routes (ω.room roomId) roomId r).1 else r

theorem tickOne_uidRoute (ω : Orders)
    (acc : LogicShard F × List (ShardEvent F)) (roomId : Nat) :
    (tickOne ω acc roomId).1.uidRoute = acc.1.uidRoute := by
  unfold tickOne
  split
  · rfl
  · split
    · rfl
    · rfl

theorem tickOne_lookup (ω : Orders)
    (acc : LogicShard F × List (ShardEvent F)) (roomId k : Nat) :
    (tickOne ω acc roomId).1.rooms.lookup k =
      if k = roomId then
        (acc.1.rooms.lookup k).map (ticked acc.1.uidRoute ω k)
      else acc.1.rooms.lookup k := by
  unfold tickOne ticked
  by_cases hk : k = roomId
  · subst hk
    rw [if_pos rfl]
    cases hr : acc.1.rooms.lookup k with
    | none => exact hr
    | some r =>
        dsimp only [Option.map_some]
        split
        · exact AList.lookup_insert acc.1.rooms
        · exact hr
  · rw [if_neg hk]
    split
    · rfl
    · split
      · exact AList.lookup_insert_ne hk
      · rfl

theorem tickLoop_lookup (ω : Orders) (ids : List Nat) (hnodup : ids.Nodup)
    (acc : LogicShard F × List (ShardEvent F)) (k : Nat) :
    (ids.foldl (tickOne ω) acc).1.rooms.lookup k =
      if k ∈ ids then (acc.1.rooms.lookup k).map (ticked acc.1.uidRoute ω k)
      else acc.1.rooms.lookup k := by
  induction ids generalizing acc with
  | nil =>
      simp
  | cons roomId rest ih =>
      rcases List.nodup_cons.mp hnodup with ⟨hnew, hrest⟩
      rw [List.foldl_cons, ih hrest, tickOne_lookup, tickOne_uidRoute]
      by_cases hk : k = roomId
      · subst hk
        simp [hnew]
      · simp [hk]

/-- A tick ticks every room once. -/
theorem tickRooms_lookup (ω : Orders) (s : LogicShard F) (k : Nat) :
    (tickRooms ω s).1.rooms.lookup k =
      (s.rooms.lookup k).map (ticked s.uidRoute ω k) := by
  unfold tickRooms
  rw [tickLoop_lookup ω _ (ω.rooms.visit_nodup s.rooms)]
  split
  · rfl
  · rename_i hk
    rw [IterOrder.mem_visit, ← AList.lookup_eq_none] at hk
    rw [hk]
    rfl

end LogicShard

variable {p : Policy F} {s : LogicShard F}

theorem moves_talk {events : List (ShardEvent F)}
    (h : forall e, e ∈ events -> e.isReply = true) :
    Moves (ShardMove p) s events s :=
  Moves.single (ShardMove.talk h)

/-- A silent move followed by messages. -/
theorem moves_announce {t : LogicShard F} {events : List (ShardEvent F)}
    (hmove : ShardMove p s [] t)
    (h : forall e, e ∈ events -> e.isReply = true) :
    Moves (ShardMove p) s events t :=
  Moves.cons hmove (moves_talk h)

theorem moves_say (routes : Routes) (uid : Nat) (msg : ServerMsg F)
    (hmsg : (!msg.isGameOver && msg.syncRoom.isNone) = true) :
    Moves (ShardMove p) s (sendToPlayer routes uid msg) s := by
  apply moves_talk
  intro e he
  rcases eq_of_mem_sendToPlayers he with ⟨targets, rfl⟩
  exact hmsg

omit [Scalar F] in
theorem LogicShard.putRoom_putRoom (s : LogicShard F) (roomId : Nat)
    (r r' : DungeonRoom F) :
    (s.putRoom roomId r).putRoom roomId r' = s.putRoom roomId r' := by
  unfold LogicShard.putRoom
  dsimp only
  rw [AList.insert_insert]

/-!
## Leaving
-/

namespace WellIndexed

omit [Scalar F] in
theorem room_of_index (h : WellIndexed s) {uid roomId : Nat}
    (hidx : s.uidToRoom.lookup uid = some roomId) :
    exists r, s.rooms.lookup roomId = some r ∧ uid ∈ r.players :=
  (h.index uid roomId).mp hidx

theorem settleDeparture (ω : Orders) {uid roomId : Nat} {r : DungeonRoom F}
    (hidx : s.uidToRoom.lookup uid = some roomId)
    (hr : s.rooms.lookup roomId = some r) (hparts : p.parts uid r) :
    let left := LogicShard.settleDeparture ω
      { s with uidToRoom := s.uidToRoom.erase uid } roomId
      (LogicShard.isActive r) (r.removePlayer uid).1
    Moves (ShardMove p) s left.2 left.1 := by
  dsimp only
  unfold LogicShard.settleDeparture
  by_cases hempty : (r.removePlayer uid).1.players.size = 0
  · rw [if_pos (by simpa [DungeonRoom.isEmpty] using hempty)]
    exact Moves.single (ShardMove.vanish hidx hr hempty)
  · rw [if_neg (by simpa [DungeonRoom.isEmpty] using hempty)]
    have hothers := Nat.pos_of_ne_zero hempty
    cases hactive : LogicShard.isActive r with
    | true =>
        exact Moves.single (ShardMove.leave hidx hr hothers hparts
          (LeaveMove.abandon s.uidRoute (ω.room roomId) hactive))
    | false =>
        exact moves_announce
          (ShardMove.leave hidx hr hothers hparts (LeaveMove.depart hactive))
          (broadcastRoomState_reply s.uidRoute (ω.room roomId) _)

theorem leaveRoomInternal (h : WellIndexed s) (ω : Orders) (uid : Nat)
    (hparts : forall roomId r, s.uidToRoom.lookup uid = some roomId ->
      s.rooms.lookup roomId = some r -> p.parts uid r) :
    Moves (ShardMove p) s (LogicShard.leaveRoomInternal ω s uid).2
      (LogicShard.leaveRoomInternal ω s uid).1 := by
  unfold LogicShard.leaveRoomInternal
  cases hidx : s.uidToRoom.lookup uid with
  | none => exact Moves.nil s
  | some roomId =>
      rcases h.room_of_index hidx with ⟨r, hr, _⟩
      dsimp only
      rw [hr]
      exact settleDeparture ω hidx hr (hparts roomId r hidx hr)

end WellIndexed

/-- What leaving a room does not touch. -/
structure Departed (uid : Nat) (s s' : LogicShard F) : Prop where
  index : s'.uidToRoom.lookup uid = none
  nextId : s'.nextId = s.nextId
  shardId : s'.shardId = s.shardId
  shardCount : s'.shardCount = s.shardCount
  others : forall roomId, s.uidToRoom.lookup uid ≠ some roomId ->
    s'.rooms.lookup roomId = s.rooms.lookup roomId

omit [Scalar F] in
theorem settleDeparture_departed (ω : Orders) (uid roomId : Nat)
    (active : Bool) (r : DungeonRoom F)
    (hidx : s.uidToRoom.lookup uid = some roomId) :
    Departed uid s (LogicShard.settleDeparture ω
      { s with uidToRoom := s.uidToRoom.erase uid } roomId active r).1 := by
  have hnone : (s.uidToRoom.erase uid).lookup uid = none :=
    AList.lookup_erase uid s.uidToRoom
  unfold LogicShard.settleDeparture
  split
  · refine ⟨hnone, rfl, rfl, rfl, ?_⟩
    intro other hother
    exact AList.lookup_erase_ne fun heq => hother (heq ▸ hidx)
  · split
    · refine ⟨hnone, rfl, rfl, rfl, ?_⟩
      intro other hother
      exact AList.lookup_insert_ne fun heq => hother (heq ▸ hidx)
    · refine ⟨hnone, rfl, rfl, rfl, ?_⟩
      intro other hother
      exact AList.lookup_insert_ne fun heq => hother (heq ▸ hidx)

omit [Scalar F] in
theorem leaveRoomInternal_departed (h : WellIndexed s) (ω : Orders)
    (uid : Nat) : Departed uid s (LogicShard.leaveRoomInternal ω s uid).1 := by
  unfold LogicShard.leaveRoomInternal
  cases hidx : s.uidToRoom.lookup uid with
  | none => exact ⟨hidx, rfl, rfl, rfl, fun _ _ => rfl⟩
  | some roomId =>
      rcases h.room_of_index hidx with ⟨r, hr, _⟩
      dsimp only
      rw [hr]
      exact settleDeparture_departed ω uid roomId _ _ hidx

/-- A player who joins a room leaves another one first. -/
theorem WellIndexed.leaveForJoin (h : WellIndexed s) (ω : Orders)
    (uid roomId : Nat)
    (hparts : forall current r, s.uidToRoom.lookup uid = some current ->
      current ≠ roomId -> s.rooms.lookup current = some r -> p.parts uid r) :
    let left := LogicShard.leaveForJoin ω s uid roomId
    Moves (ShardMove p) s left.2 left.1 ∧
      (left.1.uidToRoom.lookup uid = none ∨
        left.1.uidToRoom.lookup uid = some roomId) ∧
      left.1.rooms.lookup roomId = s.rooms.lookup roomId := by
  dsimp only
  unfold LogicShard.leaveForJoin
  cases hidx : s.uidToRoom.lookup uid with
  | none => exact ⟨Moves.nil s, Or.inl hidx, rfl⟩
  | some current =>
      dsimp only
      split
      · rename_i hne
        have hgone := leaveRoomInternal_departed h ω uid
        have hmoves := h.leaveRoomInternal (p := p) ω uid (by
          intro k r hk hr
          have hsame := hidx.symm.trans hk
          injection hsame with hcur
          exact hparts k r hk (hcur ▸ hne) hr)
        refine ⟨hmoves, Or.inl hgone.index, ?_⟩
        apply hgone.others
        rw [hidx]
        intro heq
        injection heq with hcur
        exact hne hcur
      · rename_i heq
        rw [not_not] at heq
        rw [heq] at hidx
        exact ⟨Moves.nil s, Or.inr hidx, rfl⟩

omit [Scalar F] in
/-- Removing somebody who is not there changes nothing. -/
theorem removePlayer_stranger {r : DungeonRoom F} (h : RoomShape r) {uid : Nat}
    (huid : uid ∉ r.players) : (r.removePlayer uid).1 = r := by
  have hledger : uid ∉ r.playerRes := by
    rw [h.ledgers]
    exact huid
  unfold DungeonRoom.removePlayer
  dsimp only
  rw [Table.erase_of_notMem huid, Table.erase_of_notMem hledger]

/-!
## Who takes a seat and who leaves
-/

/-- A task seats a player, in a room that looks as given before that. -/
inductive Seating (codec : Codec B F) (s : LogicShard F) (task : LogicTask B) :
    Nat -> DungeonRoom F -> Prop where
  | create {envelope : GateToGameEnvelope B} {req : CreateRoomReq} :
      task.msgId = MsgId.createRoomReq ->
      LogicShard.parseRequest codec codec.createRoomReq task =
        some (envelope, req) ->
      Seating codec s task task.uid
        (freshRoom s.nextId (LogicShard.newRoomName req.roomName s.nextId)
          req.maxPlayers)
  | join {envelope : GateToGameEnvelope B} {roomId : Nat} {r : DungeonRoom F} :
      task.msgId = MsgId.joinRoomReq ->
      LogicShard.parseRequest codec codec.joinRoomReq task =
        some (envelope, roomId) ->
      s.rooms.lookup roomId = some r -> task.uid ∉ r.players ->
      r.players.size < r.maxPlayers -> Seating codec s task task.uid r

/-- A task makes a player leave a room, which looks as given before that. -/
inductive Parting (codec : Codec B F) (s : LogicShard F) (task : LogicTask B) :
    Nat -> DungeonRoom F -> Prop where
  | create {envelope : GateToGameEnvelope B} {req : CreateRoomReq}
      {roomId : Nat} {r : DungeonRoom F} :
      task.msgId = MsgId.createRoomReq ->
      LogicShard.parseRequest codec codec.createRoomReq task =
        some (envelope, req) ->
      s.uidToRoom.lookup task.uid = some roomId ->
      s.rooms.lookup roomId = some r -> Parting codec s task task.uid r
  | join {envelope : GateToGameEnvelope B} {roomId current : Nat}
      {r : DungeonRoom F} :
      task.msgId = MsgId.joinRoomReq ->
      LogicShard.parseRequest codec codec.joinRoomReq task =
        some (envelope, roomId) ->
      s.uidToRoom.lookup task.uid = some current -> current ≠ roomId ->
      s.rooms.lookup current = some r -> Parting codec s task task.uid r
  | leave {envelope : GateToGameEnvelope B} {reqRoomId : Nat}
      {r : DungeonRoom F} :
      task.msgId = MsgId.leaveRoomReq ->
      LogicShard.parseRequest codec codec.leaveRoomReq task =
        some (envelope, reqRoomId) ->
      s.rooms.lookup (s.requestedRoomId envelope task.uid reqRoomId) = some r ->
      task.uid ∈ r.players -> Parting codec s task task.uid r
  | disconnect {uid roomId : Nat} {r : DungeonRoom F} :
      task.msgId = MsgId.clientDisconnectedNtf ->
      codec.disconnectedUid task.body = some uid -> uid ≠ 0 ->
      s.uidToRoom.lookup uid = some roomId ->
      s.rooms.lookup roomId = some r -> Parting codec s task uid r

/-- A task respects a policy. -/
structure Policy.RespectedBy (p : Policy F) (codec : Codec B F)
    (s : LogicShard F) (task : LogicTask B) : Prop where
  seats : forall uid r, Seating codec s task uid r -> p.seats uid r
  parts : forall uid r, Parting codec s task uid r -> p.parts uid r

/-- An input of a shard respects a policy. -/
def Policy.Respected (p : Policy F) (codec : Codec B F) (s : LogicShard F) :
    LogicShard.ShardInput B -> Prop
  | LogicShard.ShardInput.task task _ => p.RespectedBy codec s task
  | LogicShard.ShardInput.tick ω =>
      forall roomId r, s.rooms.lookup roomId = some r ->
        LogicShard.isActive r = true -> p.ticks (ω.room roomId) r

omit [Scalar F] in
theorem Policy.free_respected {codec : Codec B F} {s : LogicShard F}
    {i : LogicShard.ShardInput B} : Policy.free.Respected codec s i := by
  cases i with
  | task task ω => exact ⟨fun _ _ _ => trivial, fun _ _ _ => trivial⟩
  | tick ω => exact fun _ _ _ _ => trivial

namespace WellIndexed

omit [Scalar F] in
/-- A player who enters an empty room. -/
theorem addPlayer_fresh (roomId : Nat) (roomName : String)
    (maxPlayers uid : Nat) :
    (freshRoom roomId roomName maxPlayers : DungeonRoom F).addPlayer uid =
      some ((freshRoom roomId roomName maxPlayers).seated uid, 0) := by
  have hmax := freshRoom_maxPlayers (F := F) roomId roomName maxPlayers
  have hpos := (normalizeMaxPlayers_bounds maxPlayers).left
  have hsize : (freshRoom roomId roomName maxPlayers :
      DungeonRoom F).players.size = 0 := rfl
  have hnone : (freshRoom roomId roomName maxPlayers :
      DungeonRoom F).players.lookup uid = none := rfl
  unfold DungeonRoom.addPlayer
  rw [hnone]
  dsimp only
  rw [if_neg]
  · rfl
  · rw [DungeonRoom.isFull, decide_eq_true_eq, hsize, hmax]
    lia

theorem handleCreateRoom (h : WellIndexed s) (codec : Codec B F) (ω : Orders)
    (task : LogicTask B) (hmsg : task.msgId = MsgId.createRoomReq)
    (hrespects : p.RespectedBy codec s task) :
    Moves (ShardMove p) s (LogicShard.handleCreateRoom codec ω s task).2
      (LogicShard.handleCreateRoom codec ω s task).1 := by
  unfold LogicShard.handleCreateRoom
  cases hparse : LogicShard.parseRequest codec codec.createRoomReq task with
  | none => exact moves_say s.uidRoute task.uid _ rfl
  | some parsed =>
      rcases parsed with ⟨envelope, req⟩
      have hleave := h.leaveRoomInternal (p := p) ω task.uid
        (fun _ _ hidx hr => hrespects.parts _ _
          (Parting.create hmsg hparse hidx hr))
      have hindexed := h.moves hleave
      have hgone := leaveRoomInternal_departed h ω task.uid
      have hfresh := hindexed.fresh
      dsimp only
      generalize LogicShard.leaveRoomInternal ω s task.uid = left at *
      have hid : s.shardId + s.shardCount * left.1.nextRoomId = s.nextId := by
        rw [← hgone.nextId, ← hgone.shardId, ← hgone.shardCount]
        rfl
      rw [hgone.nextId] at hfresh
      rw [hid, hfresh]
      dsimp only
      have hadd := addPlayer_fresh (F := F) s.nextId
        (LogicShard.newRoomName req.roomName s.nextId) req.maxPlayers task.uid
      unfold freshRoom at hadd
      rw [hadd]
      dsimp only
      have hmove := ShardMove.create (s := left.1)
        (LogicShard.newRoomName req.roomName s.nextId) req.maxPlayers hgone.index
        (by
          rw [hgone.nextId]
          exact hrespects.seats _ _ (Seating.create hmsg hparse))
      rw [hgone.nextId] at hmove
      rw [List.append_assoc]
      apply hleave.append
      apply moves_announce hmove
      exact seated_reply _ _ _ _ _ rfl

theorem handleJoinRoom (h : WellIndexed s) (codec : Codec B F) (ω : Orders)
    (task : LogicTask B) (hmsg : task.msgId = MsgId.joinRoomReq)
    (hrespects : p.RespectedBy codec s task) :
    Moves (ShardMove p) s (LogicShard.handleJoinRoom codec ω s task).2
      (LogicShard.handleJoinRoom codec ω s task).1 := by
  unfold LogicShard.handleJoinRoom
  cases hparse : LogicShard.parseRequest codec codec.joinRoomReq task with
  | none => exact moves_say s.uidRoute task.uid _ rfl
  | some parsed =>
      rcases parsed with ⟨envelope, roomId⟩
      dsimp only
      rcases h.leaveForJoin (p := p) ω task.uid roomId
        (fun _ _ hidx hne hr => hrespects.parts _ _
          (Parting.join hmsg hparse hidx hne hr)) with
        ⟨hleave, hindex, hrooms⟩
      have hindexed := h.moves hleave
      generalize LogicShard.leaveForJoin ω s task.uid roomId = left at *
      cases hr : left.1.rooms.lookup roomId with
      | none =>
          exact hleave.append (moves_say left.1.uidRoute task.uid _ rfl)
      | some r =>
          dsimp only
          cases hadd : r.addPlayer task.uid with
          | none =>
              exact hleave.append (moves_say left.1.uidRoute task.uid _ rfl)
          | some added =>
              rcases added with ⟨joined, team⟩
              dsimp only
              rw [List.append_assoc]
              apply hleave.append
              rcases DungeonRoom.addPlayer_cases hadd with
                ⟨hsame, player, hp, _⟩ | ⟨hnone, hfits, _, rfl⟩
              · rw [hsame]
                have hmem : task.uid ∈ r.players := Table.mem_of_lookup hp
                apply moves_announce
                  (ShardMove.touch ((hindexed.member hr _).mp hmem) hr)
                exact seated_reply _ _ _ _ _ rfl
              · have hnew : task.uid ∉ r.players := AList.lookup_eq_none.mp hnone
                have hidx : left.1.uidToRoom.lookup task.uid = none := by
                  rcases hindex with hidx | hidx
                  · exact hidx
                  · exact absurd ((hindexed.member hr _).mpr hidx) hnew
                rw [hrooms] at hr
                apply moves_announce (ShardMove.enter hidx (hrooms.trans hr) hfits
                  (hrespects.seats _ _ (Seating.join hmsg hparse hr hnew hfits)))
                exact seated_reply _ _ _ _ _ rfl

theorem handleLeaveRoom (h : WellIndexed s) (codec : Codec B F) (ω : Orders)
    (task : LogicTask B) (hmsg : task.msgId = MsgId.leaveRoomReq)
    (hrespects : p.RespectedBy codec s task) :
    Moves (ShardMove p) s (LogicShard.handleLeaveRoom codec ω s task).2
      (LogicShard.handleLeaveRoom codec ω s task).1 := by
  unfold LogicShard.handleLeaveRoom
  cases hparse : LogicShard.parseRequest codec codec.leaveRoomReq task with
  | none => exact Moves.nil s
  | some parsed =>
      rcases parsed with ⟨envelope, reqRoomId⟩
      dsimp only
      have hparts := fun r hr hmem =>
        hrespects.parts task.uid r (Parting.leave hmsg hparse hr hmem)
      generalize s.requestedRoomId envelope task.uid reqRoomId = roomId at *
      cases hr : s.rooms.lookup roomId with
      | none => exact Moves.nil s
      | some r =>
          dsimp only
          by_cases hmem : task.uid ∈ r.players
          · have hthere : (r.removePlayer task.uid).2 = true := by
              rcases Table.mem_iff_lookup.mp hmem with ⟨player, hp⟩
              simp [DungeonRoom.removePlayer, DungeonRoom.hasPlayer, hp]
            rw [hthere]
            exact settleDeparture ω ((h.member hr _).mp hmem) hr
              (hparts r hr hmem)
          · have hnot : (r.removePlayer task.uid).2 = false := by
              simp [DungeonRoom.removePlayer, DungeonRoom.hasPlayer,
                AList.lookup_eq_none.mpr hmem]
            rw [hnot, removePlayer_stranger (h.shapes roomId r hr) hmem]
            exact Moves.single (ShardMove.refresh hr)

theorem handleClientDisconnected (h : WellIndexed s) (codec : Codec B F)
    (ω : Orders) (task : LogicTask B)
    (hmsg : task.msgId = MsgId.clientDisconnectedNtf)
    (hrespects : p.RespectedBy codec s task) :
    Moves (ShardMove p) s
      (LogicShard.handleClientDisconnected codec ω s task).2
      (LogicShard.handleClientDisconnected codec ω s task).1 := by
  unfold LogicShard.handleClientDisconnected
  cases hparse : codec.disconnectedUid task.body with
  | none => exact Moves.nil s
  | some uid =>
      dsimp only
      split
      · exact Moves.nil s
      · rename_i hne
        have hroute : ShardMove p s []
            { s with uidRoute := s.uidRoute.erase uid } := ShardMove.route _
        exact Moves.cons hroute
          ((hroute.wellIndexed h).leaveRoomInternal ω uid
            fun _ _ hidx hr => hrespects.parts _ _
              (Parting.disconnect hmsg hparse hne hidx hr))

theorem handlePlayerReady (codec : Codec B F) (ω : Orders)
    (task : LogicTask B) :
    Moves (ShardMove p) s (LogicShard.handlePlayerReady codec ω s task).2
      (LogicShard.handlePlayerReady codec ω s task).1 := by
  unfold LogicShard.handlePlayerReady
  cases hparse : LogicShard.parseRequest codec codec.playerReadyReq task with
  | none => exact Moves.nil s
  | some parsed =>
      rcases parsed with ⟨envelope, req⟩
      dsimp only
      generalize s.requestedRoomId envelope task.uid req.roomId = roomId
      cases hr : s.rooms.lookup roomId with
      | none => exact Moves.nil s
      | some r =>
          dsimp only
          cases hready : r.setReady task.uid req.ready with
          | none => exact Moves.nil s
          | some readied =>
              dsimp only
              have hinner : InnerMove p r [] readied := by
                rcases DungeonRoom.setReady_cases hready with ⟨player, hp, rfl⟩
                exact InnerMove.ready req.ready hp
              have hstate := moves_announce (p := p)
                (ShardMove.inner hr hinner)
                (broadcastRoomState_reply s.uidRoute (ω.room roomId) readied)
              split
              · rename_i hstart
                simp only [Bool.and_eq_true, Bool.not_eq_true'] at hstart
                rcases hstart with ⟨⟨hfull, hall⟩, hlobby⟩
                have hthere : (s.putRoom roomId readied).rooms.lookup roomId =
                    some readied := AList.lookup_insert s.rooms
                have hgame := ShardMove.inner (p := p) hthere
                  (InnerMove.start s.uidRoute (ω.room roomId) hfull hall hlobby)
                rw [LogicShard.putRoom_putRoom] at hgame
                exact hstate.append (Moves.single hgame)
              · exact hstate

theorem handleEnterBattle (codec : Codec B F) (task : LogicTask B) :
    Moves (ShardMove p) s (LogicShard.handleEnterBattle codec s task).2
      (LogicShard.handleEnterBattle codec s task).1 := by
  unfold LogicShard.handleEnterBattle
  split
  · exact moves_say s.uidRoute task.uid _ rfl
  · dsimp only
    split
    · exact moves_say s.uidRoute task.uid _ rfl
    · split
      · exact moves_say s.uidRoute task.uid _ rfl
      · exact moves_say s.uidRoute task.uid _ rfl

/-- A command that was read belongs to the sender. -/
theorem readCommand_owner {codec : Codec B F} {msgId : MsgId} {uid : Nat}
    {envelope : GateToGameEnvelope B} {cmd : PendingCommand F}
    (h : LogicShard.readCommand codec msgId uid envelope =
      LogicShard.CommandReading.command cmd) : cmd.ownerUid = uid := by
  unfold LogicShard.readCommand at h
  dsimp only at h
  unfold LogicShard.readTargetCmd at h
  split at h <;> (try split at h) <;> cases h <;> rfl

theorem handlePlayerCommand (codec : Codec B F) (task : LogicTask B) :
    Moves (ShardMove p) s (LogicShard.handlePlayerCommand codec s task).2
      (LogicShard.handlePlayerCommand codec s task).1 := by
  unfold LogicShard.handlePlayerCommand
  split
  · exact moves_say s.uidRoute task.uid _ rfl
  · rename_i envelope _
    dsimp only
    generalize LogicShard.resolveRoomId envelope s.uidToRoom task.uid = roomId
    split
    · exact moves_say s.uidRoute task.uid _ rfl
    · split
      · exact moves_say s.uidRoute task.uid _ rfl
      · rename_i r hr
        split
        · exact moves_say s.uidRoute task.uid _ rfl
        · rename_i hplayer
          split
          · exact moves_say s.uidRoute task.uid _ rfl
          · split
            · exact moves_say s.uidRoute task.uid _ rfl
            · exact Moves.nil s
            · rename_i cmd hread
              simp only [Bool.not_eq_true', Bool.not_eq_false] at hplayer
              have hmem : cmd.ownerUid ∈ r.players := by
                rw [readCommand_owner hread, Table.mem_iff_lookup,
                  ← Option.isSome_iff_exists]
                exact hplayer
              exact Moves.single
                (ShardMove.inner hr (InnerMove.enqueue cmd hmem))

/-!
## Tasks and ticks
-/

theorem dispatch (h : WellIndexed s) (codec : Codec B F) (ω : Orders)
    (task : LogicTask B) (hrespects : p.RespectedBy codec s task) :
    Moves (ShardMove p) s (LogicShard.dispatch codec ω s task).2
      (LogicShard.dispatch codec ω s task).1 := by
  unfold LogicShard.dispatch
  split
  · rename_i hmsg
    exact h.handleCreateRoom codec ω task hmsg hrespects
  · rename_i hmsg
    exact h.handleJoinRoom codec ω task hmsg hrespects
  · rename_i hmsg
    exact h.handleLeaveRoom codec ω task hmsg hrespects
  · exact handlePlayerReady codec ω task
  · exact handleEnterBattle codec task
  · rename_i hmsg
    exact h.handleClientDisconnected codec ω task hmsg hrespects
  · exact Moves.nil s
  · exact Moves.nil s
  · exact Moves.nil s
  · exact handlePlayerCommand codec task

theorem handleTask (h : WellIndexed s) (codec : Codec B F) (ω : Orders)
    (task : LogicTask B) (hrespects : p.RespectedBy codec s task) :
    Moves (ShardMove p) s (LogicShard.handleTask codec ω s task).2
      (LogicShard.handleTask codec ω s task).1 := by
  unfold LogicShard.handleTask
  split
  · have hroute : ShardMove p s []
        { s with uidRoute := s.uidRoute.insert task.uid task.origin } :=
      ShardMove.route _
    apply Moves.cons hroute
    apply (hroute.wellIndexed h).dispatch
    constructor
    · intro uid r hseating
      apply hrespects.seats uid r
      cases hseating with
      | create hmsg hparse => exact Seating.create hmsg hparse
      | join hmsg hparse hr hnew hfits =>
          exact Seating.join hmsg hparse hr hnew hfits
    · intro uid r hparting
      apply hrespects.parts uid r
      cases hparting with
      | create hmsg hparse hidx hr => exact Parting.create hmsg hparse hidx hr
      | join hmsg hparse hidx hne hr => exact Parting.join hmsg hparse hidx hne hr
      | leave hmsg hparse hr hmem => exact Parting.leave hmsg hparse hr hmem
      | disconnect hmsg hparse hne hidx hr =>
          exact Parting.disconnect hmsg hparse hne hidx hr
  · exact h.dispatch codec ω task hrespects

theorem tickOne {t : LogicShard F} {events : List (ShardEvent F)}
    (h : WellIndexed t) (hsofar : Moves (ShardMove p) s events t)
    (ω : Orders) {roomId : Nat}
    (hticks : forall r, t.rooms.lookup roomId = some r ->
      LogicShard.isActive r = true -> p.ticks (ω.room roomId) r) :
    Moves (ShardMove p) s (LogicShard.tickOne ω (t, events) roomId).2
      (LogicShard.tickOne ω (t, events) roomId).1 := by
  unfold LogicShard.tickOne
  dsimp only
  split
  · exact hsofar
  · rename_i r hr
    split
    · rename_i hactive
      have htick := ShardMove.inner (p := p) hr
        (InnerMove.tick t.uidRoute (ω.room roomId) hactive (hticks r hr hactive))
      rw [(h.ids roomId r hr).left] at htick
      exact hsofar.append (Moves.single htick)
    · exact hsofar

/-- The loop over the rooms, which finds every room as it was before. -/
theorem tickLoop (h : WellIndexed s) (ω : Orders)
    (hticks : forall roomId r, s.rooms.lookup roomId = some r ->
      LogicShard.isActive r = true -> p.ticks (ω.room roomId) r)
    (ids : List Nat) (hnodup : ids.Nodup)
    (acc : LogicShard F × List (ShardEvent F))
    (hsofar : Moves (ShardMove p) s acc.2 acc.1)
    (hahead : forall id, id ∈ ids ->
      acc.1.rooms.lookup id = s.rooms.lookup id) :
    Moves (ShardMove p) s (ids.foldl (LogicShard.tickOne ω) acc).2
      (ids.foldl (LogicShard.tickOne ω) acc).1 := by
  induction ids generalizing acc with
  | nil =>
      exact hsofar
  | cons roomId rest ih =>
      rcases List.nodup_cons.mp hnodup with ⟨hnew, hrest⟩
      apply ih hrest
      · apply tickOne (h.moves hsofar) hsofar ω
        intro r hr
        rw [hahead roomId List.mem_cons_self] at hr
        exact hticks roomId r hr
      · intro id hid
        have hne : id ≠ roomId := fun heq => hnew (heq ▸ hid)
        rw [LogicShard.tickOne_lookup, if_neg hne]
        exact hahead id (List.mem_cons_of_mem _ hid)

theorem tickRooms (h : WellIndexed s) (ω : Orders)
    (hticks : forall roomId r, s.rooms.lookup roomId = some r ->
      LogicShard.isActive r = true -> p.ticks (ω.room roomId) r) :
    Moves (ShardMove p) s (LogicShard.tickRooms ω s).2
      (LogicShard.tickRooms ω s).1 :=
  h.tickLoop ω hticks _ (ω.rooms.visit_nodup s.rooms) (s, []) (Moves.nil s)
    fun _ _ => rfl

/-- Handling an input is a sequence of moves. -/
theorem handle (h : WellIndexed s) (codec : Codec B F)
    (i : LogicShard.ShardInput B)
    (hrespects : p.Respected codec s i) :
    Moves (ShardMove p) s (LogicShard.handle codec s i).2
      (LogicShard.handle codec s i).1 := by
  cases i with
  | task task ω => exact h.handleTask codec ω task hrespects
  | tick ω => exact h.tickRooms ω hrespects

omit [Scalar F] in
/-- An empty shard is well indexed. -/
theorem create (shardId shardCount : Nat) :
    WellIndexed (LogicShard.create shardId shardCount : LogicShard F) := by
  constructor
  · intro uid roomId
    constructor
    · intro hidx
      cases hidx
    · rintro ⟨r, hr, _⟩
      cases hr
  · exact Table.allAt_empty _
  · exact Table.allAt_empty _
  · unfold LogicShard.create
    dsimp only
    split
    · exact Nat.le_refl 1
    · lia

end WellIndexed

/-!
## Runs
-/

/-- A run of a shard is a sequence of moves. -/
theorem run_moves (codec : Codec B F) (shardId shardCount : Nat)
    (inputs : List (LogicShard.ShardInput B)) :
    Moves (ShardMove Policy.free) (LogicShard.create shardId shardCount)
      (LogicShard.run codec shardId shardCount inputs).2
      (LogicShard.run codec shardId shardCount inputs).1 := by
  have hinit := WellIndexed.create (F := F) shardId shardCount
  apply runMachine_invariant
    (fun past t =>
      Moves (ShardMove Policy.free) (LogicShard.create shardId shardCount)
        past t)
    (fun past t i hsofar =>
      hsofar.append ((hinit.moves hsofar).handle codec i Policy.free_respected))
    []
  exact Moves.nil _

theorem run_wellIndexed (codec : Codec B F) (shardId shardCount : Nat)
    (inputs : List (LogicShard.ShardInput B)) :
    WellIndexed (LogicShard.run codec shardId shardCount inputs).1 :=
  (WellIndexed.create shardId shardCount).moves
    (run_moves codec shardId shardCount inputs)

/--
After every sequence of tasks and ticks the index lists exactly the players of
the rooms, no room is without players, every player has a ledger and nobody
else has, and no room holds more players than it admits.
-/
theorem run_index_agrees (codec : Codec B F) (shardId shardCount : Nat)
    (inputs : List (LogicShard.ShardInput B)) :
    let s := (LogicShard.run codec shardId shardCount inputs).1
    (forall uid roomId, s.uidToRoom.lookup uid = some roomId <->
      exists r, s.rooms.lookup roomId = some r ∧ uid ∈ r.players) ∧
    forall roomId r, s.rooms.lookup roomId = some r ->
      (exists uid, uid ∈ r.players) ∧
      (forall uid, uid ∈ r.playerRes <-> uid ∈ r.players) ∧
      r.players.size ≤ r.maxPlayers ∧ 1 ≤ r.maxPlayers ∧ r.maxPlayers ≤ 4 := by
  intro s
  have h : WellIndexed s := run_wellIndexed codec shardId shardCount inputs
  refine ⟨h.index, ?_⟩
  intro roomId r hr
  have hshape := h.shapes roomId r hr
  refine ⟨?_, hshape.ledgers, hshape.fits, hshape.maxPos, hshape.maxLe⟩
  by_contra hnobody
  have hzero : r.players.size = 0 :=
    Table.size_eq_zero_iff.mpr fun uid huid => hnobody ⟨uid, huid⟩
  have hoccupied := hshape.occupied
  lia

end RtsGame
