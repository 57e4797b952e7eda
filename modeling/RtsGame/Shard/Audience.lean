import RtsGame.Shard.Handlers

/-!
# Who hears about a room

What happens in a room is nobody's business but its players': whatever a shard says about
a room, its world, its players or the end of its game, it says to those who are in the room
when the task or the tick is over, and to nobody else.
-/

namespace RtsGame

variable {B F : Type}

/-- The room that a message tells about. -/
def ServerMsg.roomOf : ServerMsg F -> Option Nat
  | ServerMsg.roomStateNtf roomId _ => some roomId
  | ServerMsg.gameStartNtf roomId _ _ _ _ => some roomId
  | ServerMsg.snapshotNtf snapshot => some snapshot.roomId
  | ServerMsg.entitySpawnNtf roomId _ _ => some roomId
  | ServerMsg.entityDespawnNtf roomId _ _ _ => some roomId
  | ServerMsg.worldDeltaNtf delta => some delta.roomId
  | ServerMsg.gameOverNtf roomId _ _ => some roomId
  | _ => none

/-- The message is addressed to its recipients, who are players of its room. -/
def ShardEvent.Inside (rooms : Table (DungeonRoom F)) : ShardEvent F -> Prop
  | ShardEvent.sent uids targets msg _ =>
      (forall target, target ∈ targets -> target.1 ∈ uids) ∧
        forall roomId, msg.roomOf = some roomId ->
          exists r, rooms.lookup roomId = some r ∧ forall uid, uid ∈ uids -> uid ∈ r.players
  | ShardEvent.ran _ _ => True

/-- The same for one room, which the message may tell about. -/
def ShardEvent.Among (r : DungeonRoom F) : ShardEvent F -> Prop
  | ShardEvent.sent uids targets msg _ =>
      (forall target, target ∈ targets -> target.1 ∈ uids) ∧
        (msg.roomOf = none ∨
          (msg.roomOf = some r.roomId ∧ forall uid, uid ∈ uids -> uid ∈ r.players))
  | ShardEvent.ran _ _ => True

theorem ShardEvent.Among.inside {rooms : Table (DungeonRoom F)} {r r' : DungeonRoom F}
    {e : ShardEvent F} (h : e.Among r) (hr : rooms.lookup r.roomId = some r')
    (hplayers : forall uid, uid ∈ r.players -> uid ∈ r'.players) : e.Inside rooms := by
  cases e with
  | ran call room => trivial
  | sent uids targets msg seq =>
      refine ⟨h.left, ?_⟩
      intro roomId hroom
      rcases h.right with hnone | ⟨hown, huids⟩
      · cases hnone.symm.trans hroom
      · injection hown.symm.trans hroom with heq
        rw [← heq]
        exact ⟨r', hr, fun uid huid => hplayers uid (huids uid huid)⟩

/-!
## Broadcasts
-/

section Broadcasts

variable {routes : Routes} {ω : RoomOrders} {r : DungeonRoom F}

theorem mem_playerUids {order : IterOrder} {uid : Nat} :
    uid ∈ r.playerUids order <-> uid ∈ r.players := IterOrder.mem_visit

theorem sendToPlayers_among {uids : List Nat} {msg : ServerMsg F} {seq : Nat}
    (h : msg.roomOf = none ∨
      (msg.roomOf = some r.roomId ∧ forall uid, uid ∈ uids -> uid ∈ r.players)) :
    forall e, e ∈ sendToPlayers routes uids msg seq -> e.Among r := by
  intro e he
  unfold sendToPlayers at he
  split at he
  · cases he
  · rw [List.mem_singleton.mp he]
    refine ⟨?_, h⟩
    intro target htarget
    rcases List.mem_filterMap.mp htarget with ⟨uid, huid, hroute⟩
    rcases Option.map_eq_some_iff.mp hroute with ⟨route, _, rfl⟩
    exact huid

theorem reply_among {uid : Nat} {msg : ServerMsg F} (h : msg.roomOf = none) :
    forall e, e ∈ sendToPlayer routes uid msg -> e.Among r := sendToPlayers_among (Or.inl h)

/-- What is sent to every player. -/
theorem toEveryone_among {order : IterOrder} {msg : ServerMsg F} {seq : Nat}
    (h : msg.roomOf = some r.roomId) :
    forall e, e ∈ sendToPlayers routes (r.playerUids order) msg seq -> e.Among r :=
  sendToPlayers_among (Or.inr ⟨h, fun _ huid => mem_playerUids.mp huid⟩)

/-- What is sent to one player after the other. -/
theorem toEach_among {order : IterOrder} {msg : ServerMsg F}
    (h : msg.roomOf = some r.roomId) :
    forall e, e ∈ (r.playerUids order).flatMap (fun uid => sendToPlayer routes uid msg) ->
      e.Among r := by
  intro e he
  rcases List.mem_flatMap.mp he with ⟨uid, huid, hsent⟩
  refine sendToPlayers_among (Or.inr ⟨h, ?_⟩) e hsent
  intro other hother
  rw [List.mem_singleton.mp hother]
  exact mem_playerUids.mp huid

theorem broadcastRoomState_among :
    forall e, e ∈ broadcastRoomState routes ω r -> e.Among r := toEach_among rfl

theorem broadcastGameOver_among (winnerTeam : Nat) :
    forall e, e ∈ broadcastGameOver routes ω r winnerTeam -> e.Among r := by
  intro e he
  rcases List.mem_cons.mp he with rfl | hsent
  · trivial
  · exact toEveryone_among rfl e hsent

theorem deltaMsgs_roomOf {msg : ServerMsg F} (h : msg ∈ deltaMsgs ω r) :
    msg.roomOf = some r.roomId := by
  unfold deltaMsgs at h
  rw [List.mem_append, List.mem_append] at h
  rcases h with (hspawn | hdespawn) | hdelta
  · rcases List.mem_map.mp hspawn with ⟨_, _, rfl⟩
    rfl
  · rcases List.mem_map.mp hdespawn with ⟨_, _, rfl⟩
    rfl
  · split at hdelta
    · rw [List.mem_singleton.mp hdelta]
      rfl
    · cases hdelta

theorem syncEvents_among : forall e, e ∈ syncEvents routes ω r -> e.Among r := by
  intro e he
  unfold syncEvents at he
  split at he
  · exact toEveryone_among rfl e he
  · rcases List.mem_flatMap.mp he with ⟨msg, hmsg, hsent⟩
    exact toEveryone_among (deltaMsgs_roomOf hmsg) e hsent

end Broadcasts

section Games

variable [Scalar F] {r : DungeonRoom F}

omit [Scalar F] in
/-- A room with the same players. -/
theorem ShardEvent.Among.kept {r' : DungeonRoom F} {e : ShardEvent F} (h : e.Among r')
    (hkept : Kept r r') : e.Among r := by
  cases e with
  | ran call room => trivial
  | sent uids targets msg seq =>
      refine ⟨h.left, h.right.imp_right ?_⟩
      rintro ⟨hroom, huids⟩
      rw [hkept.roomId] at hroom
      exact ⟨hroom, fun uid huid => (hkept.players uid).mp (huids uid huid)⟩

theorem startGame_among (routes : Routes) (ω : RoomOrders) (hr : DungeonRoom.Keyed r) :
    forall e, e ∈ (LogicShard.startGame routes ω r).2 -> e.Among r := by
  intro e he
  have hstarted : DungeonRoom.Keyed (r.setStarted true) := hr.congr rfl rfl rfl rfl rfl
  rcases DungeonRoom.spawnInitialUnits_setup ω hstarted with ⟨hsame, _⟩
  change e ∈ broadcastGameStart routes ω (r.setStarted true) ++ _ ++ _ at he
  rw [List.mem_append, List.mem_append] at he
  rcases he with (hstart | hran) | hsnapshot
  · exact toEach_among (r := r.setStarted true) rfl e hstart
  · rcases List.mem_pair.mp hran with rfl | rfl
    · trivial
    · trivial
  · refine (toEveryone_among rfl e hsnapshot).kept (Kept.of_players hsame.roomId
      hsame.maxPlayers hsame.players ?_)
    intro uid
    exact (DungeonRoom.mem_beginBattle_playerRes _ uid).trans (hsame.ledgers uid)

theorem tickRoom_among (routes : Routes) (ω : RoomOrders) (roomId : Nat)
    (hr : DungeonRoom.Keyed r) :
    forall e, e ∈ (tickRoom routes ω roomId r).2 -> e.Among r := by
  intro e he
  have hsame := (DungeonRoom.afterStep_setup hr ω).left
  have hkept : Kept r (r.afterStep ω) := Kept.of_players hsame.roomId hsame.maxPlayers
    hsame.players hsame.ledgers
  have hstep : e ∈ ((r.applyPending.takeRejected.2.flatMap fun rej =>
      sendCommandRejected routes rej.uid roomId rej.clientSeq rej.code.toErrorCode
        "command rejected") ++ [ShardEvent.ran RoomCall.step r.beforeStep] ++
          syncEvents routes ω (r.afterStep ω)) -> e.Among r := by
    rw [List.mem_append, List.mem_append]
    rintro ((hrejected | hran) | hsync)
    · rcases List.mem_flatMap.mp hrejected with ⟨rej, _, hsent⟩
      exact reply_among rfl e hsent
    · rw [List.mem_singleton.mp hran]
      trivial
    · exact (syncEvents_among e hsync).kept hkept
  unfold tickRoom at he
  dsimp only at he
  split at he
  · exact hstep he
  · rcases List.mem_append.mp he with hbefore | hover
    · exact hstep hbefore
    · refine (broadcastGameOver_among _ e hover).kept ?_
      exact ⟨hkept.roomId, hkept.maxPlayers, hkept.size, hkept.players, hkept.ledgers⟩

end Games

/-!
## Tasks
-/

/-- Nothing is said to outsiders. -/
def AllInside (s : LogicShard F) (events : List (ShardEvent F)) : Prop :=
  forall e, e ∈ events -> e.Inside s.rooms

section Tasks

variable {s : LogicShard F} {events : List (ShardEvent F)}

theorem AllInside.nil (s : LogicShard F) : AllInside s [] := by
  intro e he
  cases he

theorem AllInside.append {later : List (ShardEvent F)} (h : AllInside s events)
    (hlater : AllInside s later) : AllInside s (events ++ later) := by
  intro e he
  rcases List.mem_append.mp he with hfirst | hsecond
  · exact h e hfirst
  · exact hlater e hsecond

theorem reply_inside (routes : Routes) (uid : Nat) {msg : ServerMsg F}
    (h : msg.roomOf = none) : AllInside s (sendToPlayer routes uid msg) := by
  intro e he
  unfold sendToPlayer sendToPlayers at he
  split at he
  · cases he
  · rw [List.mem_singleton.mp he]
    refine ⟨?_, ?_⟩
    · intro target htarget
      rcases List.mem_filterMap.mp htarget with ⟨other, hother, hroute⟩
      rcases Option.map_eq_some_iff.mp hroute with ⟨route, _, rfl⟩
      exact hother
    · intro roomId hroom
      cases h.symm.trans hroom

/-- Rooms only gain players. -/
def Gains (s s' : LogicShard F) : Prop :=
  forall k r, s.rooms.lookup k = some r ->
    exists r', s'.rooms.lookup k = some r' ∧ forall uid, uid ∈ r.players -> uid ∈ r'.players

theorem AllInside.gains {s' : LogicShard F} (h : AllInside s events) (hgains : Gains s s') :
    AllInside s' events := by
  intro e he
  have hinside := h e he
  cases e with
  | ran call room => trivial
  | sent uids targets msg seq =>
      refine ⟨hinside.left, ?_⟩
      intro roomId hroom
      rcases hinside.right roomId hroom with ⟨r, hr, huids⟩
      rcases hgains roomId r hr with ⟨r', hr', hplayers⟩
      exact ⟨r', hr', fun uid huid => hplayers uid (huids uid huid)⟩

/-- A room is put back with at least its players. -/
theorem gains_insert {roomId : Nat} {r' : DungeonRoom F} {s' : LogicShard F}
    (hrooms : s'.rooms = s.rooms.insert roomId r')
    (hplayers : forall r, s.rooms.lookup roomId = some r ->
      forall uid, uid ∈ r.players -> uid ∈ r'.players) : Gains s s' := by
  intro k r hr
  by_cases hk : k = roomId
  · subst hk
    exact ⟨r', by rw [hrooms, AList.lookup_insert], hplayers r hr⟩
  · exact ⟨r, by rw [hrooms, AList.lookup_insert_ne hk, hr], fun _ huid => huid⟩

/-- What is said among the players of a room that has just been put back. -/
theorem inside_insert {roomId : Nat} {r : DungeonRoom F} (hid : r.roomId = roomId)
    (hrooms : s.rooms.lookup roomId = some r)
    (h : forall e, e ∈ events -> e.Among r) : AllInside s events := by
  intro e he
  rw [← hid] at hrooms
  exact (h e he).inside hrooms fun _ huid => huid

theorem settleDeparture_inside (ω : Orders) (s : LogicShard F) {roomId : Nat}
    (active : Bool) {r : DungeonRoom F} (hid : r.roomId = roomId) :
    AllInside (LogicShard.settleDeparture ω s roomId active r).1
      (LogicShard.settleDeparture ω s roomId active r).2 := by
  unfold LogicShard.settleDeparture
  split
  · exact AllInside.nil _
  · split
    · exact inside_insert (r := r.setGameOver true) hid (AList.lookup_insert s.rooms)
        (broadcastGameOver_among _)
    · exact inside_insert hid (AList.lookup_insert s.rooms) broadcastRoomState_among

theorem leaveRoomInternal_inside (h : WellIndexed s) (ω : Orders) (uid : Nat) :
    AllInside (LogicShard.leaveRoomInternal ω s uid).1
      (LogicShard.leaveRoomInternal ω s uid).2 := by
  unfold LogicShard.leaveRoomInternal
  split
  · exact AllInside.nil _
  · dsimp only
    split
    · exact AllInside.nil _
    · rename_i roomId _ _ r hr
      exact settleDeparture_inside ω _ _ (h.ids roomId r hr).left

theorem leaveForJoin_inside (h : WellIndexed s) (ω : Orders) (uid roomId : Nat) :
    AllInside (LogicShard.leaveForJoin ω s uid roomId).1
      (LogicShard.leaveForJoin ω s uid roomId).2 := by
  unfold LogicShard.leaveForJoin
  split
  · exact AllInside.nil _
  · split
    · exact leaveRoomInternal_inside h ω uid
    · exact AllInside.nil _

theorem addPlayer_players {r joined : DungeonRoom F} {uid team : Nat}
    (h : r.addPlayer uid = some (joined, team)) :
    joined.roomId = r.roomId ∧ forall other, other ∈ r.players -> other ∈ joined.players := by
  rcases DungeonRoom.addPlayer_cases h with ⟨heq, _⟩ | ⟨_, _, _, heq⟩
  · rw [heq]
    exact ⟨rfl, fun _ hother => hother⟩
  · rw [heq]
    refine ⟨rfl, fun other hother => ?_⟩
    exact (AList.mem_insert _).mpr (Or.inr hother)

/-- The answer to a player who was seated, and the news for everybody in the room. -/
theorem seated_inside {t : LogicShard F} (routes : Routes) (ω : RoomOrders) (uid : Nat)
    {roomId : Nat} {room : DungeonRoom F} {msg : ServerMsg F} (hmsg : msg.roomOf = none)
    (hevents : AllInside t events) (hid : room.roomId = roomId)
    (hrooms : s.rooms = t.rooms.insert roomId room)
    (hplayers : forall r, t.rooms.lookup roomId = some r ->
      forall other, other ∈ r.players -> other ∈ room.players) :
    AllInside s (events ++ sendToPlayer routes uid msg ++ broadcastRoomState routes ω room) := by
  refine ((hevents.gains (gains_insert hrooms hplayers)).append
    (reply_inside routes uid hmsg)).append ?_
  refine inside_insert hid ?_ broadcastRoomState_among
  rw [hrooms, AList.lookup_insert]

variable [Scalar F]

theorem handleCreateRoom_inside (h : WellIndexed s) (codec : Codec B F) (ω : Orders)
    (task : LogicTask B) :
    AllInside (LogicShard.handleCreateRoom codec ω s task).1
      (LogicShard.handleCreateRoom codec ω s task).2 := by
  unfold LogicShard.handleCreateRoom
  split
  · exact reply_inside _ _ rfl
  · have hleft := leaveRoomInternal_inside h ω task.uid
    have hindexed := h.moves
      (h.leaveRoomInternal (p := Policy.free) ω task.uid fun _ _ _ _ => trivial)
    have hgone := leaveRoomInternal_departed h ω task.uid
    dsimp only
    generalize LogicShard.leaveRoomInternal ω s task.uid = left at hleft hindexed hgone
    have hfresh : left.1.rooms.lookup (s.shardId + s.shardCount * left.1.nextRoomId) = none := by
      rw [← hgone.shardId, ← hgone.shardCount]
      exact hindexed.fresh
    rw [hfresh]
    dsimp only
    refine seated_inside _ _ _ rfl hleft ?_ rfl ?_
    · split
      · rename_i hadd
        exact (addPlayer_players hadd).left
      · rfl
    · intro r hr
      cases hfresh.symm.trans hr

theorem handleJoinRoom_inside (h : WellIndexed s) (codec : Codec B F) (ω : Orders)
    (task : LogicTask B) :
    AllInside (LogicShard.handleJoinRoom codec ω s task).1
      (LogicShard.handleJoinRoom codec ω s task).2 := by
  unfold LogicShard.handleJoinRoom
  split
  · exact reply_inside _ _ rfl
  · rename_i envelope roomId _
    have hleft := leaveForJoin_inside h ω task.uid roomId
    have hindexed := h.moves
      (h.leaveForJoin (p := Policy.free) ω task.uid roomId fun _ _ _ _ _ => trivial).left
    dsimp only
    generalize LogicShard.leaveForJoin ω s task.uid roomId = left at hleft hindexed
    split
    · exact hleft.append (reply_inside _ _ rfl)
    · rename_i room hroom
      split
      · exact hleft.append (reply_inside _ _ rfl)
      · rename_i joined team hadd
        have hjoined := addPlayer_players hadd
        refine seated_inside _ _ _ rfl hleft
          (hjoined.left.trans (hindexed.ids roomId room hroom).left) rfl ?_
        intro r hr
        injection hroom.symm.trans hr with heq
        rw [← heq]
        exact hjoined.right

omit [Scalar F] in
theorem handleLeaveRoom_inside (h : WellIndexed s) (codec : Codec B F) (ω : Orders)
    (task : LogicTask B) :
    AllInside (LogicShard.handleLeaveRoom codec ω s task).1
      (LogicShard.handleLeaveRoom codec ω s task).2 := by
  unfold LogicShard.handleLeaveRoom
  split
  · exact AllInside.nil _
  · dsimp only
    split
    · exact AllInside.nil _
    · rename_i room hroom
      split
      · exact AllInside.nil _
      · exact settleDeparture_inside ω _ _ (h.ids _ room hroom).left

theorem handleClientDisconnected_inside (h : WellIndexed s) (codec : Codec B F)
    (ω : Orders) (task : LogicTask B) :
    AllInside (LogicShard.handleClientDisconnected codec ω s task).1
      (LogicShard.handleClientDisconnected codec ω s task).2 := by
  unfold LogicShard.handleClientDisconnected
  split
  · exact AllInside.nil _
  · rename_i uid _
    split
    · exact AllInside.nil _
    · have hrouted : WellIndexed { s with uidRoute := s.uidRoute.erase uid } :=
        (ShardMove.route (p := Policy.free) (s.uidRoute.erase uid)).wellIndexed h
      exact leaveRoomInternal_inside hrouted ω uid

theorem handlePlayerReady_inside (h : WellIndexed s) (codec : Codec B F) (ω : Orders)
    (task : LogicTask B) :
    AllInside (LogicShard.handlePlayerReady codec ω s task).1
      (LogicShard.handlePlayerReady codec ω s task).2 := by
  unfold LogicShard.handlePlayerReady
  split
  · exact AllInside.nil _
  · rename_i envelope req _
    dsimp only
    split
    · exact AllInside.nil _
    · rename_i room hroom
      split
      · exact AllInside.nil _
      · rename_i readied hready
        have hfacts : readied.roomId = room.roomId ∧ DungeonRoom.Keyed readied := by
          rcases DungeonRoom.setReady_cases hready with ⟨player, _, rfl⟩
          exact ⟨rfl, (h.shapes _ room hroom).keyed.congr rfl rfl rfl rfl rfl⟩
        have hid := hfacts.left.trans (h.ids _ room hroom).left
        split
        · have hkept := (startGame_kept s.uidRoute
            (ω.room (s.requestedRoomId envelope task.uid req.roomId)) hfacts.right).left
          intro e he
          have hamong : e.Among readied := by
            rcases List.mem_append.mp he with hstate | hgame
            · exact broadcastRoomState_among e hstate
            · exact startGame_among _ _ hfacts.right e hgame
          refine hamong.inside ?_ fun uid huid => (hkept.players uid).mpr huid
          rw [hid]
          exact AList.lookup_insert s.rooms
        · exact inside_insert hid (AList.lookup_insert s.rooms) broadcastRoomState_among

omit [Scalar F] in
theorem handleEnterBattle_inside (codec : Codec B F) (task : LogicTask B) :
    AllInside (LogicShard.handleEnterBattle codec s task).1
      (LogicShard.handleEnterBattle codec s task).2 := by
  unfold LogicShard.handleEnterBattle
  split
  · exact reply_inside _ _ rfl
  · dsimp only
    split
    · exact reply_inside _ _ rfl
    · split
      · exact reply_inside _ _ rfl
      · exact reply_inside _ _ rfl

theorem handlePlayerCommand_inside (codec : Codec B F) (task : LogicTask B) :
    AllInside (LogicShard.handlePlayerCommand codec s task).1
      (LogicShard.handlePlayerCommand codec s task).2 := by
  unfold LogicShard.handlePlayerCommand
  split
  · exact reply_inside _ _ rfl
  · dsimp only
    split
    · exact reply_inside _ _ rfl
    · split
      · exact reply_inside _ _ rfl
      · split
        · exact reply_inside _ _ rfl
        · split
          · exact reply_inside _ _ rfl
          · split
            · exact reply_inside _ _ rfl
            · exact AllInside.nil _
            · exact AllInside.nil _

theorem dispatch_inside (h : WellIndexed s) (codec : Codec B F) (ω : Orders)
    (task : LogicTask B) :
    AllInside (LogicShard.dispatch codec ω s task).1
      (LogicShard.dispatch codec ω s task).2 := by
  unfold LogicShard.dispatch
  split
  · exact handleCreateRoom_inside h codec ω task
  · exact handleJoinRoom_inside h codec ω task
  · exact handleLeaveRoom_inside h codec ω task
  · exact handlePlayerReady_inside h codec ω task
  · exact handleEnterBattle_inside codec task
  · exact handleClientDisconnected_inside h codec ω task
  · exact AllInside.nil _
  · exact AllInside.nil _
  · exact AllInside.nil _
  · exact handlePlayerCommand_inside codec task

theorem handleTask_inside (h : WellIndexed s) (codec : Codec B F) (ω : Orders)
    (task : LogicTask B) :
    AllInside (LogicShard.handleTask codec ω s task).1
      (LogicShard.handleTask codec ω s task).2 := by
  unfold LogicShard.handleTask
  refine dispatch_inside ?_ codec ω task
  split
  · exact (ShardMove.route (p := Policy.free) _).wellIndexed h
  · exact h

/-!
## Ticks
-/

theorem tickOne_inside (ω : Orders) {acc : LogicShard F × List (ShardEvent F)}
    (hindexed : WellIndexed acc.1) (h : AllInside acc.1 acc.2) (roomId : Nat) :
    AllInside (LogicShard.tickOne ω acc roomId).1 (LogicShard.tickOne ω acc roomId).2 := by
  unfold LogicShard.tickOne
  split
  · exact h
  · rename_i room hroom
    split
    · have hid := (hindexed.ids roomId room hroom).left
      have hkeyed := (hindexed.shapes roomId room hroom).keyed
      have hkept := (tickRoom_kept acc.1.uidRoute (ω.room roomId) roomId hkeyed).left
      refine (h.gains (gains_insert rfl ?_)).append ?_
      · intro r hr uid huid
        injection hroom.symm.trans hr with heq
        rw [← heq] at huid
        exact (hkept.players uid).mpr huid
      · intro e he
        have hamong := tickRoom_among acc.1.uidRoute (ω.room roomId) roomId hkeyed e he
        refine hamong.inside ?_ fun uid huid => (hkept.players uid).mpr huid
        rw [hid]
        exact AList.lookup_insert acc.1.rooms
    · exact h

theorem tickRooms_inside (h : WellIndexed s) (ω : Orders) :
    AllInside (LogicShard.tickRooms ω s).1 (LogicShard.tickRooms ω s).2 := by
  have hloop : Moves (ShardMove Policy.free) s (LogicShard.tickRooms ω s).2
      (LogicShard.tickRooms ω s).1 ∧
        AllInside (LogicShard.tickRooms ω s).1 (LogicShard.tickRooms ω s).2 := by
    unfold LogicShard.tickRooms
    refine List.foldlRecOn (motive := fun acc : LogicShard F × List (ShardEvent F) =>
      Moves (ShardMove Policy.free) s acc.2 acc.1 ∧ AllInside acc.1 acc.2) _ _
      ⟨Moves.nil s, AllInside.nil s⟩ ?_
    intro acc hacc roomId _
    have hindexed := h.moves hacc.left
    exact ⟨hindexed.tickOne hacc.left ω fun _ _ _ => trivial,
      tickOne_inside ω hindexed hacc.right roomId⟩
  exact hloop.right

end Tasks

end RtsGame
