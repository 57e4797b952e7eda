import RtsGame.Library.Compartments
import RtsGame.Shard.Audience
import RtsGame.Shard.RoomRules

/-!
# Every room for itself

Many games are played on one shard.  A room is a compartment of the shard: what becomes of it
and what is said about it is decided by the ticks, by the tasks of its players, by the notices
that they have gone, and by the requests to join it.  All other tasks could as well not happen.
-/

namespace RtsGame

variable {B F : Type}

/-- What a message says about a room: its recipients, the message and its number. -/
def ShardEvent.about (roomId : Nat) : ShardEvent F -> Option (List Nat × ServerMsg F × Nat)
  | ShardEvent.sent uids _ msg seq =>
      if msg.roomOf = some roomId then some (uids, msg, seq) else none
  | ShardEvent.ran _ _ => none

/-- A room after a task or a tick, and what was said about it. -/
def LogicShard.glimpse (roomId : Nat) (result : LogicShard F × List (ShardEvent F)) :
    Option (DungeonRoom F) × List (List Nat × ServerMsg F × Nat) :=
  (result.1.rooms.lookup roomId, told ShardEvent.about roomId result.2)

/-- The input can matter to a room. -/
def LogicShard.concerns (codec : Codec B F) (roomId : Nat) (s : LogicShard F) :
    LogicShard.ShardInput B -> Bool
  | LogicShard.ShardInput.tick _ => true
  | LogicShard.ShardInput.task task _ =>
      s.uidToRoom.lookup task.uid == some roomId ||
        task.msgId == MsgId.joinRoomReq &&
          (LogicShard.parseRequest codec codec.joinRoomReq task).any (fun req =>
            req.2 == roomId) ||
        task.msgId == MsgId.clientDisconnectedNtf &&
          (codec.disconnectedUid task.body).any fun uid =>
            s.uidToRoom.lookup uid == some roomId

/-!
## What is said about a room
-/

section Said

variable {roomId : Nat}

theorem about_append (front back : List (ShardEvent F)) :
    told ShardEvent.about roomId (front ++ back) =
      told ShardEvent.about roomId front ++ told ShardEvent.about roomId back :=
  List.filterMap_append

theorem about_flatMap {α : Type} (items : List α) (f : α -> List (ShardEvent F)) :
    told ShardEvent.about roomId (items.flatMap f) =
      items.flatMap fun item => told ShardEvent.about roomId (f item) := by
  induction items with
  | nil => rfl
  | cons item rest ih =>
      rw [List.flatMap_cons, about_append, ih]
      rfl

/-- What is said does not depend on the routes. -/
theorem about_sendToPlayers (routes routes' : Routes) (uids : List Nat) (msg : ServerMsg F)
    (seq : Nat) :
    told ShardEvent.about roomId (sendToPlayers routes uids msg seq) =
      told ShardEvent.about roomId (sendToPlayers routes' uids msg seq) := by
  unfold sendToPlayers
  split
  · rfl
  · rfl

theorem about_reply (routes : Routes) (uid : Nat) {msg : ServerMsg F} (h : msg.roomOf = none) :
    told ShardEvent.about roomId (sendToPlayer routes uid msg) = [] := by
  simp [sendToPlayer, sendToPlayers, told, ShardEvent.about, h]

theorem about_rejected (routes routes' : Routes) (uid k clientSeq : Nat) (code : ErrorCode)
    (reason : String) :
    told ShardEvent.about roomId
        (sendCommandRejected routes uid k clientSeq code reason : List (ShardEvent F)) =
      told ShardEvent.about roomId (sendCommandRejected routes' uid k clientSeq code reason) :=
  about_sendToPlayers routes routes' [uid] _ 0

theorem about_among {events : List (ShardEvent F)} {r : DungeonRoom F}
    (h : forall e, e ∈ events -> e.Among r) (hother : r.roomId ≠ roomId) :
    told ShardEvent.about roomId events = [] := by
  rw [told, List.filterMap_eq_nil_iff]
  intro e he
  have hamong := h e he
  cases e with
  | ran call room => rfl
  | sent uids targets msg seq =>
      apply if_neg
      rcases hamong.right with hnone | ⟨hown, _⟩
      · rw [hnone]
        intro hroom
        cases hroom
      · rw [hown]
        intro hroom
        injection hroom with heq
        exact hother heq

theorem about_broadcastRoomState (routes routes' : Routes) (ω : RoomOrders)
    (r : DungeonRoom F) :
    told ShardEvent.about roomId (broadcastRoomState routes ω r) =
      told ShardEvent.about roomId (broadcastRoomState routes' ω r) := by
  unfold broadcastRoomState
  rw [about_flatMap, about_flatMap]
  rfl

theorem about_broadcastGameOver (routes routes' : Routes) (ω : RoomOrders)
    (r : DungeonRoom F) (winnerTeam : Nat) :
    told ShardEvent.about roomId (broadcastGameOver routes ω r winnerTeam) =
      told ShardEvent.about roomId (broadcastGameOver routes' ω r winnerTeam) :=
  about_sendToPlayers routes routes' _ _ _

theorem about_syncEvents (routes routes' : Routes) (ω : RoomOrders) (r : DungeonRoom F) :
    told ShardEvent.about roomId (syncEvents routes ω r) =
      told ShardEvent.about roomId (syncEvents routes' ω r) := by
  unfold syncEvents
  split
  · exact about_sendToPlayers routes routes' _ _ _
  · unfold sendDelta
    rw [about_flatMap, about_flatMap]
    congr 1
    funext msg
    exact about_sendToPlayers routes routes' _ _ _

variable [Scalar F]

theorem about_startGame (routes routes' : Routes) (ω : RoomOrders) (r : DungeonRoom F) :
    told ShardEvent.about roomId (LogicShard.startGame routes ω r).2 =
      told ShardEvent.about roomId (LogicShard.startGame routes' ω r).2 := by
  unfold LogicShard.startGame broadcastGameStart sendFullSnapshot
  dsimp only
  rw [about_append, about_append, about_append, about_append, about_flatMap, about_flatMap,
    about_sendToPlayers routes routes']
  rfl

theorem tickRoom_routes (routes routes' : Routes) (ω : RoomOrders) (k : Nat)
    (r : DungeonRoom F) : (tickRoom routes ω k r).1 = (tickRoom routes' ω k r).1 := by
  unfold tickRoom
  dsimp only
  split
  · rfl
  · rfl

theorem about_tickRoom (routes routes' : Routes) (ω : RoomOrders) (k : Nat)
    (r : DungeonRoom F) :
    told ShardEvent.about roomId (tickRoom routes ω k r).2 =
      told ShardEvent.about roomId (tickRoom routes' ω k r).2 := by
  have hstep : told ShardEvent.about roomId
        ((r.applyPending.takeRejected.2.flatMap fun rej =>
          sendCommandRejected routes rej.uid k rej.clientSeq rej.code.toErrorCode
            "command rejected") ++ [ShardEvent.ran RoomCall.step r.beforeStep] ++
          syncEvents routes ω (r.afterStep ω)) =
      told ShardEvent.about roomId
        ((r.applyPending.takeRejected.2.flatMap fun rej =>
          sendCommandRejected routes' rej.uid k rej.clientSeq rej.code.toErrorCode
            "command rejected") ++ [ShardEvent.ran RoomCall.step r.beforeStep] ++
          syncEvents routes' ω (r.afterStep ω)) := by
    rw [about_append, about_append, about_append, about_append,
      about_syncEvents routes routes', about_flatMap, about_flatMap]
    rfl
  unfold tickRoom
  dsimp only
  cases (r.afterStep ω).clearFrameChanges.checkGameOver with
  | none => exact hstep
  | some winnerTeam =>
      refine (about_append _ _).trans (Eq.trans ?_ (about_append _ _).symm)
      rw [hstep, about_broadcastGameOver routes routes']

end Said

/-!
## Leaving
-/

section Leaving

variable {s t : LogicShard F} {roomId : Nat}

/-- More is said, but not about the room, which stays as it is. -/
theorem glimpse_more {result : LogicShard F × List (ShardEvent F)}
    {events : List (ShardEvent F)}
    (hroom : s.rooms.lookup roomId = result.1.rooms.lookup roomId)
    (hsilent : told ShardEvent.about roomId events = []) :
    LogicShard.glimpse roomId (s, result.2 ++ events) = LogicShard.glimpse roomId result := by
  unfold LogicShard.glimpse
  rw [about_append, hsilent, List.append_nil, hroom]

/-- The room stays as it is, and nothing is said about it. -/
theorem glimpse_still {events : List (ShardEvent F)}
    (hroom : t.rooms.lookup roomId = s.rooms.lookup roomId)
    (hsilent : told ShardEvent.about roomId events = []) :
    LogicShard.glimpse roomId (t, events) = (s.rooms.lookup roomId, []) :=
  Prod.ext hroom hsilent

/-- The room is the same in two shards, and the same is said about it. -/
theorem glimpse_same {events events' : List (ShardEvent F)}
    (hroom : s.rooms.lookup roomId = t.rooms.lookup roomId)
    (hsaid : told ShardEvent.about roomId events = told ShardEvent.about roomId events') :
    LogicShard.glimpse roomId (s, events) = LogicShard.glimpse roomId (t, events') :=
  Prod.ext hroom hsaid

theorem glimpse_put (s t : LogicShard F) (r : DungeonRoom F)
    {events events' : List (ShardEvent F)}
    (hsaid : told ShardEvent.about roomId events = told ShardEvent.about roomId events') :
    LogicShard.glimpse roomId (s.putRoom roomId r, events) =
      LogicShard.glimpse roomId (t.putRoom roomId r, events') := by
  apply glimpse_same _ hsaid
  unfold LogicShard.putRoom
  rw [AList.lookup_insert, AList.lookup_insert]

/-- Who is a player of the room can be seen from the room. -/
theorem WellIndexed.index_same (hs : WellIndexed s) (ht : WellIndexed t)
    (hroom : s.rooms.lookup roomId = t.rooms.lookup roomId) (uid : Nat) :
    s.uidToRoom.lookup uid = some roomId <-> t.uidToRoom.lookup uid = some roomId := by
  rw [hs.index, ht.index, hroom]

theorem settleDeparture_other (ω : Orders) (s : LogicShard F) {k : Nat} (active : Bool)
    {r : DungeonRoom F} (hid : r.roomId = k) (hother : k ≠ roomId) :
    LogicShard.glimpse roomId (LogicShard.settleDeparture ω s k active r) =
      (s.rooms.lookup roomId, []) := by
  have hne := fun heq : roomId = k => hother heq.symm
  unfold LogicShard.settleDeparture
  split
  · exact glimpse_still (AList.lookup_erase_ne hne) rfl
  · split
    · exact glimpse_still (AList.lookup_insert_ne hne)
        (about_among (r := r.setGameOver true) (broadcastGameOver_among _)
          fun heq => hother (hid.symm.trans heq))
    · exact glimpse_still (AList.lookup_insert_ne hne)
        (about_among broadcastRoomState_among fun heq => hother (hid.symm.trans heq))

theorem settleDeparture_same (ω : Orders) (s t : LogicShard F) (active : Bool)
    (r : DungeonRoom F) :
    LogicShard.glimpse roomId (LogicShard.settleDeparture ω s roomId active r) =
      LogicShard.glimpse roomId (LogicShard.settleDeparture ω t roomId active r) := by
  unfold LogicShard.settleDeparture
  split
  · apply glimpse_same _ rfl
    rw [AList.lookup_erase, AList.lookup_erase]
  · split
    · exact glimpse_put s t _ (about_broadcastGameOver _ _ _ _ _)
    · exact glimpse_put s t _ (about_broadcastRoomState _ _ _ _)

theorem leaveRoomInternal_other (hs : WellIndexed s) (ω : Orders) {uid : Nat}
    (hother : s.uidToRoom.lookup uid ≠ some roomId) :
    LogicShard.glimpse roomId (LogicShard.leaveRoomInternal ω s uid) =
      (s.rooms.lookup roomId, []) := by
  unfold LogicShard.leaveRoomInternal
  cases hidx : s.uidToRoom.lookup uid with
  | none => rfl
  | some k =>
      have hne : k ≠ roomId := fun heq => hother (heq ▸ hidx)
      rcases hs.room_of_index hidx with ⟨r, hr, _⟩
      dsimp only
      rw [hr]
      exact settleDeparture_other ω _ _ (hs.ids k r hr).left hne

/-- What leaving does to the room. -/
theorem leaveRoomInternal_same (hs : WellIndexed s) (ht : WellIndexed t)
    (hroom : s.rooms.lookup roomId = t.rooms.lookup roomId) (ω : Orders) (uid : Nat) :
    LogicShard.glimpse roomId (LogicShard.leaveRoomInternal ω s uid) =
      LogicShard.glimpse roomId (LogicShard.leaveRoomInternal ω t uid) := by
  by_cases hidx : s.uidToRoom.lookup uid = some roomId
  · have hidx' := (hs.index_same ht hroom uid).mp hidx
    rcases hs.room_of_index hidx with ⟨r, hr, _⟩
    unfold LogicShard.leaveRoomInternal
    rw [hidx, hidx']
    dsimp only
    rw [← hroom, hr]
    exact settleDeparture_same ω _ _ _ _
  · have hidx' := fun h => hidx ((hs.index_same ht hroom uid).mpr h)
    rw [leaveRoomInternal_other hs ω hidx, leaveRoomInternal_other ht ω hidx', hroom]

/-- Who asks to join another room leaves this one, if need be. -/
theorem leaveForJoin_away (hs : WellIndexed s) (ω : Orders) (uid : Nat) {k : Nat}
    (hother : k ≠ roomId) :
    LogicShard.glimpse roomId (LogicShard.leaveForJoin ω s uid k) =
      LogicShard.glimpse roomId (LogicShard.leaveRoomInternal ω s uid) := by
  unfold LogicShard.leaveForJoin
  split
  · rename_i hnone
    unfold LogicShard.leaveRoomInternal
    rw [hnone]
  · rename_i current hidx
    split
    · rfl
    · rename_i heq
      rw [not_not] at heq
      rw [leaveRoomInternal_other hs ω (by rw [hidx, heq]; simpa using hother)]
      rfl

/-- Who asks to join this room leaves another one, if need be. -/
theorem leaveForJoin_there (hs : WellIndexed s) (ω : Orders) (uid : Nat) :
    LogicShard.glimpse roomId (LogicShard.leaveForJoin ω s uid roomId) =
      (s.rooms.lookup roomId, []) := by
  unfold LogicShard.leaveForJoin
  split
  · rfl
  · rename_i current hidx
    split
    · rename_i hne
      exact leaveRoomInternal_other hs ω (by rw [hidx]; simpa using hne)
    · rfl

end Leaving

/-!
## Tasks
-/

section Tasks

variable [Scalar F] {s t : LogicShard F} {roomId : Nat}

omit [Scalar F] in
/-- Who is seated in another room, is answered and is announced there. -/
theorem seat_away {left : LogicShard F × List (ShardEvent F)} {s : LogicShard F} (uid : Nat)
    {k : Nat} {room : DungeonRoom F} (routes : Routes) (ω : RoomOrders) {msg : ServerMsg F}
    (hmsg : msg.roomOf = none) (hid : room.roomId = k) (hother : k ≠ roomId)
    (hrooms : s.rooms = left.1.rooms.insert k room) :
    LogicShard.glimpse roomId
        (s, left.2 ++ sendToPlayer routes uid msg ++ broadcastRoomState routes ω room) =
      LogicShard.glimpse roomId left := by
  rw [List.append_assoc]
  apply glimpse_more
  · rw [hrooms, AList.lookup_insert_ne fun heq => hother heq.symm]
  · rw [about_append, about_reply routes uid hmsg,
      about_among broadcastRoomState_among fun heq => hother (hid.symm.trans heq)]
    rfl

/-- Who creates a room leaves this one, if need be. -/
theorem handleCreateRoom_glimpse (hs : WellIndexed s) (hborn : roomId < s.nextId)
    (codec : Codec B F) (ω : Orders) {task : LogicTask B}
    {parsed : GateToGameEnvelope B × CreateRoomReq}
    (hparse : LogicShard.parseRequest codec codec.createRoomReq task = some parsed) :
    LogicShard.glimpse roomId (LogicShard.handleCreateRoom codec ω s task) =
      LogicShard.glimpse roomId (LogicShard.leaveRoomInternal ω s task.uid) := by
  have hindexed := hs.moves
    (hs.leaveRoomInternal (p := Policy.free) ω task.uid fun _ _ _ _ => trivial)
  have hgone := leaveRoomInternal_departed hs ω task.uid
  unfold LogicShard.handleCreateRoom
  rw [hparse]
  dsimp only
  generalize LogicShard.leaveRoomInternal ω s task.uid = left at hindexed hgone
  have hid : s.shardId + s.shardCount * left.1.nextRoomId = s.nextId := by
    rw [← hgone.nextId, ← hgone.shardId, ← hgone.shardCount]
    rfl
  have hfresh := hindexed.fresh
  rw [hgone.nextId] at hfresh
  rw [hid, hfresh]
  dsimp only
  refine seat_away _ _ _ rfl ?_ (Nat.ne_of_gt hborn) rfl
  split
  · rename_i hadd
    exact (addPlayer_players hadd).left
  · rfl

omit [Scalar F] in
theorem handleCreateRoom_refused (codec : Codec B F) (ω : Orders) {task : LogicTask B}
    (hparse : LogicShard.parseRequest codec codec.createRoomReq task = none) :
    LogicShard.glimpse roomId (LogicShard.handleCreateRoom codec ω s task) =
      (s.rooms.lookup roomId, []) := by
  unfold LogicShard.handleCreateRoom
  rw [hparse]
  exact glimpse_still rfl (about_reply _ _ rfl)

/-- Who asks to join another room leaves this one, if need be. -/
theorem handleJoinRoom_away (hs : WellIndexed s) (codec : Codec B F) (ω : Orders)
    {task : LogicTask B} {envelope : GateToGameEnvelope B} {k : Nat}
    (hparse : LogicShard.parseRequest codec codec.joinRoomReq task = some (envelope, k))
    (hother : k ≠ roomId) :
    LogicShard.glimpse roomId (LogicShard.handleJoinRoom codec ω s task) =
      LogicShard.glimpse roomId (LogicShard.leaveRoomInternal ω s task.uid) := by
  have hindexed := hs.moves
    (hs.leaveForJoin (p := Policy.free) ω task.uid k fun _ _ _ _ _ => trivial).left
  rw [← leaveForJoin_away hs ω task.uid hother]
  unfold LogicShard.handleJoinRoom
  rw [hparse]
  dsimp only
  generalize LogicShard.leaveForJoin ω s task.uid k = left at hindexed
  split
  · exact glimpse_more rfl (about_reply _ _ rfl)
  · rename_i room hroom
    split
    · exact glimpse_more rfl (about_reply _ _ rfl)
    · rename_i joined team hadd
      exact seat_away _ _ _ rfl
        ((addPlayer_players hadd).left.trans (hindexed.ids k room hroom).left) hother rfl

omit [Scalar F] in
theorem handleJoinRoom_refused (codec : Codec B F) (ω : Orders) {task : LogicTask B}
    (hparse : LogicShard.parseRequest codec codec.joinRoomReq task = none) :
    LogicShard.glimpse roomId (LogicShard.handleJoinRoom codec ω s task) =
      (s.rooms.lookup roomId, []) := by
  unfold LogicShard.handleJoinRoom
  rw [hparse]
  exact glimpse_still rfl (about_reply _ _ rfl)

omit [Scalar F] in
/-- What a request to join the room does to it. -/
theorem handleJoinRoom_there (hs : WellIndexed s) (ht : WellIndexed t)
    (hroom : s.rooms.lookup roomId = t.rooms.lookup roomId) (codec : Codec B F) (ω : Orders)
    {task : LogicTask B} {envelope : GateToGameEnvelope B}
    (hparse : LogicShard.parseRequest codec codec.joinRoomReq task = some (envelope, roomId)) :
    LogicShard.glimpse roomId (LogicShard.handleJoinRoom codec ω s task) =
      LogicShard.glimpse roomId (LogicShard.handleJoinRoom codec ω t task) := by
  have hleft : LogicShard.glimpse roomId (LogicShard.leaveForJoin ω s task.uid roomId) = _ :=
    leaveForJoin_there hs ω task.uid
  have hleft' : LogicShard.glimpse roomId (LogicShard.leaveForJoin ω t task.uid roomId) = _ :=
    leaveForJoin_there ht ω task.uid
  unfold LogicShard.handleJoinRoom
  rw [hparse]
  dsimp only
  generalize LogicShard.leaveForJoin ω s task.uid roomId = left at hleft
  generalize LogicShard.leaveForJoin ω t task.uid roomId = left' at hleft'
  injection hleft with hkept hquiet
  injection hleft' with hkept' hquiet'
  have hboth := hkept.trans (hroom.trans hkept'.symm)
  rw [← hboth]
  cases hr : left.1.rooms.lookup roomId with
  | none =>
      apply glimpse_same hboth
      rw [about_append, about_append, hquiet, hquiet', about_reply _ _ rfl, about_reply _ _ rfl]
  | some r =>
      dsimp only
      cases hadd : r.addPlayer task.uid with
      | none =>
          apply glimpse_same hboth
          rw [about_append, about_append, hquiet, hquiet', about_reply _ _ rfl,
            about_reply _ _ rfl]
      | some added =>
          dsimp only
          apply glimpse_same
          · unfold LogicShard.seat
            rw [AList.lookup_insert, AList.lookup_insert]
          · rw [about_append, about_append, about_append, about_append, hquiet, hquiet',
              about_reply _ _ rfl, about_reply _ _ rfl,
              about_broadcastRoomState left.1.uidRoute left'.1.uidRoute]

theorem handleJoinRoom_same (hs : WellIndexed s) (ht : WellIndexed t)
    (hroom : s.rooms.lookup roomId = t.rooms.lookup roomId) (codec : Codec B F) (ω : Orders)
    (task : LogicTask B) :
    LogicShard.glimpse roomId (LogicShard.handleJoinRoom codec ω s task) =
      LogicShard.glimpse roomId (LogicShard.handleJoinRoom codec ω t task) := by
  cases hparse : LogicShard.parseRequest codec codec.joinRoomReq task with
  | none =>
      rw [handleJoinRoom_refused codec ω hparse, handleJoinRoom_refused codec ω hparse, hroom]
  | some parsed =>
      rcases parsed with ⟨envelope, k⟩
      by_cases hk : k = roomId
      · subst hk
        exact handleJoinRoom_there hs ht hroom codec ω hparse
      · rw [handleJoinRoom_away hs codec ω hparse hk, handleJoinRoom_away ht codec ω hparse hk]
        exact leaveRoomInternal_same hs ht hroom ω task.uid

omit [Scalar F] in
theorem requestedRoomId_congr {uid : Nat}
    (h : s.uidToRoom.lookup uid = t.uidToRoom.lookup uid) (envelope : GateToGameEnvelope B)
    (asked : Nat) :
    s.requestedRoomId envelope uid asked = t.requestedRoomId envelope uid asked := by
  unfold LogicShard.requestedRoomId LogicShard.resolveRoomId
  rw [h]

omit [Scalar F] in
/-- Who is not a player of the room is not in it. -/
theorem WellIndexed.stranger (hs : WellIndexed s) {uid : Nat}
    (hother : s.uidToRoom.lookup uid ≠ some roomId) {r : DungeonRoom F}
    (hr : s.rooms.lookup roomId = some r) : uid ∉ r.players :=
  fun huid => hother ((hs.member hr uid).mp huid)

omit [Scalar F] in
/--
A handler that does nothing to the room for strangers does the same to it in two shards, if it
does so for the players of the room, who are indexed alike.
-/
theorem glimpse_of_players (handler : LogicShard F -> LogicShard F × List (ShardEvent F))
    {uid : Nat} (hs : WellIndexed s) (ht : WellIndexed t)
    (hroom : s.rooms.lookup roomId = t.rooms.lookup roomId)
    (hstranger : forall u, WellIndexed u -> u.uidToRoom.lookup uid ≠ some roomId ->
      LogicShard.glimpse roomId (handler u) = (u.rooms.lookup roomId, []))
    (hplayer : s.uidToRoom.lookup uid = t.uidToRoom.lookup uid ->
      LogicShard.glimpse roomId (handler s) = LogicShard.glimpse roomId (handler t)) :
    LogicShard.glimpse roomId (handler s) = LogicShard.glimpse roomId (handler t) := by
  by_cases hidx : s.uidToRoom.lookup uid = some roomId
  · exact hplayer (hidx.trans ((hs.index_same ht hroom uid).mp hidx).symm)
  · have hidx' := fun h => hidx ((hs.index_same ht hroom uid).mpr h)
    rw [hstranger s hs hidx, hstranger t ht hidx', hroom]

omit [Scalar F] in
theorem handleLeaveRoom_away (hs : WellIndexed s) (codec : Codec B F) (ω : Orders)
    {task : LogicTask B} {envelope : GateToGameEnvelope B} {asked : Nat}
    (hparse : LogicShard.parseRequest codec codec.leaveRoomReq task = some (envelope, asked))
    (hother : s.requestedRoomId envelope task.uid asked ≠ roomId) :
    LogicShard.glimpse roomId (LogicShard.handleLeaveRoom codec ω s task) =
      (s.rooms.lookup roomId, []) := by
  unfold LogicShard.handleLeaveRoom
  rw [hparse]
  dsimp only
  split
  · rfl
  · rename_i room hroom
    split
    · exact glimpse_still (AList.lookup_insert_ne fun heq => hother heq.symm) rfl
    · exact settleDeparture_other ω _ _ (hs.ids _ room hroom).left hother

omit [Scalar F] in
theorem handleLeaveRoom_other (hs : WellIndexed s) (codec : Codec B F) (ω : Orders)
    {task : LogicTask B} (hother : s.uidToRoom.lookup task.uid ≠ some roomId) :
    LogicShard.glimpse roomId (LogicShard.handleLeaveRoom codec ω s task) =
      (s.rooms.lookup roomId, []) := by
  cases hparse : LogicShard.parseRequest codec codec.leaveRoomReq task with
  | none =>
      unfold LogicShard.handleLeaveRoom
      rw [hparse]
      rfl
  | some parsed =>
      rcases parsed with ⟨envelope, asked⟩
      by_cases hk : s.requestedRoomId envelope task.uid asked = roomId
      · unfold LogicShard.handleLeaveRoom
        rw [hparse]
        dsimp only
        rw [hk]
        cases hr : s.rooms.lookup roomId with
        | none => exact Prod.ext hr rfl
        | some r =>
            have hnew := hs.stranger hother hr
            have hgone : (r.removePlayer task.uid).2 = false := by
              simp [DungeonRoom.removePlayer, DungeonRoom.hasPlayer,
                AList.lookup_eq_none.mpr hnew]
            dsimp only
            rw [hgone, removePlayer_stranger (hs.shapes roomId r hr) hnew]
            exact Prod.ext (AList.lookup_insert s.rooms) rfl
      · exact handleLeaveRoom_away hs codec ω hparse hk

omit [Scalar F] in
theorem handleLeaveRoom_same (hs : WellIndexed s) (ht : WellIndexed t)
    (hroom : s.rooms.lookup roomId = t.rooms.lookup roomId) (codec : Codec B F) (ω : Orders)
    (task : LogicTask B) :
    LogicShard.glimpse roomId (LogicShard.handleLeaveRoom codec ω s task) =
      LogicShard.glimpse roomId (LogicShard.handleLeaveRoom codec ω t task) := by
  apply glimpse_of_players (fun u => LogicShard.handleLeaveRoom codec ω u task)
    hs ht hroom (fun u hu => handleLeaveRoom_other hu codec ω)
  intro halike
  cases hparse : LogicShard.parseRequest codec codec.leaveRoomReq task with
  | none =>
      unfold LogicShard.handleLeaveRoom
      rw [hparse]
      exact Prod.ext hroom rfl
  | some parsed =>
      rcases parsed with ⟨envelope, asked⟩
      have hasked := requestedRoomId_congr halike envelope asked
      by_cases hk : s.requestedRoomId envelope task.uid asked = roomId
      · unfold LogicShard.handleLeaveRoom
        rw [hparse]
        dsimp only
        rw [← hasked, hk, ← hroom]
        cases hr : s.rooms.lookup roomId with
        | none => exact Prod.ext hroom rfl
        | some r =>
            dsimp only
            split
            · exact glimpse_put s t _ rfl
            · exact settleDeparture_same ω _ _ _ _
      · rw [handleLeaveRoom_away hs codec ω hparse hk,
          handleLeaveRoom_away ht codec ω hparse (hasked ▸ hk), hroom]

theorem handlePlayerReady_away (hs : WellIndexed s) (codec : Codec B F) (ω : Orders)
    {task : LogicTask B} {envelope : GateToGameEnvelope B} {req : PlayerReadyReq}
    (hparse : LogicShard.parseRequest codec codec.playerReadyReq task = some (envelope, req))
    (hother : s.requestedRoomId envelope task.uid req.roomId ≠ roomId) :
    LogicShard.glimpse roomId (LogicShard.handlePlayerReady codec ω s task) =
      (s.rooms.lookup roomId, []) := by
  have hne : roomId ≠ s.requestedRoomId envelope task.uid req.roomId :=
    fun heq => hother heq.symm
  unfold LogicShard.handlePlayerReady
  rw [hparse]
  dsimp only
  split
  · rfl
  · rename_i room hroom
    split
    · rfl
    · rename_i readied hready
      have hfacts : readied.roomId = room.roomId ∧ DungeonRoom.Keyed readied := by
        rcases DungeonRoom.setReady_cases hready with ⟨player, _, rfl⟩
        exact ⟨rfl, (hs.shapes _ room hroom).keyed.congr rfl rfl rfl rfl rfl⟩
      have hid : readied.roomId ≠ roomId := by
        rw [hfacts.left, (hs.ids _ room hroom).left]
        exact hother
      split
      · apply glimpse_still (AList.lookup_insert_ne hne)
        rw [about_append, about_among broadcastRoomState_among hid,
          about_among (startGame_among _ _ hfacts.right) hid]
        rfl
      · exact glimpse_still (AList.lookup_insert_ne hne)
          (about_among broadcastRoomState_among hid)

theorem handlePlayerReady_other (hs : WellIndexed s) (codec : Codec B F) (ω : Orders)
    {task : LogicTask B} (hother : s.uidToRoom.lookup task.uid ≠ some roomId) :
    LogicShard.glimpse roomId (LogicShard.handlePlayerReady codec ω s task) =
      (s.rooms.lookup roomId, []) := by
  cases hparse : LogicShard.parseRequest codec codec.playerReadyReq task with
  | none =>
      unfold LogicShard.handlePlayerReady
      rw [hparse]
      rfl
  | some parsed =>
      rcases parsed with ⟨envelope, req⟩
      by_cases hk : s.requestedRoomId envelope task.uid req.roomId = roomId
      · unfold LogicShard.handlePlayerReady
        rw [hparse]
        dsimp only
        rw [hk]
        cases hr : s.rooms.lookup roomId with
        | none => exact Prod.ext hr rfl
        | some r =>
            have hnone : r.setReady task.uid req.ready = none := by
              unfold DungeonRoom.setReady
              rw [AList.lookup_eq_none.mpr (hs.stranger hother hr)]
            dsimp only
            rw [hnone]
            exact Prod.ext hr rfl
      · exact handlePlayerReady_away hs codec ω hparse hk

theorem handlePlayerReady_same (hs : WellIndexed s) (ht : WellIndexed t)
    (hroom : s.rooms.lookup roomId = t.rooms.lookup roomId) (codec : Codec B F) (ω : Orders)
    (task : LogicTask B) :
    LogicShard.glimpse roomId (LogicShard.handlePlayerReady codec ω s task) =
      LogicShard.glimpse roomId (LogicShard.handlePlayerReady codec ω t task) := by
  apply glimpse_of_players (fun u => LogicShard.handlePlayerReady codec ω u task)
    hs ht hroom (fun u hu => handlePlayerReady_other hu codec ω)
  intro halike
  cases hparse : LogicShard.parseRequest codec codec.playerReadyReq task with
  | none =>
      unfold LogicShard.handlePlayerReady
      rw [hparse]
      exact Prod.ext hroom rfl
  | some parsed =>
      rcases parsed with ⟨envelope, req⟩
      have hasked := requestedRoomId_congr halike envelope req.roomId
      by_cases hk : s.requestedRoomId envelope task.uid req.roomId = roomId
      · unfold LogicShard.handlePlayerReady
        rw [hparse]
        dsimp only
        rw [← hasked, hk, ← hroom]
        cases hr : s.rooms.lookup roomId with
        | none => exact glimpse_same hroom rfl
        | some r =>
            dsimp only
            cases r.setReady task.uid req.ready with
            | none => exact glimpse_same hroom rfl
            | some readied =>
                dsimp only
                split
                · refine glimpse_put s t _ ?_
                  rw [about_append, about_append,
                    about_broadcastRoomState s.uidRoute t.uidRoute,
                    about_startGame s.uidRoute t.uidRoute]
                · exact glimpse_put s t _ (about_broadcastRoomState _ _ _ _)
      · rw [handlePlayerReady_away hs codec ω hparse hk,
          handlePlayerReady_away ht codec ω hparse (hasked ▸ hk), hroom]

omit [Scalar F] in
/-- Whatever is answered to who asks to enter the battle, the room does not notice it. -/
theorem handleEnterBattle_glimpse (codec : Codec B F) (task : LogicTask B) :
    LogicShard.glimpse roomId (LogicShard.handleEnterBattle codec s task) =
      (s.rooms.lookup roomId, []) := by
  unfold LogicShard.handleEnterBattle
  split
  · exact glimpse_still rfl (about_reply _ _ rfl)
  · dsimp only
    split
    · exact glimpse_still rfl (about_reply _ _ rfl)
    · split
      · exact glimpse_still rfl (about_reply _ _ rfl)
      · exact glimpse_still rfl (about_reply _ _ rfl)

/-- A command is not for the room, or its sender is not in it. -/
theorem handlePlayerCommand_still (codec : Codec B F) {task : LogicTask B}
    (hother : forall envelope, codec.envelope task.body = some envelope ->
      LogicShard.resolveRoomId envelope s.uidToRoom task.uid = roomId ->
        forall r, s.rooms.lookup roomId = some r -> task.uid ∉ r.players) :
    LogicShard.glimpse roomId (LogicShard.handlePlayerCommand codec s task) =
      (s.rooms.lookup roomId, []) := by
  unfold LogicShard.handlePlayerCommand
  split
  · exact glimpse_still rfl (about_reply _ _ rfl)
  · rename_i envelope hparse
    dsimp only
    split
    · exact glimpse_still rfl (about_reply _ _ rfl)
    · split
      · exact glimpse_still rfl (about_reply _ _ rfl)
      · rename_i room hroom
        split
        · exact glimpse_still rfl (about_reply _ _ rfl)
        · rename_i hplayer
          split
          · exact glimpse_still rfl (about_reply _ _ rfl)
          · split
            · exact glimpse_still rfl (about_reply _ _ rfl)
            · rfl
            · refine glimpse_still (AList.lookup_insert_ne ?_) rfl
              intro heq
              rw [← heq] at hroom
              refine hother envelope hparse heq.symm room hroom ?_
              rw [Table.mem_iff_lookup, ← Option.isSome_iff_exists]
              change room.hasPlayer task.uid = true
              cases hthere : room.hasPlayer task.uid with
              | true => rfl
              | false => exact absurd (by rw [hthere]; rfl) hplayer

theorem handlePlayerCommand_other (hs : WellIndexed s) (codec : Codec B F)
    {task : LogicTask B} (hother : s.uidToRoom.lookup task.uid ≠ some roomId) :
    LogicShard.glimpse roomId (LogicShard.handlePlayerCommand codec s task) =
      (s.rooms.lookup roomId, []) :=
  handlePlayerCommand_still codec fun _ _ _ _ hr => hs.stranger hother hr

theorem handlePlayerCommand_same (hs : WellIndexed s) (ht : WellIndexed t)
    (hroom : s.rooms.lookup roomId = t.rooms.lookup roomId) (codec : Codec B F)
    (task : LogicTask B) :
    LogicShard.glimpse roomId (LogicShard.handlePlayerCommand codec s task) =
      LogicShard.glimpse roomId (LogicShard.handlePlayerCommand codec t task) := by
  apply glimpse_of_players (fun u => LogicShard.handlePlayerCommand codec u task)
    hs ht hroom (fun u hu => handlePlayerCommand_other hu codec)
  intro halike
  cases hparse : codec.envelope task.body with
  | none =>
      unfold LogicShard.handlePlayerCommand
      rw [hparse]
      exact glimpse_same hroom (about_rejected _ _ _ _ _ _ _)
  | some envelope =>
      have hresolved : LogicShard.resolveRoomId envelope s.uidToRoom task.uid =
          LogicShard.resolveRoomId envelope t.uidToRoom task.uid := by
        unfold LogicShard.resolveRoomId
        rw [halike]
      by_cases hk : LogicShard.resolveRoomId envelope s.uidToRoom task.uid = roomId
      · unfold LogicShard.handlePlayerCommand
        rw [hparse]
        dsimp only
        rw [← hresolved, hk, ← hroom]
        have hreply : forall events events' : List (ShardEvent F),
            told ShardEvent.about roomId events = told ShardEvent.about roomId events' ->
            LogicShard.glimpse roomId (s, events) = LogicShard.glimpse roomId (t, events') :=
          fun _ _ => glimpse_same hroom
        split
        · exact hreply _ _ (about_rejected _ _ _ _ _ _ _)
        · split
          · exact hreply _ _ (about_rejected _ _ _ _ _ _ _)
          · split
            · exact hreply _ _ (about_rejected _ _ _ _ _ _ _)
            · split
              · exact hreply _ _ (about_rejected _ _ _ _ _ _ _)
              · split
                · exact hreply _ _ (about_rejected _ _ _ _ _ _ _)
                · exact hreply _ _ rfl
                · exact glimpse_put s t _ rfl
      · rw [handlePlayerCommand_still codec, handlePlayerCommand_still codec, hroom]
        · intro other hother heq
          cases hparse.symm.trans hother
          exact absurd (hresolved.trans heq) hk
        · intro other hother heq
          cases hparse.symm.trans hother
          exact absurd heq hk

/-- A notice about a player who is not in the room. -/
theorem handleClientDisconnected_other (hs : WellIndexed s) (codec : Codec B F) (ω : Orders)
    {task : LogicTask B}
    (hother : forall uid, codec.disconnectedUid task.body = some uid ->
      s.uidToRoom.lookup uid ≠ some roomId) :
    LogicShard.glimpse roomId (LogicShard.handleClientDisconnected codec ω s task) =
      (s.rooms.lookup roomId, []) := by
  unfold LogicShard.handleClientDisconnected
  cases hparse : codec.disconnectedUid task.body with
  | none => rfl
  | some uid =>
      dsimp only
      split
      · rfl
      · exact leaveRoomInternal_other
          ((ShardMove.route (p := Policy.free) (s.uidRoute.erase uid)).wellIndexed hs) ω
          (hother uid hparse)

theorem handleClientDisconnected_same (hs : WellIndexed s) (ht : WellIndexed t)
    (hroom : s.rooms.lookup roomId = t.rooms.lookup roomId) (codec : Codec B F) (ω : Orders)
    (task : LogicTask B) :
    LogicShard.glimpse roomId (LogicShard.handleClientDisconnected codec ω s task) =
      LogicShard.glimpse roomId (LogicShard.handleClientDisconnected codec ω t task) := by
  unfold LogicShard.handleClientDisconnected
  split
  · exact glimpse_same hroom rfl
  · rename_i uid _
    split
    · exact glimpse_same hroom rfl
    · exact leaveRoomInternal_same
        ((ShardMove.route (p := Policy.free) (s.uidRoute.erase uid)).wellIndexed hs)
        ((ShardMove.route (p := Policy.free) (t.uidRoute.erase uid)).wellIndexed ht) hroom ω uid

/-- A task that does not concern the room. -/
theorem dispatch_apart (hs : WellIndexed s) (hborn : roomId < s.nextId) (codec : Codec B F)
    (ω : Orders) {task : LogicTask B}
    (hplayer : s.uidToRoom.lookup task.uid ≠ some roomId)
    (hjoin : task.msgId = MsgId.joinRoomReq -> forall envelope k,
      LogicShard.parseRequest codec codec.joinRoomReq task = some (envelope, k) -> k ≠ roomId)
    (hgone : task.msgId = MsgId.clientDisconnectedNtf -> forall uid,
      codec.disconnectedUid task.body = some uid -> s.uidToRoom.lookup uid ≠ some roomId) :
    LogicShard.glimpse roomId (LogicShard.dispatch codec ω s task) =
      (s.rooms.lookup roomId, []) := by
  unfold LogicShard.dispatch
  split
  · cases hparse : LogicShard.parseRequest codec codec.createRoomReq task with
    | none => exact handleCreateRoom_refused codec ω hparse
    | some parsed =>
        rw [handleCreateRoom_glimpse hs hborn codec ω hparse]
        exact leaveRoomInternal_other hs ω hplayer
  · rename_i hmsg
    cases hparse : LogicShard.parseRequest codec codec.joinRoomReq task with
    | none => exact handleJoinRoom_refused codec ω hparse
    | some parsed =>
        rw [handleJoinRoom_away hs codec ω hparse (hjoin hmsg _ _ hparse)]
        exact leaveRoomInternal_other hs ω hplayer
  · exact handleLeaveRoom_other hs codec ω hplayer
  · exact handlePlayerReady_other hs codec ω hplayer
  · exact handleEnterBattle_glimpse codec task
  · rename_i hmsg
    exact handleClientDisconnected_other hs codec ω (hgone hmsg)
  · rfl
  · rfl
  · rfl
  · exact handlePlayerCommand_other hs codec hplayer

/-- Whatever a task does to the room, it does so wherever the room is. -/
theorem dispatch_same (hs : WellIndexed s) (ht : WellIndexed t) (hborn : roomId < s.nextId)
    (hborn' : roomId < t.nextId) (hroom : s.rooms.lookup roomId = t.rooms.lookup roomId)
    (codec : Codec B F) (ω : Orders) (task : LogicTask B) :
    LogicShard.glimpse roomId (LogicShard.dispatch codec ω s task) =
      LogicShard.glimpse roomId (LogicShard.dispatch codec ω t task) := by
  unfold LogicShard.dispatch
  split
  · cases hparse : LogicShard.parseRequest codec codec.createRoomReq task with
    | none =>
        rw [handleCreateRoom_refused codec ω hparse, handleCreateRoom_refused codec ω hparse,
          hroom]
    | some parsed =>
        rw [handleCreateRoom_glimpse hs hborn codec ω hparse,
          handleCreateRoom_glimpse ht hborn' codec ω hparse]
        exact leaveRoomInternal_same hs ht hroom ω task.uid
  · exact handleJoinRoom_same hs ht hroom codec ω task
  · exact handleLeaveRoom_same hs ht hroom codec ω task
  · exact handlePlayerReady_same hs ht hroom codec ω task
  · rw [handleEnterBattle_glimpse, handleEnterBattle_glimpse, hroom]
  · exact handleClientDisconnected_same hs ht hroom codec ω task
  · exact glimpse_same hroom rfl
  · exact glimpse_same hroom rfl
  · exact glimpse_same hroom rfl
  · exact handlePlayerCommand_same hs ht hroom codec task

end Tasks

/-!
## Ticks
-/

section Ticks

variable [Scalar F] {s t : LogicShard F} {roomId : Nat}

/-- What a tick says about a room. -/
def LogicShard.turnNews (ω : Orders) (s : LogicShard F) (roomId : Nat) :
    List (List Nat × ServerMsg F × Nat) :=
  match s.rooms.lookup roomId with
  | none => []
  | some r =>
      if LogicShard.isActive r then
        told ShardEvent.about roomId (tickRoom s.uidRoute (ω.room roomId) roomId r).2
      else []

theorem tickOne_about (ω : Orders) (acc : LogicShard F × List (ShardEvent F)) {k : Nat}
    (hrooms : forall r, acc.1.rooms.lookup k = some r ->
      r.roomId = k ∧ DungeonRoom.Keyed r) :
    told ShardEvent.about roomId (LogicShard.tickOne ω acc k).2 =
      told ShardEvent.about roomId acc.2 ++
        if roomId = k then LogicShard.turnNews ω acc.1 roomId else [] := by
  unfold LogicShard.tickOne LogicShard.turnNews
  cases hr : acc.1.rooms.lookup k with
  | none =>
      by_cases hk : roomId = k
      · subst hk
        simp [hr]
      · simp [hk]
  | some r =>
      rcases hrooms r hr with ⟨hid, hkeyed⟩
      dsimp only
      by_cases hk : roomId = k
      · subst hk
        rw [if_pos rfl, hr]
        dsimp only
        split
        · exact about_append _ _
        · exact (List.append_nil _).symm
      · have hsilent : told ShardEvent.about roomId
            (tickRoom acc.1.uidRoute (ω.room k) k r).2 = [] :=
          about_among (tickRoom_among acc.1.uidRoute (ω.room k) k hkeyed)
            fun heq => hk (heq ▸ hid)
        rw [if_neg hk, List.append_nil]
        split
        · rw [about_append, hsilent, List.append_nil]
        · rfl

theorem tickLoop_about (ω : Orders) (ids : List Nat) (hnodup : ids.Nodup)
    (acc : LogicShard F × List (ShardEvent F))
    (hrooms : forall id, id ∈ ids -> forall r, acc.1.rooms.lookup id = some r ->
      r.roomId = id ∧ DungeonRoom.Keyed r) :
    told ShardEvent.about roomId (ids.foldl (LogicShard.tickOne ω) acc).2 =
      told ShardEvent.about roomId acc.2 ++
        if roomId ∈ ids then LogicShard.turnNews ω acc.1 roomId else [] := by
  induction ids generalizing acc with
  | nil => simp
  | cons k rest ih =>
      rcases List.nodup_cons.mp hnodup with ⟨hnew, hrest⟩
      have hlookup : forall id, id ≠ k ->
          (LogicShard.tickOne ω acc k).1.rooms.lookup id = acc.1.rooms.lookup id := by
        intro id hne
        rw [LogicShard.tickOne_lookup, if_neg hne]
      have hlater := ih hrest (LogicShard.tickOne ω acc k) (by
        intro id hid r hr
        rw [hlookup id fun heq => hnew (heq ▸ hid)] at hr
        exact hrooms id (List.mem_cons_of_mem _ hid) r hr)
      rw [List.foldl_cons, hlater, tickOne_about ω acc (hrooms k List.mem_cons_self)]
      by_cases hk : roomId = k
      · simp [hk, hnew]
      · have hsame : LogicShard.turnNews ω (LogicShard.tickOne ω acc k).1 roomId =
            LogicShard.turnNews ω acc.1 roomId := by
          unfold LogicShard.turnNews
          rw [hlookup roomId hk, LogicShard.tickOne_uidRoute]
        simp [hk, hsame]

theorem tickRooms_glimpse (hs : WellIndexed s) (ω : Orders) :
    LogicShard.glimpse roomId (LogicShard.tickRooms ω s) =
      ((s.rooms.lookup roomId).map (LogicShard.ticked s.uidRoute ω roomId),
        LogicShard.turnNews ω s roomId) := by
  refine Prod.ext (LogicShard.tickRooms_lookup ω s roomId) ?_
  refine (tickLoop_about ω (ω.rooms.visit s.rooms) (ω.rooms.visit_nodup s.rooms) (s, [])
    fun id _ r hr => ⟨(hs.ids id r hr).left, (hs.shapes id r hr).keyed⟩).trans ?_
  split
  · rfl
  · rename_i hk
    rw [IterOrder.mem_visit, ← AList.lookup_eq_none] at hk
    unfold LogicShard.turnNews
    rw [hk]
    rfl

theorem tickRooms_same (hs : WellIndexed s) (ht : WellIndexed t)
    (hroom : s.rooms.lookup roomId = t.rooms.lookup roomId) (ω : Orders) :
    LogicShard.glimpse roomId (LogicShard.tickRooms ω s) =
      LogicShard.glimpse roomId (LogicShard.tickRooms ω t) := by
  rw [tickRooms_glimpse hs, tickRooms_glimpse ht]
  unfold LogicShard.turnNews LogicShard.ticked
  rw [← hroom]
  cases s.rooms.lookup roomId with
  | none => rfl
  | some r =>
      dsimp only [Option.map_some]
      rw [about_tickRoom s.uidRoute t.uidRoute, tickRoom_routes s.uidRoute t.uidRoute]

end Ticks

/-!
## Runs
-/

section Runs

variable [Scalar F] {s : LogicShard F} {roomId : Nat}

/-- The index is right, and the id of the room has been given away. -/
structure Born (roomId : Nat) (s : LogicShard F) : Prop where
  indexed : WellIndexed s
  given : roomId < s.nextId

theorem ShardMove.nextId_le {p : Policy F} {s s' : LogicShard F}
    {events : List (ShardEvent F)} (hindexed : WellIndexed s)
    (hmove : ShardMove p s events s') : s.nextId ≤ s'.nextId := by
  cases hmove with
  | create roomName maxPlayers _ _ => exact Nat.le_of_succ_le hindexed.nextId_le
  | _ => exact Nat.le_refl _

theorem Born.handle (h : Born roomId s) (codec : Codec B F)
    (input : LogicShard.ShardInput B) : Born roomId (LogicShard.handle codec s input).1 := by
  refine Moves.preserves (Born roomId) ?_
    (h.indexed.handle codec input Policy.free_respected) h
  intro s events s' hs hmove
  exact ⟨hmove.wellIndexed hs.indexed,
    Nat.lt_of_lt_of_le hs.given (hmove.nextId_le hs.indexed)⟩

/-- An input that does not concern the room. -/
theorem Born.apart (h : Born roomId s) (codec : Codec B F) (input : LogicShard.ShardInput B)
    (hother : LogicShard.concerns codec roomId s input = false) :
    LogicShard.glimpse roomId (LogicShard.handle codec s input) =
      (s.rooms.lookup roomId, []) := by
  cases input with
  | tick ω => cases hother
  | task task ω =>
      unfold LogicShard.concerns at hother
      simp only [Bool.or_eq_false_iff, beq_eq_false_iff_ne, Bool.and_eq_false_imp, beq_iff_eq,
        Option.any_eq_false] at hother
      rcases hother with ⟨⟨hplayer, hjoin⟩, hgone⟩
      change LogicShard.glimpse roomId (LogicShard.handleTask codec ω s task) = _
      unfold LogicShard.handleTask
      have hasked : task.msgId = MsgId.joinRoomReq -> forall envelope k,
          LogicShard.parseRequest codec codec.joinRoomReq task = some (envelope, k) ->
            k ≠ roomId :=
        fun hmsg envelope k hparse => hjoin hmsg (envelope, k) hparse
      split
      · exact dispatch_apart
          ((ShardMove.route (p := Policy.free)
            (s.uidRoute.insert task.uid task.origin)).wellIndexed h.indexed)
          h.given codec ω hplayer hasked hgone
      · exact dispatch_apart h.indexed h.given codec ω hplayer hasked hgone

theorem Born.same {t : LogicShard F} (h : Born roomId s) (h' : Born roomId t)
    (hroom : s.rooms.lookup roomId = t.rooms.lookup roomId) (codec : Codec B F)
    (input : LogicShard.ShardInput B) :
    LogicShard.glimpse roomId (LogicShard.handle codec s input) =
      LogicShard.glimpse roomId (LogicShard.handle codec t input) := by
  cases input with
  | tick ω => exact tickRooms_same h.indexed h'.indexed hroom ω
  | task task ω =>
      change LogicShard.glimpse roomId (LogicShard.handleTask codec ω s task) =
        LogicShard.glimpse roomId (LogicShard.handleTask codec ω t task)
      unfold LogicShard.handleTask
      split
      · exact dispatch_same
          ((ShardMove.route (p := Policy.free)
            (s.uidRoute.insert task.uid task.origin)).wellIndexed h.indexed)
          ((ShardMove.route (p := Policy.free)
            (t.uidRoute.insert task.uid task.origin)).wellIndexed h'.indexed)
          h.given h'.given hroom codec ω task
      · exact dispatch_same h.indexed h'.indexed h.given h'.given hroom codec ω task

/-- A room is a compartment of its shard. -/
theorem room_compartment (codec : Codec B F) (roomId : Nat) :
    Compartment (LogicShard.handle codec) (Born roomId)
      (fun s t => s.rooms.lookup roomId = t.rooms.lookup roomId)
      (LogicShard.concerns codec roomId) (ShardEvent.about roomId) where
  equiv := ⟨fun _ => rfl, fun h => h.symm, fun h h' => h.trans h'⟩
  kept := fun _ input h => h.handle codec input
  decided := by
    intro s t input hs ht hroom
    cases input with
    | tick ω => rfl
    | task task ω =>
        unfold LogicShard.concerns
        have hindex : forall uid, (s.uidToRoom.lookup uid == some roomId) =
            (t.uidToRoom.lookup uid == some roomId) := by
          intro uid
          rw [Bool.eq_iff_iff, beq_iff_eq, beq_iff_eq]
          exact hs.indexed.index_same ht.indexed hroom uid
        simp only [hindex]
  apart := by
    intro s input hs hother
    have hstill := hs.apart codec input hother
    exact ⟨congrArg Prod.fst hstill, congrArg Prod.snd hstill⟩
  within := by
    intro s t input hs ht hroom _
    have hsame := hs.same ht hroom codec input
    exact ⟨congrArg Prod.fst hsame, congrArg Prod.snd hsame⟩

theorem run_born (codec : Codec B F) (shardId shardCount : Nat)
    (inputs : List (LogicShard.ShardInput B))
    (hgiven : roomId < (LogicShard.run codec shardId shardCount inputs).1.nextId) :
    Born roomId (LogicShard.run codec shardId shardCount inputs).1 :=
  ⟨run_wellIndexed codec shardId shardCount inputs, hgiven⟩

/--
Take two shards after any two runs, with a room that is in both and looks the same.  Let them
go on in two ways in which the same inputs concern the room, its players' tasks, the requests
to join it and the ticks, whatever else is asked of the shards in between and however many
other games there are.  Then the room looks the same in the end, and the same was said about
it to the same players in the same order.
-/
theorem run_isolated (codec : Codec B F) (shardId shardCount shardId' shardCount' roomId : Nat)
    (before before' inputs inputs' : List (LogicShard.ShardInput B)) :
    let s := (LogicShard.run codec shardId shardCount before).1
    let s' := (LogicShard.run codec shardId' shardCount' before').1
    let result := runMachine (LogicShard.handle codec) s inputs
    let result' := runMachine (LogicShard.handle codec) s' inputs'
    roomId < s.nextId -> roomId < s'.nextId ->
    s.rooms.lookup roomId = s'.rooms.lookup roomId ->
    concerning (LogicShard.handle codec) (LogicShard.concerns codec roomId) s inputs =
      concerning (LogicShard.handle codec) (LogicShard.concerns codec roomId) s' inputs' ->
    result.1.rooms.lookup roomId = result'.1.rooms.lookup roomId ∧
      told ShardEvent.about roomId result.2 = told ShardEvent.about roomId result'.2 := by
  intro s s' result result' hgiven hgiven' hroom hsame
  exact (room_compartment codec roomId).runs_agree
    (run_born codec shardId shardCount before hgiven)
    (run_born codec shardId' shardCount' before' hgiven') hroom hsame

end Runs

/-- A player opens a room. -/
def opensOne : List (LogicShard.ShardInput (Wire Rat)) :=
  [LogicShard.asks MsgId.createRoomReq 1 (Wire.createRoom ⟨"", 2⟩)]

/-- A second player joins, with nobody else on the shard. -/
def fillsOne : List (LogicShard.ShardInput (Wire Rat)) :=
  [LogicShard.asks MsgId.joinRoomReq 2 (Wire.joinRoom 1)]

/-- The same while others open a room, fill it and try to leave the first one. -/
def fillsTwo : List (LogicShard.ShardInput (Wire Rat)) :=
  [LogicShard.asks MsgId.createRoomReq 9 (Wire.createRoom ⟨"", 2⟩),
    LogicShard.asks MsgId.joinRoomReq 5 (Wire.joinRoom 2),
    LogicShard.asks MsgId.joinRoomReq 2 (Wire.joinRoom 1),
    LogicShard.asks MsgId.leaveRoomReq 9 (Wire.leaveRoom 1)]

theorem fillsTwo_isolated :
    let s := (LogicShard.run Wire.codec 0 1 opensOne).1
    told ShardEvent.about 1 (runMachine (LogicShard.handle Wire.codec) s fillsOne).2 =
      told ShardEvent.about 1 (runMachine (LogicShard.handle Wire.codec) s fillsTwo).2 := by
  refine (run_isolated Wire.codec 0 1 0 1 1 opensOne opensOne fillsOne fillsTwo
    (by decide +kernel) (by decide +kernel) rfl ?_).right
  unfold fillsOne fillsTwo
  rw [concerning_pos (by decide +kernel), concerning_neg (by decide +kernel),
    concerning_neg (by decide +kernel), concerning_pos (by decide +kernel),
    concerning_neg (by decide +kernel)]
  rfl

end RtsGame
