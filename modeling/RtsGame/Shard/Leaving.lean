import RtsGame.Shard.RoomRules
import RtsGame.Shard.Presence

/-!
# Leaving a room

A player leaves a room by a request, by joining or creating another room, or by
losing the connection.  The request looks the room up by its id and the other ways
look the player up in the index; the two agree as long as the index does.  A join
that fails has already taken the player out of another room.
-/

namespace RtsGame

variable {B F : Type} [Scalar F]

namespace LogicShard

/-!
## Room ids

A request that names room zero names no room, which no room minds.
-/

/-- No room has the id zero. -/
structure Numbered (s : LogicShard F) : Prop where
  indexed : WellIndexed s
  next : 0 < s.nextRoomId
  rooms : s.rooms.AllAt fun roomId _ => 0 < roomId

theorem Numbered.move {p : Policy F} {s s' : LogicShard F}
    {events : List (ShardEvent F)} (h : Numbered s) (hmove : ShardMove p s events s') :
    Numbered s' := by
  have hindexed := hmove.wellIndexed h.indexed
  cases hmove with
  | route routes => exact ⟨hindexed, h.next, h.rooms⟩
  | talk _ => exact h
  | create roomName maxPlayers _ _ =>
      have hpos : 0 < s.nextId := by
        have hstep := Nat.mul_pos h.indexed.count h.next
        unfold LogicShard.nextId
        omega
      exact ⟨hindexed, Nat.succ_pos _, h.rooms.insert hpos⟩
  | @enter uid roomId r _ hr _ _ =>
      exact ⟨hindexed, h.next, h.rooms.insert (h.rooms roomId r hr)⟩
  | @touch uid roomId r _ hr =>
      exact ⟨hindexed, h.next, h.rooms.insert (h.rooms roomId r hr)⟩
  | @refresh roomId r hr =>
      exact ⟨hindexed, h.next, h.rooms.insert (h.rooms roomId r hr)⟩
  | @inner roomId r r' events hr _ =>
      exact ⟨hindexed, h.next, h.rooms.insert (h.rooms roomId r hr)⟩
  | @leave uid roomId r r' events _ hr _ _ _ =>
      exact ⟨hindexed, h.next, h.rooms.insert (h.rooms roomId r hr)⟩
  | @vanish uid roomId r _ _ _ => exact ⟨hindexed, h.next, h.rooms.erase roomId⟩

theorem run_numbered (codec : Codec B F) (shardId shardCount : Nat)
    (inputs : List (ShardInput B)) : Numbered (run codec shardId shardCount inputs).1 :=
  (run_moves codec shardId shardCount inputs).preserves Numbered
    (fun _ _ _ hs hmove => hs.move hmove)
    ⟨WellIndexed.create shardId shardCount, Nat.one_pos, Table.allAt_empty _⟩

/-!
## Both ways out
-/

omit [Scalar F] in
theorem removePlayer_found {r : DungeonRoom F} {uid : Nat} (huid : uid ∈ r.players) :
    (r.removePlayer uid).2 = true := by
  obtain ⟨player, hp⟩ := Table.mem_iff_lookup.mp huid
  unfold DungeonRoom.removePlayer DungeonRoom.hasPlayer
  dsimp only
  rw [hp]
  rfl

omit [Scalar F] in
/-- The request means the room of the player. -/
theorem requestedRoomId_own {s : LogicShard F} (h : Numbered s) {uid roomId : Nat}
    {envelope : GateToGameEnvelope B} {reqRoomId : Nat} {r : DungeonRoom F}
    (hr : s.rooms.lookup roomId = some r) (huid : uid ∈ r.players)
    (hnames : reqRoomId = roomId ∨ reqRoomId = 0 ∧ envelope.roomId = 0) :
    s.requestedRoomId envelope uid reqRoomId = roomId := by
  have hpos := h.rooms roomId r hr
  have hidx := (h.indexed.member hr uid).mp huid
  unfold requestedRoomId
  cases hnames with
  | inl hroom => rw [hroom, if_neg (by omega)]
  | inr hnone =>
      rw [if_pos hnone.left, resolveRoomId, if_neg (not_not_intro hnone.right), hidx]

omit [Scalar F] in
/-- From any shard whose index is right the request does what losing the
connection does. -/
theorem Numbered.leave_paths_agree {s : LogicShard F} (h : Numbered s)
    (codec : Codec B F) (ω : Orders) (task : LogicTask B)
    {envelope : GateToGameEnvelope B} {reqRoomId roomId : Nat} {r : DungeonRoom F}
    (hparse : parseRequest codec codec.leaveRoomReq task = some (envelope, reqRoomId))
    (hr : s.rooms.lookup roomId = some r) (huid : task.uid ∈ r.players)
    (hnames : reqRoomId = roomId ∨ reqRoomId = 0 ∧ envelope.roomId = 0) :
    handleLeaveRoom codec ω s task = leaveRoomInternal ω s task.uid := by
  have hidx := (h.indexed.member hr task.uid).mp huid
  have hroom := requestedRoomId_own h hr huid hnames
  have hremoved := removePlayer_found huid
  unfold handleLeaveRoom leaveRoomInternal
  rw [hparse]
  dsimp only
  rw [hroom, hr, hidx]
  dsimp only
  rw [hr, hremoved]
  rfl

/--
In every state that a shard reaches, whatever routes it knows, a player who asks to
leave the own room leaves it exactly as by losing the connection: with the same
rooms, the same index and the same messages to the same players.
-/
theorem run_leave_paths_agree (codec : Codec B F) (shardId shardCount : Nat)
    (inputs : List (ShardInput B)) (routes : Routes) (ω : Orders) (task : LogicTask B)
    {envelope : GateToGameEnvelope B} {reqRoomId roomId : Nat} {r : DungeonRoom F}
    (hparse : parseRequest codec codec.leaveRoomReq task = some (envelope, reqRoomId))
    (hr : (run codec shardId shardCount inputs).1.rooms.lookup roomId = some r)
    (huid : task.uid ∈ r.players)
    (hnames : reqRoomId = roomId ∨ reqRoomId = 0 ∧ envelope.roomId = 0) :
    let s := { (run codec shardId shardCount inputs).1 with uidRoute := routes }
    handleLeaveRoom codec ω s task = leaveRoomInternal ω s task.uid := by
  have h := run_numbered codec shardId shardCount inputs
  have hroute : ShardMove Policy.free (run codec shardId shardCount inputs).1 []
      { (run codec shardId shardCount inputs).1 with uidRoute := routes } :=
    ShardMove.route routes
  exact (h.move hroute).leave_paths_agree codec ω task hparse hr huid hnames

/-- Two players in a running game. -/
def twoFight : List (ShardInput (Wire Rat)) :=
  [asks MsgId.createRoomReq 1 (Wire.createRoom ⟨"", 2⟩),
    asks MsgId.joinRoomReq 2 (Wire.joinRoom 1),
    asks MsgId.playerReadyReq 1 (Wire.playerReady ⟨1, true⟩),
    asks MsgId.playerReadyReq 2 (Wire.playerReady ⟨1, true⟩)]

/-- The first one asks to leave, without naming a room. -/
def firstLeaves : LogicTask (Wire Rat) :=
  Wire.task MsgId.leaveRoomReq 1 (Wire.leaveRoom 0)

theorem twoFight_leave_paths_agree :
    let s := { (run Wire.codec 0 1 twoFight).1 with
      uidRoute := (run Wire.codec 0 1 twoFight).1.uidRoute }
    handleLeaveRoom Wire.codec Orders.stored s firstLeaves =
      leaveRoomInternal Orders.stored s firstLeaves.uid := by
  have hfound : ((run Wire.codec 0 1 twoFight).1.rooms.lookup 1).any
      (fun r => isActive r && r.hasPlayer 1) = true := by
    decide +kernel
  obtain ⟨r, hr, hplayer⟩ := (Option.any_eq_true _ _).mp hfound
  rw [Bool.and_eq_true] at hplayer
  have hparse : parseRequest Wire.codec Wire.codec.leaveRoomReq firstLeaves =
      some (⟨1, 0, some MsgId.leaveRoomReq, 0, Wire.leaveRoom 0⟩, 0) := rfl
  have huid : firstLeaves.uid ∈ r.players :=
    Table.mem_iff_lookup.mpr (Option.isSome_iff_exists.mp hplayer.right)
  exact run_leave_paths_agree Wire.codec 0 1 twoFight _ Orders.stored firstLeaves hparse
    hr huid (Or.inr ⟨rfl, rfl⟩)

/-!
## Joins that fail
-/

end LogicShard

/-- The answer to a join that was not granted. -/
def ShardEvent.refusesJoin : ShardEvent F -> Bool
  | ShardEvent.sent _ _ (ServerMsg.joinRoomRsp code _ _ _) _ => decide (code ≠ ErrorCode.none)
  | _ => false

namespace LogicShard

omit [Scalar F] in
theorem broadcastRoomState_grants {routes : Routes} {ω : RoomOrders} {r : DungeonRoom F}
    {e : ShardEvent F} (he : e ∈ broadcastRoomState routes ω r) :
    e.refusesJoin = false := by
  obtain ⟨uid, _, hsent⟩ := List.mem_flatMap.mp he
  obtain ⟨targets, rfl⟩ := eq_of_mem_sendToPlayers hsent
  rfl

omit [Scalar F] in
theorem settleDeparture_grants {ω : Orders} {s : LogicShard F} {roomId : Nat}
    {active : Bool} {r : DungeonRoom F} {e : ShardEvent F}
    (he : e ∈ (settleDeparture ω s roomId active r).2) : e.refusesJoin = false := by
  unfold settleDeparture at he
  split at he
  · cases he
  · split at he
    · cases List.mem_cons.mp he with
      | inl hran => rw [hran]; rfl
      | inr hsent =>
          obtain ⟨targets, rfl⟩ := eq_of_mem_sendToPlayers hsent
          rfl
    · exact broadcastRoomState_grants he

omit [Scalar F] in
theorem leaveRoomInternal_grants {ω : Orders} {s : LogicShard F} {uid : Nat}
    {e : ShardEvent F} (he : e ∈ (leaveRoomInternal ω s uid).2) :
    e.refusesJoin = false := by
  unfold leaveRoomInternal at he
  split at he
  · cases he
  · dsimp only at he
    split at he
    · cases he
    · exact settleDeparture_grants he

omit [Scalar F] in
theorem leaveForJoin_grants {ω : Orders} {s : LogicShard F} {uid roomId : Nat}
    {e : ShardEvent F} (he : e ∈ (leaveForJoin ω s uid roomId).2) :
    e.refusesJoin = false := by
  unfold leaveForJoin at he
  split at he
  · cases he
  · split at he
    · exact leaveRoomInternal_grants he
    · cases he

/-- The room of a player, unless it is the one asked for. -/
def otherRoom (s : LogicShard F) (uid roomId : Nat) : Option Nat :=
  (s.uidToRoom.lookup uid).filter fun current => decide (current ≠ roomId)

/-- The room that a request to join first makes the player leave. -/
def leftToJoin (codec : Codec B F) (s : LogicShard F) (task : LogicTask B) : Option Nat :=
  match parseRequest codec codec.joinRoomReq task with
  | none => none
  | some (_, roomId) => s.otherRoom task.uid roomId

/-- The shard once the player has left for the sake of a join. -/
def leftBehind (ω : Orders) (s : LogicShard F) (uid : Nat) : Option Nat -> LogicShard F
  | none => s
  | some _ => (leaveRoomInternal ω s uid).1

omit [Scalar F] in
theorem leaveForJoin_fst (ω : Orders) (s : LogicShard F) (uid roomId : Nat) :
    (leaveForJoin ω s uid roomId).1 = leftBehind ω s uid (s.otherRoom uid roomId) := by
  unfold leaveForJoin otherRoom
  cases s.uidToRoom.lookup uid with
  | none => rfl
  | some current =>
      dsimp only
      by_cases hother : current ≠ roomId
      · rw [if_pos hother, Option.filter_some, if_pos (decide_eq_true hother)]
        rfl
      · rw [if_neg hother, Option.filter_some,
          if_neg (fun h => hother (of_decide_eq_true h))]
        rfl

omit [Scalar F] in
theorem leftToJoin_listed {codec : Codec B F} {s : LogicShard F} {task : LogicTask B}
    {current : Nat} (h : leftToJoin codec s task = some current) :
    s.uidToRoom.lookup task.uid = some current := by
  unfold leftToJoin at h
  split at h
  · cases h
  · exact (Option.filter_eq_some_iff.mp h).left

omit [Scalar F] in
/-- A join that is refused has done nothing but leave another room. -/
theorem handleJoinRoom_refused {codec : Codec B F} {ω : Orders} {s : LogicShard F}
    {task : LogicTask B} {e : ShardEvent F}
    (he : e ∈ (handleJoinRoom codec ω s task).2) (hrefused : e.refusesJoin = true) :
    (handleJoinRoom codec ω s task).1 =
      leftBehind ω s task.uid (leftToJoin codec s task) := by
  unfold handleJoinRoom at he ⊢
  unfold leftToJoin
  cases hparse : parseRequest codec codec.joinRoomReq task with
  | none => rfl
  | some parsed =>
      obtain ⟨envelope, roomId⟩ := parsed
      rw [hparse] at he
      dsimp only at he ⊢
      rw [← leaveForJoin_fst]
      cases hr : (leaveForJoin ω s task.uid roomId).1.rooms.lookup roomId with
      | none => rfl
      | some r =>
          rw [hr] at he
          dsimp only at he ⊢
          cases hadd : r.addPlayer task.uid with
          | none => rfl
          | some added =>
              rw [hadd] at he
              -- a join that is granted refuses nobody
              have hgrants : e.refusesJoin = false := by
                rcases List.mem_append.mp he with hfront | hstate
                · rcases List.mem_append.mp hfront with hleave | hanswer
                  · exact leaveForJoin_grants hleave
                  · obtain ⟨targets, rfl⟩ := eq_of_mem_sendToPlayers hanswer
                    rfl
                · exact broadcastRoomState_grants hstate
              rw [hgrants] at hrefused
              cases hrefused

omit [Scalar F] in
theorem settleDeparture_reroute (ω : Orders) (s : LogicShard F) (routes : Routes)
    (roomId : Nat) (active : Bool) (r : DungeonRoom F) :
    (settleDeparture ω { s with uidRoute := routes } roomId active r).1 =
      { (settleDeparture ω s roomId active r).1 with uidRoute := routes } := by
  unfold settleDeparture
  split
  · rfl
  · split
    · rfl
    · rfl

omit [Scalar F] in
theorem leaveRoomInternal_reroute (ω : Orders) (s : LogicShard F) (routes : Routes)
    (uid : Nat) :
    (leaveRoomInternal ω { s with uidRoute := routes } uid).1 =
      { (leaveRoomInternal ω s uid).1 with uidRoute := routes } := by
  unfold leaveRoomInternal
  dsimp only
  cases s.uidToRoom.lookup uid with
  | none => rfl
  | some roomId =>
      dsimp only
      cases s.rooms.lookup roomId with
      | none => rfl
      | some r =>
          exact settleDeparture_reroute ω { s with uidToRoom := s.uidToRoom.erase uid }
            routes roomId _ _

omit [Scalar F] in
theorem leftBehind_reroute (ω : Orders) (s : LogicShard F) (routes : Routes) (uid : Nat)
    (left : Option Nat) :
    leftBehind ω { s with uidRoute := routes } uid left =
      { leftBehind ω s uid left with uidRoute := routes } := by
  cases left with
  | none => rfl
  | some current => exact leaveRoomInternal_reroute ω s routes uid

omit [Scalar F] in
/-- Leaving a room concerns that room and that player only. -/
theorem leaveRoomInternal_frame {s : LogicShard F} (h : WellIndexed s) (ω : Orders)
    {uid current : Nat} (hidx : s.uidToRoom.lookup uid = some current) :
    (leaveRoomInternal ω s uid).1.uidToRoom = s.uidToRoom.erase uid ∧
      forall k, k ≠ current ->
        (leaveRoomInternal ω s uid).1.rooms.lookup k = s.rooms.lookup k := by
  constructor
  · obtain ⟨r, hr, _⟩ := h.room_of_index hidx
    unfold leaveRoomInternal
    rw [hidx]
    dsimp only
    rw [hr]
    exact (settleDeparture_index ω _ current _ _).right
  · intro k hk
    apply (leaveRoomInternal_departed h ω uid).others k
    rw [hidx]
    intro heq
    injection heq with hcurrent
    exact hk hcurrent.symm

/-- The same for the task as a whole, which also notes where the player is. -/
theorem handleTask_refused {codec : Codec B F} {ω : Orders} {s : LogicShard F}
    {task : LogicTask B} (hmsg : task.msgId = MsgId.joinRoomReq) {e : ShardEvent F}
    (he : e ∈ (handleTask codec ω s task).2) (hrefused : e.refusesJoin = true) :
    exists routes, (handleTask codec ω s task).1 =
      { leftBehind ω s task.uid (leftToJoin codec s task) with uidRoute := routes } := by
  have hnoted : exists routes,
      (if task.uid ≠ 0 then
        { s with uidRoute := s.uidRoute.insert task.uid task.origin }
      else s) = { s with uidRoute := routes } := by
    by_cases huid : task.uid ≠ 0
    · exact ⟨_, if_pos huid⟩
    · exact ⟨_, if_neg huid⟩
  obtain ⟨routes, hroutes⟩ := hnoted
  unfold handleTask dispatch at he ⊢
  rw [hmsg, hroutes] at he
  rw [hmsg, hroutes]
  exact ⟨routes, (handleJoinRoom_refused he hrefused).trans
    (leftBehind_reroute ω s routes task.uid _)⟩

/-- The rooms and the index of one shard are those of another. -/
def SameRooms (s s' : LogicShard F) : Prop :=
  s'.rooms = s.rooms ∧ s'.uidToRoom = s.uidToRoom

/--
In every state that a shard reaches, a join that is answered with an error leaves the
rooms and the index as they were.  Only a well-formed request of a player who is in
another room takes the player out of that room first, as any other way of leaving does.
-/
theorem run_refused_join (codec : Codec B F) (shardId shardCount : Nat)
    (inputs : List (ShardInput B)) (ω : Orders) (task : LogicTask B)
    (hmsg : task.msgId = MsgId.joinRoomReq) {e : ShardEvent F}
    (he : e ∈ (handleTask codec ω (run codec shardId shardCount inputs).1 task).2)
    (hrefused : e.refusesJoin = true) :
    let s := (run codec shardId shardCount inputs).1
    let s' := (handleTask codec ω s task).1
    (leftToJoin codec s task = none -> SameRooms s s') ∧
      forall current, leftToJoin codec s task = some current ->
        SameRooms (leaveRoomInternal ω s task.uid).1 s' ∧
          s'.uidToRoom = s.uidToRoom.erase task.uid ∧
          forall k, k ≠ current -> s'.rooms.lookup k = s.rooms.lookup k := by
  intro s s'
  obtain ⟨routes, hafter⟩ := handleTask_refused hmsg he hrefused
  have hs' : s' =
      { leftBehind ω s task.uid (leftToJoin codec s task) with uidRoute := routes } := hafter
  constructor
  · intro hnone
    rw [hs', hnone]
    exact ⟨rfl, rfl⟩
  · intro current hcurrent
    have hframe := leaveRoomInternal_frame (run_wellIndexed codec shardId shardCount inputs)
      ω (leftToJoin_listed hcurrent)
    rw [hs', hcurrent]
    exact ⟨⟨rfl, rfl⟩, hframe⟩

/-- The first player of a running game asks for a room that does not exist. -/
def firstWanders : LogicTask (Wire Rat) :=
  Wire.task MsgId.joinRoomReq 1 (Wire.joinRoom 99)

theorem firstWanders_refused :
    exists e, e ∈ (handleTask Wire.codec Orders.stored
        (run Wire.codec 0 1 twoFight).1 firstWanders).2 ∧ e.refusesJoin = true := by
  apply List.any_eq_true.mp
  decide +kernel

theorem firstWanders_leaves :
    let s := (run Wire.codec 0 1 twoFight).1
    let s' := (handleTask Wire.codec Orders.stored s firstWanders).1
    SameRooms (leaveRoomInternal Orders.stored s 1).1 s' := by
  obtain ⟨e, he, hrefused⟩ := firstWanders_refused
  have hleft : leftToJoin Wire.codec (run Wire.codec 0 1 twoFight).1 firstWanders =
      some 1 := by
    decide +kernel
  exact ((run_refused_join Wire.codec 0 1 twoFight Orders.stored firstWanders rfl he
    hrefused).right 1 hleft).left

/-- The running game of the first player ends, though the join was refused. -/
theorem firstWanders_ends_game :
    ¬ forall (inputs : List (ShardInput (Wire Rat))) (ω : Orders)
        (task : LogicTask (Wire Rat)), task.msgId = MsgId.joinRoomReq ->
      forall e, e ∈ (handleTask Wire.codec ω (run Wire.codec 0 1 inputs).1 task).2 ->
        e.refusesJoin = true ->
        SameRooms (run Wire.codec 0 1 inputs).1
          (handleTask Wire.codec ω (run Wire.codec 0 1 inputs).1 task).1 := by
  intro h
  obtain ⟨e, he, hrefused⟩ := firstWanders_refused
  have hsame := (h twoFight Orders.stored firstWanders rfl e he hrefused).left
  have hbefore : ((run Wire.codec 0 1 twoFight).1.rooms.lookup 1).any isActive = true := by
    decide +kernel
  have hafter : ((handleTask Wire.codec Orders.stored
      (run Wire.codec 0 1 twoFight).1 firstWanders).1.rooms.lookup 1).any isActive =
      false := by
    decide +kernel
  rw [hsame, hbefore] at hafter
  cases hafter

end LogicShard

end RtsGame
