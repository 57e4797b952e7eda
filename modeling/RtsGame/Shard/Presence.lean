import RtsGame.Shard.Handlers

/-!
# What a shard remembers of a player

A shard notes the route of everybody it hears from and forgets it with the
disconnect notice.  A player who is listed in a room has been heard from, so a
player whose route is forgotten is not in any room either.
-/

namespace RtsGame

namespace LogicShard

variable {B F : Type}

/-- The routes after a task. -/
def routesAfter (codec : Codec B F) (routes : Routes) (task : LogicTask B) :
    Routes :=
  let noted :=
    if task.uid ≠ 0 then routes.insert task.uid task.origin else routes
  if task.msgId = MsgId.clientDisconnectedNtf then
    match codec.disconnectedUid task.body with
    | none => noted
    | some uid => if uid = 0 then noted else noted.erase uid
  else noted

/-!
## Routes
-/

theorem settleDeparture_index (ω : Orders) (s : LogicShard F) (roomId : Nat)
    (wasActive : Bool) (room : DungeonRoom F) :
    (settleDeparture ω s roomId wasActive room).1.uidRoute = s.uidRoute ∧
      (settleDeparture ω s roomId wasActive room).1.uidToRoom = s.uidToRoom := by
  unfold settleDeparture
  split
  · exact ⟨rfl, rfl⟩
  · split
    · exact ⟨rfl, rfl⟩
    · exact ⟨rfl, rfl⟩

theorem leaveRoomInternal_index (ω : Orders) (s : LogicShard F) (uid : Nat) :
    (leaveRoomInternal ω s uid).1.uidRoute = s.uidRoute ∧
      forall u, u ∈ (leaveRoomInternal ω s uid).1.uidToRoom ->
        u ∈ s.uidToRoom ∧ u ≠ uid := by
  unfold leaveRoomInternal
  split
  · rename_i hnone
    refine ⟨rfl, ?_⟩
    intro u hu
    refine ⟨hu, ?_⟩
    intro heq
    rw [heq, Table.mem_iff_lookup, hnone] at hu
    rcases hu with ⟨_, hv⟩
    cases hv
  · have herased : forall u, u ∈ s.uidToRoom.erase uid ->
        u ∈ s.uidToRoom ∧ u ≠ uid := by
      intro u hu
      exact (AList.mem_erase.mp hu).symm
    dsimp only
    split
    · exact ⟨rfl, herased⟩
    · have hsettled := settleDeparture_index ω
        { s with uidToRoom := s.uidToRoom.erase uid }
      rename_i roomId _ _ room _
      have hroom := hsettled roomId (isActive room) (room.removePlayer uid).1
      rw [hroom.left, hroom.right]
      exact ⟨rfl, herased⟩

/-- Everybody who is listed has been heard from. -/
def Traced (s : LogicShard F) : Prop :=
  forall u, u ∈ s.uidToRoom -> u ∈ s.uidRoute

/-- A task as network shards post them. -/
def Posted (task : LogicTask B) : Prop :=
  task.msgId = MsgId.clientDisconnectedNtf ∨ task.uid ≠ 0

/-- The routes are the same, and nobody but one player has been listed. -/
structure ListsOnly (uid : Nat) (s s' : LogicShard F) : Prop where
  routes : s'.uidRoute = s.uidRoute
  listed : forall u, u ∈ s'.uidToRoom -> u ∈ s.uidToRoom ∨ u = uid

namespace ListsOnly

theorem of_eq {uid : Nat} {s s' : LogicShard F} (hroutes : s'.uidRoute = s.uidRoute)
    (hindex : s'.uidToRoom = s.uidToRoom) : ListsOnly uid s s' where
  routes := hroutes
  listed := by
    intro u hu
    rw [hindex] at hu
    exact Or.inl hu

theorem refl (uid : Nat) (s : LogicShard F) : ListsOnly uid s s :=
  of_eq rfl rfl

theorem leave (ω : Orders) (s : LogicShard F) (uid : Nat) :
    ListsOnly uid s (leaveRoomInternal ω s uid).1 where
  routes := (leaveRoomInternal_index ω s uid).left
  listed := by
    intro u hu
    exact Or.inl ((leaveRoomInternal_index ω s uid).right u hu).left

theorem seat {uid : Nat} {s s' : LogicShard F} (h : ListsOnly uid s s')
    (roomId : Nat) (room : DungeonRoom F) :
    ListsOnly uid s (LogicShard.seat s' uid roomId room) where
  routes := h.routes
  listed := by
    intro u hu
    cases (AList.mem_insert _).mp hu with
    | inl heq => exact Or.inr heq
    | inr hold => exact h.listed u hold

end ListsOnly

theorem leaveForJoin_listsOnly (ω : Orders) (s : LogicShard F)
    (uid roomId : Nat) : ListsOnly uid s (leaveForJoin ω s uid roomId).1 := by
  unfold leaveForJoin
  split
  · exact ListsOnly.refl uid s
  · split
    · exact ListsOnly.leave ω s uid
    · exact ListsOnly.refl uid s

theorem handleJoinRoom_listsOnly (codec : Codec B F) (ω : Orders)
    (s : LogicShard F) (task : LogicTask B) :
    ListsOnly task.uid s (handleJoinRoom codec ω s task).1 := by
  unfold handleJoinRoom
  split
  · exact ListsOnly.refl task.uid s
  · rename_i roomId _
    have hleft := leaveForJoin_listsOnly ω s task.uid roomId
    dsimp only
    split
    · exact hleft
    · split
      · exact hleft
      · exact hleft.seat _ _

theorem handleLeaveRoom_listsOnly (codec : Codec B F) (ω : Orders)
    (s : LogicShard F) (task : LogicTask B) :
    ListsOnly task.uid s (handleLeaveRoom codec ω s task).1 := by
  unfold handleLeaveRoom
  split
  · exact ListsOnly.refl task.uid s
  · dsimp only
    split
    · exact ListsOnly.refl task.uid s
    · rename_i room _
      split
      · exact ListsOnly.of_eq rfl rfl
      · have hsettled := settleDeparture_index ω
          { s with uidToRoom := s.uidToRoom.erase task.uid }
        constructor
        · exact (hsettled _ _ _).left
        · intro u hu
          rw [(hsettled _ _ _).right] at hu
          exact Or.inl (AList.mem_erase.mp hu).right

theorem handleEnterBattle_same (codec : Codec B F) (s : LogicShard F)
    (task : LogicTask B) : (handleEnterBattle codec s task).1 = s := by
  unfold handleEnterBattle
  split
  · rfl
  · dsimp only
    split
    · rfl
    · split
      · rfl
      · rfl

theorem handleCreateRoom_listsOnly (codec : Codec B F) (ω : Orders)
    (s : LogicShard F) (task : LogicTask B) :
    ListsOnly task.uid s (handleCreateRoom codec ω s task).1 := by
  unfold handleCreateRoom
  split
  · exact ListsOnly.refl task.uid s
  · have hleft := ListsOnly.leave ω s task.uid
    have hnumbered : ListsOnly task.uid s
        { (leaveRoomInternal ω s task.uid).1 with
          nextRoomId := (leaveRoomInternal ω s task.uid).1.nextRoomId + 1 } :=
      ⟨hleft.routes, hleft.listed⟩
    exact hnumbered.seat _ _

variable [Scalar F]

theorem handlePlayerReady_listsOnly (codec : Codec B F) (ω : Orders)
    (s : LogicShard F) (task : LogicTask B) :
    ListsOnly task.uid s (handlePlayerReady codec ω s task).1 := by
  unfold handlePlayerReady
  split
  · exact ListsOnly.refl task.uid s
  · dsimp only
    split
    · exact ListsOnly.refl task.uid s
    · split
      · exact ListsOnly.refl task.uid s
      · split
        · exact ListsOnly.of_eq rfl rfl
        · exact ListsOnly.of_eq rfl rfl

theorem handlePlayerCommand_listsOnly (codec : Codec B F) (s : LogicShard F)
    (task : LogicTask B) :
    ListsOnly task.uid s (handlePlayerCommand codec s task).1 := by
  unfold handlePlayerCommand
  split
  · exact ListsOnly.refl task.uid s
  · dsimp only
    split
    · exact ListsOnly.refl task.uid s
    · split
      · exact ListsOnly.refl task.uid s
      · split
        · exact ListsOnly.refl task.uid s
        · split
          · exact ListsOnly.refl task.uid s
          · split
            · exact ListsOnly.refl task.uid s
            · exact ListsOnly.refl task.uid s
            · exact ListsOnly.of_eq rfl rfl

/-- A request lists at most the player it is from. -/
theorem dispatch_listsOnly (codec : Codec B F) (ω : Orders) (s : LogicShard F)
    {task : LogicTask B} (hmsg : task.msgId ≠ MsgId.clientDisconnectedNtf) :
    ListsOnly task.uid s (dispatch codec ω s task).1 := by
  unfold dispatch
  split
  · exact handleCreateRoom_listsOnly codec ω s task
  · exact handleJoinRoom_listsOnly codec ω s task
  · exact handleLeaveRoom_listsOnly codec ω s task
  · exact handlePlayerReady_listsOnly codec ω s task
  · rw [handleEnterBattle_same]
    exact ListsOnly.refl task.uid s
  · rename_i hnotice
    exact absurd hnotice hmsg
  · exact ListsOnly.refl task.uid s
  · exact ListsOnly.refl task.uid s
  · exact ListsOnly.refl task.uid s
  · exact handlePlayerCommand_listsOnly codec s task

/-!
## Tasks and ticks
-/

theorem handleTask_notice (codec : Codec B F) (ω : Orders) (s : LogicShard F)
    {task : LogicTask B} (hmsg : task.msgId = MsgId.clientDisconnectedNtf) :
    (handleTask codec ω s task).1 =
      (handleClientDisconnected codec ω
        (if task.uid ≠ 0 then
          { s with uidRoute := s.uidRoute.insert task.uid task.origin }
        else s) task).1 := by
  unfold handleTask dispatch
  rw [hmsg]

theorem handleTask_uidRoute (codec : Codec B F) (ω : Orders) (s : LogicShard F)
    (task : LogicTask B) :
    (handleTask codec ω s task).1.uidRoute = routesAfter codec s.uidRoute task := by
  have hnoted : (if task.uid ≠ 0 then
      { s with uidRoute := s.uidRoute.insert task.uid task.origin }
    else s).uidRoute =
      if task.uid ≠ 0 then s.uidRoute.insert task.uid task.origin
      else s.uidRoute := by
    split
    · rfl
    · rfl
  unfold routesAfter
  by_cases hmsg : task.msgId = MsgId.clientDisconnectedNtf
  · rw [handleTask_notice codec ω s hmsg, if_pos hmsg]
    unfold handleClientDisconnected
    cases hparse : codec.disconnectedUid task.body with
    | none =>
        exact hnoted
    | some uid =>
        dsimp only
        split
        · exact hnoted
        · rw [(leaveRoomInternal_index ω _ uid).left, ← hnoted]
  · rw [if_neg hmsg, ← hnoted]
    exact (dispatch_listsOnly codec ω _ hmsg).routes

theorem Traced.handleTask {s : LogicShard F} (h : Traced s) (codec : Codec B F)
    (ω : Orders) {task : LogicTask B} (hposted : Posted task) :
    Traced (LogicShard.handleTask codec ω s task).1 := by
  have hnoted : Traced (if task.uid ≠ 0 then
      { s with uidRoute := s.uidRoute.insert task.uid task.origin } else s) := by
    split
    · intro u hu
      exact (AList.mem_insert _).mpr (Or.inr (h u hu))
    · exact h
  by_cases hmsg : task.msgId = MsgId.clientDisconnectedNtf
  · rw [handleTask_notice codec ω s hmsg]
    unfold handleClientDisconnected
    cases codec.disconnectedUid task.body with
    | none =>
        exact hnoted
    | some uid =>
        dsimp only
        split
        · exact hnoted
        · intro u hu
          have hleft := (leaveRoomInternal_index ω _ uid).right u hu
          rw [(leaveRoomInternal_index ω _ uid).left]
          exact AList.mem_erase.mpr ⟨hleft.right, hnoted u hleft.left⟩
  · have huid : task.uid ≠ 0 := hposted.resolve_left hmsg
    have hlists := dispatch_listsOnly codec ω
      { s with uidRoute := s.uidRoute.insert task.uid task.origin } hmsg
    unfold LogicShard.handleTask
    rw [if_pos huid]
    intro u hu
    rw [hlists.routes]
    cases hlists.listed u hu with
    | inl hold => exact (AList.mem_insert _).mpr (Or.inr (h u hold))
    | inr heq => exact (AList.mem_insert _).mpr (Or.inl heq)

theorem tickRooms_index (ω : Orders) (s : LogicShard F) :
    (tickRooms ω s).1.uidRoute = s.uidRoute ∧
      (tickRooms ω s).1.uidToRoom = s.uidToRoom := by
  have hloop : forall (ids : List Nat) (acc : LogicShard F × List (ShardEvent F)),
      (ids.foldl (tickOne ω) acc).1.uidRoute = acc.1.uidRoute ∧
        (ids.foldl (tickOne ω) acc).1.uidToRoom = acc.1.uidToRoom := by
    intro ids
    induction ids with
    | nil =>
        intro acc
        exact ⟨rfl, rfl⟩
    | cons roomId rest ih =>
        intro acc
        have hone : (tickOne ω acc roomId).1.uidToRoom = acc.1.uidToRoom := by
          unfold tickOne
          split
          · rfl
          · split
            · rfl
            · rfl
        have hrest := ih (tickOne ω acc roomId)
        rw [tickOne_uidRoute, hone] at hrest
        exact hrest
  exact hloop _ _

theorem Traced.tickRooms {s : LogicShard F} (h : Traced s) (ω : Orders) :
    Traced (LogicShard.tickRooms ω s).1 := by
  intro u hu
  rw [(tickRooms_index ω s).right] at hu
  rw [(tickRooms_index ω s).left]
  exact h u hu

end LogicShard

end RtsGame
