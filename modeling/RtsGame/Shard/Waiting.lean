import RtsGame.Shard.Presence
import RtsGame.Shard.RoomRules

/-!
# Commands that wait

A command is queued in the room of its sender whenever the sender is in a room;
a tick empties the queues of the rooms whose games are running.  As long as
commands arrive in running games only, and nobody leaves a room in which
commands wait, the first tick after a command has arrived applies it.
-/

namespace RtsGame

open DungeonRoom

variable {B F : Type} [Scalar F]

/-!
## The queue of a room
-/

/-- Effects leave the queue or forget it. -/
theorem DungeonRoom.Effect.pending_nil
    {keep : DungeonRoom F -> GameUnit F -> GameUnit F -> Prop}
    {r s : DungeonRoom F} {out : List Nat} (heff : Effect keep r out s)
    (h : r.pending = []) : s.pending = [] := by
  cases heff with
  | harvest _ _ _ _ _ _ _ _ _ _ _ =>
      unfold settleField
      split
      · exact h
      · exact h
  | credit _ _ _ hres _ _ =>
      rw [deposit_eq hres]
      exact h
  | take _ _ _ _ _ _ _ _ =>
      unfold settleDrop
      split
      · exact h
      · exact h
  | forgetPending => rfl
  | _ => exact h

theorem tickRoom_pending (routes : Routes) (ω : RoomOrders) (roomId : Nat)
    (r : DungeonRoom F) : (tickRoom routes ω roomId r).1.pending = [] := by
  rcases step_effects ω.world kTickSeconds r.beforeStep with ⟨_, heff, _⟩
  have hstep : (r.beforeStep.step ω.world kTickSeconds).pending = [] :=
    heff.preserves (fun s => s.pending = []) (fun _ _ _ hs hmove => hmove.pending_nil hs)
      rfl
  unfold tickRoom
  dsimp only
  split
  · exact hstep
  · exact hstep

theorem startGame_pending (routes : Routes) (ω : RoomOrders) (r : DungeonRoom F) :
    (LogicShard.startGame routes ω r).1.pending = r.pending := by
  have hbase : forall (s : DungeonRoom F) (player : RoomPlayerState),
      (spawnBase s player).pending = s.pending := by
    intro s player
    unfold spawnBase
    dsimp only
    have hunit : forall (r : DungeonRoom F) (i : Nat),
        (spawnStartUnit (initialLayoutForTeam player.team) player r i).pending =
          r.pending := fun _ _ => rfl
    have hfield : forall (r : DungeonRoom F) (entry : Nat × Rat × Rat × UInt32),
        (spawnStartField (initialLayoutForTeam player.team) r entry).pending =
          r.pending := fun _ _ => rfl
    rw [foldl_same DungeonRoom.pending hfield, foldl_same DungeonRoom.pending hunit]
    rfl
  change (spawnInitialUnits ω (r.setStarted true)).pending = r.pending
  unfold spawnInitialUnits
  rw [foldl_same DungeonRoom.pending hbase]
  rfl

namespace LogicShard

/-- Whether the game under a key is running, and the commands that wait there. -/
def queueAt (s : LogicShard F) (k : Nat) : Option (Bool × List (PendingCommand F)) :=
  (s.rooms.lookup k).map fun r => (isActive r, r.pending)

/-- A change that leaves the commands where they are. -/
inductive Calm : Option (Bool × List (PendingCommand F)) ->
    Option (Bool × List (PendingCommand F)) -> Prop where
  | same (queue : Option (Bool × List (PendingCommand F))) : Calm queue queue
  | fresh : Calm none (some (false, []))
  | start (active : Bool) (waiting : List (PendingCommand F)) :
      Calm (some (false, waiting)) (some (active, waiting))

omit [Scalar F] in
theorem queueAt_insert (s : LogicShard F) (roomId k : Nat) (r : DungeonRoom F)
    {s' : LogicShard F} (hs' : s'.rooms = s.rooms.insert roomId r) :
    s'.queueAt k = if k = roomId then some (isActive r, r.pending) else s.queueAt k := by
  unfold queueAt
  rw [hs', Table.lookup_insert_ite]
  split
  · rfl
  · rfl

omit [Scalar F] in
/-- A room is written back with the same queue; if it was running, it still is. -/
theorem calm_insert {s s' : LogicShard F} {roomId : Nat} {r r' : DungeonRoom F}
    (hr : s.rooms.lookup roomId = some r) (hs' : s'.rooms = s.rooms.insert roomId r')
    (hactive : isActive r' = isActive r ∨ isActive r = false)
    (hpending : r'.pending = r.pending) (k : Nat) :
    Calm (s.queueAt k) (s'.queueAt k) := by
  rw [queueAt_insert s roomId k r' hs']
  split
  · rename_i hk
    have hqueue : s.queueAt k = some (isActive r, r.pending) := by
      unfold queueAt
      rw [hk, hr]
      rfl
    rw [hqueue, hpending]
    rcases hactive with hsame | hidle
    · rw [hsame]
      exact Calm.same _
    · rw [hidle]
      exact Calm.start _ _
  · exact Calm.same _

/-!
## Departures
-/

/-- The room under a key is left: it is gone, or its game does not run any more. -/
def LeftBehind (waiting : List (PendingCommand F))
    (queue : Option (Bool × List (PendingCommand F))) : Prop :=
  queue = none ∨ queue = some (false, waiting)

omit [Scalar F] in
theorem settleDeparture_queue (ω : Orders) (s : LogicShard F) (roomId uid : Nat)
    (r : DungeonRoom F) :
    LeftBehind r.pending ((settleDeparture ω s roomId (isActive r)
        (r.removePlayer uid).1).1.queueAt roomId) ∧
      forall k, k ≠ roomId -> (settleDeparture ω s roomId (isActive r)
        (r.removePlayer uid).1).1.queueAt k = s.queueAt k := by
  unfold settleDeparture
  split
  · constructor
    · left
      unfold queueAt
      change ((s.rooms.erase roomId).lookup roomId).map _ = none
      rw [AList.lookup_erase]
      rfl
    · intro k hk
      unfold queueAt
      change ((s.rooms.erase roomId).lookup k).map _ = _
      rw [AList.lookup_erase_ne hk]
  · split
    · constructor
      · right
        rw [queueAt_insert s roomId roomId _ rfl, if_pos rfl]
        change some (r.started && !true, r.pending) = some (false, r.pending)
        rw [Bool.not_true, Bool.and_false]
      · intro k hk
        rw [queueAt_insert s roomId k _ rfl, if_neg hk]
    · rename_i hidle
      constructor
      · right
        rw [queueAt_insert s roomId roomId _ rfl, if_pos rfl]
        change some (isActive r, r.pending) = some (false, r.pending)
        rw [Bool.eq_false_of_not_eq_true hidle]
      · intro k hk
        rw [queueAt_insert s roomId k _ rfl, if_neg hk]

omit [Scalar F] in
/-- A player leaves the room that the index names. -/
theorem leaveRoomInternal_queue (ω : Orders) (s : LogicShard F) (uid k : Nat) :
    (leaveRoomInternal ω s uid).1.queueAt k = s.queueAt k ∨
      exists r, s.uidToRoom.lookup uid = some k ∧ s.rooms.lookup k = some r ∧
        LeftBehind r.pending ((leaveRoomInternal ω s uid).1.queueAt k) := by
  unfold leaveRoomInternal
  cases hidx : s.uidToRoom.lookup uid with
  | none => exact Or.inl rfl
  | some roomId =>
      dsimp only
      cases hr : s.rooms.lookup roomId with
      | none => exact Or.inl rfl
      | some r =>
          have hsettled := settleDeparture_queue ω
            { s with uidToRoom := s.uidToRoom.erase uid } roomId uid r
          by_cases hk : k = roomId
          · rw [hk]
            exact Or.inr ⟨r, rfl, hr, hsettled.left⟩
          · exact Or.inl (hsettled.right k hk)

/-- What a task that is no command does to the queue of a room. -/
def Stays (codec : Codec B F) (s : LogicShard F) (task : LogicTask B) (k : Nat)
    (queue : Option (Bool × List (PendingCommand F))) : Prop :=
  Calm (s.queueAt k) queue ∨
    exists uid r, Parting codec s task uid r ∧ s.rooms.lookup k = some r ∧
      LeftBehind r.pending queue

omit [Scalar F] in
theorem handleClientDisconnected_stays (codec : Codec B F) (ω : Orders)
    (s : LogicShard F) (task : LogicTask B)
    (hmsg : task.msgId = MsgId.clientDisconnectedNtf) (k : Nat) :
    Stays codec s task k ((handleClientDisconnected codec ω s task).1.queueAt k) := by
  unfold handleClientDisconnected
  split
  · exact Or.inl (Calm.same _)
  · rename_i uid huid
    split
    · exact Or.inl (Calm.same _)
    · rename_i hne
      rcases leaveRoomInternal_queue ω { s with uidRoute := s.uidRoute.erase uid } uid k
        with hsame | ⟨r, hidx, hr, hleft⟩
      · rw [hsame]
        exact Or.inl (Calm.same _)
      · exact Or.inr ⟨uid, r, Parting.disconnect hmsg huid hne hidx hr, hr, hleft⟩

omit [Scalar F] in
theorem handleLeaveRoom_stays (codec : Codec B F) (ω : Orders)
    (s : LogicShard F) (task : LogicTask B)
    (hmsg : task.msgId = MsgId.leaveRoomReq) (k : Nat) :
    Stays codec s task k ((handleLeaveRoom codec ω s task).1.queueAt k) := by
  unfold handleLeaveRoom
  split
  · exact Or.inl (Calm.same _)
  · rename_i envelope reqRoomId hparse
    dsimp only
    split
    · exact Or.inl (Calm.same _)
    · rename_i r hr
      split
      · have hwritten : (s.putRoom (s.requestedRoomId envelope task.uid reqRoomId)
            (r.removePlayer task.uid).1).rooms = s.rooms.insert _ _ := rfl
        exact Or.inl (calm_insert hr hwritten (Or.inl rfl) rfl k)
      · rename_i hmember
        have huid : task.uid ∈ r.players := by
          have hplayer : r.hasPlayer task.uid = true := by
            simpa [removePlayer] using hmember
          exact AList.lookup_isSome.mp hplayer
        have hsettled := settleDeparture_queue ω
          { s with uidToRoom := s.uidToRoom.erase task.uid }
          (s.requestedRoomId envelope task.uid reqRoomId) task.uid r
        by_cases hk : k = s.requestedRoomId envelope task.uid reqRoomId
        · rw [hk]
          exact Or.inr ⟨task.uid, r, Parting.leave hmsg hparse hr huid, hr,
            hsettled.left⟩
        · rw [hsettled.right k hk]
          exact Or.inl (Calm.same _)

/-!
## Arrivals and starts
-/

omit [Scalar F] in
theorem addPlayer_queue {r r' : DungeonRoom F} {uid team : Nat}
    (h : r.addPlayer uid = some (r', team)) :
    isActive r' = isActive r ∧ r'.pending = r.pending := by
  unfold addPlayer at h
  split at h
  · cases h
    exact ⟨rfl, rfl⟩
  · split at h
    · cases h
    · cases h
      exact ⟨rfl, rfl⟩

theorem handleCreateRoom_stays (codec : Codec B F) (ω : Orders)
    {s : LogicShard F} (hs : WellIndexed s) (task : LogicTask B)
    (hmsg : task.msgId = MsgId.createRoomReq) (k : Nat) :
    Stays codec s task k ((handleCreateRoom codec ω s task).1.queueAt k) := by
  unfold handleCreateRoom
  cases hparse : parseRequest codec codec.createRoomReq task with
  | none => exact Or.inl (Calm.same _)
  | some parsed =>
      rcases parsed with ⟨envelope, req⟩
      dsimp only
      have hleft := leaveRoomInternal_queue ω s task.uid k
      have hgone := leaveRoomInternal_departed hs ω task.uid
      have hindexed := hs.moves (hs.leaveRoomInternal (p := Policy.free) ω task.uid
        fun _ _ _ _ => trivial)
      have hfresh := hindexed.fresh
      generalize leaveRoomInternal ω s task.uid = left at *
      have hid : s.shardId + s.shardCount * left.1.nextRoomId = left.1.nextId := by
        rw [← hgone.shardId, ← hgone.shardCount]
        rfl
      rw [hid, hfresh]
      dsimp only
      have hadd := WellIndexed.addPlayer_fresh (F := F) left.1.nextId
        (newRoomName req.roomName left.1.nextId) req.maxPlayers task.uid
      unfold freshRoom at hadd
      rw [hadd]
      dsimp only
      have hcreated : forall queue, queue =
          (seat { left.1 with nextRoomId := left.1.nextRoomId + 1 } task.uid
            left.1.nextId ((DungeonRoom.create left.1.nextId
              (newRoomName req.roomName left.1.nextId)
              (normalizeMaxPlayers req.maxPlayers)).seated task.uid)).queueAt k ->
          Calm (left.1.queueAt k) queue ∧
            (k ≠ left.1.nextId -> queue = left.1.queueAt k) := by
        intro queue hqueue
        rw [queueAt_insert left.1 left.1.nextId k _ rfl] at hqueue
        split at hqueue
        · rename_i hk
          refine ⟨?_, fun hne => absurd hk hne⟩
          have hnone : left.1.queueAt k = none := by
            unfold queueAt
            rw [hk, hfresh]
            rfl
          rw [hnone, hqueue]
          exact Calm.fresh
        · rw [hqueue]
          exact ⟨Calm.same _, fun _ => rfl⟩
      rcases hcreated _ rfl with ⟨hcalm, hother⟩
      rcases hleft with hsame | ⟨r, hidx, hr, hbehind⟩
      · rw [hsame] at hcalm
        exact Or.inl hcalm
      · have hne : k ≠ left.1.nextId := by
          intro hk
          have hold := hs.fresh
          rw [← hgone.nextId, ← hk, hr] at hold
          cases hold
        rw [hother hne]
        exact Or.inr ⟨task.uid, r, Parting.create hmsg hparse hidx hr, hr, hbehind⟩

omit [Scalar F] in
theorem handleJoinRoom_stays (codec : Codec B F) (ω : Orders)
    (s : LogicShard F) (task : LogicTask B)
    (hmsg : task.msgId = MsgId.joinRoomReq) (k : Nat) :
    Stays codec s task k ((handleJoinRoom codec ω s task).1.queueAt k) := by
  unfold handleJoinRoom
  cases hparse : parseRequest codec codec.joinRoomReq task with
  | none => exact Or.inl (Calm.same _)
  | some parsed =>
      rcases parsed with ⟨envelope, roomId⟩
      dsimp only
      have hleft : (leaveForJoin ω s task.uid roomId).1.queueAt k = s.queueAt k ∨
          (k ≠ roomId ∧ exists r, Parting codec s task task.uid r ∧
            s.rooms.lookup k = some r ∧ LeftBehind r.pending
              ((leaveForJoin ω s task.uid roomId).1.queueAt k)) := by
        unfold leaveForJoin
        cases hcurrent : s.uidToRoom.lookup task.uid with
        | none => exact Or.inl rfl
        | some current =>
            dsimp only
            split
            · rename_i hne
              rcases leaveRoomInternal_queue ω s task.uid k with
                hsame | ⟨r, hidx, hr, hbehind⟩
              · exact Or.inl hsame
              · rw [hcurrent] at hidx
                cases hidx
                exact Or.inr ⟨hne, r, Parting.join hmsg hparse hcurrent hne hr, hr,
                  hbehind⟩
            · exact Or.inl rfl
      have hstays : Stays codec s task k
          ((leaveForJoin ω s task.uid roomId).1.queueAt k) := by
        rcases hleft with hsame | ⟨_, r, hparting, hr, hbehind⟩
        · rw [hsame]
          exact Or.inl (Calm.same _)
        · exact Or.inr ⟨task.uid, r, hparting, hr, hbehind⟩
      generalize leaveForJoin ω s task.uid roomId = left at *
      split
      · exact hstays
      · rename_i r hr
        split
        · exact hstays
        · rename_i joined team hadd
          rcases addPlayer_queue hadd with ⟨hactive, hpending⟩
          have hseated : (seat left.1 task.uid roomId joined).queueAt k =
              left.1.queueAt k := by
            rw [queueAt_insert left.1 roomId k _ rfl, hactive, hpending]
            split
            · rename_i hk
              unfold queueAt
              rw [hk, hr]
              rfl
            · rfl
          rw [hseated]
          exact hstays

theorem handlePlayerReady_stays (codec : Codec B F) (ω : Orders)
    (s : LogicShard F) (task : LogicTask B) (k : Nat) :
    Stays codec s task k ((handlePlayerReady codec ω s task).1.queueAt k) := by
  unfold handlePlayerReady
  split
  · exact Or.inl (Calm.same _)
  · rename_i envelope req _
    dsimp only
    split
    · exact Or.inl (Calm.same _)
    · rename_i r hr
      split
      · exact Or.inl (Calm.same _)
      · rename_i readied hready
        rcases setReady_cases hready with ⟨player, _, heq⟩
        split
        · rename_i hstart
          simp only [Bool.and_eq_true, Bool.not_eq_true'] at hstart
          have hidle : isActive r = false := by
            have hlobby : r.started = false := by
              rw [heq] at hstart
              exact hstart.right
            unfold isActive
            rw [hlobby, Bool.false_and]
          refine Or.inl (calm_insert hr rfl (Or.inr hidle) ?_ k)
          rw [startGame_pending, heq]
        · refine Or.inl (calm_insert hr rfl (Or.inl ?_) ?_ k)
          · rw [heq]
            rfl
          · rw [heq]

/-!
## Commands
-/

/-- The command that `HandlePlayerCommand` queues for a task, with its room. -/
def acceptedCommand (codec : Codec B F) (s : LogicShard F) (task : LogicTask B) :
    Option (Nat × PendingCommand F) :=
  match codec.envelope task.body with
  | none => none
  | some envelope =>
      let roomId := resolveRoomId envelope s.uidToRoom task.uid
      if roomId = 0 then none
      else
        match s.rooms.lookup roomId with
        | none => none
        | some room =>
            if !room.hasPlayer task.uid then none
            else if codec.isEmpty envelope.payload then none
            else
              match readCommand codec task.msgId task.uid envelope with
              | CommandReading.command cmd => some (roomId, cmd)
              | _ => none

/-- The queue of a room after a task. -/
def QueuedBy (codec : Codec B F) (s : LogicShard F) (task : LogicTask B) (k : Nat)
    (queue : Option (Bool × List (PendingCommand F))) : Prop :=
  match acceptedCommand codec s task with
  | none => Stays codec s task k queue
  | some (roomId, cmd) =>
      if k = roomId then
        exists r, s.rooms.lookup k = some r ∧
          queue = some (isActive r, r.pending ++ [cmd])
      else queue = s.queueAt k

/-- A command is queued in a room, or nothing happens to the shard. -/
theorem handlePlayerCommand_cases (codec : Codec B F) (s : LogicShard F)
    (task : LogicTask B) :
    (acceptedCommand codec s task = none ∧
        (handlePlayerCommand codec s task).1 = s) ∨
      exists roomId cmd r, acceptedCommand codec s task = some (roomId, cmd) ∧
        s.rooms.lookup roomId = some r ∧
        (handlePlayerCommand codec s task).1 =
          s.putRoom roomId (r.enqueueCommand cmd) := by
  unfold acceptedCommand handlePlayerCommand
  cases henvelope : codec.envelope task.body with
  | none => exact Or.inl ⟨rfl, rfl⟩
  | some envelope =>
      dsimp only
      generalize resolveRoomId envelope s.uidToRoom task.uid = roomId
      by_cases hzero : roomId = 0
      · rw [if_pos hzero, if_pos hzero]
        exact Or.inl ⟨rfl, rfl⟩
      · rw [if_neg hzero, if_neg hzero]
        cases hr : s.rooms.lookup roomId with
        | none => exact Or.inl ⟨rfl, rfl⟩
        | some r =>
            dsimp only
            cases hplayer : r.hasPlayer task.uid with
            | false => exact Or.inl ⟨rfl, rfl⟩
            | true =>
                cases hempty : codec.isEmpty envelope.payload with
                | true => exact Or.inl ⟨rfl, rfl⟩
                | false =>
                    cases hread : readCommand codec task.msgId task.uid envelope with
                    | malformed reason => exact Or.inl ⟨rfl, rfl⟩
                    | notSimulated => exact Or.inl ⟨rfl, rfl⟩
                    | command cmd => exact Or.inr ⟨roomId, cmd, r, rfl, hr, rfl⟩

theorem handlePlayerCommand_queued (codec : Codec B F) (s : LogicShard F)
    (task : LogicTask B) (k : Nat) :
    QueuedBy codec s task k ((handlePlayerCommand codec s task).1.queueAt k) := by
  unfold QueuedBy
  rcases handlePlayerCommand_cases codec s task with
    ⟨hnone, hsame⟩ | ⟨roomId, cmd, r, hsome, hr, hput⟩
  · rw [hnone, hsame]
    exact Or.inl (Calm.same _)
  · rw [hsome, hput, queueAt_insert s roomId k _ rfl]
    dsimp only
    split
    · rename_i hk
      rw [hk]
      exact ⟨r, hr, rfl⟩
    · rfl

/-- A request that is no command is not read as one. -/
theorem acceptedCommand_none (codec : Codec B F) (s : LogicShard F)
    {task : LogicTask B}
    (h : forall envelope, readCommand codec task.msgId task.uid envelope =
      CommandReading.notSimulated) : acceptedCommand codec s task = none := by
  unfold acceptedCommand
  split
  · rfl
  · dsimp only
    split
    · rfl
    · split
      · rfl
      · split
        · rfl
        · split
          · rfl
          · rw [h]

theorem dispatch_queued (codec : Codec B F) (ω : Orders) {s : LogicShard F}
    (hs : WellIndexed s) (task : LogicTask B) (k : Nat) :
    QueuedBy codec s task k ((dispatch codec ω s task).1.queueAt k) := by
  have hrequest : (forall envelope, readCommand codec task.msgId task.uid envelope =
      CommandReading.notSimulated) -> forall queue, Stays codec s task k queue ->
      QueuedBy codec s task k queue := by
    intro hread queue hstays
    unfold QueuedBy
    rw [acceptedCommand_none codec s hread]
    exact hstays
  unfold dispatch
  split
  · rename_i hmsg
    refine hrequest (fun envelope => ?_) _ (handleCreateRoom_stays codec ω hs task hmsg k)
    rw [hmsg]
    rfl
  · rename_i hmsg
    refine hrequest (fun envelope => ?_) _ (handleJoinRoom_stays codec ω s task hmsg k)
    rw [hmsg]
    rfl
  · rename_i hmsg
    refine hrequest (fun envelope => ?_) _ (handleLeaveRoom_stays codec ω s task hmsg k)
    rw [hmsg]
    rfl
  · rename_i hmsg
    refine hrequest (fun envelope => ?_) _ (handlePlayerReady_stays codec ω s task k)
    rw [hmsg]
    rfl
  · rename_i hmsg
    rw [handleEnterBattle_same]
    refine hrequest (fun envelope => ?_) _ (Or.inl (Calm.same _))
    rw [hmsg]
    rfl
  · rename_i hmsg
    refine hrequest (fun envelope => ?_) _
      (handleClientDisconnected_stays codec ω s task hmsg k)
    rw [hmsg]
    rfl
  · rename_i hmsg
    refine hrequest (fun envelope => ?_) _ (Or.inl (Calm.same _))
    rw [hmsg]
    rfl
  · rename_i hmsg
    refine hrequest (fun envelope => ?_) _ (Or.inl (Calm.same _))
    rw [hmsg]
    rfl
  · rename_i hmsg
    refine hrequest (fun envelope => ?_) _ (Or.inl (Calm.same _))
    rw [hmsg]
    rfl
  · exact handlePlayerCommand_queued codec s task k

theorem handleTask_queued (codec : Codec B F) (ω : Orders) {s : LogicShard F}
    (hs : WellIndexed s) (task : LogicTask B) (k : Nat) :
    QueuedBy codec s task k ((handleTask codec ω s task).1.queueAt k) := by
  have hrouted : forall routes : Routes, WellIndexed { s with uidRoute := routes } :=
    fun routes => ⟨hs.index, hs.shapes, hs.ids, hs.count⟩
  have hparting : forall routes uid r,
      Parting codec { s with uidRoute := routes } task uid r ->
        Parting codec s task uid r := by
    intro routes uid r h
    cases h with
    | create hmsg hparse hidx hr => exact Parting.create hmsg hparse hidx hr
    | join hmsg hparse hidx hne hr => exact Parting.join hmsg hparse hidx hne hr
    | leave hmsg hparse hr huid => exact Parting.leave hmsg hparse hr huid
    | disconnect hmsg hbody hne hidx hr =>
        exact Parting.disconnect hmsg hbody hne hidx hr
  unfold handleTask
  split
  · have hdispatched := dispatch_queued codec ω
      (hrouted (s.uidRoute.insert task.uid task.origin)) task k
    generalize (dispatch codec ω { s with
      uidRoute := s.uidRoute.insert task.uid task.origin } task).1.queueAt k = queue
      at hdispatched ⊢
    have hsame : acceptedCommand codec
        { s with uidRoute := s.uidRoute.insert task.uid task.origin } task =
        acceptedCommand codec s task := rfl
    unfold QueuedBy at hdispatched ⊢
    rw [hsame] at hdispatched
    split at hdispatched
    · rcases hdispatched with hcalm | ⟨uid, r, hparts, hr, hleft⟩
      · exact Or.inl hcalm
      · exact Or.inr ⟨uid, r, hparting _ uid r hparts, hr, hleft⟩
    · exact hdispatched
  · exact dispatch_queued codec ω hs task k

/-!
## The log of the commands
-/

inductive CommandEvent (F : Type) where
  | accepted (roomId : Nat) (cmd : PendingCommand F)
  | applied (roomId : Nat) (cmd : PendingCommand F)

namespace CommandEvent

def acceptedIn (k : Nat) (log : List (CommandEvent F)) : List (PendingCommand F) :=
  log.filterMap fun
    | accepted roomId cmd => if roomId = k then some cmd else none
    | applied _ _ => none

def appliedIn (k : Nat) (log : List (CommandEvent F)) : List (PendingCommand F) :=
  log.filterMap fun
    | accepted _ _ => none
    | applied roomId cmd => if roomId = k then some cmd else none

end CommandEvent

open CommandEvent

/-- What `ApplyPending` applies in the room under a key, if a tick gets there. -/
def appliedAt (s : LogicShard F) (k : Nat) : List (CommandEvent F) :=
  match s.rooms.lookup k with
  | none => []
  | some r => if isActive r then r.pending.map (CommandEvent.applied k) else []

/-- The commands that an input queues or applies. -/
def commandLog (codec : Codec B F) (s : LogicShard F) :
    ShardInput B -> List (CommandEvent F)
  | ShardInput.task task _ =>
      match acceptedCommand codec s task with
      | none => []
      | some (roomId, cmd) => [CommandEvent.accepted roomId cmd]
  | ShardInput.tick ω => (ω.rooms.visit s.rooms).flatMap s.appliedAt

/-- The shard as a machine that reports on its commands. -/
def logged (codec : Codec B F) (s : LogicShard F) (i : ShardInput B) :
    LogicShard F × List (CommandEvent F) :=
  ((handle codec s i).1, commandLog codec s i)

/-- The commands that wait in the room under a key. -/
def waitingAt (s : LogicShard F) (k : Nat) : List (PendingCommand F) :=
  match s.rooms.lookup k with
  | none => []
  | some r => r.pending

/--
Every command that was accepted was applied once, in the order of arrival, or
waits in the room of a running game; the next tick applies all that wait.
-/
structure Prompt (log : List (CommandEvent F)) (s : LogicShard F) : Prop where
  once : forall k, acceptedIn k log = appliedIn k log ++ s.waitingAt k
  idle : s.rooms.AllAt fun _ r => isActive r = false -> r.pending = []
  consumed : forall ω, (tickRooms ω s).1.rooms.AllAt fun _ r => r.pending = []

/--
A command arrives in a running game, and a player leaves a room in which no
commands wait.
-/
def InTime (codec : Codec B F) (s : LogicShard F) : ShardInput B -> Prop
  | ShardInput.task task _ =>
      (forall roomId cmd r, acceptedCommand codec s task = some (roomId, cmd) ->
        s.rooms.lookup roomId = some r -> isActive r = true) ∧
      forall uid r, Parting codec s task uid r -> r.pending = []
  | ShardInput.tick _ => True

omit [Scalar F] in
theorem waitingAt_eq (s : LogicShard F) (k : Nat) :
    s.waitingAt k = (s.queueAt k).elim [] Prod.snd := by
  unfold waitingAt queueAt
  cases s.rooms.lookup k with
  | none => rfl
  | some r => rfl

omit [Scalar F] in
/-- The rooms whose games do not run have empty queues. -/
theorem idle_iff (s : LogicShard F) :
    (s.rooms.AllAt fun _ r => isActive r = false -> r.pending = []) <->
      forall k waiting, s.queueAt k = some (false, waiting) -> waiting = [] := by
  constructor
  · intro h k waiting hqueue
    rcases Option.map_eq_some_iff.mp hqueue with ⟨r, hr, heq⟩
    rcases Prod.mk.inj heq with ⟨hidle, hwaiting⟩
    rw [← hwaiting]
    exact h k r hr hidle
  · intro h k r hr hidle
    refine h k r.pending ?_
    unfold queueAt
    rw [hr, ← hidle]
    rfl

theorem tick_consumed {s : LogicShard F}
    (h : s.rooms.AllAt fun _ r => isActive r = false -> r.pending = []) (ω : Orders) :
    (tickRooms ω s).1.rooms.AllAt fun _ r => r.pending = [] := by
  intro k r' hr'
  rw [tickRooms_lookup] at hr'
  rcases Option.map_eq_some_iff.mp hr' with ⟨r, hr, heq⟩
  rw [← heq]
  unfold ticked
  split
  · exact tickRoom_pending _ _ _ _
  · rename_i hidle
    exact h k r hr (Bool.eq_false_of_not_eq_true hidle)

/-!
## Runs
-/

omit [Scalar F] in
/-- What a calm change means for those who wait. -/
theorem Calm.waiting {queue queue' : Option (Bool × List (PendingCommand F))}
    (h : Calm queue queue') : queue'.elim [] Prod.snd = queue.elim [] Prod.snd := by
  cases h with
  | same _ => rfl
  | fresh => rfl
  | start _ _ => rfl

omit [Scalar F] in
theorem Calm.idle {queue queue' : Option (Bool × List (PendingCommand F))}
    (h : Calm queue queue')
    (hidle : forall waiting, queue = some (false, waiting) -> waiting = [])
    (waiting : List (PendingCommand F)) (hqueue : queue' = some (false, waiting)) :
    waiting = [] := by
  cases h with
  | same _ => exact hidle waiting hqueue
  | fresh =>
      cases hqueue
      rfl
  | start active before =>
      cases hqueue
      exact hidle waiting rfl

/-- A task in time keeps the queues of idle rooms empty. -/
theorem task_idle {codec : Codec B F} {s : LogicShard F} (hs : WellIndexed s)
    (hidle : s.rooms.AllAt fun _ r => isActive r = false -> r.pending = [])
    {task : LogicTask B} {ω : Orders}
    (hintime : InTime codec s (ShardInput.task task ω)) :
    (handleTask codec ω s task).1.rooms.AllAt fun _ r =>
      isActive r = false -> r.pending = [] := by
  rw [idle_iff] at hidle ⊢
  intro k waiting hqueue
  have hqueued := handleTask_queued codec ω hs task k
  unfold QueuedBy at hqueued
  split at hqueued
  · rcases hqueued with hcalm | ⟨uid, r, hparting, hr, hleft⟩
    · exact hcalm.idle (hidle k) waiting hqueue
    · rcases hleft with hgone | hover
      · rw [hgone] at hqueue
        cases hqueue
      · rw [hover] at hqueue
        cases hqueue
        exact hintime.right uid r hparting
  · rename_i roomId cmd haccepted
    split at hqueued
    · rename_i hk
      rcases hqueued with ⟨r, hr, hsome⟩
      rw [hsome, hintime.left roomId cmd r haccepted (hk ▸ hr)] at hqueue
      cases hqueue
    · rw [hqueued] at hqueue
      exact hidle k waiting hqueue

/-- What waits after a task: what was there and the command that was accepted. -/
theorem task_waiting {codec : Codec B F} {s : LogicShard F} (hs : WellIndexed s)
    {task : LogicTask B} {ω : Orders}
    (hintime : InTime codec s (ShardInput.task task ω)) (k : Nat) :
    (handleTask codec ω s task).1.waitingAt k =
      s.waitingAt k ++ acceptedIn k (commandLog codec s (ShardInput.task task ω)) := by
  have hqueued := handleTask_queued codec ω hs task k
  unfold QueuedBy at hqueued
  rw [waitingAt_eq, waitingAt_eq]
  simp only [commandLog]
  split at hqueued
  · change _ = _ ++ []
    rw [List.append_nil]
    rcases hqueued with hcalm | ⟨uid, r, hparting, hr, hleft⟩
    · exact hcalm.waiting
    · have hempty := hintime.right uid r hparting
      have hbefore : s.queueAt k = some (isActive r, r.pending) := by
        unfold queueAt
        rw [hr]
        rfl
      rw [hbefore, hempty]
      rw [hempty] at hleft
      rcases hleft with hgone | hover
      · rw [hgone]
        rfl
      · rw [hover]
        rfl
  · rename_i roomId cmd _
    split at hqueued
    · rename_i hk
      rcases hqueued with ⟨r, hr, hsome⟩
      have hbefore : s.queueAt k = some (isActive r, r.pending) := by
        unfold queueAt
        rw [hr]
        rfl
      rw [hsome, hbefore]
      simp [acceptedIn, hk]
    · rename_i hk
      rw [hqueued]
      have hother : acceptedIn k [CommandEvent.accepted roomId cmd] = [] := by
        simp [acceptedIn, Ne.symm hk]
      rw [hother, List.append_nil]

omit [Scalar F] in
theorem appliedIn_appliedAt (s : LogicShard F) (k k' : Nat) :
    appliedIn k (s.appliedAt k') = if k' = k then appliedIn k (s.appliedAt k) else [] := by
  split
  · rename_i hk
    rw [hk]
  · rename_i hk
    unfold appliedAt
    split
    · rfl
    · split
      · simp [appliedIn, hk]
      · rfl

omit [Scalar F] in
/-- A tick applies what waits in the running games. -/
theorem tick_applied (s : LogicShard F) (ω : Orders) (k : Nat) :
    appliedIn k ((ω.rooms.visit s.rooms).flatMap s.appliedAt) =
      appliedIn k (s.appliedAt k) := by
  have hloop : forall ids : List Nat, ids.Nodup ->
      appliedIn k (ids.flatMap s.appliedAt) =
        if k ∈ ids then appliedIn k (s.appliedAt k) else [] := by
    intro ids hnodup
    induction ids with
    | nil =>
        rfl
    | cons id rest ih =>
        rcases List.nodup_cons.mp hnodup with ⟨hnew, hrest⟩
        have happend : appliedIn k ((id :: rest).flatMap s.appliedAt) =
            appliedIn k (s.appliedAt id) ++ appliedIn k (rest.flatMap s.appliedAt) := by
          rw [List.flatMap_cons]
          exact List.filterMap_append
        rw [happend, ih hrest, appliedIn_appliedAt]
        by_cases hid : id = k
        · rw [if_pos hid, if_neg (hid ▸ hnew), List.append_nil, if_pos]
          rw [hid]
          exact List.mem_cons_self
        · rw [if_neg hid, List.nil_append]
          have hmem : k ∈ id :: rest <-> k ∈ rest := by
            rw [List.mem_cons]
            exact or_iff_right (Ne.symm hid)
          simp only [hmem]
  rw [hloop _ (ω.rooms.visit_nodup s.rooms)]
  split
  · rfl
  · rename_i hk
    rw [IterOrder.mem_visit, ← AList.lookup_eq_none] at hk
    unfold appliedAt
    rw [hk]
    rfl

theorem tick_accepts_nothing (codec : Codec B F) (s : LogicShard F) (ω : Orders)
    (k : Nat) : acceptedIn k (commandLog codec s (ShardInput.tick ω)) = [] := by
  refine List.filterMap_eq_nil_iff.mpr ?_
  intro e he
  rcases List.mem_flatMap.mp he with ⟨id, _, hid⟩
  unfold appliedAt at hid
  split at hid
  · cases hid
  · split at hid
    · rcases List.mem_map.mp hid with ⟨cmd, _, heq⟩
      rw [← heq]
    · cases hid

theorem Prompt.step {codec : Codec B F} {log : List (CommandEvent F)}
    {s : LogicShard F} (hs : WellIndexed s) (h : Prompt log s) {i : ShardInput B}
    (hintime : InTime codec s i) :
    Prompt (log ++ (logged codec s i).2) (logged codec s i).1 := by
  have haccepted : forall k new, acceptedIn k (log ++ new) =
      acceptedIn k log ++ acceptedIn k new := fun _ _ => List.filterMap_append
  have happlied : forall k new, appliedIn k (log ++ new) =
      appliedIn k log ++ appliedIn k new := fun _ _ => List.filterMap_append
  cases i with
  | task task ω =>
      have hidle := task_idle hs h.idle hintime
      refine ⟨?_, hidle, fun ω => tick_consumed hidle ω⟩
      intro k
      change acceptedIn k (log ++ commandLog codec s (ShardInput.task task ω)) =
        appliedIn k (log ++ commandLog codec s (ShardInput.task task ω)) ++
          (handleTask codec ω s task).1.waitingAt k
      have hnothing : appliedIn k (commandLog codec s (ShardInput.task task ω)) = [] := by
        simp only [commandLog]
        split
        · rfl
        · rfl
      rw [haccepted, happlied, hnothing, task_waiting hs hintime k, h.once k,
        List.append_nil, List.append_assoc]
  | tick ω =>
      have hconsumed := h.consumed ω
      have hidle : (tickRooms ω s).1.rooms.AllAt fun _ r =>
          isActive r = false -> r.pending = [] :=
        hconsumed.mono fun _ _ hr _ => hr
      refine ⟨?_, hidle, fun ω' => tick_consumed hidle ω'⟩
      intro k
      change acceptedIn k (log ++ commandLog codec s (ShardInput.tick ω)) =
        appliedIn k (log ++ commandLog codec s (ShardInput.tick ω)) ++
          (tickRooms ω s).1.waitingAt k
      have hempty : (tickRooms ω s).1.waitingAt k = [] := by
        unfold waitingAt
        split
        · rfl
        · rename_i r hr
          exact hconsumed k r hr
      have hall : appliedIn k (commandLog codec s (ShardInput.tick ω)) =
          s.waitingAt k := by
        simp only [commandLog]
        rw [tick_applied]
        unfold appliedAt waitingAt
        cases hr : s.rooms.lookup k with
        | none => rfl
        | some r =>
            dsimp only
            split
            · simp [appliedIn, List.filterMap_map]
            · rename_i hactive
              rw [h.idle k r hr (Bool.eq_false_of_not_eq_true hactive)]
              rfl
      rw [haccepted, happlied, tick_accepts_nothing, hempty, hall, h.once k,
        List.append_nil]

/--
In every run in which commands arrive in running games only, and nobody leaves a
room in which commands wait: a tick leaves no command behind, every command is
applied once, by the first tick after its arrival, and the queues of rooms whose
games do not run are empty.
-/
theorem run_commands_consumed (codec : Codec B F) (shardId shardCount : Nat)
    (inputs : List (ShardInput B))
    (hintime : Along (handle codec) (InTime codec) (create shardId shardCount) inputs) :
    Prompt (runMachine (logged codec) (create shardId shardCount) inputs).2
      (run codec shardId shardCount inputs).1 := by
  have hinit : WellIndexed (create shardId shardCount : LogicShard F) ∧
      Prompt ([] : List (CommandEvent F)) (create shardId shardCount) := by
    refine ⟨WellIndexed.create shardId shardCount, fun k => rfl, Table.allAt_empty _, ?_⟩
    intro ω
    exact tick_consumed (Table.allAt_empty _) ω
  have hsame : forall (s : LogicShard F) (i : ShardInput B),
      (logged codec s i).1 = (handle codec s i).1 := fun _ _ => rfl
  have hstep : forall log (s : LogicShard F) (i : ShardInput B),
      WellIndexed s ∧ Prompt log s -> InTime codec s i ->
      WellIndexed (logged codec s i).1 ∧
        Prompt (log ++ (logged codec s i).2) (logged codec s i).1 := by
    intro log s i hsofar hcond
    exact ⟨hsofar.left.moves (hsofar.left.handle codec i Policy.free_respected),
      hsofar.right.step hsofar.left hcond⟩
  have hall := runMachine_along (fun log s => WellIndexed s ∧ Prompt log s) hstep
    [] _ hinit inputs (hintime.congr hsame)
  rw [runMachine_fst_congr hsame] at hall
  exact hall.right

/-- Nothing waits yet, and a command that is accepted goes to a running game. -/
theorem inTime_of_rooms {codec : Codec B F} {s : LogicShard F}
    {task : LogicTask B} {ω : Orders} (hempty : s.rooms.AllAt fun _ r => r.pending = [])
    (haccepted : ((acceptedCommand codec s task).bind fun entry =>
      s.rooms.lookup entry.1).all isActive = true) :
    InTime codec s (ShardInput.task task ω) := by
  constructor
  · intro roomId cmd r hsome hr
    rw [hsome, Option.bind_some, hr] at haccepted
    exact haccepted
  · intro uid r hparting
    cases hparting with
    | create _ _ _ hr => exact hempty _ r hr
    | join _ _ _ _ hr => exact hempty _ r hr
    | leave _ _ hr _ => exact hempty _ r hr
    | disconnect _ _ _ _ hr => exact hempty _ r hr

/-- A player alone in a room starts the game and stops a unit. -/
def stopsOne : List (ShardInput (Wire Rat)) :=
  [ShardInput.task (Wire.task MsgId.createRoomReq 1 (Wire.createRoom ⟨"", 1⟩))
      Orders.stored,
    ShardInput.task (Wire.task MsgId.playerReadyReq 1 (Wire.playerReady ⟨1, true⟩))
      Orders.stored,
    ShardInput.task (Wire.task MsgId.stopCmd 1 (Wire.stop [2])) Orders.stored,
    ShardInput.tick Orders.stored]

theorem stopsOne_consumed :
    Prompt (runMachine (logged Wire.codec) (create 0 1) stopsOne).2
      (run Wire.codec 0 1 stopsOne).1 := by
  apply run_commands_consumed
  refine ⟨?_, ?_, ?_, trivial, trivial⟩
  · exact inTime_of_rooms (Table.allAt_empty _) (by decide +kernel)
  · exact inTime_of_rooms (by decide +kernel) (by decide +kernel)
  · exact inTime_of_rooms (by decide +kernel) (by decide +kernel)

/-- The same command, in a room that waits for a second player. -/
def stopsInLobby : List (ShardInput (Wire Rat)) :=
  [ShardInput.task (Wire.task MsgId.createRoomReq 1 (Wire.createRoom ⟨"", 2⟩))
      Orders.stored,
    ShardInput.task (Wire.task MsgId.stopCmd 1 (Wire.stop [2])) Orders.stored]

theorem stopsInLobby_waits :
    ¬ forall inputs : List (ShardInput (Wire Rat)),
      Prompt (runMachine (logged Wire.codec) (create 0 1) inputs).2
        (run Wire.codec 0 1 inputs).1 := by
  intro h
  have hconsumed := (h stopsInLobby).consumed Orders.stored
  generalize hs : (tickRooms Orders.stored (run Wire.codec 0 1 stopsInLobby).1).1 = s
    at hconsumed
  have hwaits : (s.rooms.lookup 1).any (fun r => !r.pending.isEmpty) = true := by
    rw [← hs]
    decide +kernel
  rcases (Option.any_eq_true _ _).mp hwaits with ⟨r, hr, hpending⟩
  rw [hconsumed 1 r hr] at hpending
  cases hpending

end LogicShard

end RtsGame
