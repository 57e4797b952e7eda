import RtsGame.Room.Setup
import RtsGame.Shard.LogicShard

/-!
# What a logic shard can do

Every task and every tick is a sequence of a few elementary moves: messages
without consequences, a room that is created, entered, left or dropped, and a
room that changes from within.  The index agrees with the rooms before and
after every move, and it is this agreement that makes the handlers take no
other branch.
-/

namespace RtsGame

open Scalar

variable {F : Type} [Scalar F]

/-!
## Moves of a room
-/

def ServerMsg.isGameOver : ServerMsg F -> Bool
  | ServerMsg.gameOverNtf _ _ _ => true
  | _ => false

/-- The room whose world a message describes. -/
def ServerMsg.syncRoom : ServerMsg F -> Option Nat
  | ServerMsg.snapshotNtf snapshot => some snapshot.roomId
  | ServerMsg.entitySpawnNtf roomId _ _ => some roomId
  | ServerMsg.entityDespawnNtf roomId _ _ _ => some roomId
  | ServerMsg.worldDeltaNtf delta => some delta.roomId
  | _ => none

/-- A message without consequences for the life cycle. -/
def ShardEvent.isChatter : ShardEvent F -> Bool
  | ShardEvent.sent _ _ msg _ => !msg.isGameOver
  | ShardEvent.ran _ _ => false

/-- A message that does not describe a world either. -/
def ShardEvent.isReply : ShardEvent F -> Bool
  | ShardEvent.sent _ _ msg _ => !msg.isGameOver && msg.syncRoom.isNone
  | ShardEvent.ran _ _ => false

omit [Scalar F] in
theorem ShardEvent.isChatter_of_isReply {e : ShardEvent F}
    (h : e.isReply = true) : e.isChatter = true := by
  cases e with
  | ran call r => cases h
  | sent uids targets msg seq =>
      rw [ShardEvent.isReply, Bool.and_eq_true] at h
      exact h.1

omit [Scalar F] in
theorem chatter_of_replies {events : List (ShardEvent F)}
    (h : forall e, e ∈ events -> e.isReply = true) :
    forall e, e ∈ events -> e.isChatter = true :=
  fun e he => ShardEvent.isChatter_of_isReply (h e he)

/--
What is asked of every player who takes a seat and of every player who leaves a
room in which others stay, with the room before that, and of every tick of a
running game.
-/
structure Policy (F : Type) where
  seats : Nat -> DungeonRoom F -> Prop
  parts : Nat -> DungeonRoom F -> Prop
  ticks : RoomOrders -> DungeonRoom F -> Prop

/-- Nothing is asked. -/
def Policy.free : Policy F :=
  ⟨fun _ _ => True, fun _ _ => True, fun _ _ => True⟩

/-- Changes of a room that keep its players. -/
inductive InnerMove (p : Policy F) :
    DungeonRoom F -> List (ShardEvent F) -> DungeonRoom F -> Prop where
  | ready {r : DungeonRoom F} {uid : Nat} {player : RoomPlayerState}
      (flag : Bool) :
      r.players.lookup uid = some player ->
      InnerMove p r []
        { r with players := r.players.insert uid { player with ready := flag } }
  | start {r : DungeonRoom F} (routes : Routes) (ω : RoomOrders) :
      r.isFull = true -> r.allReady = true -> r.started = false ->
      InnerMove p r (LogicShard.startGame routes ω r).2
        (LogicShard.startGame routes ω r).1
  | enqueue {r : DungeonRoom F} (cmd : PendingCommand F) :
      cmd.ownerUid ∈ r.players -> InnerMove p r [] (r.enqueueCommand cmd)
  | tick {r : DungeonRoom F} (routes : Routes) (ω : RoomOrders) :
      LogicShard.isActive r = true -> p.ticks ω r ->
      InnerMove p r (tickRoom routes ω r.roomId r).2
        (tickRoom routes ω r.roomId r).1

theorem InnerMove.free {p : Policy F} {r r' : DungeonRoom F}
    {events : List (ShardEvent F)} (hmove : InnerMove p r events r') :
    InnerMove Policy.free r events r' := by
  cases hmove with
  | ready flag hp => exact InnerMove.ready flag hp
  | start routes ω hfull hready hlobby =>
      exact InnerMove.start routes ω hfull hready hlobby
  | enqueue cmd huid => exact InnerMove.enqueue cmd huid
  | tick routes ω hactive _ => exact InnerMove.tick routes ω hactive trivial

/-- A player takes a free seat. -/
def DungeonRoom.seated (r : DungeonRoom F) (uid : Nat) : DungeonRoom F :=
  { r with
    players := r.players.insert uid ⟨uid, r.players.size, false⟩
    playerRes := r.playerRes.emplace uid {} }

/-- A player leaves a room in which others stay. -/
inductive LeaveMove (uid : Nat) :
    DungeonRoom F -> List (ShardEvent F) -> DungeonRoom F -> Prop where
  | depart {r : DungeonRoom F} :
      LogicShard.isActive r = false ->
      LeaveMove uid r [] (r.removePlayer uid).1
  | abandon {r : DungeonRoom F} (routes : Routes) (ω : RoomOrders) :
      LogicShard.isActive r = true ->
      LeaveMove uid r
        (broadcastGameOver routes ω ((r.removePlayer uid).1.setGameOver true)
          (LogicShard.firstTeam ω (r.removePlayer uid).1))
        ((r.removePlayer uid).1.setGameOver true)

/-!
## Moves of a shard
-/

/-- The room that a create request makes, before anybody is in it. -/
def freshRoom (roomId : Nat) (roomName : String) (maxPlayers : Nat) :
    DungeonRoom F :=
  DungeonRoom.create roomId roomName (LogicShard.normalizeMaxPlayers maxPlayers)

def LogicShard.nextId (s : LogicShard F) : Nat :=
  s.shardId + s.shardCount * s.nextRoomId

/-- A move of a shard under a policy. -/
inductive ShardMove (p : Policy F) :
    LogicShard F -> List (ShardEvent F) -> LogicShard F -> Prop where
  | route {s : LogicShard F} (routes : Routes) :
      ShardMove p s [] { s with uidRoute := routes }
  | talk {s : LogicShard F} {events : List (ShardEvent F)} :
      (forall e, e ∈ events -> e.isReply = true) -> ShardMove p s events s
  | create {s : LogicShard F} {uid : Nat} (roomName : String)
      (maxPlayers : Nat) :
      s.uidToRoom.lookup uid = none ->
      p.seats uid (freshRoom s.nextId roomName maxPlayers) ->
      ShardMove p s []
        (LogicShard.seat { s with nextRoomId := s.nextRoomId + 1 } uid s.nextId
          ((freshRoom s.nextId roomName maxPlayers).seated uid))
  | enter {s : LogicShard F} {uid roomId : Nat} {r : DungeonRoom F} :
      s.uidToRoom.lookup uid = none -> s.rooms.lookup roomId = some r ->
      r.players.size < r.maxPlayers -> p.seats uid r ->
      ShardMove p s [] (LogicShard.seat s uid roomId (r.seated uid))
  | touch {s : LogicShard F} {uid roomId : Nat} {r : DungeonRoom F} :
      s.uidToRoom.lookup uid = some roomId -> s.rooms.lookup roomId = some r ->
      ShardMove p s [] (LogicShard.seat s uid roomId r)
  | refresh {s : LogicShard F} {roomId : Nat} {r : DungeonRoom F} :
      s.rooms.lookup roomId = some r -> ShardMove p s [] (s.putRoom roomId r)
  | inner {s : LogicShard F} {roomId : Nat} {r r' : DungeonRoom F}
      {events : List (ShardEvent F)} :
      s.rooms.lookup roomId = some r -> InnerMove p r events r' ->
      ShardMove p s events (s.putRoom roomId r')
  | leave {s : LogicShard F} {uid roomId : Nat} {r r' : DungeonRoom F}
      {events : List (ShardEvent F)} :
      s.uidToRoom.lookup uid = some roomId -> s.rooms.lookup roomId = some r ->
      0 < (r.removePlayer uid).1.players.size -> p.parts uid r ->
      LeaveMove uid r events r' ->
      ShardMove p s events
        (LogicShard.putRoom { s with uidToRoom := s.uidToRoom.erase uid }
          roomId r')
  | vanish {s : LogicShard F} {uid roomId : Nat} {r : DungeonRoom F} :
      s.uidToRoom.lookup uid = some roomId -> s.rooms.lookup roomId = some r ->
      (r.removePlayer uid).1.players.size = 0 ->
      ShardMove p s []
        { s with
          uidToRoom := s.uidToRoom.erase uid
          rooms := s.rooms.erase roomId }

/-!
## The index and the rooms
-/

/-- The shape of a room in a shard. -/
structure RoomShape (r : DungeonRoom F) : Prop where
  occupied : 0 < r.players.size
  fits : r.players.size ≤ r.maxPlayers
  maxPos : 1 ≤ r.maxPlayers
  maxLe : r.maxPlayers ≤ 4
  ledgers : forall uid, uid ∈ r.playerRes <-> uid ∈ r.players
  uids : r.players.AllAt fun uid p => p.uid = uid
  keyed : DungeonRoom.Keyed r

/-- The index lists exactly the players of the rooms. -/
structure WellIndexed (s : LogicShard F) : Prop where
  index : forall uid roomId, s.uidToRoom.lookup uid = some roomId <->
    exists r, s.rooms.lookup roomId = some r ∧ uid ∈ r.players
  shapes : s.rooms.AllAt fun _ r => RoomShape r
  ids : s.rooms.AllAt fun roomId r => r.roomId = roomId ∧ roomId < s.nextId
  count : 1 ≤ s.shardCount

/-!
## Rooms keep their shape
-/

namespace DungeonRoom

theorem spawnStartUnit_setup (layout : InitialTeamLayout F)
    (player : RoomPlayerState) (r : DungeonRoom F) (i : Nat) :
    SameSetup r (spawnStartUnit layout player r i) :=
  spawnUnit_setup r _ _ _ _ _ _ _

theorem spawnStartField_setup (layout : InitialTeamLayout F)
    (r : DungeonRoom F) (entry : Nat × Rat × Rat × UInt32) :
    SameSetup r (spawnStartField layout r entry) :=
  spawnResourceField_setup r _ _ _

omit [Scalar F] in
/-- What every body of a loop preserves, the loop preserves. -/
theorem foldl_setup {item : Type} {f : DungeonRoom F -> item -> DungeonRoom F}
    (hbody : forall r x, Keyed r -> SameSetup r (f r x) ∧ Keyed (f r x))
    (items : List item) {r : DungeonRoom F} (hr : Keyed r) :
    SameSetup r (items.foldl f r) ∧ Keyed (items.foldl f r) := by
  induction items generalizing r with
  | nil =>
      exact ⟨SameSetup.refl r, hr⟩
  | cons x rest ih =>
      rcases hbody r x hr with ⟨hsame, hkeyed⟩
      rcases ih hkeyed with ⟨hlater, hfinal⟩
      exact ⟨hsame.trans hlater, hfinal⟩

theorem spawnBase_setup (r : DungeonRoom F) (player : RoomPlayerState)
    (hr : Keyed r) :
    SameSetup r (spawnBase r player) ∧ Keyed (spawnBase r player) := by
  unfold spawnBase
  dsimp only
  have hcrystal := hr.spawnBuilding player.uid player.team kBuildingCrystal
    (initialLayoutForTeam player.team : InitialTeamLayout F).barracks
    (directionYaw (initialLayoutForTeam player.team : InitialTeamLayout F).forward)
    false
  rcases foldl_setup (f := spawnStartUnit
      (initialLayoutForTeam player.team : InitialTeamLayout F) player)
      (fun r i hr => ⟨spawnStartUnit_setup _ _ r i, hr.spawnUnit _ _ _ _ _ _ _⟩)
      (List.range kStartUnitsPerPlayer) hcrystal with ⟨hunits, hkeyed⟩
  rcases foldl_setup (f := spawnStartField
      (initialLayoutForTeam player.team : InitialTeamLayout F))
      (fun r e hr => ⟨spawnStartField_setup _ r e, hr.spawnResourceField _ _ _⟩)
      startFields hkeyed with ⟨hfields, hfinal⟩
  exact ⟨(spawnBuilding_setup r _ _ _ _ _ _).trans (hunits.trans hfields), hfinal⟩

theorem spawnInitialUnits_setup (ω : RoomOrders) {r : DungeonRoom F}
    (hr : Keyed r) :
    SameSetup r (spawnInitialUnits ω r) ∧ Keyed (spawnInitialUnits ω r) :=
  foldl_setup (fun r p hr => spawnBase_setup r p hr) _ hr

theorem beforeStep_setup {r : DungeonRoom F} (hr : Keyed r) :
    SameSetup r r.beforeStep ∧ Keyed r.beforeStep := by
  have hsame := applyPending_setup hr
  have htaken : SameSetup r.applyPending r.beforeStep :=
    ⟨rfl, rfl, rfl, rfl, rfl, rfl, rfl, rfl, fun _ => Iff.rfl⟩
  exact ⟨hsame.trans htaken, hr.applyPending.congr rfl rfl rfl rfl rfl⟩

theorem afterStep_setup {r : DungeonRoom F} (hr : Keyed r) (ω : RoomOrders) :
    SameSetup r (r.afterStep ω) ∧ Keyed (r.afterStep ω) := by
  rcases beforeStep_setup hr with ⟨hbefore, hkeyed⟩
  have hstep := step_setup r.beforeStep ω.world kTickSeconds
  have hcount : SameSetup (r.beforeStep.step ω.world kTickSeconds)
      (r.afterStep ω) :=
    ⟨rfl, rfl, rfl, rfl, rfl, rfl, rfl, rfl, fun _ => Iff.rfl⟩
  exact ⟨hbefore.trans (hstep.trans hcount),
    (hkeyed.step ω.world kTickSeconds).congr rfl rfl rfl rfl rfl⟩

end DungeonRoom

/-- What a tick leaves behind, and when it ends the game. -/
theorem tickRoom_cases (routes : Routes) (ω : RoomOrders) (roomId : Nat)
    (r : DungeonRoom F) :
    ((r.afterStep ω).clearFrameChanges.checkGameOver = none ∧
        (tickRoom routes ω roomId r).1 = (r.afterStep ω).clearFrameChanges) ∨
      exists winner,
        (r.afterStep ω).clearFrameChanges.checkGameOver = some winner ∧
        (tickRoom routes ω roomId r).1 =
          (r.afterStep ω).clearFrameChanges.setGameOver true := by
  unfold tickRoom
  dsimp only
  cases hover : (r.afterStep ω).clearFrameChanges.checkGameOver with
  | none => exact Or.inl ⟨rfl, rfl⟩
  | some winner => exact Or.inr ⟨winner, rfl, rfl⟩

/-- What a change from within keeps. -/
structure Kept (r r' : DungeonRoom F) : Prop where
  roomId : r'.roomId = r.roomId
  maxPlayers : r'.maxPlayers = r.maxPlayers
  size : r'.players.size = r.players.size
  players : forall uid, uid ∈ r'.players <-> uid ∈ r.players
  ledgers : forall uid, uid ∈ r'.playerRes <-> uid ∈ r.playerRes

omit [Scalar F] in
theorem Kept.of_players {r r' : DungeonRoom F} (hroom : r'.roomId = r.roomId)
    (hmax : r'.maxPlayers = r.maxPlayers) (hplayers : r'.players = r.players)
    (hledgers : forall uid, uid ∈ r'.playerRes <-> uid ∈ r.playerRes) :
    Kept r r' := by
  refine ⟨hroom, hmax, ?_, ?_, hledgers⟩
  · rw [hplayers]
  · intro uid
    rw [hplayers]

omit [Scalar F] in
theorem ready_kept {r : DungeonRoom F} {uid : Nat} {player : RoomPlayerState}
    (hp : r.players.lookup uid = some player) (flag : Bool) :
    Kept r
      { r with
        players := r.players.insert uid { player with ready := flag } } := by
  have hmem : uid ∈ r.players := Table.mem_of_lookup hp
  refine ⟨rfl, rfl, Table.size_insert_of_mem _ hmem, ?_, fun _ => Iff.rfl⟩
  intro other
  change other ∈ r.players.insert uid _ <-> _
  rw [AList.mem_insert]
  constructor
  · rintro (rfl | hother)
    · exact hmem
    · exact hother
  · exact Or.inr

theorem startGame_kept (routes : Routes) (ω : RoomOrders) {r : DungeonRoom F}
    (hr : DungeonRoom.Keyed r) :
    Kept r (LogicShard.startGame routes ω r).1 ∧
      DungeonRoom.Keyed (LogicShard.startGame routes ω r).1 := by
  have hstarted : DungeonRoom.Keyed (r.setStarted true) :=
    hr.congr rfl rfl rfl rfl rfl
  rcases DungeonRoom.spawnInitialUnits_setup ω hstarted with ⟨hsame, hkeyed⟩
  constructor
  · apply Kept.of_players
    · exact hsame.roomId
    · exact hsame.maxPlayers
    · exact hsame.players
    · intro uid
      exact (DungeonRoom.mem_beginBattle_playerRes _ uid).trans
        (hsame.ledgers uid)
  · exact hkeyed.congr rfl rfl rfl rfl rfl

theorem tickRoom_kept (routes : Routes) (ω : RoomOrders) (roomId : Nat)
    {r : DungeonRoom F} (hr : DungeonRoom.Keyed r) :
    Kept r (tickRoom routes ω roomId r).1 ∧
      DungeonRoom.Keyed (tickRoom routes ω roomId r).1 := by
  rcases DungeonRoom.afterStep_setup hr ω with ⟨hsame, hkeyed⟩
  rcases tickRoom_cases routes ω roomId r with ⟨_, heq⟩ | ⟨winner, _, heq⟩
  · rw [heq]
    exact ⟨Kept.of_players hsame.roomId hsame.maxPlayers hsame.players
      hsame.ledgers, hkeyed.congr rfl rfl rfl rfl rfl⟩
  · rw [heq]
    exact ⟨Kept.of_players hsame.roomId hsame.maxPlayers hsame.players
      hsame.ledgers, hkeyed.congr rfl rfl rfl rfl rfl⟩

theorem InnerMove.kept {p : Policy F} {r r' : DungeonRoom F}
    {events : List (ShardEvent F)}
    (hr : DungeonRoom.Keyed r) (hmove : InnerMove p r events r') :
    Kept r r' ∧ DungeonRoom.Keyed r' := by
  cases hmove with
  | ready flag hp => exact ⟨ready_kept hp flag, hr.congr rfl rfl rfl rfl rfl⟩
  | start routes ω _ _ _ => exact startGame_kept routes ω hr
  | enqueue cmd _ =>
      exact ⟨Kept.of_players rfl rfl rfl fun _ => Iff.rfl,
        hr.congr rfl rfl rfl rfl rfl⟩
  | tick routes ω _ _ => exact tickRoom_kept routes ω r.roomId hr

/-- Players stay listed under their own uid. -/
theorem InnerMove.uids {p : Policy F} {r r' : DungeonRoom F}
    {events : List (ShardEvent F)}
    (h : RoomShape r) (hmove : InnerMove p r events r') :
    r'.players.AllAt fun uid p => p.uid = uid := by
  cases hmove with
  | @ready uid player flag hp => exact h.uids.insert (h.uids uid player hp)
  | start routes ω _ _ _ =>
      have hstarted : DungeonRoom.Keyed (r.setStarted true) :=
        h.keyed.congr rfl rfl rfl rfl rfl
      have hsame := (DungeonRoom.spawnInitialUnits_setup ω hstarted).1
      change Table.AllAt _ (spawnInitialUnits ω (r.setStarted true)).players
      rw [hsame.players]
      exact h.uids
  | enqueue cmd _ => exact h.uids
  | tick routes ω _ _ =>
      have hsame := (DungeonRoom.afterStep_setup h.keyed ω).1
      rcases tickRoom_cases routes ω r.roomId r with ⟨_, heq⟩ | ⟨_, _, heq⟩
      · rw [heq]
        change Table.AllAt _ (r.afterStep ω).players
        rw [hsame.players]
        exact h.uids
      · rw [heq]
        change Table.AllAt _ (r.afterStep ω).players
        rw [hsame.players]
        exact h.uids

theorem InnerMove.shape {p : Policy F} {r r' : DungeonRoom F}
    {events : List (ShardEvent F)}
    (h : RoomShape r) (hmove : InnerMove p r events r') : RoomShape r' := by
  rcases hmove.kept h.keyed with ⟨hkept, hkeyed⟩
  constructor
  · rw [hkept.size]
    exact h.occupied
  · rw [hkept.size, hkept.maxPlayers]
    exact h.fits
  · rw [hkept.maxPlayers]
    exact h.maxPos
  · rw [hkept.maxPlayers]
    exact h.maxLe
  · intro uid
    rw [hkept.ledgers, hkept.players]
    exact h.ledgers uid
  · exact hmove.uids h
  · exact hkeyed

omit [Scalar F] in
theorem RoomShape.seated {r : DungeonRoom F} (hfits : r.players.size < r.maxPlayers)
    (hmax : r.maxPlayers ≤ 4) (hledgers : forall uid, uid ∈ r.playerRes <-> uid ∈ r.players)
    (huids : r.players.AllAt fun uid p => p.uid = uid)
    (hkeyed : DungeonRoom.Keyed r) {uid : Nat} (hnew : uid ∉ r.players) :
    RoomShape (r.seated uid) := by
  have hnone : r.playerRes.lookup uid = none := by
    rw [AList.lookup_eq_none, hledgers]
    exact hnew
  have hsize : (r.seated uid).players.size = r.players.size + 1 :=
    Table.size_insert_of_notMem _ hnew
  have hmaxeq : (r.seated uid).maxPlayers = r.maxPlayers := rfl
  refine ⟨by lia, by lia, by lia, hmax, ?_, huids.insert rfl,
    hkeyed.congr rfl rfl rfl rfl rfl⟩
  intro other
  change other ∈ r.playerRes.emplace uid {} <-> other ∈ r.players.insert uid _
  rw [Table.emplace_of_none _ hnone, AList.mem_insert, AList.mem_insert,
    hledgers other]

omit [Scalar F] in
theorem LeaveMove.frame {uid : Nat} {r r' : DungeonRoom F}
    {events : List (ShardEvent F)} (hmove : LeaveMove uid r events r') :
    r'.roomId = r.roomId ∧ r'.maxPlayers = r.maxPlayers ∧
      r'.players = r.players.erase uid ∧
      r'.playerRes = r.playerRes.erase uid ∧
      (DungeonRoom.Keyed r -> DungeonRoom.Keyed r') := by
  cases hmove with
  | depart _ =>
      exact ⟨rfl, rfl, rfl, rfl, fun hr => hr.congr rfl rfl rfl rfl rfl⟩
  | abandon routes ω _ =>
      exact ⟨rfl, rfl, rfl, rfl, fun hr => hr.congr rfl rfl rfl rfl rfl⟩

omit [Scalar F] in
theorem LeaveMove.shape {uid : Nat} {r r' : DungeonRoom F}
    {events : List (ShardEvent F)} (h : RoomShape r) (huid : uid ∈ r.players)
    (hothers : 0 < (r.removePlayer uid).1.players.size)
    (hmove : LeaveMove uid r events r') : RoomShape r' := by
  rcases hmove.frame with ⟨_, hmax, hplayers, hres, hkeyed⟩
  have hsize := Table.size_erase huid
  have hfits := h.fits
  refine ⟨?_, ?_, ?_, ?_, ?_, ?_, hkeyed h.keyed⟩
  · rw [hplayers]
    exact hothers
  · rw [hplayers, hmax]
    lia
  · rw [hmax]
    exact h.maxPos
  · rw [hmax]
    exact h.maxLe
  · intro other
    rw [hplayers, hres, AList.mem_erase, AList.mem_erase, h.ledgers other]
  · rw [hplayers]
    exact h.uids.erase uid

end RtsGame
