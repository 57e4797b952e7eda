import RtsGame.Shard.Games

/-!
# The end of a game

Three paths end a game: the check after a tick, a leave request, and leaving by
other means.  The check counts standing crystals; the leave paths declare the
team of the first remaining player the winner, whatever the others have left.
-/

namespace RtsGame

open Scalar
open DungeonRoom

variable {B F : Type} [Scalar F]

/--
Nobody leaves a running game unless those who stay are on one team.
-/
def oneTeamStays : Policy F where
  seats := fun _ _ => True
  parts := fun uid r => LogicShard.isActive r = true -> OneTeamWithout uid r
  ticks := fun _ _ => True

/-- A game that is declared over is decided, for the declared winner. -/
def ShardEvent.endsDecided : ShardEvent F -> Prop
  | ShardEvent.ran (RoomCall.broadcastGameOver winner) r => Decided r winner
  | _ => True

theorem endsDecided_chatter (e : ShardEvent F) (h : e.isChatter = true) :
    e.endsDecided := by
  cases e with
  | ran call r => cases h
  | sent uids targets msg seq => trivial

theorem endsDecided_broadcast (routes : Routes) (ω : RoomOrders)
    {r : DungeonRoom F} {winner : Nat} (h : Decided r winner) :
    forall e, e ∈ broadcastGameOver routes ω r winner -> e.endsDecided := by
  intro e he
  rcases List.mem_cons.mp he with rfl | hsent
  · exact h
  · rcases eq_of_mem_sendToPlayers hsent with ⟨targets, rfl⟩
    trivial

theorem endsDecided_startGame (routes : Routes) (ω : RoomOrders)
    (r : DungeonRoom F) :
    forall e, e ∈ (LogicShard.startGame routes ω r).2 -> e.endsDecided := by
  intro e he
  rcases List.mem_append.mp he with hfront | hsnapshot
  · rcases List.mem_append.mp hfront with hstart | hran
    · exact endsDecided_chatter e (ShardEvent.isChatter_of_isReply
        (broadcastGameStart_reply routes ω _ e hstart))
    · rcases List.mem_cons.mp hran with rfl | hbegin
      · trivial
      · rw [List.mem_singleton] at hbegin
        rw [hbegin]
        trivial
  · exact endsDecided_chatter e (sendFullSnapshot_chatter routes ω _ e hsnapshot)

/-- The check after a tick ends only decided games. -/
theorem endsDecided_tickRoom (routes : Routes) (ω : RoomOrders)
    {r : DungeonRoom F} (h : GameState r)
    (hactive : LogicShard.isActive r = true) :
    forall e, e ∈ (tickRoom routes ω r.roomId r).2 -> e.endsDecided := by
  have hstarted : r.started = true := by
    simp only [LogicShard.isActive, Bool.and_eq_true] at hactive
    exact hactive.1
  have hticked := afterStep_ticked (h.stocked hstarted) (h.aimed hstarted)
    (h.running hactive).toFought ω
  intro e he
  rcases tickRoom_events routes ω r.roomId r he with hquiet | hran | hover
  · exact endsDecided_chatter e hquiet
  · rw [hran]
    trivial
  · rcases hover with ⟨winner, hsome, hmem⟩
    rcases hticked.fought.check with ⟨hnone, _⟩ | ⟨winner', hsome', hdecided⟩
    · rw [hnone] at hsome
      cases hsome
    · rw [hsome] at hsome'
      injection hsome' with hsame
      rw [← hsame] at hdecided
      exact endsDecided_broadcast routes ω (hdecided.setGameOver) e hmem

/-- So does a departure after which one team is left. -/
theorem endsDecided_departure {uid : Nat} {r r' : DungeonRoom F}
    {events : List (ShardEvent F)} (h : GameState r) (huid : uid ∈ r.players)
    (hothers : 0 < (r.removePlayer uid).1.players.size)
    (hparts : oneTeamStays.parts uid r) (hmove : LeaveMove uid r events r') :
    forall e, e ∈ events -> e.endsDecided := by
  cases hmove with
  | depart _ =>
      intro e he
      cases he
  | abandon routes ω hactive =>
      apply endsDecided_broadcast
      apply Decided.setGameOver
      have hvalues : forall p, p ∈ (r.removePlayer uid).1.playerList ω.players <->
          exists v, (r.removePlayer uid).1.players.lookup v = some p :=
        fun p => IterOrder.mem_values
      unfold LogicShard.firstTeam
      cases hlist : (r.removePlayer uid).1.playerList ω.players with
      | nil =>
          have hnobody : forall v, v ∉ (r.removePlayer uid).1.players := by
            intro v hv
            rcases Table.mem_iff_lookup.mp hv with ⟨p, hp⟩
            have hmem := (hvalues p).mpr ⟨v, hp⟩
            rw [hlist] at hmem
            cases hmem
          have hzero := Table.size_eq_zero_iff.mpr hnobody
          lia
      | cons first rest =>
          have hmem : first ∈ (r.removePlayer uid).1.playerList ω.players := by
            rw [hlist]
            exact List.mem_cons_self
          rcases (hvalues first).mp hmem with ⟨v, hv⟩
          exact (h.running hactive).departure huid (hparts hactive) hv

theorem victoryRule :
    RoomRule oneTeamStays (GameState (F := F)) ShardEvent.endsDecided where
  chatter := endsDecided_chatter
  fresh := freshRoom_gameState
  enter := by
    intro r uid hshape h hnew hfits _
    exact h.seated hshape hnew hfits
  inner := by
    intro r events r' hshape h hmove
    refine ⟨hmove.gameState hshape h, ?_⟩
    cases hmove with
    | ready flag _ =>
        intro e he
        cases he
    | start routes ω _ _ _ => exact endsDecided_startGame routes ω r
    | enqueue cmd _ =>
        intro e he
        cases he
    | tick routes ω hactive _ => exact endsDecided_tickRoom routes ω h hactive
  leave := by
    intro r events r' uid _ h huid hothers hparts hmove
    exact ⟨hmove.gameState h hothers,
      endsDecided_departure h huid hothers hparts hmove⟩

/-!
## Announcements
-/

/--
Every final message in the events belongs to a declaration: it names the room
and the winner, and it is for the players of the room.
-/
def Announced (events : List (ShardEvent F)) : Prop :=
  forall uids targets roomId tick team seq,
    ShardEvent.sent uids targets (ServerMsg.gameOverNtf roomId tick team) seq ∈
      events ->
    exists winner r,
      ShardEvent.ran (RoomCall.broadcastGameOver winner) r ∈ events ∧
        r.roomId = roomId ∧ r.serverTick = tick ∧ toProtoTeam winner = team ∧
        forall uid, uid ∈ uids <-> uid ∈ r.players

omit [Scalar F] in
theorem announced_chatter {events : List (ShardEvent F)}
    (h : forall e, e ∈ events -> e.isChatter = true) : Announced events := by
  intro uids targets roomId tick team seq hsent
  cases h _ hsent

omit [Scalar F] in
theorem announced_nil : Announced ([] : List (ShardEvent F)) := by
  intro uids targets roomId tick team seq hsent
  cases hsent

omit [Scalar F] in
theorem Announced.append {front back : List (ShardEvent F)}
    (hfront : Announced front) (hback : Announced back) :
    Announced (front ++ back) := by
  intro uids targets roomId tick team seq hsent
  rcases List.mem_append.mp hsent with hmem | hmem
  · rcases hfront uids targets roomId tick team seq hmem with
      ⟨winner, r, hran, hrest⟩
    exact ⟨winner, r, List.mem_append_left back hran, hrest⟩
  · rcases hback uids targets roomId tick team seq hmem with
      ⟨winner, r, hran, hrest⟩
    exact ⟨winner, r, List.mem_append_right front hran, hrest⟩

omit [Scalar F] in
theorem announced_broadcast (routes : Routes) (ω : RoomOrders)
    (r : DungeonRoom F) (winner : Nat) :
    Announced (broadcastGameOver routes ω r winner) := by
  intro uids targets roomId tick team seq hsent
  rcases List.mem_cons.mp hsent with hran | hmem
  · cases hran
  · rcases eq_of_mem_sendToPlayers hmem with ⟨_, heq⟩
    cases heq
    exact ⟨winner, r, List.mem_cons_self, rfl, rfl, rfl,
      fun _ => IterOrder.mem_visit⟩

theorem announced_startGame (routes : Routes) (ω : RoomOrders)
    (r : DungeonRoom F) : Announced (LogicShard.startGame routes ω r).2 := by
  apply Announced.append
  · apply Announced.append
    · exact announced_chatter (chatter_of_replies (broadcastGameStart_reply routes ω _))
    · intro uids targets roomId tick team seq hsent
      simp at hsent
  · exact announced_chatter (sendFullSnapshot_chatter routes ω _)

theorem announced_tickRoom (routes : Routes) (ω : RoomOrders) (roomId : Nat)
    (r : DungeonRoom F) : Announced (tickRoom routes ω roomId r).2 := by
  have hfront : Announced
      ((r.applyPending.takeRejected.2.flatMap fun rej =>
        sendCommandRejected routes rej.uid roomId rej.clientSeq
          rej.code.toErrorCode "command rejected") ++
        [ShardEvent.ran RoomCall.step r.beforeStep] ++
        syncEvents routes ω (r.afterStep ω)) := by
    apply Announced.append
    · apply Announced.append
      · exact announced_chatter (chatter_of_replies (rejections_reply routes roomId _))
      · intro uids targets roomId tick team seq hsent
        simp at hsent
    · exact announced_chatter (syncEvents_chatter routes ω _)
  unfold tickRoom
  dsimp only
  split
  · exact hfront
  · exact hfront.append (announced_broadcast routes ω _ _)

theorem ShardMove.announced {p : Policy F} {s s' : LogicShard F}
    {events : List (ShardEvent F)} (hmove : ShardMove p s events s') :
    Announced events := by
  cases hmove with
  | route routes => exact announced_nil
  | talk hreply =>
      exact announced_chatter (chatter_of_replies hreply)
  | create roomName maxPlayers _ _ => exact announced_nil
  | enter _ _ _ _ => exact announced_nil
  | touch _ _ => exact announced_nil
  | refresh _ => exact announced_nil
  | inner _ hinner =>
      cases hinner with
      | ready flag _ => exact announced_nil
      | start routes ω _ _ _ => exact announced_startGame routes ω _
      | enqueue cmd _ => exact announced_nil
      | tick routes ω _ _ => exact announced_tickRoom routes ω _ _
  | leave _ _ _ _ hleave =>
      cases hleave with
      | depart _ => exact announced_nil
      | abandon routes ω _ => exact announced_broadcast routes ω _ _
  | vanish _ _ _ => exact announced_nil

/-- Every final message of a run belongs to a declaration. -/
theorem run_announced (codec : Codec B F) (shardId shardCount : Nat)
    (inputs : List (LogicShard.ShardInput B)) :
    Announced (LogicShard.run codec shardId shardCount inputs).2 := by
  have hall := Moves.invariant (fun past _ => Announced past)
    (fun past s events s' hpast hmove => hpast.append hmove.announced)
    (run_moves codec shardId shardCount inputs) [] announced_nil
  exact hall

/-!
## Ends of games in runs
-/

/-- Whoever leaves a running game by this input leaves one team behind. -/
def PartsFromOneTeam (codec : Codec B F) (s : LogicShard F) :
    LogicShard.ShardInput B -> Prop
  | LogicShard.ShardInput.task task _ =>
      forall uid r, Parting codec s task uid r ->
        LogicShard.isActive r = true -> OneTeamWithout uid r
  | LogicShard.ShardInput.tick _ => True

omit [Scalar F] in
theorem partsFromOneTeam_of_rooms {codec : Codec B F} {s : LogicShard F}
    {task : LogicTask B} {ω : Orders}
    (hmsg : task.msgId ≠ MsgId.clientDisconnectedNtf)
    (h : s.rooms.AllAt fun _ r => LogicShard.isActive r = true ->
      OneTeamWithout task.uid r) :
    PartsFromOneTeam codec s (LogicShard.ShardInput.task task ω) := by
  intro uid r hparting
  cases hparting with
  | create _ _ _ hr => exact h _ r hr
  | join _ _ _ _ hr => exact h _ r hr
  | leave _ _ hr _ => exact h _ r hr
  | disconnect hdisconnect _ _ _ _ => exact absurd hdisconnect hmsg

/--
In every run in which every player who leaves a running game leaves players of
only one team behind: whenever a game ends, by any path, the players of the
room whose crystals stand are on one team, which is announced as the winner,
and no team is announced if there are none.
-/
theorem run_games_decided (codec : Codec B F) (shardId shardCount : Nat)
    (inputs : List (LogicShard.ShardInput B))
    (hparts : Along (LogicShard.handle codec) (PartsFromOneTeam codec)
      (LogicShard.create shardId shardCount) inputs) :
    let events := (LogicShard.run codec shardId shardCount inputs).2
    (forall winner r,
      ShardEvent.ran (RoomCall.broadcastGameOver winner) r ∈ events ->
      Decided r winner) ∧ Announced events := by
  have hall := victoryRule.along codec shardId shardCount inputs
    (hparts.mono fun s i hi => by
      cases i with
      | tick ω => exact fun _ _ _ _ => trivial
      | task task ω => exact ⟨fun _ _ _ => trivial, hi⟩)
  refine ⟨?_, run_announced codec shardId shardCount inputs⟩
  intro winner r hran
  exact hall.2 _ hran

/-- Two players start a game and one of them leaves it. -/
def oneOfTwoLeaves : List (LogicShard.ShardInput (Wire Rat)) :=
  [LogicShard.asks MsgId.createRoomReq 1 (Wire.createRoom ⟨"", 2⟩),
    LogicShard.asks MsgId.joinRoomReq 2 (Wire.joinRoom 1),
    LogicShard.asks MsgId.playerReadyReq 1 (Wire.playerReady ⟨1, true⟩),
    LogicShard.asks MsgId.playerReadyReq 2 (Wire.playerReady ⟨1, true⟩),
    LogicShard.asks MsgId.leaveRoomReq 1 (Wire.leaveRoom 1)]

/-- Three players start a game and one of them leaves it. -/
def oneOfThreeLeaves : List (LogicShard.ShardInput (Wire Rat)) :=
  [LogicShard.asks MsgId.createRoomReq 1 (Wire.createRoom ⟨"", 3⟩),
    LogicShard.asks MsgId.joinRoomReq 2 (Wire.joinRoom 1),
    LogicShard.asks MsgId.joinRoomReq 3 (Wire.joinRoom 1),
    LogicShard.asks MsgId.playerReadyReq 1 (Wire.playerReady ⟨1, true⟩),
    LogicShard.asks MsgId.playerReadyReq 2 (Wire.playerReady ⟨1, true⟩),
    LogicShard.asks MsgId.playerReadyReq 3 (Wire.playerReady ⟨1, true⟩),
    LogicShard.asks MsgId.leaveRoomReq 1 (Wire.leaveRoom 1)]

theorem oneOfTwoLeaves_decided :
    let events := (LogicShard.run Wire.codec 0 1 oneOfTwoLeaves).2
    (forall winner r,
      ShardEvent.ran (RoomCall.broadcastGameOver winner) r ∈ events ->
      Decided r winner) ∧ Announced events := by
  apply run_games_decided
  refine ⟨?_, ?_, ?_, ?_, ?_, trivial⟩
  · exact partsFromOneTeam_of_rooms (by decide) (Table.allAt_empty _)
  · apply partsFromOneTeam_of_rooms (by decide)
    decide +kernel
  · apply partsFromOneTeam_of_rooms (by decide)
    decide +kernel
  · apply partsFromOneTeam_of_rooms (by decide)
    decide +kernel
  · apply partsFromOneTeam_of_rooms (by decide)
    decide +kernel

/-- A crystal of the player stands, as a test. -/
def hasCrystal (r : DungeonRoom Rat) (uid : Nat) : Bool :=
  r.buildings.entries.any fun e =>
    e.2.buildingType = kBuildingCrystal ∧ e.2.ownerUid = uid ∧ lit 0 < e.2.hp

theorem standing_of_hasCrystal {r : DungeonRoom Rat} {uid : Nat}
    {p : RoomPlayerState} (hp : r.players.lookup uid = some p)
    (h : hasCrystal r uid = true) : Standing r uid p := by
  rcases List.any_eq_true.mp h with ⟨e, he, hcrystal⟩
  rw [decide_eq_true_eq] at hcrystal
  exact ⟨hp, e.1, e.2, Table.lookup_of_mem_entries he, hcrystal⟩

/-- The game is declared over while the second and the third player stand. -/
def endsWithTwoTeams : ShardEvent Rat -> Bool
  | ShardEvent.ran (RoomCall.broadcastGameOver _) r =>
      r.players.lookup 2 = some ⟨2, 1, true⟩ ∧
        r.players.lookup 3 = some ⟨3, 2, true⟩ ∧ hasCrystal r 2 = true ∧
        hasCrystal r 3 = true
  | _ => false

theorem oneOfThreeLeaves_undecided :
    ¬ forall inputs : List (LogicShard.ShardInput (Wire Rat)),
      let events := (LogicShard.run Wire.codec 0 1 inputs).2
      (forall winner r,
        ShardEvent.ran (RoomCall.broadcastGameOver winner) r ∈ events ->
        Decided r winner) ∧ Announced events := by
  intro h
  have hends : (LogicShard.run Wire.codec 0 1 oneOfThreeLeaves).2.any
      endsWithTwoTeams = true := by
    decide +kernel
  rcases List.any_eq_true.mp hends with ⟨e, he, htwo⟩
  unfold endsWithTwoTeams at htwo
  split at htwo
  · rename_i winner r
    rw [decide_eq_true_eq] at htwo
    rcases htwo with ⟨hsecond, hthird, hcrystal, hcrystal'⟩
    have hdecided := (h oneOfThreeLeaves).1 winner r he
    have hteams := hdecided.oneTeam 2 3 _ _
      (standing_of_hasCrystal hsecond hcrystal)
      (standing_of_hasCrystal hthird hcrystal')
    cases hteams
  · cases htwo

end RtsGame
