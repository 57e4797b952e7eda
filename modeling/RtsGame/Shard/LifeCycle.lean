import RtsGame.Shard.RoomRules

/-!
# The life cycle of a room

A room is a lobby, then a running game, and then it is over.  Four handlers
set the flags, and joining looks at neither of them.  The life of a room is the
list of its starts, steps and final message in the events of a run; it is a
word that its phase determines up to the number of steps.
-/

namespace RtsGame

variable {B F : Type}

inductive RoomPhase where
  | lobby
  | active
  | over
deriving DecidableEq, Repr

inductive LifeStep where
  | spawnInitialUnits
  | beginBattle
  | step
  | gameOverNtf
deriving DecidableEq, Repr

/-- The lives that lead to a phase. -/
inductive Life : RoomPhase -> List LifeStep -> Prop where
  | lobby : Life RoomPhase.lobby []
  | active (n : Nat) :
      Life RoomPhase.active
        (LifeStep.spawnInitialUnits :: LifeStep.beginBattle ::
          List.replicate n LifeStep.step)
  | over (n : Nat) :
      Life RoomPhase.over
        (LifeStep.spawnInitialUnits :: LifeStep.beginBattle ::
          (List.replicate n LifeStep.step ++ [LifeStep.gameOverNtf]))

def DungeonRoom.phase (r : DungeonRoom F) : RoomPhase :=
  if r.gameOver then RoomPhase.over
  else if r.started then RoomPhase.active
  else RoomPhase.lobby

/-- What an event means for the life of a room. -/
def ShardEvent.lifeStep (roomId : Nat) : ShardEvent F -> Option LifeStep
  | ShardEvent.ran RoomCall.spawnInitialUnits r =>
      if r.roomId = roomId then some LifeStep.spawnInitialUnits else none
  | ShardEvent.ran RoomCall.beginBattle r =>
      if r.roomId = roomId then some LifeStep.beginBattle else none
  | ShardEvent.ran RoomCall.step r =>
      if r.roomId = roomId then some LifeStep.step else none
  | ShardEvent.ran (RoomCall.broadcastGameOver _) _ => none
  | ShardEvent.sent _ _ (ServerMsg.gameOverNtf id _ _) _ =>
      if id = roomId then some LifeStep.gameOverNtf else none
  | ShardEvent.sent _ _ _ _ => none

def life (roomId : Nat) (events : List (ShardEvent F)) : List LifeStep :=
  events.filterMap (ShardEvent.lifeStep roomId)

/-!
## Lives of events
-/

@[simp] theorem life_nil (roomId : Nat) :
    life roomId ([] : List (ShardEvent F)) = [] := rfl

@[simp] theorem life_append (roomId : Nat) (front back : List (ShardEvent F)) :
    life roomId (front ++ back) = life roomId front ++ life roomId back :=
  List.filterMap_append

theorem life_chatter {events : List (ShardEvent F)}
    (h : forall e, e ∈ events -> e.isChatter = true) (roomId : Nat) :
    life roomId events = [] := by
  rw [life, List.filterMap_eq_nil_iff]
  intro e he
  have hchatter := h e he
  cases e with
  | ran call r => cases hchatter
  | sent uids targets msg seq =>
      cases msg with
      | gameOverNtf id tick team => cases hchatter
      | _ => rfl

theorem playerUids_isEmpty {r : DungeonRoom F} (h : 0 < r.players.size)
    {ω : IterOrder} : (r.playerUids ω).isEmpty = false := by
  have hlength : (r.playerUids ω).length = r.players.size :=
    (ω.perm r.players.keys).length_eq.trans (Table.keys_length r.players)
  cases huids : r.playerUids ω with
  | nil =>
      rw [huids] at hlength
      exact absurd hlength (by simp; lia)
  | cons uid rest => rfl

/-- The end of a game is announced to the players who are left. -/
theorem life_broadcastGameOver (routes : Routes) (ω : RoomOrders)
    {r : DungeonRoom F} (h : 0 < r.players.size) (winner roomId : Nat) :
    life roomId (broadcastGameOver routes ω r winner) =
      if r.roomId = roomId then [LifeStep.gameOverNtf] else [] := by
  unfold broadcastGameOver sendToPlayers
  rw [playerUids_isEmpty h]
  by_cases hid : r.roomId = roomId
  · simp [life, ShardEvent.lifeStep, List.filterMap_cons, hid]
  · simp [life, ShardEvent.lifeStep, List.filterMap_cons, hid]

variable [Scalar F]

omit [Scalar F] in
theorem broadcastGameStart_reply (routes : Routes) (ω : RoomOrders)
    (r : DungeonRoom F) :
    forall e, e ∈ broadcastGameStart routes ω r -> e.isReply = true := by
  intro e he
  rcases List.mem_flatMap.mp he with ⟨uid, _, hsent⟩
  rcases eq_of_mem_sendToPlayers hsent with ⟨targets, rfl⟩
  rfl

omit [Scalar F] in
theorem sendFullSnapshot_chatter (routes : Routes) (ω : RoomOrders)
    (r : DungeonRoom F) :
    forall e, e ∈ sendFullSnapshot routes ω r -> e.isChatter = true := by
  intro e he
  rcases eq_of_mem_sendToPlayers he with ⟨targets, rfl⟩
  rfl

omit [Scalar F] in
theorem deltaMsgs_not_gameOver (ω : RoomOrders) (r : DungeonRoom F) :
    forall msg, msg ∈ deltaMsgs ω r -> msg.isGameOver = false := by
  intro msg hmsg
  rcases List.mem_append.mp hmsg with hmsg | hmsg
  · rcases List.mem_append.mp hmsg with hmsg | hmsg
    · rcases List.mem_map.mp hmsg with ⟨state, _, rfl⟩
      rfl
    · rcases List.mem_map.mp hmsg with ⟨ref, _, rfl⟩
      rfl
  · split at hmsg
    · rw [List.mem_singleton] at hmsg
      rw [hmsg]
      rfl
    · cases hmsg

omit [Scalar F] in
theorem syncEvents_chatter (routes : Routes) (ω : RoomOrders)
    (r : DungeonRoom F) :
    forall e, e ∈ syncEvents routes ω r -> e.isChatter = true := by
  intro e he
  unfold syncEvents at he
  split at he
  · exact sendFullSnapshot_chatter routes ω r e he
  · rcases List.mem_flatMap.mp he with ⟨msg, hmsg, hsent⟩
    have hover := deltaMsgs_not_gameOver ω r msg hmsg
    rcases eq_of_mem_sendToPlayers hsent with ⟨targets, rfl⟩
    simp [ShardEvent.isChatter, hover]

omit [Scalar F] in
theorem rejections_reply (routes : Routes) (roomId : Nat)
    (rejected : List RejectedCommand) :
    forall e, e ∈ (rejected.flatMap fun rej =>
      (sendCommandRejected routes rej.uid roomId rej.clientSeq
        rej.code.toErrorCode "command rejected" : List (ShardEvent F))) ->
      e.isReply = true := by
  intro e he
  rcases List.mem_flatMap.mp he with ⟨rej, _, hsent⟩
  unfold sendCommandRejected sendToPlayer at hsent
  rcases eq_of_mem_sendToPlayers hsent with ⟨targets, rfl⟩
  rfl

/-- The events of a tick: messages, the step, and perhaps the end of the game. -/
theorem tickRoom_events (routes : Routes) (ω : RoomOrders) (roomId : Nat)
    (r : DungeonRoom F) {e : ShardEvent F}
    (he : e ∈ (tickRoom routes ω roomId r).2) :
    e.isChatter = true ∨ e = ShardEvent.ran RoomCall.step r.beforeStep ∨
      exists winner,
        (r.afterStep ω).clearFrameChanges.checkGameOver = some winner ∧
        e ∈ broadcastGameOver routes ω
          ((r.afterStep ω).clearFrameChanges.setGameOver true) winner := by
  have hfront : forall {e : ShardEvent F}, e ∈
      (r.applyPending.takeRejected.2.flatMap fun rej =>
        sendCommandRejected routes rej.uid roomId rej.clientSeq
          rej.code.toErrorCode "command rejected") ++
        [ShardEvent.ran RoomCall.step r.beforeStep] ++
        syncEvents routes ω (r.afterStep ω) ->
      e.isChatter = true ∨ e = ShardEvent.ran RoomCall.step r.beforeStep := by
    intro e he
    rcases List.mem_append.mp he with hleft | hsync
    · rcases List.mem_append.mp hleft with hrejected | hran
      · exact Or.inl (ShardEvent.isChatter_of_isReply
          (rejections_reply routes roomId _ e hrejected))
      · exact Or.inr (List.mem_singleton.mp hran)
    · exact Or.inl (syncEvents_chatter routes ω _ e hsync)
  unfold tickRoom at he
  dsimp only at he
  split at he
  · rcases hfront he with hquiet | hran
    · exact Or.inl hquiet
    · exact Or.inr (Or.inl hran)
  · rename_i winner hsome
    rcases List.mem_append.mp he with hleft | hover
    · rcases hfront hleft with hquiet | hran
      · exact Or.inl hquiet
      · exact Or.inr (Or.inl hran)
    · exact Or.inr (Or.inr ⟨winner, hsome, hover⟩)

/-!
## Lives of moves
-/

theorem life_startGame (routes : Routes) (ω : RoomOrders) {r : DungeonRoom F}
    (hr : DungeonRoom.Keyed r) (roomId : Nat) :
    life roomId (LogicShard.startGame routes ω r).2 =
      if r.roomId = roomId then
        [LifeStep.spawnInitialUnits, LifeStep.beginBattle] else [] := by
  have hstarted : DungeonRoom.Keyed (r.setStarted true) :=
    hr.congr rfl rfl rfl rfl rfl
  have hspawned : (spawnInitialUnits ω (r.setStarted true)).roomId = r.roomId :=
    (DungeonRoom.spawnInitialUnits_setup ω hstarted).1.roomId
  have hsame : (r.setStarted true).roomId = r.roomId := rfl
  unfold LogicShard.startGame
  dsimp only
  rw [life_append, life_append,
    life_chatter (chatter_of_replies (broadcastGameStart_reply routes ω _)),
    life_chatter (sendFullSnapshot_chatter routes ω _)]
  by_cases hid : r.roomId = roomId
  · simp [life, ShardEvent.lifeStep, hspawned, hsame, hid]
  · simp [life, ShardEvent.lifeStep, hspawned, hsame, hid]

/-- The game ends in a tick exactly if the tick says so. -/
def DungeonRoom.decided (ω : RoomOrders) (r : DungeonRoom F) : Bool :=
  ((r.afterStep ω).clearFrameChanges.checkGameOver).isSome

theorem life_tickRoom (routes : Routes) (ω : RoomOrders) {r : DungeonRoom F}
    (hr : DungeonRoom.Keyed r) (hsize : 0 < r.players.size) (roomId : Nat) :
    life roomId (tickRoom routes ω r.roomId r).2 =
      if r.roomId = roomId then
        LifeStep.step :: (if r.decided ω then [LifeStep.gameOverNtf] else [])
      else [] := by
  have hbefore : r.beforeStep.roomId = r.roomId :=
    (DungeonRoom.beforeStep_setup hr).1.roomId
  have hafter := (DungeonRoom.afterStep_setup hr ω).1
  have hstep : life roomId
      [ShardEvent.ran RoomCall.step r.beforeStep] =
        if r.roomId = roomId then [LifeStep.step] else [] := by
    by_cases hid : r.roomId = roomId
    · simp [life, ShardEvent.lifeStep, hbefore, hid]
    · simp [life, ShardEvent.lifeStep, hbefore, hid]
  unfold tickRoom DungeonRoom.decided
  dsimp only
  cases hover : (r.afterStep ω).clearFrameChanges.checkGameOver with
  | none =>
      dsimp only
      rw [life_append, life_append, hstep,
        life_chatter (chatter_of_replies (rejections_reply routes r.roomId _)),
        life_chatter (syncEvents_chatter routes ω _)]
      simp
  | some winner =>
      dsimp only
      have hleft : 0 <
          ((r.afterStep ω).clearFrameChanges.setGameOver true).players.size := by
        change 0 < (r.afterStep ω).players.size
        rw [hafter.players]
        exact hsize
      have hroom : ((r.afterStep ω).clearFrameChanges.setGameOver true).roomId =
          r.roomId := hafter.roomId
      rw [life_append, life_append, life_append, hstep,
        life_chatter (chatter_of_replies (rejections_reply routes r.roomId _)),
        life_chatter (syncEvents_chatter routes ω _),
        life_broadcastGameOver routes ω hleft, hroom]
      by_cases hid : r.roomId = roomId
      · simp [hid]
      · simp [hid]

/-!
## Phases
-/

/-- The flags of a room, and that a running game is fully occupied. -/
structure Phased (r : DungeonRoom F) : Prop where
  started : r.gameOver = true -> r.started = true
  full : LogicShard.isActive r = true -> r.players.size = r.maxPlayers

omit [Scalar F] in
theorem phase_lobby {r : DungeonRoom F} (h : Phased r)
    (hstarted : r.started = false) : r.phase = RoomPhase.lobby := by
  have hover : r.gameOver = false := by
    cases hg : r.gameOver with
    | false => rfl
    | true =>
        have hs := h.started hg
        rw [hstarted] at hs
        cases hs
  simp [DungeonRoom.phase, hover, hstarted]

omit [Scalar F] in
theorem phase_active {r : DungeonRoom F}
    (h : LogicShard.isActive r = true) : r.phase = RoomPhase.active := by
  simp only [LogicShard.isActive, Bool.and_eq_true, Bool.not_eq_true'] at h
  simp [DungeonRoom.phase, h.1, h.2]

/-- A move of a room leads from phase to phase as its events say. -/
structure PhaseMove (r : DungeonRoom F) (events : List (ShardEvent F))
    (r' : DungeonRoom F) : Prop where
  phased : Phased r'
  own : forall lived, Life r.phase lived ->
    Life r'.phase (lived ++ life r.roomId events)
  others : forall roomId, roomId ≠ r.roomId -> life roomId events = []

omit [Scalar F] in
theorem PhaseMove.tells {r r' : DungeonRoom F} {events : List (ShardEvent F)}
    (h : PhaseMove r events r') :
    Tells ShardEvent.lifeStep (fun lived r => Life r.phase lived) r events r' :=
  ⟨h.own, h.others⟩

omit [Scalar F] in
/-- Silent moves that keep the flags. -/
theorem PhaseMove.silent {r r' : DungeonRoom F} (h : Phased r')
    (hstarted : r'.started = r.started) (hover : r'.gameOver = r.gameOver) :
    PhaseMove r [] r' := by
  refine ⟨h, ?_, fun _ _ => rfl⟩
  intro lived hlife
  have hphase : r'.phase = r.phase := by
    simp [DungeonRoom.phase, hstarted, hover]
  rw [hphase, life_nil, List.append_nil]
  exact hlife

omit [Scalar F] in
theorem Life.step {lived : List LifeStep} (h : Life RoomPhase.active lived) :
    Life RoomPhase.active (lived ++ [LifeStep.step]) := by
  cases h with
  | active n =>
      have hlater := Life.active (n + 1)
      rw [List.replicate_succ'] at hlater
      exact hlater

omit [Scalar F] in
theorem Life.finish {lived : List LifeStep} (h : Life RoomPhase.active lived) :
    Life RoomPhase.over (lived ++ [LifeStep.gameOverNtf]) := by
  cases h with
  | active n => exact Life.over n

theorem start_phaseMove (routes : Routes) (ω : RoomOrders) {r : DungeonRoom F}
    (hshape : RoomShape r) (h : Phased r) (hfull : r.isFull = true)
    (hlobby : r.started = false) :
    PhaseMove r (LogicShard.startGame routes ω r).2
      (LogicShard.startGame routes ω r).1 := by
  have hkept := (startGame_kept routes ω hshape.keyed).1
  have hphase := phase_lobby h hlobby
  have hflags : (LogicShard.startGame routes ω r).1.started = true ∧
      (LogicShard.startGame routes ω r).1.gameOver = false := by
    have hstarted : DungeonRoom.Keyed (r.setStarted true) :=
      hshape.keyed.congr rfl rfl rfl rfl rfl
    have hsame := (DungeonRoom.spawnInitialUnits_setup ω hstarted).1
    constructor
    · exact hsame.started
    · refine hsame.gameOver.trans ?_
      cases hg : r.gameOver with
      | false => exact hg
      | true =>
          have hs := h.started hg
          rw [hlobby] at hs
          cases hs
  have hactive : LogicShard.isActive (LogicShard.startGame routes ω r).1 = true := by
    simp [LogicShard.isActive, hflags.1, hflags.2]
  refine ⟨⟨fun _ => hflags.1, ?_⟩, ?_, ?_⟩
  · intro _
    have hfits := hshape.fits
    have hge : r.maxPlayers ≤ r.players.size := of_decide_eq_true hfull
    rw [hkept.size, hkept.maxPlayers]
    lia
  · intro lived hlife
    rw [hphase] at hlife
    cases hlife with
    | lobby =>
        rw [phase_active hactive, life_startGame routes ω hshape.keyed,
          if_pos rfl]
        exact Life.active 0
  · intro roomId hother
    rw [life_startGame routes ω hshape.keyed, if_neg (Ne.symm hother)]

theorem tick_phaseMove (routes : Routes) (ω : RoomOrders) {r : DungeonRoom F}
    (hshape : RoomShape r) (h : Phased r)
    (hactive : LogicShard.isActive r = true) :
    PhaseMove r (tickRoom routes ω r.roomId r).2
      (tickRoom routes ω r.roomId r).1 := by
  have hkept := (tickRoom_kept routes ω r.roomId hshape.keyed).1
  have hsame := (DungeonRoom.afterStep_setup hshape.keyed ω).1
  have hlife := life_tickRoom routes ω hshape.keyed hshape.occupied
  have hfull : (tickRoom routes ω r.roomId r).1.players.size =
      (tickRoom routes ω r.roomId r).1.maxPlayers := by
    rw [hkept.size, hkept.maxPlayers]
    exact h.full hactive
  have hothers : forall roomId, roomId ≠ r.roomId ->
      life roomId (tickRoom routes ω r.roomId r).2 = [] := by
    intro roomId hother
    rw [hlife roomId, if_neg (Ne.symm hother)]
  have hflags : r.started = true ∧ r.gameOver = false := by
    simpa [LogicShard.isActive] using hactive
  rcases tickRoom_cases routes ω r.roomId r with ⟨hnone, heq⟩ | ⟨winner, hsome, heq⟩
  · have hstarted : (tickRoom routes ω r.roomId r).1.started = true := by
      rw [heq]
      exact hsame.started.trans hflags.1
    have hrunning : (tickRoom routes ω r.roomId r).1.gameOver = false := by
      rw [heq]
      exact hsame.gameOver.trans hflags.2
    refine ⟨⟨fun _ => hstarted, fun _ => hfull⟩, ?_, hothers⟩
    intro lived hlived
    rw [phase_active hactive] at hlived
    have hstill : LogicShard.isActive (tickRoom routes ω r.roomId r).1 = true := by
      simp [LogicShard.isActive, hstarted, hrunning]
    rw [phase_active hstill, hlife r.roomId, if_pos rfl,
      DungeonRoom.decided, hnone]
    exact hlived.step
  · have hstarted : (tickRoom routes ω r.roomId r).1.started = true := by
      rw [heq]
      exact hsame.started.trans hflags.1
    have hover : (tickRoom routes ω r.roomId r).1.gameOver = true := by
      rw [heq]
      rfl
    refine ⟨⟨fun _ => hstarted, fun _ => hfull⟩, ?_, hothers⟩
    intro lived hlived
    rw [phase_active hactive] at hlived
    have hphase : (tickRoom routes ω r.roomId r).1.phase = RoomPhase.over := by
      simp [DungeonRoom.phase, hover]
    rw [hphase, hlife r.roomId, if_pos rfl, DungeonRoom.decided, hsome]
    have hlater := hlived.step.finish
    rw [List.append_assoc] at hlater
    exact hlater

theorem InnerMove.phaseMove {p : Policy F} {r r' : DungeonRoom F}
    {events : List (ShardEvent F)} (hshape : RoomShape r) (h : Phased r)
    (hmove : InnerMove p r events r') : PhaseMove r events r' := by
  cases hmove with
  | ready flag hp =>
      have hkept := ready_kept hp flag
      refine PhaseMove.silent ⟨h.started, ?_⟩ rfl rfl
      intro hactive
      rw [hkept.size]
      exact h.full hactive
  | start routes ω hfull _ hlobby =>
      exact start_phaseMove routes ω hshape h hfull hlobby
  | enqueue cmd _ => exact PhaseMove.silent ⟨h.started, h.full⟩ rfl rfl
  | tick routes ω hactive _ => exact tick_phaseMove routes ω hshape h hactive

omit [Scalar F] in
theorem LeaveMove.phaseMove {uid : Nat} {r r' : DungeonRoom F}
    {events : List (ShardEvent F)} (h : Phased r)
    (hothers : 0 < (r.removePlayer uid).1.players.size)
    (hmove : LeaveMove uid r events r') : PhaseMove r events r' := by
  cases hmove with
  | depart hidle =>
      refine PhaseMove.silent ⟨h.started, ?_⟩ rfl rfl
      intro hactive
      change LogicShard.isActive r = true at hactive
      rw [hidle] at hactive
      cases hactive
  | abandon routes ω hactive =>
      have hlife := life_broadcastGameOver routes ω
        (r := (r.removePlayer uid).1.setGameOver true) hothers
        (LogicShard.firstTeam ω (r.removePlayer uid).1)
      have hstarted : r.started = true := by
        simp only [LogicShard.isActive, Bool.and_eq_true] at hactive
        exact hactive.1
      refine ⟨⟨fun _ => hstarted, ?_⟩, ?_, ?_⟩
      · intro hstill
        simp [LogicShard.isActive, DungeonRoom.setGameOver] at hstill
      · intro lived hlived
        rw [phase_active hactive] at hlived
        have hphase : ((r.removePlayer uid).1.setGameOver true).phase =
            RoomPhase.over := rfl
        have hroom : ((r.removePlayer uid).1.setGameOver true).roomId =
            r.roomId := rfl
        rw [hphase, hlife r.roomId, if_pos hroom]
        exact hlived.finish
      · intro roomId hother
        rw [hlife roomId]
        exact if_neg (Ne.symm hother)

/-!
## Starts
-/

/-- A start happens in a full room whose players are all ready. -/
def ShardEvent.startsReady : ShardEvent F -> Prop
  | ShardEvent.ran RoomCall.spawnInitialUnits r =>
      r.isFull = true ∧ r.allReady = true
  | ShardEvent.ran RoomCall.beginBattle r => r.isFull = true ∧ r.allReady = true
  | _ => True

omit [Scalar F] in
theorem startsReady_chatter (e : ShardEvent F) (h : e.isChatter = true) :
    e.startsReady := by
  cases e with
  | sent uids targets msg seq => trivial
  | ran call r => cases h

omit [Scalar F] in
theorem startsReady_gameOver (routes : Routes) (ω : RoomOrders)
    (r : DungeonRoom F) (winner : Nat) :
    forall e, e ∈ broadcastGameOver routes ω r winner -> e.startsReady := by
  intro e he
  rcases List.mem_cons.mp he with rfl | hsent
  · trivial
  · rcases eq_of_mem_sendToPlayers hsent with ⟨targets, rfl⟩
    trivial

theorem startsReady_startGame (routes : Routes) (ω : RoomOrders)
    {r : DungeonRoom F} (hr : DungeonRoom.Keyed r) (hfull : r.isFull = true)
    (hready : r.allReady = true) :
    forall e, e ∈ (LogicShard.startGame routes ω r).2 -> e.startsReady := by
  have hstarted : DungeonRoom.Keyed (r.setStarted true) :=
    hr.congr rfl rfl rfl rfl rfl
  have hsame := (DungeonRoom.spawnInitialUnits_setup ω hstarted).1
  have hspawned : (spawnInitialUnits ω (r.setStarted true)).isFull = true ∧
      (spawnInitialUnits ω (r.setStarted true)).allReady = true := by
    unfold DungeonRoom.isFull DungeonRoom.allReady DungeonRoom.isEmpty
    rw [hsame.players, hsame.maxPlayers]
    exact ⟨hfull, hready⟩
  intro e he
  rcases List.mem_append.mp he with hfront | hsnapshot
  · rcases List.mem_append.mp hfront with hstart | hran
    · exact startsReady_chatter e (ShardEvent.isChatter_of_isReply
        (broadcastGameStart_reply routes ω _ e hstart))
    · rcases List.mem_cons.mp hran with rfl | hbegin
      · exact ⟨hfull, hready⟩
      · rw [List.mem_singleton] at hbegin
        rw [hbegin]
        exact hspawned
  · exact startsReady_chatter e (sendFullSnapshot_chatter routes ω _ e hsnapshot)

theorem startsReady_tickRoom (routes : Routes) (ω : RoomOrders) (roomId : Nat)
    (r : DungeonRoom F) :
    forall e, e ∈ (tickRoom routes ω roomId r).2 -> e.startsReady := by
  intro e he
  rcases tickRoom_events routes ω roomId r he with hquiet | hran | ⟨_, _, hover⟩
  · exact startsReady_chatter e hquiet
  · rw [hran]
    trivial
  · exact startsReady_gameOver routes ω _ _ e hover

/-- Rooms keep their phases, and games start in full rooms. -/
theorem phasedRule :
    RoomRule Policy.free (Phased (F := F)) ShardEvent.startsReady where
  chatter := startsReady_chatter
  fresh := by
    intro roomId roomName maxPlayers uid
    constructor
    · intro hover
      cases hover
    · intro hactive
      cases hactive
  enter := by
    intro r uid _ h _ hfits _
    refine ⟨h.started, ?_⟩
    intro hactive
    have hfull := h.full hactive
    lia
  inner := by
    intro r events r' hshape h hmove
    refine ⟨(hmove.phaseMove hshape h).phased, ?_⟩
    cases hmove with
    | ready flag _ =>
        intro e he
        cases he
    | start routes ω hfull hready _ =>
        exact startsReady_startGame routes ω hshape.keyed hfull hready
    | enqueue cmd _ =>
        intro e he
        cases he
    | tick routes ω _ _ => exact startsReady_tickRoom routes ω r.roomId r
  leave := by
    intro r events r' uid _ h _ hothers _ hmove
    refine ⟨(hmove.phaseMove h hothers).phased, ?_⟩
    cases hmove with
    | depart _ =>
        intro e he
        cases he
    | abandon routes ω _ => exact startsReady_gameOver routes ω _ _

/-!
## Lives in runs
-/

/-- The events of a move tell the phases of the room. -/
theorem lifeRule : NewsRule Policy.free (Phased (F := F)) ShardEvent.lifeStep
    fun lived r => Life r.phase lived where
  replies := by
    intro roomId e hreply
    cases e with
    | ran call r => cases hreply
    | sent uids targets msg seq =>
        cases msg with
        | gameOverNtf id tick team => cases hreply
        | _ => rfl
  fresh := fun _ _ _ _ => Life.lobby
  enter := by
    intro r uid h hfits
    have hseated : Phased (r.seated uid) := by
      refine ⟨h.started, ?_⟩
      intro hactive
      have hfull := h.full hactive
      lia
    exact (PhaseMove.silent (r := r) hseated rfl rfl).tells
  inner := by
    intro r events r' hshape h hmove
    exact (hmove.phaseMove hshape h).tells
  leave := by
    intro r events r' uid h hothers hmove
    exact (hmove.phaseMove h hothers).tells

/--
In every run, whatever the tasks and ticks: the life of every room that ever
was is a start, some steps and at most one final message, in this order; the
rooms that are there are in the phase that their life says; every start finds
the room full and all its players ready; and a running game is fully occupied.
-/
theorem run_life_cycle (codec : Codec B F) (shardId shardCount : Nat)
    (inputs : List (LogicShard.ShardInput B)) :
    let result := LogicShard.run codec shardId shardCount inputs
    (forall roomId, exists phase, Life phase (life roomId result.2)) ∧
    (forall roomId r, result.1.rooms.lookup roomId = some r ->
      Life r.phase (life roomId result.2) ∧
      (r.started = true -> r.gameOver = false ->
        r.players.size = r.maxPlayers)) ∧
    (forall call r, ShardEvent.ran call r ∈ result.2 ->
      call = RoomCall.spawnInitialUnits ∨ call = RoomCall.beginBattle ->
      r.isFull = true ∧ r.allReady = true) := by
  intro result
  have h : History Phased ShardEvent.lifeStep
      (fun lived r => Life r.phase lived) result.2 result.1 :=
    lifeRule.along phasedRule codec shardId shardCount inputs
      (along_of_forall (fun _ _ => Policy.free_respected) _ _)
  refine ⟨?_, ?_, ?_⟩
  · intro roomId
    rcases h.ever roomId with hnothing | ⟨r, hlife⟩
    · refine ⟨RoomPhase.lobby, ?_⟩
      change life roomId result.2 = [] at hnothing
      rw [hnothing]
      exact Life.lobby
    · exact ⟨r.phase, hlife⟩
  · intro roomId r hr
    refine ⟨h.present roomId r hr, ?_⟩
    intro hstarted hrunning
    apply (h.rooms.rooms roomId r hr).full
    simp [LogicShard.isActive, hstarted, hrunning]
  · intro call r hran hstart
    have hnote := (phasedRule.run codec shardId shardCount inputs).2 _ hran
    rcases hstart with rfl | rfl
    · exact hnote
    · exact hnote

end RtsGame
