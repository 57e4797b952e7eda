import RtsGame.Shard.LifeCycle
import RtsGame.Shard.Replica

/-!
# The stream of a game

What a shard tells the players of a room about its world is a stream with a fixed form.  It
begins with a snapshot of tick 0.  Then every tick of the game adds one frame: a snapshot if
the number of the tick is a multiple of the interval of snapshots, and otherwise the spawns,
the despawns and at most one delta of the tick.  The end of the game is the last message.
-/

namespace RtsGame

variable {B F : Type}

/-- The messages about the world of a room. -/
inductive NtfKind where
  | snapshot
  | spawn
  | despawn
  | delta
  | gameOver
deriving DecidableEq, Repr

/-- The kind of a message about the world of a room, and the tick that it is stamped with. -/
def ServerMsg.entry (roomId : Nat) : ServerMsg F -> Option (NtfKind × Nat)
  | ServerMsg.snapshotNtf snapshot =>
      if snapshot.roomId = roomId then some (NtfKind.snapshot, snapshot.serverTick) else none
  | ServerMsg.entitySpawnNtf id serverTick _ =>
      if id = roomId then some (NtfKind.spawn, serverTick) else none
  | ServerMsg.entityDespawnNtf id serverTick _ _ =>
      if id = roomId then some (NtfKind.despawn, serverTick) else none
  | ServerMsg.worldDeltaNtf delta =>
      if delta.roomId = roomId then some (NtfKind.delta, delta.serverTick) else none
  | ServerMsg.gameOverNtf id serverTick _ =>
      if id = roomId then some (NtfKind.gameOver, serverTick) else none
  | _ => none

def ShardEvent.entry (roomId : Nat) : ShardEvent F -> Option (NtfKind × Nat)
  | ShardEvent.sent _ _ msg _ => msg.entry roomId
  | ShardEvent.ran _ _ => none

/-- The stream of a room in the events of a run. -/
def stream (roomId : Nat) (events : List (ShardEvent F)) : List (NtfKind × Nat) :=
  told ShardEvent.entry roomId events

/-!
## The form of a stream
-/

/-- What a tick may add to the stream. -/
inductive Frame (tick : Nat) : List (NtfKind × Nat) -> Prop where
  | full : tick % kFullSnapshotInterval = 0 -> Frame tick [(NtfKind.snapshot, tick)]
  | changes (spawns despawns : Nat) (changed : Bool) :
      tick % kFullSnapshotInterval ≠ 0 ->
      Frame tick (List.replicate spawns (NtfKind.spawn, tick) ++
        List.replicate despawns (NtfKind.despawn, tick) ++
        if changed then [(NtfKind.delta, tick)] else [])

/-- The streams of a game that has been played up to a tick. -/
inductive Played : Nat -> List (NtfKind × Nat) -> Prop where
  | start : Played 0 [(NtfKind.snapshot, 0)]
  | tick {k : Nat} {past frame : List (NtfKind × Nat)} :
      Played k past -> Frame (k + 1) frame -> Played (k + 1) (past ++ frame)

/-- The streams that lead to a phase and a tick. -/
inductive Streamed : RoomPhase -> Nat -> List (NtfKind × Nat) -> Prop where
  | lobby : Streamed RoomPhase.lobby 0 []
  | active {k : Nat} {past : List (NtfKind × Nat)} :
      Played k past -> Streamed RoomPhase.active k past
  | ended {k : Nat} {past : List (NtfKind × Nat)} :
      Played k past -> Streamed RoomPhase.over k (past ++ [(NtfKind.gameOver, k)])

theorem Frame.tick_eq {tick : Nat} {frame : List (NtfKind × Nat)} (h : Frame tick frame) :
    forall entry, entry ∈ frame -> entry.2 = tick := by
  intro entry hentry
  cases h with
  | full _ => rw [List.mem_singleton.mp hentry]
  | changes spawns despawns changed _ =>
      rcases List.mem_append.mp hentry with hfront | hdelta
      · rcases List.mem_append.mp hfront with hspawn | hdespawn
        · rw [List.eq_of_mem_replicate hspawn]
        · rw [List.eq_of_mem_replicate hdespawn]
      · split at hdelta
        · rw [List.mem_singleton.mp hdelta]
        · cases hdelta

/-- The ticks of the snapshots. -/
def snapshotTicks (entries : List (NtfKind × Nat)) : List Nat :=
  (entries.filter fun entry => entry.1 = NtfKind.snapshot).map Prod.snd

theorem snapshotTicks_append (front back : List (NtfKind × Nat)) :
    snapshotTicks (front ++ back) = snapshotTicks front ++ snapshotTicks back := by
  unfold snapshotTicks
  rw [List.filter_append, List.map_append]

theorem Frame.snapshotTicks_eq {tick : Nat} {frame : List (NtfKind × Nat)}
    (h : Frame tick frame) :
    snapshotTicks frame = if tick % kFullSnapshotInterval = 0 then [tick] else [] := by
  cases h with
  | full hfull =>
      rw [if_pos hfull]
      rfl
  | changes spawns despawns changed hrest =>
      rw [if_neg hrest, snapshotTicks_append, snapshotTicks_append]
      cases changed with
      | false => simp [snapshotTicks]
      | true => simp [snapshotTicks]

namespace Played

variable {k : Nat} {past : List (NtfKind × Nat)}

theorem tick_le (h : Played k past) : forall entry, entry ∈ past -> entry.2 ≤ k := by
  induction h with
  | start =>
      intro entry hentry
      rw [List.mem_singleton.mp hentry]
  | @tick k past frame _ hframe ih =>
      intro entry hentry
      rcases List.mem_append.mp hentry with hpast | hnew
      · exact Nat.le_succ_of_le (ih entry hpast)
      · exact Nat.le_of_eq (hframe.tick_eq entry hnew)

/-- The ticks never go back. -/
theorem sorted (h : Played k past) :
    past.Pairwise fun first second => first.2 ≤ second.2 := by
  induction h with
  | start => exact List.pairwise_singleton _ _
  | @tick k past frame hplayed hframe ih =>
      rw [List.pairwise_append]
      refine ⟨ih, ?_, ?_⟩
      · refine List.pairwise_of_forall_mem_list ?_
        intro first hfirst second hsecond
        rw [hframe.tick_eq first hfirst, hframe.tick_eq second hsecond]
      · intro first hfirst second hsecond
        rw [hframe.tick_eq second hsecond]
        exact Nat.le_succ_of_le (hplayed.tick_le first hfirst)

/-- There is a snapshot of every multiple of the interval, once and in order. -/
theorem snapshotTicks_eq (h : Played k past) :
    snapshotTicks past = (List.range (k / kFullSnapshotInterval + 1)).map fun n =>
      n * kFullSnapshotInterval := by
  induction h with
  | start => rfl
  | @tick k past frame _ hframe ih =>
      rw [snapshotTicks_append, ih, hframe.snapshotTicks_eq]
      unfold kFullSnapshotInterval
      by_cases hfull : (k + 1) % 20 = 0
      · have hnext : (k + 1) / 20 = k / 20 + 1 := by lia
        have htick : (k / 20 + 1) * 20 = k + 1 := by lia
        rw [if_pos hfull, hnext, List.range_succ (n := k / 20 + 1), List.map_append,
          List.map_singleton, htick]
      · have hsame : (k + 1) / 20 = k / 20 := by lia
        rw [if_neg hfull, hsame, List.append_nil]

end Played

namespace Streamed

variable {phase : RoomPhase} {k : Nat} {past : List (NtfKind × Nat)}

theorem sorted (h : Streamed phase k past) :
    past.Pairwise fun first second => first.2 ≤ second.2 := by
  cases h with
  | lobby => exact List.Pairwise.nil
  | active hplayed => exact hplayed.sorted
  | ended hplayed =>
      rw [List.pairwise_append]
      refine ⟨hplayed.sorted, List.pairwise_singleton _ _, ?_⟩
      intro first hfirst second hsecond
      rw [List.mem_singleton.mp hsecond]
      exact hplayed.tick_le first hfirst

theorem snapshotTicks_eq (h : Streamed phase k past) :
    snapshotTicks past = if phase = RoomPhase.lobby then []
      else (List.range (k / kFullSnapshotInterval + 1)).map fun n =>
        n * kFullSnapshotInterval := by
  cases h with
  | lobby => rfl
  | active hplayed => exact hplayed.snapshotTicks_eq
  | ended hplayed =>
      rw [snapshotTicks_append, hplayed.snapshotTicks_eq]
      exact List.append_nil _

end Streamed

/-!
## What a room says
-/

theorem stream_append (roomId : Nat) (front back : List (ShardEvent F)) :
    stream roomId (front ++ back) = stream roomId front ++ stream roomId back :=
  List.filterMap_append

theorem entry_reply (roomId : Nat) (e : ShardEvent F) (h : e.isReply = true) :
    e.entry roomId = none := by
  cases e with
  | ran call r => rfl
  | sent uids targets msg seq =>
      cases msg with
      | snapshotNtf snapshot => cases h
      | entitySpawnNtf id serverTick state => cases h
      | entityDespawnNtf id serverTick type entityId => cases h
      | worldDeltaNtf delta => cases h
      | gameOverNtf id serverTick winner => cases h
      | _ => rfl

theorem stream_replies {events : List (ShardEvent F)}
    (h : forall e, e ∈ events -> e.isReply = true) (roomId : Nat) :
    stream roomId events = [] := by
  unfold stream told
  rw [List.filterMap_eq_nil_iff]
  intro e he
  exact entry_reply roomId e (h e he)

theorem stream_broadcast (routes : Routes) {uids : List Nat}
    (huids : uids.isEmpty = false) (msgs : List (ServerMsg F)) (seq roomId : Nat) :
    stream roomId (msgs.flatMap fun msg => sendToPlayers routes uids msg seq) =
      msgs.filterMap (ServerMsg.entry roomId) := by
  induction msgs with
  | nil => rfl
  | cons msg rest ih =>
      have hfirst : stream roomId (sendToPlayers routes uids msg seq) =
          (msg.entry roomId).toList := by
        unfold sendToPlayers stream told
        rw [huids, if_neg (fun h => by cases h)]
        cases hentry : msg.entry roomId with
        | none => simp [ShardEvent.entry, hentry]
        | some entry => simp [ShardEvent.entry, hentry]
      rw [List.flatMap_cons, stream_append, hfirst, ih, List.filterMap_cons]
      cases msg.entry roomId with
      | none => rfl
      | some entry => rfl

theorem stream_send (routes : Routes) {uids : List Nat} (huids : uids.isEmpty = false)
    (msg : ServerMsg F) (seq roomId : Nat) :
    stream roomId (sendToPlayers routes uids msg seq) =
      [msg].filterMap (ServerMsg.entry roomId) := by
  have hone := stream_broadcast routes huids [msg] seq roomId
  rw [List.flatMap_singleton] at hone
  exact hone

theorem deltaMsgs_frame (ω : RoomOrders) {s : DungeonRoom F}
    (hrest : s.serverTick % kFullSnapshotInterval ≠ 0) :
    Frame s.serverTick ((deltaMsgs ω s).filterMap (ServerMsg.entry s.roomId)) := by
  have hentries : (deltaMsgs ω s).filterMap (ServerMsg.entry s.roomId) =
      List.replicate (spawnStates s).length (NtfKind.spawn, s.serverTick) ++
        List.replicate (despawnRefs s).length (NtfKind.despawn, s.serverTick) ++
        if (deltaOf ω s).hasChanges then [(NtfKind.delta, s.serverTick)] else [] := by
    unfold deltaMsgs
    rw [List.filterMap_append, List.filterMap_append, List.filterMap_map,
      List.filterMap_map]
    congr 1
    · congr 1
      · simp [Function.comp_def, ServerMsg.entry, List.map_const']
      · simp [Function.comp_def, ServerMsg.entry, List.map_const']
    · split
      · simp [ServerMsg.entry, deltaOf]
      · rfl
  rw [hentries]
  exact Frame.changes _ _ _ hrest

theorem entry_other {msg : ServerMsg F} {own roomId : Nat} (h : msg.syncRoom = some own)
    (hother : roomId ≠ own) : msg.entry roomId = none := by
  cases msg with
  | snapshotNtf snapshot =>
      injection h with hown
      exact if_neg fun heq => hother (heq.symm.trans hown)
  | entitySpawnNtf id serverTick state =>
      injection h with hown
      exact if_neg fun heq => hother (heq.symm.trans hown)
  | entityDespawnNtf id serverTick type entityId =>
      injection h with hown
      exact if_neg fun heq => hother (heq.symm.trans hown)
  | worldDeltaNtf delta =>
      injection h with hown
      exact if_neg fun heq => hother (heq.symm.trans hown)
  | _ => cases h

/-- A room announces a tick with one frame. -/
theorem stream_syncEvents (routes : Routes) (ω : RoomOrders) {s : DungeonRoom F}
    (h : 0 < s.players.size) :
    Frame s.serverTick (stream s.roomId (syncEvents routes ω s)) ∧
      forall roomId, roomId ≠ s.roomId -> stream roomId (syncEvents routes ω s) = [] := by
  unfold syncEvents
  split
  · rename_i hfull
    unfold sendFullSnapshot
    constructor
    · rw [stream_send routes (playerUids_isEmpty h)]
      have hentry : [ServerMsg.snapshotNtf (snapshotOf ω s)].filterMap
          (ServerMsg.entry s.roomId) = [(NtfKind.snapshot, s.serverTick)] := by
        simp [ServerMsg.entry, snapshotOf]
      rw [hentry]
      exact Frame.full hfull
    · intro roomId hother
      rw [stream_send routes (playerUids_isEmpty h), List.filterMap_eq_nil_iff]
      intro msg hmsg
      rw [List.mem_singleton.mp hmsg]
      exact entry_other rfl hother
  · rename_i hrest
    unfold sendDelta
    constructor
    · rw [stream_broadcast routes (playerUids_isEmpty h)]
      exact deltaMsgs_frame ω hrest
    · intro roomId hother
      rw [stream_broadcast routes (playerUids_isEmpty h), List.filterMap_eq_nil_iff]
      intro msg hmsg
      exact entry_other (deltaMsgs_room ω s msg hmsg) hother

theorem stream_gameOver (routes : Routes) (ω : RoomOrders) {r : DungeonRoom F}
    (h : 0 < r.players.size) (winner roomId : Nat) :
    stream roomId (broadcastGameOver routes ω r winner) =
      if r.roomId = roomId then [(NtfKind.gameOver, r.serverTick)] else [] := by
  have hran : stream roomId (broadcastGameOver routes ω r winner) =
      stream roomId (sendToPlayers routes (r.playerUids ω.players)
        (ServerMsg.gameOverNtf r.roomId r.serverTick (toProtoTeam winner))
        r.serverTick) := rfl
  rw [hran, stream_send routes (playerUids_isEmpty h)]
  by_cases hown : r.roomId = roomId
  · simp [ServerMsg.entry, hown]
  · simp [ServerMsg.entry, hown]

variable [Scalar F]

/-!
## Ticks are counted
-/

namespace DungeonRoom

theorem Effect.serverTick {keep : DungeonRoom F -> GameUnit F -> GameUnit F -> Prop}
    {r s : DungeonRoom F} {out : List Nat} (heff : Effect keep r out s) :
    s.serverTick = r.serverTick := by
  cases heff with
  | harvest _ _ _ _ _ _ _ _ _ _ _ =>
      unfold settleField
      split
      · rfl
      · rfl
  | credit _ _ _ hres _ _ =>
      rw [deposit_eq hres]
      rfl
  | take _ _ _ _ _ _ _ _ =>
      unfold settleDrop
      split
      · rfl
      · rfl
  | _ => rfl

theorem Effects.serverTick {keep : DungeonRoom F -> GameUnit F -> GameUnit F -> Prop}
    {r s : DungeonRoom F} {out : List Nat} (heff : Effects keep r out s) :
    s.serverTick = r.serverTick := by
  induction heff with
  | nil r => rfl
  | cons hmove _ ih => exact ih.trans hmove.serverTick

theorem afterStep_serverTick {r : DungeonRoom F} (hr : Keyed r) (ω : RoomOrders) :
    (r.afterStep ω).serverTick = r.serverTick + 1 := by
  rcases applyPending_effects hr (allJustified_any r r.pending) with ⟨_, hcmds, _⟩
  rcases step_effects ω.world kTickSeconds r.beforeStep with ⟨_, hstep, _⟩
  have hordered : r.applyPending.serverTick = r.serverTick := Effects.serverTick hcmds
  exact congrArg (· + 1) ((Effects.serverTick hstep).trans hordered)

theorem spawnBase_serverTick (r : DungeonRoom F) (player : RoomPlayerState) :
    (spawnBase r player).serverTick = r.serverTick := by
  have hfield : forall (r : DungeonRoom F) (entry : Nat × Rat × Rat × UInt32),
      (spawnStartField (initialLayoutForTeam player.team) r entry).serverTick =
        r.serverTick := fun _ _ => rfl
  have hunit : forall (r : DungeonRoom F) (i : Nat),
      (spawnStartUnit (initialLayoutForTeam player.team) player r i).serverTick =
        r.serverTick := fun _ _ => rfl
  unfold spawnBase
  dsimp only
  rw [foldl_same serverTick hfield, foldl_same serverTick hunit]
  rfl

theorem spawnInitialUnits_serverTick (ω : RoomOrders) (r : DungeonRoom F) :
    (spawnInitialUnits ω r).serverTick = r.serverTick := by
  exact foldl_same serverTick spawnBase_serverTick r _

end DungeonRoom

theorem startGame_serverTick (routes : Routes) (ω : RoomOrders) (r : DungeonRoom F) :
    (LogicShard.startGame routes ω r).1.serverTick = r.serverTick :=
  DungeonRoom.spawnInitialUnits_serverTick ω (r.setStarted true)

/-!
## The streams of runs
-/

/-- The stream so far fits the phase of the room and its tick. -/
def Streaming (past : List (NtfKind × Nat)) (r : DungeonRoom F) : Prop :=
  Streamed r.phase r.serverTick past

omit [Scalar F] in
/-- A silent move keeps the phase and the tick. -/
theorem Streaming.silent {r r' : DungeonRoom F} (hphase : r'.phase = r.phase)
    (htick : r'.serverTick = r.serverTick) :
    Tells ShardEvent.entry Streaming r [] r' := by
  refine ⟨?_, fun _ _ => rfl⟩
  intro past hpast
  change Streamed r'.phase r'.serverTick (past ++ [])
  rw [hphase, htick, List.append_nil]
  exact hpast

theorem startGame_active (routes : Routes) (ω : RoomOrders) {r : DungeonRoom F}
    (hr : DungeonRoom.Keyed r) (h : Phased r) (hlobby : r.started = false) :
    LogicShard.isActive (LogicShard.startGame routes ω r).1 = true := by
  have hstarted : DungeonRoom.Keyed (r.setStarted true) := hr.congr rfl rfl rfl rfl rfl
  have hsame := (DungeonRoom.spawnInitialUnits_setup ω hstarted).left
  have hbegun : (LogicShard.startGame routes ω r).1.started = true := hsame.started
  have hrunning : (LogicShard.startGame routes ω r).1.gameOver = false := by
    refine hsame.gameOver.trans ?_
    change r.gameOver = false
    cases hover : r.gameOver with
    | false => rfl
    | true => cases hlobby.symm.trans (h.started hover)
  simp [LogicShard.isActive, hbegun, hrunning]

theorem start_streaming (routes : Routes) (ω : RoomOrders) {r : DungeonRoom F}
    (hshape : RoomShape r) (h : Phased r)
    (hlobby : r.started = false) :
    Tells ShardEvent.entry Streaming r (LogicShard.startGame routes ω r).2
      (LogicShard.startGame routes ω r).1 := by
  have hstarted : DungeonRoom.Keyed (r.setStarted true) :=
    hshape.keyed.congr rfl rfl rfl rfl rfl
  have hsame := (DungeonRoom.spawnInitialUnits_setup ω hstarted).left
  have hoccupied : 0 < (spawnInitialUnits ω (r.setStarted true)).beginBattle.players.size := by
    change 0 < (spawnInitialUnits ω (r.setStarted true)).players.size
    rw [hsame.players]
    exact hshape.occupied
  have htick := startGame_serverTick routes ω r
  have hstream : forall roomId, stream roomId (LogicShard.startGame routes ω r).2 =
      if r.roomId = roomId then [(NtfKind.snapshot, r.serverTick)] else [] := by
    intro roomId
    unfold LogicShard.startGame
    dsimp only
    rw [stream_append, stream_append, stream_replies (broadcastGameStart_reply routes ω _)]
    unfold sendFullSnapshot
    rw [stream_send routes (playerUids_isEmpty hoccupied)]
    have hroom : (spawnInitialUnits ω (r.setStarted true)).beginBattle.roomId = r.roomId :=
      hsame.roomId
    have hcount : (spawnInitialUnits ω (r.setStarted true)).beginBattle.serverTick =
        r.serverTick := htick
    by_cases hown : r.roomId = roomId
    · simp [ServerMsg.entry, snapshotOf, hroom, hcount, hown, stream, told, ShardEvent.entry]
    · simp [ServerMsg.entry, snapshotOf, hroom, hown, stream, told, ShardEvent.entry]
  constructor
  · intro past hpast
    have hactive : LogicShard.isActive (LogicShard.startGame routes ω r).1 = true :=
      startGame_active routes ω hshape.keyed h hlobby
    change Streamed _ _ (past ++ stream r.roomId _)
    rw [hstream, if_pos rfl, phase_active hactive, htick]
    have hlobbied : Streamed r.phase r.serverTick past := hpast
    rw [phase_lobby h hlobby] at hlobbied
    generalize htick0 : r.serverTick = tick at hlobbied ⊢
    cases hlobbied with
    | lobby => exact Streamed.active Played.start
  · intro roomId hother
    change stream roomId _ = []
    rw [hstream, if_neg (Ne.symm hother)]

theorem tick_streaming (routes : Routes) (ω : RoomOrders) {r : DungeonRoom F}
    (hshape : RoomShape r) (hactive : LogicShard.isActive r = true) :
    Tells ShardEvent.entry Streaming r (tickRoom routes ω r.roomId r).2
      (tickRoom routes ω r.roomId r).1 := by
  have hsame := (DungeonRoom.afterStep_setup hshape.keyed ω).left
  have htick := DungeonRoom.afterStep_serverTick hshape.keyed ω
  have hoccupied : 0 < (r.afterStep ω).players.size := by
    rw [hsame.players]
    exact hshape.occupied
  have hsync := stream_syncEvents routes ω hoccupied
  rw [hsame.roomId, htick] at hsync
  have hfront : forall roomId, stream roomId
      ((r.applyPending.takeRejected.2.flatMap fun rej =>
        sendCommandRejected routes rej.uid r.roomId rej.clientSeq
          rej.code.toErrorCode "command rejected") ++
        [ShardEvent.ran RoomCall.step r.beforeStep] ++
        syncEvents routes ω (r.afterStep ω)) =
      stream roomId (syncEvents routes ω (r.afterStep ω)) := by
    intro roomId
    rw [stream_append, stream_append, stream_replies (rejections_reply routes _ _)]
    rfl
  have hplayed : forall past, Streaming past r ->
      Played (r.serverTick + 1)
        (past ++ stream r.roomId (syncEvents routes ω (r.afterStep ω))) := by
    intro past hpast
    have hstreamed : Streamed r.phase r.serverTick past := hpast
    rw [phase_active hactive] at hstreamed
    cases hstreamed with
    | active hplayed => exact hplayed.tick hsync.left
  unfold tickRoom
  dsimp only
  split
  · constructor
    · intro past hpast
      change Streamed _ (r.afterStep ω).serverTick (past ++ stream r.roomId _)
      have hphase : (r.afterStep ω).clearFrameChanges.phase = RoomPhase.active := by
        refine Eq.trans ?_ (phase_active hactive)
        unfold DungeonRoom.phase
        change (if (r.afterStep ω).gameOver then _ else
          if (r.afterStep ω).started then _ else _) = _
        rw [hsame.gameOver, hsame.started]
      rw [hphase, hfront, htick]
      exact Streamed.active (hplayed past hpast)
    · intro roomId hother
      change stream roomId _ = []
      rw [hfront]
      exact hsync.right roomId hother
  · rename_i winner _
    have hover : forall roomId, stream roomId (broadcastGameOver routes ω
        ((r.afterStep ω).clearFrameChanges.setGameOver true) winner) =
        if r.roomId = roomId then [(NtfKind.gameOver, r.serverTick + 1)] else [] := by
      intro roomId
      have hroom : ((r.afterStep ω).clearFrameChanges.setGameOver true).roomId = r.roomId :=
        hsame.roomId
      have hcount : ((r.afterStep ω).clearFrameChanges.setGameOver true).serverTick =
          r.serverTick + 1 := htick
      have hleft : 0 < ((r.afterStep ω).clearFrameChanges.setGameOver true).players.size :=
        hoccupied
      rw [stream_gameOver routes ω hleft, hroom, hcount]
    constructor
    · intro past hpast
      change Streamed RoomPhase.over (r.afterStep ω).serverTick (past ++ stream r.roomId _)
      rw [stream_append, hfront, hover, if_pos rfl, htick, ← List.append_assoc]
      exact Streamed.ended (hplayed past hpast)
    · intro roomId hother
      change stream roomId _ = []
      rw [stream_append, hfront, hsync.right roomId hother, hover,
        if_neg (Ne.symm hother)]
      rfl

omit [Scalar F] in
theorem abandon_streaming (routes : Routes) (ω : RoomOrders) {r s : DungeonRoom F}
    (hactive : LogicShard.isActive r = true) (hoccupied : 0 < s.players.size)
    (hroom : s.roomId = r.roomId) (htick : s.serverTick = r.serverTick)
    (hover : s.gameOver = true) (winner : Nat) :
    Tells ShardEvent.entry Streaming r (broadcastGameOver routes ω s winner) s := by
  constructor
  · intro past hpast
    have hstreamed : Streamed r.phase r.serverTick past := hpast
    have hphase : s.phase = RoomPhase.over := by simp [DungeonRoom.phase, hover]
    rw [phase_active hactive] at hstreamed
    change Streamed s.phase s.serverTick (past ++ stream r.roomId _)
    rw [stream_gameOver routes ω hoccupied, if_pos hroom, hphase, htick]
    cases hstreamed with
    | active hplayed => exact Streamed.ended hplayed
  · intro roomId hother
    change stream roomId _ = []
    rw [stream_gameOver routes ω hoccupied, hroom, if_neg (Ne.symm hother)]

theorem streamRule : NewsRule Policy.free (Phased (F := F)) ShardEvent.entry Streaming where
  replies := entry_reply
  fresh := fun _ _ _ _ => Streamed.lobby
  enter := fun _ _ _ _ => Streaming.silent rfl rfl
  inner := by
    intro r events r' hshape h hmove
    cases hmove with
    | ready flag _ => exact Streaming.silent rfl rfl
    | start routes ω _ _ hlobby => exact start_streaming routes ω hshape h hlobby
    | enqueue cmd _ => exact Streaming.silent rfl rfl
    | tick routes ω hactive _ => exact tick_streaming routes ω hshape hactive
  leave := by
    intro r events r' uid _ hothers hmove
    cases hmove with
    | depart _ => exact Streaming.silent rfl rfl
    | abandon routes ω hactive =>
        have hleft : 0 < ((r.removePlayer uid).1.setGameOver true).players.size := hothers
        exact abandon_streaming routes ω hactive hleft rfl rfl rfl _

/--
In every run, whatever the tasks and ticks, the stream of every room that ever was has the
form of a game; that of a room that is there ends in the phase and at the tick that the
room is in; and in every stream the ticks never go back and the snapshots are those of the
multiples of the interval, none missing and none twice.
-/
theorem run_streams (codec : Codec B F) (shardId shardCount : Nat)
    (inputs : List (LogicShard.ShardInput B)) (roomId : Nat) :
    let result := LogicShard.run codec shardId shardCount inputs
    (exists phase tick, Streamed phase tick (stream roomId result.2) ∧
      (forall r, result.1.rooms.lookup roomId = some r ->
        phase = r.phase ∧ tick = r.serverTick) ∧
      (stream roomId result.2).Pairwise (fun first second => first.2 ≤ second.2) ∧
      snapshotTicks (stream roomId result.2) =
        if phase = RoomPhase.lobby then []
        else (List.range (tick / kFullSnapshotInterval + 1)).map fun n =>
          n * kFullSnapshotInterval) := by
  intro result
  have h : History Phased ShardEvent.entry Streaming result.2 result.1 :=
    streamRule.along phasedRule codec shardId shardCount inputs
      (along_of_forall (fun _ _ => Policy.free_respected) _ _)
  have hstreamed : exists phase tick, Streamed phase tick (stream roomId result.2) ∧
      forall r, result.1.rooms.lookup roomId = some r ->
        phase = r.phase ∧ tick = r.serverTick := by
    cases hroom : result.1.rooms.lookup roomId with
    | some r =>
        refine ⟨r.phase, r.serverTick, h.present roomId r hroom, ?_⟩
        intro s hs
        injection hs with heq
        rw [heq]
        exact ⟨rfl, rfl⟩
    | none =>
        rcases h.ever roomId with hnothing | ⟨r, hr⟩
        · refine ⟨RoomPhase.lobby, 0, ?_, fun r hr => by cases hr⟩
          change stream roomId result.2 = [] at hnothing
          rw [hnothing]
          exact Streamed.lobby
        · exact ⟨r.phase, r.serverTick, hr, fun r hr => by cases hr⟩
  rcases hstreamed with ⟨phase, tick, hform, hpresent⟩
  refine ⟨phase, tick, hform, hpresent, hform.sorted, hform.snapshotTicks_eq⟩

end RtsGame
