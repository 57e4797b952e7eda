import RtsGame.Shard.Stream

/-!
# Clients that have missed something

Packets are dropped when a queue is full, and the next snapshot is to make up for it.  It
does: whatever a client holds, from a snapshot on it knows every unit, building and ledger of
the room exactly, and of the fields and drops everything but the amounts; these are right at
the latest after the next snapshot, and a snapshot is never twenty ticks away.
-/

namespace RtsGame

open DungeonRoom

variable {B F : Type}

/-!
## Right but for amounts
-/

def ResourceFieldStateSnapshot.site (f : ResourceFieldStateSnapshot F) :=
  (f.id, f.raw, f.position, f.yaw)

def ResourceDropStateSnapshot.site (d : ResourceDropStateSnapshot F) := (d.id, d.raw, d.position)

/-- The replica is that of the world, but for the amounts of fields and drops. -/
structure Replica.Follows (m world : Replica F) : Prop where
  units : m.units = world.units
  buildings : m.buildings = world.buildings
  resourceFields : Replicated.Within (fun a b => a.site = b.site) m.resourceFields
    world.resourceFields
  resourceDrops : Replicated.Within (fun a b => a.site = b.site) m.resourceDrops
    world.resourceDrops
  resources : m.resources = world.resources

theorem Replica.Follows.refl (m : Replica F) : m.Follows m :=
  ⟨rfl, rfl, Replicated.Within.refl (fun f => Eq.refl f.site) _,
    Replicated.Within.refl (fun d => Eq.refl d.site) _, rfl⟩

/-- The messages of a delta tick keep a replica right but for amounts. -/
theorem delta_follows {r s : DungeonRoom F} (ω : RoomOrders) (hlog : ChangeLog r s)
    (hsound : SoundLog r.nextEntityId s) (hs : Keyed s)
    (hledgers : forall uid, uid ∈ s.playerRes <-> uid ∈ r.playerRes) {m : Replica F}
    (hm : m.Follows r.world) :
    ((deltaMsgs ω s).foldl Replica.receive m).Follows s.world := by
  rw [receive_deltaMsgs]
  constructor
  · dsimp only
    rw [hm.units]
    exact units_followed ω hlog hsound hs
  · dsimp only
    rw [hm.buildings]
    exact buildings_followed ω hlog hsound hs
  · apply Replicated.replay_within ?_ hlog.fieldSites
    · intro _ u v w hsite hw
      simp only [fieldSite, Prod.mk.injEq] at hsite
      simp only [ResourceFieldStateSnapshot.site, fillFieldSnapshot, hsite] at hw ⊢
      exact hw
    · exact fun id f hf => (hs.fields id f hf).1
    · exact fun id hid => (hsound.fields id hid).1
    · exact hm.resourceFields
    · exact fun _ => rfl
  · apply Replicated.replay_within ?_ hlog.dropSites
    · intro _ u v w hsite hw
      simp only [dropSite, Prod.mk.injEq] at hsite
      simp only [ResourceDropStateSnapshot.site, fillDropSnapshot, hsite] at hw ⊢
      exact hw
    · exact fun id d hd => (hs.drops id d hd).1
    · exact fun id hid => (hsound.drops id hid).1
    · exact hm.resourceDrops
    · exact fun _ => rfl
  · dsimp only
    rw [hm.resources]
    exact ledgers_followed ω hlog hledgers

/-!
## From snapshot to snapshot
-/

def ServerMsg.isSnapshot : ServerMsg F -> Prop
  | ServerMsg.snapshotNtf _ => True
  | _ => False

/-- What a client that has received everything since some snapshot knows about a room. -/
def Replica.Recovered (r : DungeonRoom F) (m : Replica F) : Prop :=
  m.Follows r.world ∧ (r.serverTick % kFullSnapshotInterval = 0 -> m = r.world)

/-- The messages of a room let its clients recover. -/
structure Recovers (msgs : List (ServerMsg F)) (r : DungeonRoom F) : Prop where
  recent : exists front snapshot back,
    msgs = front ++ ServerMsg.snapshotNtf snapshot :: back ∧
      snapshot.serverTick % kFullSnapshotInterval = 0 ∧
      snapshot.serverTick ≤ r.serverTick ∧
      r.serverTick < snapshot.serverTick + kFullSnapshotInterval
  caught : CatchesUp Replica.receive ServerMsg.isSnapshot msgs (Replica.Recovered r)

theorem deltaMsgs_not_snapshot (ω : RoomOrders) (s : DungeonRoom F) :
    forall msg, msg ∈ deltaMsgs ω s -> ¬ msg.isSnapshot := by
  intro msg hmsg
  rcases List.mem_append.mp hmsg with hmsg | hmsg
  · rcases List.mem_append.mp hmsg with hmsg | hmsg
    · rcases List.mem_map.mp hmsg with ⟨state, _, rfl⟩
      exact id
    · rcases List.mem_map.mp hmsg with ⟨ref, _, rfl⟩
      exact id
  · split at hmsg
    · rw [List.mem_singleton.mp hmsg]
      exact id
    · cases hmsg

/-- A snapshot ends all differences. -/
theorem Recovers.snapshot (ω : RoomOrders) {s : DungeonRoom F} (hs : Keyed s)
    (htick : s.serverTick % kFullSnapshotInterval = 0) (past : List (ServerMsg F)) :
    Recovers (past ++ [ServerMsg.snapshotNtf (snapshotOf ω s)]) s := by
  constructor
  · refine ⟨past, snapshotOf ω s, [], rfl, htick, Nat.le_refl _, ?_⟩
    change s.serverTick < s.serverTick + kFullSnapshotInterval
    unfold kFullSnapshotInterval
    lia
  · apply CatchesUp.reset
    intro m
    have hworld : m.receive (ServerMsg.snapshotNtf (snapshotOf ω s)) = s.world :=
      ofSnapshot_snapshotOf ω hs
    rw [hworld]
    exact ⟨Replica.Follows.refl _, fun _ => rfl⟩

variable [Scalar F]

theorem Recovers.tick (ω : RoomOrders) {r : DungeonRoom F} (hr : Keyed r) (hclear : Cleared r)
    {past : List (ServerMsg F)} (h : Recovers past r) :
    Recovers (past ++ syncMsgs ω (r.afterStep ω)) (r.afterStep ω) := by
  rcases afterStep_setup hr ω with ⟨hsame, hkeyed⟩
  have htick := afterStep_serverTick hr ω
  unfold syncMsgs
  split
  · rename_i hfull
    exact Recovers.snapshot ω hkeyed hfull past
  · rename_i hrest
    rcases h.recent with ⟨front, snapshot, back, heq, hbase, hold, hrecent⟩
    constructor
    · refine ⟨front, snapshot, back ++ deltaMsgs ω (r.afterStep ω), ?_, hbase, ?_, ?_⟩
      · rw [heq, List.append_assoc]
        rfl
      · rw [htick]
        exact Nat.le_succ_of_le hold
      · rw [htick] at hrest ⊢
        unfold kFullSnapshotInterval at *
        lia
    · refine h.caught.extend (deltaMsgs_not_snapshot ω _) ?_
      intro m hm
      exact ⟨delta_follows ω (afterStep_changeLog hr ω) (afterStep_soundLog hr hclear ω) hkeyed
        hsame.ledgers hm.left, fun hfull => absurd hfull hrest⟩

/-!
## Runs
-/

/-- In the lobby no tick is counted, and in the game the clients can recover. -/
structure Recoverable (past : List (ServerMsg F)) (r : DungeonRoom F) : Prop where
  lobby : r.started = false -> r.serverTick = 0
  game : LogicShard.isActive r = true -> Recovers past r

omit [Scalar F] in
theorem Recoverable.silent {r r' : DungeonRoom F} (htick : r'.serverTick = r.serverTick)
    (hstarted : r'.started = r.started)
    (hgame : LogicShard.isActive r' = true ->
      LogicShard.isActive r = true ∧ r'.world = r.world) :
    Tells ShardEvent.worldMsg Recoverable r [] r' := by
  refine ⟨?_, fun _ _ => rfl⟩
  intro past h
  change Recoverable (past ++ []) r'
  rw [List.append_nil]
  constructor
  · rw [hstarted, htick]
    exact h.lobby
  · intro hactive
    rcases hgame hactive with ⟨hbefore, hworld⟩
    rcases h.game hbefore with ⟨hrecent, hcaught⟩
    have hsame : Replica.Recovered r' = Replica.Recovered r := by
      unfold Replica.Recovered
      rw [hworld, htick]
    refine ⟨?_, ?_⟩
    · rw [htick]
      exact hrecent
    · rw [hsame]
      exact hcaught

theorem recoveryRule : NewsRule Policy.free (Settled (F := F)) ShardEvent.worldMsg
    Recoverable where
  replies := worldMsg_reply
  fresh := by
    intro roomId roomName maxPlayers uid
    exact ⟨fun _ => rfl, fun hactive => by cases hactive⟩
  enter := by
    intro r uid h hfits
    refine Recoverable.silent rfl rfl fun hactive => ?_
    have hfull := h.phased.full hactive
    lia
  inner := by
    intro r events r' hshape h hmove
    cases hmove with
    | ready flag _ => exact Recoverable.silent rfl rfl fun hactive => ⟨hactive, rfl⟩
    | enqueue cmd _ => exact Recoverable.silent rfl rfl fun hactive => ⟨hactive, rfl⟩
    | start routes ω _ _ hlobby =>
        have hstarted : Keyed (r.setStarted true) := hshape.keyed.congr rfl rfl rfl rfl rfl
        rcases spawnInitialUnits_setup ω hstarted with ⟨hsame, hkeyed⟩
        have hbegun : Keyed (spawnInitialUnits ω (r.setStarted true)).beginBattle :=
          hkeyed.congr rfl rfl rfl rfl rfl
        constructor
        · intro past hpast
          have hzero : (LogicShard.startGame routes ω r).1.serverTick = 0 :=
            (startGame_serverTick routes ω r).trans (hpast.lobby hlobby)
          have hfull : (spawnInitialUnits ω (r.setStarted true)).beginBattle.serverTick %
              kFullSnapshotInterval = 0 := by
            change (LogicShard.startGame routes ω r).1.serverTick % _ = 0
            rw [hzero]
            rfl
          rw [told_startGame routes ω hshape, if_pos rfl]
          have hrecovers := Recovers.snapshot ω hbegun hfull past
          exact ⟨fun _ => hzero, fun _ => ⟨hrecovers.recent, hrecovers.caught⟩⟩
        · intro roomId hother
          rw [told_startGame routes ω hshape, if_neg hother]
    | tick routes ω hactive _ =>
        constructor
        · intro past hpast
          have hrecovers := (hpast.game hactive).tick ω hshape.keyed h.cleared
          have hsame := (afterStep_setup hshape.keyed ω).left
          have hbegun : (r.afterStep ω).started = true := by
            rw [LogicShard.isActive, Bool.and_eq_true] at hactive
            exact hsame.started.trans hactive.left
          rw [told_tickRoom routes ω hshape, if_pos rfl]
          rcases tickRoom_cases routes ω r.roomId r with ⟨_, heq⟩ | ⟨_, _, heq⟩
          · rw [heq]
            refine ⟨fun hlobby => ?_, fun _ => ⟨hrecovers.recent, hrecovers.caught⟩⟩
            cases hlobby.symm.trans hbegun
          · rw [heq]
            refine ⟨fun hlobby => ?_, fun hrunning => ?_⟩
            · cases hlobby.symm.trans hbegun
            · simp [LogicShard.isActive, DungeonRoom.setGameOver] at hrunning
        · intro roomId hother
          rw [told_tickRoom routes ω hshape, if_neg hother]
  leave := by
    intro r events r' uid _ _ hmove
    cases hmove with
    | depart hidle =>
        refine Recoverable.silent rfl rfl fun hactive => ?_
        change LogicShard.isActive r = true at hactive
        cases hidle.symm.trans hactive
    | abandon routes ω hactive =>
        constructor
        · intro past h
          refine ⟨h.lobby, fun hrunning => ?_⟩
          simp [LogicShard.isActive, DungeonRoom.setGameOver] at hrunning
        · intro roomId _
          exact told_gameOver routes ω _ _ roomId

/--
In every run, whatever the tasks and ticks: for a game that is on there has been a snapshot
less than twenty ticks ago.  A client that has received that or any other snapshot and
everything after it knows the units, the buildings and the ledgers of the room and which
fields and drops there are and where, whatever it held before and whatever it missed; and
at every twentieth tick it knows everything.
-/
theorem run_recovers (codec : Codec B F) (shardId shardCount : Nat)
    (inputs : List (LogicShard.ShardInput B)) (roomId : Nat) (r : DungeonRoom F)
    (hr : (LogicShard.run codec shardId shardCount inputs).1.rooms.lookup roomId = some r)
    (hactive : LogicShard.isActive r = true) :
    let msgs := told ShardEvent.worldMsg roomId
      (LogicShard.run codec shardId shardCount inputs).2
    (exists front snapshot back, msgs = front ++ ServerMsg.snapshotNtf snapshot :: back ∧
      snapshot.serverTick ≤ r.serverTick ∧
      r.serverTick < snapshot.serverTick + kFullSnapshotInterval) ∧
    forall front snapshot back, msgs = front ++ ServerMsg.snapshotNtf snapshot :: back ->
      forall held : Replica F,
        let known := (ServerMsg.snapshotNtf snapshot :: back).foldl Replica.receive held
        known.Follows r.world ∧
          (r.serverTick % kFullSnapshotInterval = 0 -> known = r.world) := by
  intro msgs
  have hhistory := recoveryRule.along settledRule codec shardId shardCount inputs
    (along_of_forall (fun _ _ => Policy.free_respected) _ _)
  have hrecovers := (hhistory.present roomId r hr).game hactive
  constructor
  · rcases hrecovers.recent with ⟨front, snapshot, back, heq, _, hold, hrecent⟩
    exact ⟨front, snapshot, back, heq, hold, hrecent⟩
  · intro front snapshot back heq held
    exact hrecovers.caught front (ServerMsg.snapshotNtf snapshot) back heq trivial held

/-- A client that has missed everything before the last snapshot knows where the worker is. -/
theorem walksToTree_recovers :
    exists r, (LogicShard.run Wire.codec 0 1 (cutsWood.take 10)).1.rooms.lookup 1 = some r ∧
      forall front snapshot back,
        told ShardEvent.worldMsg 1 (LogicShard.run Wire.codec 0 1 (cutsWood.take 10)).2 =
          front ++ ServerMsg.snapshotNtf snapshot :: back ->
        forall held : Replica Rat,
          ((ServerMsg.snapshotNtf snapshot :: back).foldl Replica.receive held).units =
            r.world.units := by
  have hroom : ((LogicShard.run Wire.codec 0 1 (cutsWood.take 10)).1.rooms.lookup
      1).map LogicShard.isActive = some true := by
    decide +kernel
  rcases Option.map_eq_some_iff.mp hroom with ⟨r, hr, hactive⟩
  have hrecovers := run_recovers Wire.codec 0 1 (cutsWood.take 10) 1 r hr hactive
  refine ⟨r, hr, ?_⟩
  intro front snapshot back heq held
  exact (hrecovers.right front snapshot back heq held).left.units

end RtsGame
