import RtsGame.Shard.GameStart
import RtsGame.Shard.LifeCycle

/-!
# Games on a shard

Before its start a room is an empty world, and from then on its resources are
accounted for; while the game runs, the battle is undecided.  This is an
invariant of all rooms in all runs, from which the accounting of every tick
follows.
-/

namespace RtsGame

open Scalar

variable {B F : Type}

/-!
## Changes that keep the accounts
-/

namespace DungeonRoom

/-- Rooms with the same entities; the ledgers may hold less. -/
structure SameEntities (r s : DungeonRoom F) : Prop where
  units : s.units = r.units
  buildings : s.buildings = r.buildings
  fields : s.fields = r.fields
  drops : s.drops = r.drops
  nextEntityId : s.nextEntityId = r.nextEntityId
  wrapped : s.wrapped = r.wrapped
  ledgers : s.playerRes.total (ledgerStock every) ≤
    r.playerRes.total (ledgerStock every)

theorem SameEntities.of_eq {r s : DungeonRoom F} (hunits : s.units = r.units)
    (hbuildings : s.buildings = r.buildings) (hfields : s.fields = r.fields)
    (hdrops : s.drops = r.drops) (hnext : s.nextEntityId = r.nextEntityId)
    (hwrapped : s.wrapped = r.wrapped) (hres : s.playerRes = r.playerRes) :
    SameEntities r s := by
  refine ⟨hunits, hbuildings, hfields, hdrops, hnext, hwrapped, ?_⟩
  rw [hres]

theorem Stocked.congr {r s : DungeonRoom F} (h : Stocked r)
    (hsame : SameEntities r s) : Stocked s := by
  refine ⟨h.keyed.congr hsame.units hsame.buildings hsame.fields hsame.drops
    hsame.nextEntityId, ?_, ?_, ?_, hsame.wrapped.trans h.unwrapped, ?_⟩
  · rw [hsame.units]
    exact h.units
  · rw [hsame.fields]
    exact h.fields
  · rw [hsame.drops]
    exact h.drops
  · have hbound := h.bounded
    have hless := hsame.ledgers
    unfold stock at hbound ⊢
    rw [hsame.units, hsame.fields, hsame.drops]
    lia

theorem Aimed.congr {r s : DungeonRoom F} (h : Aimed r)
    (hsame : SameEntities r s) : Aimed s := by
  unfold Aimed
  rw [hsame.units, hsame.nextEntityId]
  exact h

theorem Lobby.congr {r s : DungeonRoom F} (h : Lobby r)
    (hsame : SameEntities r s) : Lobby s :=
  ⟨hsame.units.trans h.units, hsame.buildings.trans h.buildings,
    hsame.fields.trans h.fields, hsame.drops.trans h.drops,
    hsame.wrapped.trans h.unwrapped⟩

theorem SameEntities.seated {r : DungeonRoom F} (hshape : RoomShape r)
    {uid : Nat} (hnew : uid ∉ r.players) : SameEntities r (r.seated uid) := by
  refine ⟨rfl, rfl, rfl, rfl, rfl, rfl, ?_⟩
  have hnone : r.playerRes.lookup uid = none := by
    rw [AList.lookup_eq_none, hshape.ledgers]
    exact hnew
  change (r.playerRes.emplace uid {}).total _ ≤ _
  rw [Table.emplace_of_none _ hnone, Table.total_insert_new _ hnone]
  exact Nat.le_of_eq (Nat.zero_add _)

theorem SameEntities.removePlayer (r : DungeonRoom F) (uid : Nat) :
    SameEntities r (r.removePlayer uid).1 := by
  refine ⟨rfl, rfl, rfl, rfl, rfl, rfl, ?_⟩
  exact Table.total_erase_le _ r.playerRes uid

/-- Getting ready does not change the roster. -/
theorem ready_roster {r : DungeonRoom F} {uid : Nat} {player : RoomPlayerState}
    (hp : r.players.lookup uid = some player) (flag : Bool) :
    SameRoster r
      { r with
        players := r.players.insert uid { player with ready := flag } } := by
  constructor
  · intro v p hv
    change exists q, (r.players.insert uid _).lookup v = some q ∧ _
    rw [Table.lookup_insert_ite]
    split
    · rename_i heq
      rw [heq, hp] at hv
      injection hv with hsame
      rw [← hsame]
      exact ⟨_, rfl, rfl⟩
    · exact ⟨p, hv, rfl⟩
  · intro v p hv
    change (r.players.insert uid _).lookup v = some p at hv
    rw [Table.lookup_insert_ite] at hv
    split at hv
    · rename_i heq
      injection hv with hsame
      rw [heq, ← hsame]
      exact ⟨player, hp, rfl⟩
    · exact ⟨p, hv, rfl⟩

end DungeonRoom

open DungeonRoom

variable [Scalar F]

/-!
## The invariant of a room
-/

structure GameState (r : DungeonRoom F) : Prop where
  phased : Phased r
  lobby : r.started = false -> Lobby r
  stocked : r.started = true -> Stocked r
  aimed : r.started = true -> Aimed r
  running : LogicShard.isActive r = true -> Running r

/-- Changes that touch neither entities nor flags nor the roster. -/
theorem GameState.congr {r s : DungeonRoom F} (h : GameState r)
    (hphased : Phased s) (hsame : SameEntities r s)
    (hstarted : s.started = r.started) (hover : s.gameOver = r.gameOver)
    (hworld : LogicShard.isActive r = true -> SameWorld r s) : GameState s := by
  have hactive : LogicShard.isActive s = LogicShard.isActive r := by
    unfold LogicShard.isActive
    rw [hstarted, hover]
  refine ⟨hphased, ?_, ?_, ?_, ?_⟩
  · intro hs
    exact (h.lobby (hstarted.symm.trans hs)).congr hsame
  · intro hs
    exact (h.stocked (hstarted.symm.trans hs)).congr hsame
  · intro hs
    exact (h.aimed (hstarted.symm.trans hs)).congr hsame
  · intro hs
    rw [hactive] at hs
    exact (h.running hs).congr (hworld hs)

theorem freshRoom_gameState (roomId : Nat) (roomName : String)
    (maxPlayers uid : Nat) :
    GameState
      ((freshRoom roomId roomName maxPlayers : DungeonRoom F).seated uid) := by
  refine ⟨phasedRule.fresh roomId roomName maxPlayers uid, ?_, ?_, ?_, ?_⟩
  · intro _
    exact ⟨rfl, rfl, rfl, rfl, rfl⟩
  · intro hstarted
    cases hstarted
  · intro hstarted
    cases hstarted
  · intro hactive
    cases hactive

theorem GameState.seated {r : DungeonRoom F} (h : GameState r)
    (hshape : RoomShape r) {uid : Nat} (hnew : uid ∉ r.players)
    (hfits : r.players.size < r.maxPlayers) : GameState (r.seated uid) := by
  refine h.congr (phasedRule.enter r uid hshape h.phased hnew hfits trivial)
    (SameEntities.seated hshape hnew) rfl rfl ?_
  intro hactive
  have hfull := h.phased.full hactive
  lia

theorem LeaveMove.gameState {uid : Nat} {r r' : DungeonRoom F}
    {events : List (ShardEvent F)} (h : GameState r)
    (hothers : 0 < (r.removePlayer uid).1.players.size)
    (hmove : LeaveMove uid r events r') : GameState r' := by
  have hphased := (hmove.phaseMove h.phased hothers).phased
  have hgone := SameEntities.removePlayer r uid
  cases hmove with
  | depart hidle =>
      refine h.congr hphased hgone rfl rfl ?_
      intro hactive
      rw [hidle] at hactive
      cases hactive
  | abandon routes ω hactive =>
      have hstarted : r.started = true := by
        simp only [LogicShard.isActive, Bool.and_eq_true] at hactive
        exact hactive.1
      have hsame : SameEntities r ((r.removePlayer uid).1.setGameOver true) :=
        ⟨rfl, rfl, rfl, rfl, rfl, rfl, hgone.ledgers⟩
      refine ⟨hphased, ?_, fun _ => (h.stocked hstarted).congr hsame,
        fun _ => (h.aimed hstarted).congr hsame, ?_⟩
      · intro hnot
        change r.started = false at hnot
        rw [hstarted] at hnot
        cases hnot
      · intro hstill
        simp [LogicShard.isActive, DungeonRoom.setGameOver] at hstill

/-!
## A tick
-/

theorem beforeStep_same (r : DungeonRoom F) :
    SameEntities r.applyPending r.beforeStep :=
  SameEntities.of_eq rfl rfl rfl rfl rfl rfl rfl

theorem beforeStep_world (r : DungeonRoom F) :
    SameWorld r.applyPending r.beforeStep :=
  ⟨SameRoster.of_eq rfl, rfl, rfl, rfl, rfl, rfl, rfl⟩

theorem Stocked.beforeStep {r : DungeonRoom F} (h : Stocked r) :
    Stocked r.beforeStep := by
  rcases applyPending_effects h.keyed (allJustified_any r r.pending) with
    ⟨_, heff, _⟩
  exact (Effects.stocked h heff).congr (beforeStep_same r)

theorem Aimed.beforeStep {r : DungeonRoom F} (h : Aimed r) (hr : Keyed r) :
    Aimed r.beforeStep :=
  (applyPending_aimed hr h).congr (beforeStep_same r)

theorem Fought.beforeStep {r : DungeonRoom F} (h : Fought r) (hr : Keyed r) :
    Fought r.beforeStep := by
  rcases applyPending_effects hr (allJustified_any r r.pending) with ⟨_, heff, _⟩
  exact (h.effects hr heff).congr (beforeStep_world r)

/-- What holds of a room at the end of a tick. -/
structure Ticked (r : DungeonRoom F) : Prop where
  stocked : Stocked r
  aimed : Aimed r
  fought : Fought r

theorem afterStep_ticked {r : DungeonRoom F} (hstocked : Stocked r)
    (haimed : Aimed r) (hfought : Fought r) (ω : RoomOrders) :
    Ticked (r.afterStep ω).clearFrameChanges := by
  have hbefore := Stocked.beforeStep hstocked
  rcases step_effects ω.world kTickSeconds r.beforeStep with ⟨_, heff, _⟩
  have hsame : SameEntities (r.beforeStep.step ω.world kTickSeconds)
      (r.afterStep ω).clearFrameChanges :=
    SameEntities.of_eq rfl rfl rfl rfl rfl rfl rfl
  have hworld : SameWorld (r.beforeStep.step ω.world kTickSeconds)
      (r.afterStep ω).clearFrameChanges :=
    ⟨SameRoster.of_eq rfl, rfl, rfl, rfl, rfl, rfl, rfl⟩
  exact ⟨(Effects.stocked hbefore heff).congr hsame,
    (step_aimed (Aimed.beforeStep haimed hstocked.keyed) ω.world
      kTickSeconds).congr hsame,
    ((Fought.beforeStep hfought hstocked.keyed).effects hbefore.keyed heff).congr
      hworld⟩

theorem tick_gameState (routes : Routes) (ω : RoomOrders) {r : DungeonRoom F}
    (hshape : RoomShape r) (h : GameState r)
    (hactive : LogicShard.isActive r = true) :
    GameState (tickRoom routes ω r.roomId r).1 := by
  have hstarted : r.started = true := by
    simp only [LogicShard.isActive, Bool.and_eq_true] at hactive
    exact hactive.1
  have hphased := (tick_phaseMove routes ω hshape h.phased hactive).phased
  have hticked := afterStep_ticked (h.stocked hstarted) (h.aimed hstarted)
    (h.running hactive).toFought ω
  have hflag := (afterStep_setup hshape.keyed ω).1.started.trans hstarted
  rcases tickRoom_cases routes ω r.roomId r with ⟨hnone, heq⟩ | ⟨winner, _, heq⟩
  · rw [heq] at hphased ⊢
    refine ⟨hphased, ?_, fun _ => hticked.stocked, fun _ => hticked.aimed, ?_⟩
    · intro hnot
      change (r.afterStep ω).started = false at hnot
      rw [hflag] at hnot
      cases hnot
    · intro _
      rcases hticked.fought.check with ⟨_, hrunning⟩ | ⟨winner, hsome, _⟩
      · exact hrunning
      · rw [hnone] at hsome
        cases hsome
  · rw [heq] at hphased ⊢
    have hsame : SameEntities (r.afterStep ω).clearFrameChanges
        ((r.afterStep ω).clearFrameChanges.setGameOver true) :=
      SameEntities.of_eq rfl rfl rfl rfl rfl rfl rfl
    refine ⟨hphased, ?_, fun _ => hticked.stocked.congr hsame,
      fun _ => hticked.aimed.congr hsame, ?_⟩
    · intro hnot
      change (r.afterStep ω).started = false at hnot
      rw [hflag] at hnot
      cases hnot
    · intro hstill
      simp [LogicShard.isActive, DungeonRoom.setGameOver] at hstill

theorem InnerMove.gameState {p : Policy F} {r r' : DungeonRoom F}
    {events : List (ShardEvent F)} (hshape : RoomShape r) (h : GameState r)
    (hmove : InnerMove p r events r') : GameState r' := by
  have hphased := (hmove.phaseMove hshape h.phased).phased
  cases hmove with
  | @ready uid player flag hp =>
      refine h.congr hphased (SameEntities.of_eq rfl rfl rfl rfl rfl rfl rfl) rfl
        rfl ?_
      intro _
      exact ⟨ready_roster hp flag, rfl, rfl, rfl, rfl, rfl, rfl⟩
  | start routes ω _ _ hlobby =>
      have hgame := startGame_started routes ω hshape (h.lobby hlobby)
      have hkeyed : Keyed (r.setStarted true) :=
        hshape.keyed.congr rfl rfl rfl rfl rfl
      have hflag : (LogicShard.startGame routes ω r).1.started = true :=
        (spawnInitialUnits_setup ω hkeyed).1.started
      refine ⟨hphased, ?_, fun _ => hgame.stocked, fun _ => hgame.aimed,
        fun _ => hgame.running⟩
      intro hnot
      rw [hflag] at hnot
      cases hnot
  | enqueue cmd _ =>
      refine h.congr hphased (SameEntities.of_eq rfl rfl rfl rfl rfl rfl rfl) rfl
        rfl ?_
      intro _
      exact ⟨SameRoster.of_eq rfl, rfl, rfl, rfl, rfl, rfl, rfl⟩
  | tick routes ω hactive _ => exact tick_gameState routes ω hshape h hactive

/-- The invariant holds of all rooms in all runs. -/
theorem gameRule : RoomRule Policy.free (GameState (F := F)) fun _ => True where
  chatter := fun _ _ => trivial
  fresh := freshRoom_gameState
  enter := by
    intro r uid hshape h hnew hfits _
    exact h.seated hshape hnew hfits
  inner := by
    intro r events r' hshape h hmove
    exact ⟨hmove.gameState hshape h, fun _ _ => trivial⟩
  leave := by
    intro r events r' uid _ h _ hothers _ hmove
    exact ⟨hmove.gameState h hothers, fun _ _ => trivial⟩

theorem run_gameState (codec : Codec B F) (shardId shardCount : Nat)
    (inputs : List (LogicShard.ShardInput B)) :
    AllRooms GameState (LogicShard.run codec shardId shardCount inputs).1 :=
  (gameRule.run codec shardId shardCount inputs).1

end RtsGame
