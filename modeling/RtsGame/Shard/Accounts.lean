import RtsGame.Shard.Games

/-!
# Accounts of running games

What one tick of a shard does to each of its rooms, and what that means for the
resources in them: in total they are accounted for exactly, and by type they do
not grow as long as workers do not mix their loads.
-/

namespace RtsGame

open Scalar
open DungeonRoom LogicShard

variable {B F : Type} [Scalar F]

/-!
## The total
-/

/-- Neither announcing a tick nor ending the game touches the resources. -/
theorem tickRoom_total (routes : Routes) (ω : RoomOrders) (roomId : Nat)
    (r : DungeonRoom F) :
    totalResources (tickRoom routes ω roomId r).1 =
      totalResources (r.beforeStep.step ω.world kTickSeconds) := by
  rcases tickRoom_cases routes ω roomId r with ⟨_, heq⟩ | ⟨_, _, heq⟩
  · rw [heq]
    rfl
  · rw [heq]
    rfl

/-- The account of one tick of one room. -/
theorem tickRoom_balance (routes : Routes) (ω : RoomOrders) (roomId : Nat)
    {r : DungeonRoom F} (hstocked : Stocked r) (howned : Owned r) :
    totalResources (tickRoom routes ω roomId r).1 + acceptedCosts r r.pending +
        removedLoads (r.beforeStep.stepAlive ω.world kTickSeconds)
          (r.beforeStep.step ω.world kTickSeconds) =
      totalResources r := by
  rcases applyPending_effects hstocked.keyed (allJustified_any r r.pending) with
    ⟨_, heff, _⟩
  have hordered : Owned r.beforeStep :=
    (Effects.owned howned heff).congr rfl rfl fun _ hmem => hmem
  have hcommands := applyPending_balance hstocked howned
  have hstep := step_balance (Stocked.beforeStep hstocked) hordered ω.world
    kTickSeconds
  have hsame : stock every r.beforeStep = stock every r.applyPending := rfl
  rw [stock_every, stock_every] at hcommands
  rw [hsame, stock_every, stock_every] at hstep
  rw [tickRoom_total]
  lia

/--
In every run: no backpack of a started game is overfull, its fields and drops
are not empty, and no word operation on its resources has ever wrapped; and the
next tick changes the total of a running game by exactly the costs of the
commands it accepts and the loads of the units it removes.
-/
theorem run_resources_accounted (codec : Codec B F) (shardId shardCount : Nat)
    (inputs : List (LogicShard.ShardInput B)) :
    let s := (LogicShard.run codec shardId shardCount inputs).1
    (forall roomId r, s.rooms.lookup roomId = some r -> r.started = true ->
      (r.units.AllAt fun _ u => u.carriedAmount ≤ kVillagerCarryCapacity) ∧
      (r.fields.AllAt fun _ f => 0 < f.amountLeft) ∧
      (r.drops.AllAt fun _ d => 0 < d.amount) ∧ r.wrapped = false) ∧
    (forall ω roomId r, s.rooms.lookup roomId = some r ->
      LogicShard.isActive r = true ->
      exists r', (LogicShard.tickRooms ω s).1.rooms.lookup roomId = some r' ∧
        totalResources r' + acceptedCosts r r.pending +
            removedLoads
              (r.beforeStep.stepAlive (ω.room roomId).world kTickSeconds)
              (r.beforeStep.step (ω.room roomId).world kTickSeconds) =
          totalResources r) := by
  intro s
  have hall : AllRooms GameState s :=
    run_gameState codec shardId shardCount inputs
  constructor
  · intro roomId r hr hstarted
    have hstocked := (hall.rooms roomId r hr).stocked hstarted
    refine ⟨?_, ?_, ?_, hstocked.unwrapped⟩
    · exact hstocked.units.mono fun _ u hu => hu.1
    · exact hstocked.fields.mono fun _ f hf => hf.1
    · exact hstocked.drops.mono fun _ d hd => hd.1
  · intro ω roomId r hr hactive
    have hstate := hall.rooms roomId r hr
    have hstarted : r.started = true := by
      simp only [LogicShard.isActive, Bool.and_eq_true] at hactive
      exact hactive.1
    refine ⟨(tickRoom s.uidRoute (ω.room roomId) roomId r).1, ?_, ?_⟩
    · rw [LogicShard.tickRooms_lookup, hr, Option.map_some, LogicShard.ticked,
        if_pos hactive]
    · exact tickRoom_balance s.uidRoute (ω.room roomId) roomId
        (hstate.stocked hstarted) (hstate.running hactive).owned

/-!
## The types
-/

/--
In every started game: commands never increase the stock of a resource type,
and neither does a step, whatever its length, in which every worker on its way
to a field or a drop has a matching load.
-/
theorem run_types_conserved (codec : Codec B F) (shardId shardCount : Nat)
    (inputs : List (LogicShard.ShardInput B)) (roomId : Nat)
    (r : DungeonRoom F)
    (hr : (LogicShard.run codec shardId shardCount inputs).1.rooms.lookup
      roomId = some r)
    (hstarted : r.started = true) (resType : Nat)
    (cmds : List (PendingCommand F)) :
    let ordered := { r with pending := cmds }.applyPending
    stock (only resType) ordered ≤ stock (only resType) r ∧
      (LoadsMatch ordered -> forall (ω : IterOrder) (dt : F),
        stock (only resType) (ordered.step ω dt) ≤
          stock (only resType) ordered) := by
  intro ordered
  have hstate := (run_gameState codec shardId shardCount inputs).rooms roomId r hr
  have hsame : SameEntities r { r with pending := cmds } :=
    SameEntities.of_eq rfl rfl rfl rfl rfl rfl rfl
  have hstocked := (hstate.stocked hstarted).congr hsame
  have haimed := (hstate.aimed hstarted).congr hsame
  rcases applyPending_effects hstocked.keyed
      (allJustified_any { r with pending := cmds } cmds) with ⟨_, heff, _⟩
  constructor
  · exact applyPending_stock_le (only resType) hstocked
  · intro hmatch ω dt
    exact step_stock_le (only resType) (Effects.stocked hstocked heff)
      (applyPending_aimed hstocked.keyed haimed) hmatch ω dt

/-!
## A worker between two fields
-/

/-- A player alone in a room sends a worker to a tree and gets one wood. -/
def cutsWood : List (LogicShard.ShardInput (Wire Rat)) :=
  [asks MsgId.createRoomReq 1 (Wire.createRoom ⟨"", 1⟩),
    asks MsgId.playerReadyReq 1 (Wire.playerReady ⟨1, true⟩),
    asks MsgId.moveCmd 1
      (Wire.move ⟨[7], none, [⟨33.8, 0, 50.71⟩, ⟨37.1, 0, 50.71⟩]⟩)] ++
    waits 14 ++ [asks MsgId.harvestCmd 1 (Wire.target ⟨[7], 11⟩)] ++ waits 20

/-- With it, the worker walks to a gold mine. -/
def carriesWoodToGold : List (LogicShard.ShardInput (Wire Rat)) :=
  cutsWood ++
    [asks MsgId.moveCmd 1
      (Wire.move ⟨[7], none, [⟨26.225, 0, 65.21⟩, ⟨24.6, 0, 65.21⟩]⟩)] ++
    waits 66

/-- The order to harvest a field with the worker. -/
def harvestWith (fieldId : Nat) : PendingCommand Rat :=
  { LogicShard.blankCommand CommandType.harvest 1 with
    unitIds := [7]
    targetEntity := fieldId }

theorem cutsWood_types_conserved :
    exists r, (LogicShard.run Wire.codec 0 1 cutsWood).1.rooms.lookup 1 = some r ∧
      r.started = true ∧
      LoadsMatch { r with pending := [harvestWith 12] }.applyPending ∧
      forall resType (ω : IterOrder) (dt : Rat),
        stock (only resType)
            ({ r with pending := [harvestWith 12] }.applyPending.step ω dt) ≤
          stock (only resType)
            { r with pending := [harvestWith 12] }.applyPending := by
  have hroom : ((LogicShard.run Wire.codec 0 1 cutsWood).1.rooms.lookup 1).map
      (fun r => r.started && decide (LoadsMatch
        { r with pending := [harvestWith 12] }.applyPending)) = some true := by
    decide +kernel
  rcases Option.map_eq_some_iff.mp hroom with ⟨r, hr, hcheck⟩
  rw [Bool.and_eq_true, decide_eq_true_eq] at hcheck
  rcases hcheck with ⟨hstarted, hmatch⟩
  refine ⟨r, hr, hstarted, hmatch, ?_⟩
  intro resType ω dt
  exact (run_types_conserved Wire.codec 0 1 cutsWood 1 r hr hstarted resType
    [harvestWith 12]).2 hmatch ω dt

theorem wood_becomes_gold :
    ¬ forall (inputs : List (LogicShard.ShardInput (Wire Rat))) (roomId : Nat)
      (r : DungeonRoom Rat) (resType : Nat) (cmds : List (PendingCommand Rat))
      (ω : IterOrder) (dt : Rat),
      (LogicShard.run Wire.codec 0 1 inputs).1.rooms.lookup roomId = some r ->
      r.started = true ->
      stock (only resType) ({ r with pending := cmds }.applyPending.step ω dt) ≤
        stock (only resType) { r with pending := cmds }.applyPending := by
  intro h
  have hroom :
      ((LogicShard.run Wire.codec 0 1 carriesWoodToGold).1.rooms.lookup 1).map
        (fun r => r.started && decide (
          stock (only kResGold) { r with pending := [harvestWith 15] }.applyPending <
            stock (only kResGold)
              ({ r with pending := [harvestWith 15] }.applyPending.step
                IterOrder.stored (1 / 20)))) = some true := by
    decide +kernel
  rcases Option.map_eq_some_iff.mp hroom with ⟨r, hr, hcheck⟩
  rw [Bool.and_eq_true, decide_eq_true_eq] at hcheck
  rcases hcheck with ⟨hstarted, hmore⟩
  have hle := h carriesWoodToGold 1 r kResGold [harvestWith 15] IterOrder.stored
    (1 / 20) hr hstarted
  lia

end RtsGame
