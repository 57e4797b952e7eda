import RtsGame.Room.Orders

/-!
# Reachable rooms

A room is reachable if some sequence of calls of its public operations, with
any arguments, leads to it.  In every reachable room each entity is stored
under its own id.
-/

namespace RtsGame

namespace DungeonRoom

variable {F : Type} [Scalar F]

/-- The rooms that the public operations can produce. -/
inductive Reachable : DungeonRoom F -> Prop where
  | create (roomId : Nat) (roomName : String) (maxPlayers : Nat) :
      Reachable (create roomId roomName maxPlayers)
  | addPlayer {r s : DungeonRoom F} {uid team : Nat} :
      Reachable r -> r.addPlayer uid = some (s, team) -> Reachable s
  | setReady {r s : DungeonRoom F} {uid : Nat} {ready : Bool} :
      Reachable r -> r.setReady uid ready = some s -> Reachable s
  | removePlayer {r : DungeonRoom F} (uid : Nat) :
      Reachable r -> Reachable (r.removePlayer uid).1
  | setStarted {r : DungeonRoom F} (started : Bool) :
      Reachable r -> Reachable (r.setStarted started)
  | setGameOver {r : DungeonRoom F} (finished : Bool) :
      Reachable r -> Reachable (r.setGameOver finished)
  | nextServerTick {r : DungeonRoom F} :
      Reachable r -> Reachable r.nextServerTick
  | spawnUnit {r : DungeonRoom F} (ownerUid team unitType : Nat)
      (pos : Vec3f F) (hp speed yaw : F) :
      Reachable r ->
      Reachable (r.spawnUnit ownerUid team unitType pos hp speed yaw)
  | spawnBuilding {r : DungeonRoom F} (ownerUid team buildingType : Nat)
      (pos : Vec3f F) (yaw : F) (underConstruction : Bool) :
      Reachable r ->
      Reachable (r.spawnBuilding ownerUid team buildingType pos yaw
        underConstruction)
  | spawnResourceField {r : DungeonRoom F} (raw : Nat) (pos : Vec3f F)
      (amount : UInt32) :
      Reachable r -> Reachable (r.spawnResourceField raw pos amount)
  | spawnResourceDrop {r : DungeonRoom F} (raw : Nat) (pos : Vec3f F)
      (amount : UInt32) :
      Reachable r -> Reachable (r.spawnResourceDrop raw pos amount)
  | enqueueCommand {r : DungeonRoom F} (cmd : PendingCommand F) :
      Reachable r -> Reachable (r.enqueueCommand cmd)
  | applyPending {r : DungeonRoom F} :
      Reachable r -> Reachable r.applyPending
  | takeRejected {r : DungeonRoom F} :
      Reachable r -> Reachable r.takeRejected.1
  | step {r : DungeonRoom F} (ω : IterOrder) (dt : F) :
      Reachable r -> Reachable (r.step ω dt)
  | beginBattle {r : DungeonRoom F} :
      Reachable r -> Reachable r.beginBattle
  | clearFrameChanges {r : DungeonRoom F} :
      Reachable r -> Reachable r.clearFrameChanges

omit [Scalar F] in
theorem keyed_create (roomId : Nat) (roomName : String) (maxPlayers : Nat) :
    Keyed (create roomId roomName maxPlayers : DungeonRoom F) :=
  ⟨Table.allAt_empty _, Table.allAt_empty _, Table.allAt_empty _,
    Table.allAt_empty _⟩

omit [Scalar F] in
/-- A room with the same entities and counter is keyed as well. -/
theorem Keyed.congr {r s : DungeonRoom F} (h : Keyed r)
    (hunits : s.units = r.units) (hbuildings : s.buildings = r.buildings)
    (hfields : s.fields = r.fields) (hdrops : s.drops = r.drops)
    (hnext : s.nextEntityId = r.nextEntityId) : Keyed s := by
  constructor
  · rw [hunits, hnext]
    exact h.units
  · rw [hbuildings, hnext]
    exact h.buildings
  · rw [hfields, hnext]
    exact h.fields
  · rw [hdrops, hnext]
    exact h.drops

theorem Keyed.spawnUnit {r : DungeonRoom F} (h : Keyed r)
    (ownerUid team unitType : Nat) (pos : Vec3f F) (hp speed yaw : F) :
    Keyed (r.spawnUnit ownerUid team unitType pos hp speed yaw) := by
  rcases h.lift (n := r.nextEntityId + 1) (by lia) with
    ⟨hunits, hbuildings, hfields, hdrops⟩
  exact ⟨hunits.insert ⟨rfl, by lia⟩, hbuildings, hfields, hdrops⟩

theorem Keyed.spawnBuilding {r : DungeonRoom F} (h : Keyed r)
    (ownerUid team buildingType : Nat) (pos : Vec3f F) (yaw : F)
    (underConstruction : Bool) :
    Keyed (r.spawnBuilding ownerUid team buildingType pos yaw
      underConstruction) := by
  rcases h.lift (n := r.nextEntityId + 1) (by lia) with
    ⟨hunits, hbuildings, hfields, hdrops⟩
  exact ⟨hunits, hbuildings.insert ⟨rfl, by lia⟩, hfields, hdrops⟩

theorem Keyed.spawnResourceField {r : DungeonRoom F} (h : Keyed r)
    (raw : Nat) (pos : Vec3f F) (amount : UInt32) :
    Keyed (r.spawnResourceField raw pos amount) := by
  rcases h.lift (n := r.nextEntityId + 1) (by lia) with
    ⟨hunits, hbuildings, hfields, hdrops⟩
  exact ⟨hunits, hbuildings, hfields.insert ⟨rfl, by lia⟩, hdrops⟩

omit [Scalar F] in
theorem Keyed.spawnResourceDrop {r : DungeonRoom F} (h : Keyed r)
    (raw : Nat) (pos : Vec3f F) (amount : UInt32) :
    Keyed (r.spawnResourceDrop raw pos amount) := by
  rcases h.lift (n := r.nextEntityId + 1) (by lia) with
    ⟨hunits, hbuildings, hfields, hdrops⟩
  exact ⟨hunits, hbuildings, hfields, hdrops.insert ⟨rfl, by lia⟩⟩

theorem Keyed.applyPending {r : DungeonRoom F} (h : Keyed r) :
    Keyed r.applyPending := by
  rcases applyPending_effects h (allJustified_any r r.pending) with
    ⟨_, heff, _⟩
  exact Effects.keyed h heff

theorem Keyed.step {r : DungeonRoom F} (h : Keyed r) (ω : IterOrder) (dt : F) :
    Keyed (r.step ω dt) := by
  rcases step_effects ω dt r with ⟨_, heff, _⟩
  exact Effects.keyed h heff

omit [Scalar F] in
/-- A successful join changes the two tables of players only. -/
theorem addPlayer_cases {r s : DungeonRoom F} {uid team : Nat}
    (h : r.addPlayer uid = some (s, team)) :
    (s = r ∧ exists player, r.players.lookup uid = some player ∧
        team = player.team) ∨
      (r.players.lookup uid = none ∧ r.players.size < r.maxPlayers ∧
        team = r.players.size ∧
        s = { r with
          players := r.players.insert uid ⟨uid, r.players.size, false⟩
          playerRes := r.playerRes.emplace uid {} }) := by
  unfold addPlayer at h
  cases hp : r.players.lookup uid with
  | some player =>
      rw [hp] at h
      simp only [Option.some.injEq, Prod.mk.injEq] at h
      exact Or.inl ⟨h.1.symm, player, rfl, h.2.symm⟩
  | none =>
      rw [hp] at h
      simp only [isFull, decide_eq_true_eq] at h
      split at h
      · cases h
      · rename_i hfull
        simp only [Option.some.injEq, Prod.mk.injEq] at h
        exact Or.inr ⟨rfl, by lia, h.2.symm, h.1.symm⟩

omit [Scalar F] in
theorem setReady_cases {r s : DungeonRoom F} {uid : Nat} {ready : Bool}
    (h : r.setReady uid ready = some s) :
    exists player, r.players.lookup uid = some player ∧
      s = { r with players := r.players.insert uid { player with ready := ready } } := by
  unfold setReady at h
  cases hp : r.players.lookup uid with
  | none =>
      rw [hp] at h
      cases h
  | some player =>
      rw [hp] at h
      simp only [Option.some.injEq] at h
      exact ⟨player, rfl, h.symm⟩

theorem Reachable.keyed {r : DungeonRoom F} (h : Reachable r) : Keyed r := by
  induction h with
  | create roomId roomName maxPlayers =>
      exact keyed_create roomId roomName maxPlayers
  | addPlayer _ hadd ih =>
      rcases addPlayer_cases hadd with ⟨rfl, _⟩ | ⟨_, _, _, rfl⟩
      · exact ih
      · exact ih.congr rfl rfl rfl rfl rfl
  | setReady _ hready ih =>
      rcases setReady_cases hready with ⟨_, _, rfl⟩
      exact ih.congr rfl rfl rfl rfl rfl
  | removePlayer uid _ ih => exact ih.congr rfl rfl rfl rfl rfl
  | setStarted started _ ih => exact ih.congr rfl rfl rfl rfl rfl
  | setGameOver finished _ ih => exact ih.congr rfl rfl rfl rfl rfl
  | nextServerTick _ ih => exact ih.congr rfl rfl rfl rfl rfl
  | spawnUnit ownerUid team unitType pos hp speed yaw _ ih =>
      exact ih.spawnUnit ownerUid team unitType pos hp speed yaw
  | spawnBuilding ownerUid team buildingType pos yaw site _ ih =>
      exact ih.spawnBuilding ownerUid team buildingType pos yaw site
  | spawnResourceField raw pos amount _ ih =>
      exact ih.spawnResourceField raw pos amount
  | spawnResourceDrop raw pos amount _ ih =>
      exact ih.spawnResourceDrop raw pos amount
  | enqueueCommand cmd _ ih => exact ih.congr rfl rfl rfl rfl rfl
  | applyPending _ ih => exact ih.applyPending
  | takeRejected _ ih => exact ih.congr rfl rfl rfl rfl rfl
  | step ω dt _ ih => exact ih.step ω dt
  | beginBattle _ ih => exact ih.congr rfl rfl rfl rfl rfl
  | clearFrameChanges _ ih => exact ih.congr rfl rfl rfl rfl rfl

/-!
## Sequences of calls
-/

/-- A call of a public operation that changes the room. -/
inductive RoomCall (F : Type) where
  | addPlayer (uid : Nat)
  | setReady (uid : Nat) (ready : Bool)
  | removePlayer (uid : Nat)
  | setStarted (started : Bool)
  | setGameOver (finished : Bool)
  | nextServerTick
  | spawnUnit (ownerUid team unitType : Nat) (pos : Vec3f F) (hp speed yaw : F)
  | spawnBuilding (ownerUid team buildingType : Nat) (pos : Vec3f F) (yaw : F)
      (underConstruction : Bool)
  | spawnResourceField (raw : Nat) (pos : Vec3f F) (amount : UInt32)
  | spawnResourceDrop (raw : Nat) (pos : Vec3f F) (amount : UInt32)
  | enqueueCommand (cmd : PendingCommand F)
  | applyPending
  | takeRejected
  | step (ω : IterOrder) (dt : F)
  | beginBattle
  | clearFrameChanges

/-- The room after a call; a join or a ready mark that fails leaves it alone. -/
def call (r : DungeonRoom F) : RoomCall F -> DungeonRoom F
  | RoomCall.addPlayer uid => ((r.addPlayer uid).map Prod.fst).getD r
  | RoomCall.setReady uid ready => (r.setReady uid ready).getD r
  | RoomCall.removePlayer uid => (r.removePlayer uid).1
  | RoomCall.setStarted started => r.setStarted started
  | RoomCall.setGameOver finished => r.setGameOver finished
  | RoomCall.nextServerTick => r.nextServerTick
  | RoomCall.spawnUnit ownerUid team unitType pos hp speed yaw =>
      r.spawnUnit ownerUid team unitType pos hp speed yaw
  | RoomCall.spawnBuilding ownerUid team buildingType pos yaw underConstruction =>
      r.spawnBuilding ownerUid team buildingType pos yaw underConstruction
  | RoomCall.spawnResourceField raw pos amount => r.spawnResourceField raw pos amount
  | RoomCall.spawnResourceDrop raw pos amount => r.spawnResourceDrop raw pos amount
  | RoomCall.enqueueCommand cmd => r.enqueueCommand cmd
  | RoomCall.applyPending => r.applyPending
  | RoomCall.takeRejected => r.takeRejected.1
  | RoomCall.step ω dt => r.step ω dt
  | RoomCall.beginBattle => r.beginBattle
  | RoomCall.clearFrameChanges => r.clearFrameChanges

theorem Reachable.call {r : DungeonRoom F} (h : Reachable r) (c : RoomCall F) :
    Reachable (r.call c) := by
  cases c with
  | addPlayer uid =>
      cases hadd : r.addPlayer uid with
      | none =>
          simp only [DungeonRoom.call, hadd]
          exact h
      | some joined =>
          simp only [DungeonRoom.call, hadd]
          exact h.addPlayer hadd
  | setReady uid ready =>
      cases hready : r.setReady uid ready with
      | none =>
          simp only [DungeonRoom.call, hready]
          exact h
      | some s =>
          simp only [DungeonRoom.call, hready]
          exact h.setReady hready
  | removePlayer uid => exact h.removePlayer uid
  | setStarted started => exact h.setStarted started
  | setGameOver finished => exact h.setGameOver finished
  | nextServerTick => exact h.nextServerTick
  | spawnUnit ownerUid team unitType pos hp speed yaw =>
      exact h.spawnUnit ownerUid team unitType pos hp speed yaw
  | spawnBuilding ownerUid team buildingType pos yaw underConstruction =>
      exact h.spawnBuilding ownerUid team buildingType pos yaw underConstruction
  | spawnResourceField raw pos amount => exact h.spawnResourceField raw pos amount
  | spawnResourceDrop raw pos amount => exact h.spawnResourceDrop raw pos amount
  | enqueueCommand cmd => exact h.enqueueCommand cmd
  | applyPending => exact h.applyPending
  | takeRejected => exact h.takeRejected
  | step ω dt => exact h.step ω dt
  | beginBattle => exact h.beginBattle
  | clearFrameChanges => exact h.clearFrameChanges

/-!
## A small reachable room
-/

/-- Two villagers of different players, side by side. -/
def neighbours : DungeonRoom Rat :=
  ((create 1 "neighbours" 2).spawnUnit 1 0 kUnitVillager ⟨0, 0, 0⟩ 100 6 0).spawnUnit
    2 1 kUnitVillager ⟨5, 0, 0⟩ 100 6 0

/-- The second player orders both villagers to move. -/
def trespass : PendingCommand Rat :=
  ⟨CommandType.move, 2, 0, [1, 2], ⟨30, 0, 40⟩, [], 0, 0, 0⟩

theorem neighbours_reachable : Reachable neighbours :=
  ((Reachable.create 1 "neighbours" 2).spawnUnit 1 0 kUnitVillager
    ⟨0, 0, 0⟩ 100 6 0).spawnUnit 2 1 kUnitVillager ⟨5, 0, 0⟩ 100 6 0

end DungeonRoom

end RtsGame
