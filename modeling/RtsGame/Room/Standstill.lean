import RtsGame.Room.Simulation

/-!
# Rooms at a standstill

Units of one team that have nothing to do stay where they are, and buildings
that train nobody stay as they are: a step of such a room changes no table but
that of the units, and there only the time until the next attack.
-/

namespace RtsGame

open Scalar

namespace DungeonRoom

variable {F : Type} [Scalar F]

/-- A living unit of the team that has nothing to do. -/
structure IdleUnit (team : Nat) (u : GameUnit F) : Prop where
  team : u.team = team
  alive : ¬ u.hp ≤ lit 0
  attackTarget : u.attackTarget = 0
  task : u.task = WorkerTask.none
  hasTarget : u.hasTarget = false

/-- A standing building that trains nobody. -/
structure IdleBuilding (b : Building F) : Prop where
  alive : ¬ b.hp ≤ lit 0
  trainQueue : b.trainQueue = []

structure Still (team : Nat) (r : DungeonRoom F) : Prop where
  units : r.units.AllAt fun _ u => IdleUnit team u
  buildings : r.buildings.AllAt fun _ b => IdleBuilding b

/-- The same entities, but for the state of the units. -/
structure SameHoldings (r s : DungeonRoom F) : Prop where
  units : forall id, id ∈ s.units <-> id ∈ r.units
  buildings : s.buildings = r.buildings
  fields : s.fields = r.fields
  drops : s.drops = r.drops
  players : s.players = r.players
  ledgers : s.playerRes = r.playerRes
  serverTick : s.serverTick = r.serverTick

omit [Scalar F] in
theorem SameHoldings.refl (r : DungeonRoom F) : SameHoldings r r :=
  ⟨fun _ => Iff.rfl, rfl, rfl, rfl, rfl, rfl, rfl⟩

omit [Scalar F] in
theorem SameHoldings.trans {r s t : DungeonRoom F} (h : SameHoldings r s)
    (h' : SameHoldings s t) : SameHoldings r t :=
  ⟨fun id => (h'.units id).trans (h.units id), h'.buildings.trans h.buildings,
    h'.fields.trans h.fields, h'.drops.trans h.drops, h'.players.trans h.players,
    h'.ledgers.trans h.ledgers, h'.serverTick.trans h.serverTick⟩

theorem coolDown_idle {team : Nat} {u : GameUnit F} (h : IdleUnit team u) (dt : F) :
    IdleUnit team (coolDown dt u) := by
  unfold coolDown
  split
  · exact ⟨h.team, h.alive, h.attackTarget, h.task, h.hasTarget⟩
  · exact h

/-- Among units of one team there is no enemy. -/
theorem nearestEnemy_still {team : Nat} {r : DungeonRoom F} (h : Still team r)
    (ω : IterOrder) {u : GameUnit F} (hu : u.team = team) (range : F) :
    r.nearestEnemy ω u range = 0 := by
  unfold nearestEnemy
  refine congrArg Prod.snd (List.foldl_fixed' ?_ (ω.visit r.units))
  intro id
  cases hother : r.units.lookup id with
  | none => rfl
  | some other =>
      have hteam : other.team = u.team := (h.units id other hother).team.trans hu.symm
      dsimp only
      rw [if_pos (Or.inl hteam)]

theorem Still.cool {team : Nat} {r : DungeonRoom F} (h : Still team r) {id : Nat}
    {u : GameUnit F} (hu : r.units.lookup id = some u) (dt : F) :
    Still team (r.putUnit id (coolDown dt u)) ∧
      SameHoldings r (r.putUnit id (coolDown dt u)) := by
  refine ⟨⟨Table.AllAt.insert h.units (coolDown_idle (h.units id u hu) dt),
    h.buildings⟩, ?_, rfl, rfl, rfl, rfl, rfl, rfl⟩
  intro other
  change other ∈ AList.insert id _ r.units <-> _
  rw [AList.mem_insert]
  constructor
  · rintro (hid | hmem)
    · rw [hid]
      exact Table.mem_of_lookup hu
    · exact hmem
  · exact Or.inr

theorem scanAggro_still {team : Nat} {r : DungeonRoom F} (h : Still team r)
    (ω : IterOrder) (id : Nat) {u : GameUnit F} (hu : IdleUnit team u) :
    r.scanAggro ω id u = r := by
  have hnobody := nearestEnemy_still h ω hu.team (kAggroRange : F)
  unfold scanAggro acquireAutoTarget
  simp only [hu.attackTarget, hu.task, hu.hasTarget, hnobody, ne_eq, not_true_eq_false,
    if_false, if_true, Bool.not_false]

theorem act_still (ω : IterOrder) (dt : F) (r : DungeonRoom F) (id : Nat) {team : Nat}
    {u : GameUnit F} (hu : IdleUnit team u) : r.act ω dt id u = r := by
  unfold act
  simp only [hu.attackTarget, hu.task, hu.hasTarget, ne_eq, not_true_eq_false, if_false,
    Bool.false_eq_true]

theorem stepUnit_still {team : Nat} {r : DungeonRoom F} (h : Still team r)
    (ω : IterOrder) (dt : F) (doAggro : Bool) (id : Nat) :
    Still team (stepUnit ω dt doAggro r id) ∧
      SameHoldings r (stepUnit ω dt doAggro r id) := by
  unfold stepUnit
  cases hu : r.units.lookup id with
  | none => exact ⟨h, SameHoldings.refl r⟩
  | some u =>
      dsimp only
      have hidle := h.units id u hu
      rw [if_neg hidle.alive]
      have hcool := h.cool hu dt
      have hfound : (r.putUnit id (coolDown dt u)).units.lookup id =
          some (coolDown dt u) := AList.lookup_insert r.units
      have hscan : (if doAggro = true then
          (r.putUnit id (coolDown dt u)).withUnit id (scanAggro ω)
          else r.putUnit id (coolDown dt u)) = r.putUnit id (coolDown dt u) := by
        split
        · unfold withUnit
          rw [hfound]
          exact scanAggro_still hcool.left ω id (coolDown_idle hidle dt)
        · rfl
      rw [hscan]
      unfold withUnit
      rw [hfound]
      dsimp only
      rw [act_still ω dt _ id (coolDown_idle hidle dt)]
      exact hcool

theorem stepUnits_still {team : Nat} (ω : IterOrder) (dt : F) (doAggro : Bool)
    (ids : List Nat) {r : DungeonRoom F} (h : Still team r) :
    Still team (ids.foldl (stepUnit ω dt doAggro) r) ∧
      SameHoldings r (ids.foldl (stepUnit ω dt doAggro) r) := by
  induction ids generalizing r with
  | nil =>
      exact ⟨h, SameHoldings.refl r⟩
  | cons id rest ih =>
      have hfirst := stepUnit_still h ω dt doAggro id
      have hlater := ih hfirst.left
      exact ⟨hlater.left, hfirst.right.trans hlater.right⟩

theorem stepBuildings_still {team : Nat} {r : DungeonRoom F} (h : Still team r)
    (dt : F) (ids : List Nat) : ids.foldl (stepBuilding dt) r = r := by
  refine List.foldl_fixed' ?_ ids
  intro id
  unfold stepBuilding
  cases hb : r.buildings.lookup id with
  | none => rfl
  | some b =>
      dsimp only
      rw [(h.buildings id b hb).trainQueue]

theorem removeDeadUnits_still {team : Nat} {r : DungeonRoom F} (h : Still team r)
    (ids : List Nat) : ids.foldl removeDeadUnit r = r := by
  refine List.foldl_fixed' ?_ ids
  intro id
  unfold removeDeadUnit
  cases hu : r.units.lookup id with
  | none => rfl
  | some u =>
      dsimp only
      rw [if_neg (h.units id u hu).alive]

theorem removeDeadBuildings_still {team : Nat} {r : DungeonRoom F}
    (h : Still team r) (ids : List Nat) : ids.foldl removeDeadBuilding r = r := by
  refine List.foldl_fixed' ?_ ids
  intro id
  unfold removeDeadBuilding
  cases hb : r.buildings.lookup id with
  | none => rfl
  | some b =>
      dsimp only
      rw [if_neg (h.buildings id b hb).alive]

/-- A step of a room at a standstill keeps all entities. -/
theorem step_still {team : Nat} {r : DungeonRoom F} (h : Still team r)
    (ω : IterOrder) (dt : F) :
    Still team (r.step ω dt) ∧ SameHoldings r (r.step ω dt) := by
  have hscanned : Still team { r with aggroScanTick := r.nextScanTick } :=
    ⟨h.units, h.buildings⟩
  have hunits := stepUnits_still ω dt (r.nextScanTick % kAggroScanTicks = 0)
    (ω.visit { r with aggroScanTick := r.nextScanTick }.units) hscanned
  unfold step removeDead removeDeadUnits removeDeadBuildings stepAlive stepBuildings
    stepUnits
  rw [stepBuildings_still hunits.left, removeDeadUnits_still hunits.left,
    removeDeadBuildings_still hunits.left]
  have hsame : SameHoldings r { r with aggroScanTick := r.nextScanTick } :=
    ⟨fun _ => Iff.rfl, rfl, rfl, rfl, rfl, rfl, rfl⟩
  exact ⟨hunits.left, hsame.trans hunits.right⟩

/-!
## Free buildings

A type that the table of costs does not know is free.
-/

/-- A command to build something free, and nobody to work on it. -/
structure FreeBuild (uid : Nat) (cmd : PendingCommand F) : Prop where
  type : cmd.type = CommandType.build
  owner : cmd.ownerUid = uid
  noCrystal : cmd.auxType ≠ kBuildingCrystal
  cost : buildingCost cmd.auxType = ⟨0, 0, 0⟩
  units : cmd.unitIds = []
  alive : forall id ownerUid team (pos : Vec3f F) yaw,
    ¬ (newBuilding id ownerUid team cmd.auxType pos yaw true).hp ≤ lit 0

/-- The room after so many free buildings. -/
structure Built (team uid count : Nat) (r s : DungeonRoom F) : Prop where
  still : Still team s
  ledger : uid ∈ s.playerRes
  below : forall id, id ∈ s.buildings -> id < s.nextEntityId
  units : s.units = r.units
  buildings : s.buildings.size = r.buildings.size + count
  fields : s.fields = r.fields
  drops : s.drops = r.drops
  players : s.players = r.players
  ledgers : forall id, id ∈ s.playerRes <-> id ∈ r.playerRes
  serverTick : s.serverTick = r.serverTick

omit [Scalar F] in
theorem canAfford_nothing (res : PlayerRes) : res.canAfford ⟨0, 0, 0⟩ = true := by
  unfold PlayerRes.canAfford
  simp

theorem applyCommand_free {uid : Nat} {cmd : PendingCommand F}
    (hcmd : FreeBuild uid cmd) {r : DungeonRoom F} {res : PlayerRes}
    (hres : r.playerRes.lookup uid = some res) :
    r.applyCommand cmd = (r.payFrom uid res ⟨0, 0, 0⟩).spawnBuilding uid
      (r.teamOf uid) cmd.auxType cmd.target cmd.yaw true := by
  unfold applyCommand
  rw [hcmd.type]
  dsimp only
  unfold applyBuild
  rw [hcmd.owner, hres]
  dsimp only
  rw [hcmd.cost, if_neg hcmd.noCrystal, canAfford_nothing, hcmd.units]
  rfl

theorem Built.next {team uid count : Nat} {cmd : PendingCommand F}
    (hcmd : FreeBuild uid cmd) {r s : DungeonRoom F} (h : Built team uid count r s) :
    Built team uid (count + 1) r (s.applyCommand cmd) := by
  rcases Table.mem_iff_lookup.mp h.ledger with ⟨res, hres⟩
  have hledgers : forall id, id ∈ s.playerRes.insert uid (res.pay ⟨0, 0, 0⟩) <->
      id ∈ s.playerRes := by
    intro id
    rw [AList.mem_insert]
    constructor
    · rintro (hid | hmem)
      · rw [hid]
        exact h.ledger
      · exact hmem
    · exact Or.inr
  have hfresh : s.nextEntityId ∉ s.buildings := fun hmem =>
    Nat.lt_irrefl _ (h.below _ hmem)
  rw [applyCommand_free hcmd hres]
  constructor
  · refine ⟨h.still.units, Table.AllAt.insert h.still.buildings ?_⟩
    exact ⟨hcmd.alive _ _ _ _ _, rfl⟩
  · exact (hledgers uid).mpr h.ledger
  · intro id hid
    rcases (AList.mem_insert _).mp hid with heq | hmem
    · rw [heq]
      exact Nat.lt_succ_self _
    · exact Nat.lt_succ_of_lt (h.below id hmem)
  · exact h.units
  · have hsize := Table.size_insert_of_notMem (newBuilding s.nextEntityId uid
      (s.teamOf uid) cmd.auxType cmd.target cmd.yaw true) hfresh
    refine Eq.trans hsize ?_
    rw [h.buildings, Nat.add_assoc]
  · exact h.fields
  · exact h.drops
  · exact h.players
  · intro id
    exact (hledgers id).trans (h.ledgers id)
  · exact h.serverTick

theorem applyCommands_free {team uid : Nat} {cmd : PendingCommand F}
    (hcmd : FreeBuild uid cmd) {r : DungeonRoom F} (h : Built team uid 0 r r)
    (n : Nat) :
    Built team uid n r (r.applyCommands (List.replicate n cmd)) := by
  induction n with
  | zero =>
      exact h
  | succ n ih =>
      unfold applyCommands at ih ⊢
      rw [List.replicate_succ', List.foldl_append]
      exact ih.next hcmd

/-- The room that is announced after a tick that built so much. -/
theorem step_built {team uid n : Nat} {cmd : PendingCommand F}
    (hcmd : FreeBuild uid cmd) {r : DungeonRoom F} (h : Built team uid 0 r r)
    (hpending : r.pending = List.replicate n cmd) (ω : IterOrder) (dt : F) :
    exists s, r.applyPending.takeRejected.1.step ω dt = s ∧
      s.units.size = r.units.size ∧ s.buildings.size = r.buildings.size + n ∧
      s.fields = r.fields ∧ s.drops = r.drops ∧ s.players = r.players ∧
      s.playerRes.size = r.playerRes.size ∧ s.serverTick = r.serverTick := by
  have hbuilt := applyCommands_free hcmd h n
  have hstill : Still team r.applyPending.takeRejected.1 := by
    unfold applyPending
    rw [hpending]
    exact ⟨hbuilt.still.units, hbuilt.still.buildings⟩
  have hsame := (step_still hstill ω dt).right
  have hbefore : r.applyPending.takeRejected.1.units = r.units ∧
      r.applyPending.takeRejected.1.buildings.size = r.buildings.size + n ∧
      r.applyPending.takeRejected.1.fields = r.fields ∧
      r.applyPending.takeRejected.1.drops = r.drops ∧
      r.applyPending.takeRejected.1.players = r.players ∧
      (forall id, id ∈ r.applyPending.takeRejected.1.playerRes <-> id ∈ r.playerRes) ∧
      r.applyPending.takeRejected.1.serverTick = r.serverTick := by
    unfold applyPending
    rw [hpending]
    exact ⟨hbuilt.units, hbuilt.buildings, hbuilt.fields, hbuilt.drops, hbuilt.players,
      hbuilt.ledgers, hbuilt.serverTick⟩
  rcases hbefore with
    ⟨hunits, hbuildings, hfields, hdrops, hplayers, hledgers, htick⟩
  refine ⟨_, rfl, ?_, ?_, hsame.fields.trans hfields, hsame.drops.trans hdrops,
    hsame.players.trans hplayers, ?_, hsame.serverTick.trans htick⟩
  · rw [Table.size_congr hsame.units, hunits]
  · rw [hsame.buildings, hbuildings]
  · rw [hsame.ledgers]
    exact Table.size_congr hledgers

end DungeonRoom

end RtsGame
