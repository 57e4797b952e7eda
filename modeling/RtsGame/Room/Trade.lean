import RtsGame.Room.Fates

/-!
# What orders cost and whether they are answered

Every Build or Train command is carried out as a whole or leaves nothing but a
rejection behind.  Of the other commands with an illegal target, none is answered
at all.
-/

namespace RtsGame

open Scalar

namespace DungeonRoom

variable {F : Type} [Scalar F]

/-!
## All or nothing
-/

/-- A cost was taken out of a ledger, and no word went below zero. -/
structure Deducted (cost : ResCost) (res res' : PlayerRes) : Prop where
  food : res'.food.toNat + cost.food.toNat = res.food.toNat
  wood : res'.wood.toNat + cost.wood.toNat = res.wood.toNat
  gold : res'.gold.toNat + cost.gold.toNat = res.gold.toNat

theorem pay_deducted {res : PlayerRes} {cost : ResCost} (h : res.canAfford cost = true) :
    Deducted cost res (res.pay cost) := by
  rcases canAfford_le h with ⟨hfood, hwood, hgold⟩
  constructor
  · change (res.food - cost.food).toNat + _ = _
    rw [toNat_sub_of_toNat_le hfood]
    lia
  · change (res.wood - cost.wood).toNat + _ = _
    rw [toNat_sub_of_toNat_le hwood]
    lia
  · change (res.gold - cost.gold).toNat + _ = _
    rw [toNat_sub_of_toNat_le hgold]
    lia

/-- The player's ledger paid the cost, and no other ledger was touched. -/
structure Paid (q q' : DungeonRoom F) (uid : Nat) (cost : ResCost) : Prop where
  payer : exists res res', q.playerRes.lookup uid = some res ∧
    q'.playerRes.lookup uid = some res' ∧ Deducted cost res res'
  others : forall other, other ≠ uid ->
    q'.playerRes.lookup other = q.playerRes.lookup other

omit [Scalar F] in
theorem paid_of_insert {q q' : DungeonRoom F} {uid : Nat} {res : PlayerRes} {cost : ResCost}
    (hres : q.playerRes.lookup uid = some res) (hafford : res.canAfford cost = true)
    (h : q'.playerRes = q.playerRes.insert uid (res.pay cost)) : Paid q q' uid cost := by
  constructor
  · refine ⟨res, res.pay cost, hres, ?_, pay_deducted hafford⟩
    rw [h, AList.lookup_insert]
  · intro other hother
    rw [h, AList.lookup_insert_ne hother]

/-- The room has one more rejection, that of the command, and is otherwise as before. -/
def TurnedDown (q q' : DungeonRoom F) (cmd : PendingCommand F) : Prop :=
  exists code,
    q' = { q with rejected := q.rejected ++ [⟨cmd.ownerUid, cmd.clientSeq, code⟩] }

/-- A Build command was carried out. -/
structure Founds (q q' : DungeonRoom F) (cmd : PendingCommand F) : Prop where
  rejected : q'.rejected = q.rejected
  paid : Paid q q' cmd.ownerUid (buildingCost cmd.auxType)
  site : exists b, b.id = q.nextEntityId ∧ b.ownerUid = cmd.ownerUid ∧
    b.team = q.teamOf cmd.ownerUid ∧ b.buildingType = cmd.auxType ∧
    b.underConstruction = true ∧
    forall j, q'.buildings.lookup j =
      if j = q.nextEntityId then some b else q.buildings.lookup j

/-- A Train command was carried out. -/
structure Enlists (q q' : DungeonRoom F) (cmd : PendingCommand F) : Prop where
  rejected : q'.rejected = q.rejected
  paid : Paid q q' cmd.ownerUid (unitCost cmd.auxType)
  units : q'.units = q.units
  queue : exists b, q.buildings.lookup cmd.targetEntity = some b ∧
    forall j, q'.buildings.lookup j =
      if j = cmd.targetEntity then
        some { b with trainQueue := b.trainQueue ++ [orderedItem cmd] }
      else q.buildings.lookup j

/-- A purchase is made, or it is turned down because a condition fails. -/
structure AllOrNothing (q : DungeonRoom F) (cmd : PendingCommand F) : Prop where
  build : cmd.type = CommandType.build ->
    (exists res, MayBuild q cmd res) ∧ Founds q (q.applyCommand cmd) cmd ∨
      (¬ exists res, MayBuild q cmd res) ∧ TurnedDown q (q.applyCommand cmd) cmd
  train : cmd.type = CommandType.train ->
    (exists b res, MayTrain q cmd b res) ∧ Enlists q (q.applyCommand cmd) cmd ∨
      (¬ exists b res, MayTrain q cmd b res) ∧ TurnedDown q (q.applyCommand cmd) cmd

theorem applyBuild_founds {q : DungeonRoom F} {cmd : PendingCommand F} {res : PlayerRes}
    (hmay : MayBuild q cmd res)
    (heq : q.applyBuild cmd =
      ((q.payFrom cmd.ownerUid res (buildingCost cmd.auxType)).spawnBuilding
        cmd.ownerUid (q.teamOf cmd.ownerUid) cmd.auxType cmd.target cmd.yaw
        true).assignConstructors cmd.ownerUid cmd.unitIds q.nextEntityId) :
    Founds q (q.applyBuild cmd) cmd := by
  have hestate := assignConstructors_estate
    ((q.payFrom cmd.ownerUid res (buildingCost cmd.auxType)).spawnBuilding cmd.ownerUid
      (q.teamOf cmd.ownerUid) cmd.auxType cmd.target cmd.yaw true)
    cmd.ownerUid cmd.unitIds q.nextEntityId
  rw [← heq] at hestate
  refine ⟨hestate.rejected, paid_of_insert hmay.ledger hmay.affordable hestate.playerRes, ?_⟩
  refine ⟨newBuilding q.nextEntityId cmd.ownerUid (q.teamOf cmd.ownerUid) cmd.auxType
    cmd.target cmd.yaw true, rfl, rfl, rfl, rfl, rfl, ?_⟩
  intro j
  rw [hestate.buildings]
  exact Table.lookup_insert_ite q.buildings q.nextEntityId j _

theorem allOrNothing (q : DungeonRoom F) (cmd : PendingCommand F) : AllOrNothing q cmd := by
  constructor
  · intro htype
    rw [applyCommand_build q htype]
    rcases applyBuild_cases q cmd with ⟨res, hmay, heq⟩ | ⟨code, hnot, heq⟩
    · exact Or.inl ⟨⟨res, hmay⟩, applyBuild_founds hmay heq⟩
    · refine Or.inr ⟨?_, code, heq⟩
      rintro ⟨res, hmay⟩
      exact hnot res hmay
  · intro htype
    rw [applyCommand_train q htype]
    rcases applyTrain_cases q cmd with ⟨b, res, hmay, heq⟩ | ⟨code, hnot, heq⟩
    · refine Or.inl ⟨⟨b, res, hmay⟩, ?_⟩
      rw [heq]
      refine ⟨rfl, paid_of_insert hmay.ledger hmay.affordable rfl, rfl, b, hmay.producer, ?_⟩
      intro j
      exact Table.lookup_insert_ite q.buildings cmd.targetEntity j _
    · refine Or.inr ⟨?_, code, heq⟩
      rintro ⟨b, res, hmay⟩
      exact hnot b res hmay

theorem applyCommand_keyed {q : DungeonRoom F} (hq : Keyed q) (cmd : PendingCommand F) :
    Keyed (q.applyCommand cmd) :=
  (turn_keyed hq (Turn.command cmd)).left

/--
Whatever commands wait, each Build or Train among them is carried out as a whole
or only rejected, and the first happens exactly if the conditions hold when its
turn comes.  In a reachable room the building that it adds has a new id.
-/
theorem purchases_all_or_nothing (r : DungeonRoom F) :
    Throughout applyCommand AllOrNothing r r.pending ∧
      (Reachable r ->
        Throughout applyCommand (fun q _ => q.buildings.lookup q.nextEntityId = none) r
          r.pending) := by
  constructor
  · intro front cmd back _
    exact allOrNothing _ cmd
  · intro hr front cmd back _
    have hkeyed : forall cmds : List (PendingCommand F),
        Keyed (cmds.foldl applyCommand r) := by
      intro cmds
      refine List.foldlRecOn cmds applyCommand hr.keyed ?_
      intro q hq next _
      exact applyCommand_keyed hq next
    exact (hkeyed front).buildings_fresh

/-- A player has joined and the battle has begun. -/
def bazaar : DungeonRoom Rat :=
  ((create 1 "bazaar" 2).call (RoomCall.addPlayer 1)).beginBattle

theorem bazaar_reachable : Reachable bazaar :=
  ((Reachable.create 1 "bazaar" 2).call (RoomCall.addPlayer 1)).beginBattle

/-- The player orders a building of the given type. -/
def siteOrder (buildingType : Nat) : PendingCommand Rat :=
  ⟨CommandType.build, 1, 3, [], ⟨10, 0, 10⟩, [], 0, buildingType, 0⟩

/-- Two barracks are ordered, of which only the first can be paid for. -/
theorem barracks_all_or_nothing :
    Throughout applyCommand (fun q _ => q.buildings.lookup q.nextEntityId = none)
      ((bazaar.enqueueCommand (siteOrder kBuildingBarracks)).enqueueCommand
        (siteOrder kBuildingBarracks))
      [siteOrder kBuildingBarracks, siteOrder kBuildingBarracks] :=
  (purchases_all_or_nothing ((bazaar.enqueueCommand
    (siteOrder kBuildingBarracks)).enqueueCommand (siteOrder kBuildingBarracks))).right
    ((bazaar_reachable.enqueueCommand _).enqueueCommand _)

/-!
## Answers to commands with an illegal target
-/

/-- Does the target of a command exist, is it of the right kind, and is its type allowed? -/
def LegalTarget (q : DungeonRoom F) (cmd : PendingCommand F) : Prop :=
  match cmd.type with
  | CommandType.attack => cmd.targetEntity ∈ q.units ∨ cmd.targetEntity ∈ q.buildings
  | CommandType.harvest => cmd.targetEntity ∈ q.fields
  | CommandType.pickup => cmd.targetEntity ∈ q.drops
  | CommandType.construct =>
      exists b, q.buildings.lookup cmd.targetEntity = some b ∧ b.underConstruction = true
  | CommandType.train =>
      exists b, q.buildings.lookup cmd.targetEntity = some b ∧
        b.ownerUid = cmd.ownerUid ∧ b.underConstruction = false ∧
        buildingTrainsUnit b.buildingType cmd.auxType = true
  | CommandType.build =>
      cmd.auxType = kBuildingResourceCamp ∨ cmd.auxType = kBuildingVillagerInn ∨
        cmd.auxType = kBuildingBarracks
  | _ => True

/-- Can the owner pay for the command? -/
def Affordable (q : DungeonRoom F) (cmd : PendingCommand F) : Prop :=
  match cmd.type with
  | CommandType.build =>
      exists res, q.playerRes.lookup cmd.ownerUid = some res ∧
        res.canAfford (buildingCost cmd.auxType) = true
  | CommandType.train =>
      exists res, q.playerRes.lookup cmd.ownerUid = some res ∧
        res.canAfford (unitCost cmd.auxType) = true
  | _ => True

/-- An illegal target is reported once, and nothing else that can be paid for. -/
structure Reported (q : DungeonRoom F) (cmd : PendingCommand F) : Prop where
  illegal : ¬ LegalTarget q cmd -> exists code,
    (q.applyCommand cmd).rejected =
      q.rejected ++ [⟨cmd.ownerUid, cmd.clientSeq, code⟩]
  legal : LegalTarget q cmd -> Affordable q cmd ->
    (q.applyCommand cmd).rejected = q.rejected

/-- The commands that have a target and end without an answer if it is illegal. -/
def isSilent : CommandType -> Bool
  | CommandType.attack => true
  | CommandType.harvest => true
  | CommandType.pickup => true
  | CommandType.construct => true
  | _ => false

/--
An Attack, Harvest, Pickup or Construct command with an illegal target, or a
player's Build command for a type of building that does not exist.
-/
def Unanswered (q : DungeonRoom F) (cmd : PendingCommand F) : Prop :=
  (isSilent cmd.type = true ∧ ¬ LegalTarget q cmd) ∨
    (cmd.type = CommandType.build ∧ kBuildingCrystal < cmd.auxType ∧
      cmd.ownerUid ∈ q.playerRes)

theorem canAfford_unknown {buildingType : Nat} (h : kBuildingCrystal < buildingType)
    (res : PlayerRes) : res.canAfford (buildingCost buildingType) = true := by
  have hcost : buildingCost buildingType = ⟨0, 0, 0⟩ := by
    unfold kBuildingCrystal at h
    unfold buildingCost kBuildingResourceCamp kBuildingVillagerInn kBuildingBarracks
    rw [if_neg (by lia), if_neg (by lia), if_neg (by lia)]
  rw [hcost]
  simp [PlayerRes.canAfford]

omit [Scalar F] in
/-- The types that may be built are those below the crystal. -/
theorem legal_build_iff {buildingType : Nat} :
    (buildingType = kBuildingResourceCamp ∨ buildingType = kBuildingVillagerInn ∨
      buildingType = kBuildingBarracks) <-> buildingType < kBuildingCrystal := by
  unfold kBuildingResourceCamp kBuildingVillagerInn kBuildingBarracks kBuildingCrystal
  lia

/-- A command that leaves the rejections alone is reported if its target is legal. -/
theorem reported_of_same {q : DungeonRoom F} {cmd : PendingCommand F}
    (h : (q.applyCommand cmd).rejected = q.rejected) :
    Reported q cmd <-> LegalTarget q cmd := by
  constructor
  · intro hreported
    by_contra hillegal
    rcases hreported.illegal hillegal with ⟨code, hcode⟩
    rw [h] at hcode
    exact absurd hcode (by simp)
  · intro hlegal
    exact ⟨fun hillegal => absurd hlegal hillegal, fun _ _ => h⟩

theorem TurnedDown.reported {q : DungeonRoom F} {cmd : PendingCommand F}
    (h : TurnedDown q (q.applyCommand cmd) cmd)
    (hnot : ¬ (LegalTarget q cmd ∧ Affordable q cmd)) : Reported q cmd := by
  rcases h with ⟨code, heq⟩
  constructor
  · intro _
    exact ⟨code, by rw [heq]⟩
  · intro hlegal hafford
    exact absurd ⟨hlegal, hafford⟩ hnot

theorem build_reported_iff {q : DungeonRoom F} {cmd : PendingCommand F}
    (htype : cmd.type = CommandType.build) :
    Reported q cmd <-> ¬ (kBuildingCrystal < cmd.auxType ∧ cmd.ownerUid ∈ q.playerRes) := by
  have hlegal : LegalTarget q cmd <-> cmd.auxType < kBuildingCrystal := by
    unfold LegalTarget
    rw [htype]
    exact legal_build_iff
  rcases (allOrNothing q cmd).build htype with ⟨⟨res, hmay⟩, hfounds⟩ | ⟨hnot, hdown⟩
  · rw [reported_of_same hfounds.rejected, hlegal, not_and_or, not_lt]
    have hledger := Table.mem_of_lookup hmay.ledger
    have hother := hmay.allowed
    constructor
    · intro hlt
      exact Or.inl (Nat.le_of_lt hlt)
    · rintro (hle | hnone)
      · exact Nat.lt_of_le_of_ne hle hother
      · exact absurd hledger hnone
  · constructor
    · rintro - ⟨hunknown, hledger⟩
      rcases Table.mem_iff_lookup.mp hledger with ⟨res, hres⟩
      exact hnot ⟨res, hres, Nat.ne_of_gt hunknown, canAfford_unknown hunknown res⟩
    · intro _
      apply hdown.reported
      rintro ⟨hlt, hafford⟩
      rw [hlegal] at hlt
      unfold Affordable at hafford
      rw [htype] at hafford
      rcases hafford with ⟨res, hres, hpays⟩
      exact hnot ⟨res, hres, Nat.ne_of_lt hlt, hpays⟩

theorem train_reported {q : DungeonRoom F} {cmd : PendingCommand F}
    (htype : cmd.type = CommandType.train) : Reported q cmd := by
  rcases (allOrNothing q cmd).train htype with ⟨⟨b, res, hmay⟩, henlists⟩ | ⟨hnot, hdown⟩
  · rw [reported_of_same henlists.rejected]
    unfold LegalTarget
    rw [htype]
    exact ⟨b, hmay.producer, hmay.owner, hmay.finished, hmay.allowed⟩
  · apply hdown.reported
    rintro ⟨hlegal, hafford⟩
    unfold LegalTarget at hlegal
    unfold Affordable at hafford
    rw [htype] at hlegal hafford
    rcases hlegal with ⟨b, hb, howner, hfinished, hallowed⟩
    rcases hafford with ⟨res, hres, hpays⟩
    exact hnot ⟨b, res, hb, howner, hfinished, hallowed, hres, hpays⟩

theorem reported_iff (q : DungeonRoom F) (cmd : PendingCommand F) :
    Reported q cmd <-> ¬ Unanswered q cmd := by
  unfold Unanswered
  rw [not_or]
  by_cases hbuild : cmd.type = CommandType.build
  · rw [build_reported_iff hbuild]
    constructor
    · intro h
      refine ⟨?_, fun hbad => h hbad.right⟩
      rintro ⟨hsilent, _⟩
      rw [hbuild] at hsilent
      cases hsilent
    · rintro ⟨_, h⟩ hbad
      exact h ⟨hbuild, hbad⟩
  · by_cases htrain : cmd.type = CommandType.train
    · refine ⟨fun _ => ⟨?_, fun hbad => hbuild hbad.left⟩, fun _ => train_reported htrain⟩
      rintro ⟨hsilent, _⟩
      rw [htrain] at hsilent
      cases hsilent
    · rw [reported_of_same (applyCommand_estate q hbuild htrain).rejected]
      constructor
      · intro hlegal
        exact ⟨fun hbad => hbad.right hlegal, fun hbad => hbuild hbad.left⟩
      · rintro ⟨h, _⟩
        by_contra hillegal
        apply h
        refine ⟨?_, hillegal⟩
        cases htype : cmd.type with
        | build => exact absurd htype hbuild
        | train => exact absurd htype htrain
        | attack => rfl
        | harvest => rfl
        | pickup => rfl
        | construct => rfl
        | _ =>
            unfold LegalTarget at hillegal
            rw [htype] at hillegal
            exact absurd trivial hillegal

/--
Every command of a list is reported as it should be exactly if no Attack,
Harvest, Pickup or Construct command has an illegal target when it is applied,
and no player asks for a type of building that does not exist.
-/
theorem commands_reported_iff (r : DungeonRoom F) :
    Throughout applyCommand Reported r r.pending <->
      Throughout applyCommand (fun q cmd => ¬ Unanswered q cmd) r r.pending := by
  constructor
  · intro h
    exact h.mono fun q cmd hreported => (reported_iff q cmd).mp hreported
  · intro h
    exact h.mono fun q cmd hanswered => (reported_iff q cmd).mpr hanswered

/-- The first villager is told to attack something that is not there. -/
def phantom : PendingCommand Rat :=
  ⟨CommandType.attack, 1, 7, [1], ⟨0, 0, 0⟩, [], 99, 0, 0⟩

/-- An attack on an entity that does not exist is dropped without an answer. -/
theorem missingTarget_unreported :
    ¬ Throughout applyCommand Reported (neighbours.enqueueCommand phantom)
      (neighbours.enqueueCommand phantom).pending := by
  intro h
  have hfirst := h [] phantom [] rfl
  have hillegal : ¬ LegalTarget (neighbours.enqueueCommand phantom) phantom := by
    change ¬ (99 ∈ neighbours.units ∨ 99 ∈ neighbours.buildings)
    decide
  rcases hfirst.illegal hillegal with ⟨code, hcode⟩
  have hnone : ((neighbours.enqueueCommand phantom).applyCommand phantom).rejected = [] := by
    decide
  rw [List.foldl_nil, hnone] at hcode
  cases hcode

/-!
## Buildings and wood
-/

/-- The building that a turn adds under the next id. -/
def newBuildings (q : DungeonRoom F) (t : Turn F) : List (Building F) :=
  ((q.turn t).buildings.lookup q.nextEntityId).toList

omit [Scalar F] in
/-- The wood of a player; a player without a ledger has none. -/
def woodOf (q : DungeonRoom F) (uid : Nat) : Nat :=
  match q.playerRes.lookup uid with
  | none => 0
  | some res => res.wood.toNat

/-- The wood that a Build command deducts from its owner's ledger. -/
def woodSpent (q : DungeonRoom F) (t : Turn F) : List Nat :=
  match t with
  | Turn.command cmd =>
      if cmd.type = CommandType.build then
        [woodOf q cmd.ownerUid - woodOf (q.turn t) cmd.ownerUid]
      else []
  | _ => []

/-- The wood that comes into a player's ledger in a turn. -/
def woodGained (uid : Nat) (q : DungeonRoom F) (t : Turn F) : List Nat :=
  [woodOf (q.turn t) uid - woodOf q uid]

/-- What a run should keep to: no building of another type, and none for nothing. -/
structure Accounted (start : DungeonRoom F) (ts : List (Turn F)) : Prop where
  types : forall b, b ∈ chronicle turn newBuildings start ts ->
    b.buildingType = kBuildingResourceCamp ∨ b.buildingType = kBuildingVillagerInn ∨
      b.buildingType = kBuildingBarracks
  wood : (chronicle turn woodSpent start ts).sum =
    50 * (chronicle turn newBuildings start ts).countP
        (fun b => b.buildingType = kBuildingResourceCamp) +
      100 * (chronicle turn newBuildings start ts).countP
        (fun b => b.buildingType = kBuildingVillagerInn) +
      150 * (chronicle turn newBuildings start ts).countP
        (fun b => b.buildingType = kBuildingBarracks)
  bound : forall uid,
    50 * (chronicle turn newBuildings start ts).countP (fun b => b.ownerUid = uid) ≤
      woodOf start uid + (chronicle turn (woodGained uid) start ts).sum

/-- A player asks for a type of building that does not exist. -/
def AsksUnknown (q : DungeonRoom F) (t : Turn F) : Prop :=
  exists cmd, t = Turn.command cmd ∧ cmd.type = CommandType.build ∧
    kBuildingCrystal < cmd.auxType ∧ cmd.ownerUid ∈ q.playerRes

/-- A building is placed from outside, as it is done before the battle begins. -/
def RoomCall.isPlacement : RoomCall F -> Bool
  | RoomCall.spawnBuilding _ _ _ _ _ _ => true
  | _ => false

/-- The same for a turn. -/
def Turn.isPlacement : Turn F -> Bool
  | Turn.call c _ => c.isPlacement
  | _ => false

section Wood

variable {q : DungeonRoom F} {t : Turn F}

/-- A building under the next id was placed from outside, or it was built. -/
theorem new_building_cases (hq : Keyed q) {b : Building F}
    (h : (q.turn t).buildings.lookup q.nextEntityId = some b) :
    t.isPlacement = true ∨
      exists cmd res, t = Turn.command cmd ∧ cmd.type = CommandType.build ∧
        MayBuild q cmd res ∧ b.buildingType = cmd.auxType ∧ b.ownerUid = cmd.ownerUid := by
  have hfresh := hq.buildings_fresh
  cases building_fate hq h with
  | kept hb => cases hfresh.symm.trans hb
  | placed ht _ _ _ =>
      rw [ht]
      exact Or.inl rfl
  | @founded cmd res ht htype hmay _ _ hb =>
      refine Or.inr ⟨cmd, res, ht, htype, hmay, ?_, ?_⟩
      · rw [hb]
        rfl
      · rw [hb]
        rfl
  | ordered _ _ hmay hid _ => cases hfresh.symm.trans (hid ▸ hmay.producer)
  | training _ hb _ _ _ _ => cases hfresh.symm.trans hb
  | released _ hb _ _ _ _ => cases hfresh.symm.trans hb
  | struck _ hb _ _ _ => cases hfresh.symm.trans hb
  | built _ _ _ _ _ _ hb _ _ => cases hfresh.symm.trans hb

omit [Scalar F] in
theorem Paid.wood {q' : DungeonRoom F} {uid : Nat} {cost : ResCost}
    (h : Paid q q' uid cost) : woodOf q' uid + cost.wood.toNat = woodOf q uid := by
  rcases h.payer with ⟨res, res', hres, hres', hdeducted⟩
  unfold woodOf
  rw [hres, hres']
  exact hdeducted.wood

theorem woodSpent_build {cmd : PendingCommand F} (htype : cmd.type = CommandType.build) :
    (woodSpent q (Turn.command cmd)).sum =
      woodOf q cmd.ownerUid - woodOf (q.applyCommand cmd) cmd.ownerUid := by
  unfold woodSpent
  dsimp only
  rw [if_pos htype, List.sum_singleton]
  rfl

/-- Without a new building, no wood is spent. -/
theorem woodSpent_none (h : (q.turn t).buildings.lookup q.nextEntityId = none) :
    (woodSpent q t).sum = 0 := by
  cases t with
  | command cmd =>
      by_cases htype : cmd.type = CommandType.build
      · rw [woodSpent_build htype]
        rcases (allOrNothing q cmd).build htype with ⟨_, hfounds⟩ | ⟨_, code, hdown⟩
        · rcases hfounds.site with ⟨b, _, _, _, _, _, hb⟩
          have hnew := (hb q.nextEntityId).trans (if_pos rfl)
          cases h.symm.trans hnew
        · rw [hdown]
          exact Nat.sub_self _
      · unfold woodSpent
        dsimp only
        rw [if_neg htype]
        rfl
  | _ => rfl

/-- What one turn builds and what it costs. -/
theorem turn_trade (hq : Keyed q) (hplace : t.isPlacement = false)
    (hask : ¬ AsksUnknown q t) :
    (newBuildings q t = [] ∧ (woodSpent q t).sum = 0) ∨
      exists b, newBuildings q t = [b] ∧ b.buildingType < kBuildingCrystal ∧
        (woodSpent q t).sum = (buildingCost b.buildingType).wood.toNat ∧
        woodOf (q.turn t) b.ownerUid + (buildingCost b.buildingType).wood.toNat =
          woodOf q b.ownerUid := by
  cases hnew : (q.turn t).buildings.lookup q.nextEntityId with
  | none =>
      refine Or.inl ⟨?_, woodSpent_none hnew⟩
      unfold newBuildings
      rw [hnew]
      rfl
  | some b =>
      have hlist : newBuildings q t = [b] := by
        unfold newBuildings
        rw [hnew]
        rfl
      rcases new_building_cases hq hnew with houtside | ⟨cmd, res, rfl, htype, hmay, hkind,
        howner⟩
      · rw [hplace] at houtside
        cases houtside
      · refine Or.inr ⟨b, hlist, ?_⟩
        rw [hkind, howner, woodSpent_build htype]
        have hknown : cmd.auxType < kBuildingCrystal := by
          have hother := hmay.allowed
          by_contra hge
          exact hask ⟨cmd, rfl, htype, by lia, Table.mem_of_lookup hmay.ledger⟩
        rcases (allOrNothing q cmd).build htype with ⟨_, hfounds⟩ | ⟨hnot, _⟩
        · have hwood := hfounds.paid.wood
          refine ⟨hknown, ?_, hwood⟩
          lia
        · exact absurd ⟨res, hmay⟩ hnot

end Wood

/-- What a known type of building costs. -/
theorem woodCost_known {buildingType : Nat} (h : buildingType < kBuildingCrystal) :
    (buildingType = kBuildingResourceCamp ∧ (buildingCost buildingType).wood.toNat = 50) ∨
      (buildingType = kBuildingVillagerInn ∧
        (buildingCost buildingType).wood.toNat = 100) ∨
      (buildingType = kBuildingBarracks ∧
        (buildingCost buildingType).wood.toNat = 150) := by
  rcases legal_build_iff.mpr h with rfl | rfl | rfl
  · exact Or.inl ⟨rfl, rfl⟩
  · exact Or.inr (Or.inl ⟨rfl, rfl⟩)
  · exact Or.inr (Or.inr ⟨rfl, rfl⟩)

omit [Scalar F] in
/-- What the listed buildings cost together, type by type. -/
theorem woodOfAll_cons {b : Building F} (h : b.buildingType < kBuildingCrystal)
    (l : List (Building F)) :
    50 * (b :: l).countP (fun c => c.buildingType = kBuildingResourceCamp) +
        100 * (b :: l).countP (fun c => c.buildingType = kBuildingVillagerInn) +
        150 * (b :: l).countP (fun c => c.buildingType = kBuildingBarracks) =
      (buildingCost b.buildingType).wood.toNat +
        (50 * l.countP (fun c => c.buildingType = kBuildingResourceCamp) +
          100 * l.countP (fun c => c.buildingType = kBuildingVillagerInn) +
          150 * l.countP (fun c => c.buildingType = kBuildingBarracks)) := by
  simp only [List.countP_cons]
  rcases woodCost_known h with ⟨hkind, hcost⟩ | ⟨hkind, hcost⟩ | ⟨hkind, hcost⟩
  all_goals
    rw [hcost, hkind]
    simp [kBuildingResourceCamp, kBuildingVillagerInn, kBuildingBarracks]
    lia

theorem accounted_run {q : DungeonRoom F} (hq : Keyed q) (ts : List (Turn F))
    (h : Throughout turn (fun q t => t.isPlacement = false ∧ ¬ AsksUnknown q t) q ts) :
    Accounted q ts := by
  induction ts generalizing q with
  | nil =>
      refine ⟨?_, rfl, ?_⟩
      · intro b hb
        cases hb
      · intro uid
        exact Nat.zero_le _
  | cons t rest ih =>
      rw [throughout_cons] at h
      have hrest := ih (turn_keyed hq t).left h.right
      have hgained : forall uid, (chronicle turn (woodGained uid) q (t :: rest)).sum =
          woodOf (q.turn t) uid - woodOf q uid +
            (chronicle turn (woodGained uid) (q.turn t) rest).sum := by
        intro uid
        rw [chronicle, List.sum_append]
        rfl
      rcases turn_trade hq h.left.left h.left.right with ⟨hnew, hspent⟩ |
        ⟨b, hnew, hknown, hspent, hpaid⟩
      · constructor
        · rw [chronicle, hnew]
          exact hrest.types
        · rw [chronicle, chronicle, hnew, List.sum_append, hspent, Nat.zero_add]
          exact hrest.wood
        · intro uid
          have hbound := hrest.bound uid
          rw [hgained, chronicle, hnew, List.nil_append]
          lia
      · have hcost := woodCost_known hknown
        constructor
        · intro c hc
          rw [chronicle, hnew, List.singleton_append, List.mem_cons] at hc
          rcases hc with rfl | hlater
          · exact legal_build_iff.mpr hknown
          · exact hrest.types c hlater
        · rw [chronicle, chronicle, hnew, List.sum_append, hspent, hrest.wood]
          exact (woodOfAll_cons hknown _).symm
        · intro uid
          have hbound := hrest.bound uid
          rw [hgained, chronicle, hnew, List.singleton_append, List.countP_cons]
          by_cases howner : b.ownerUid = uid
          · rw [howner] at hpaid
            simp only [howner, decide_true, if_true]
            lia
          · simp only [howner, decide_false, Bool.false_eq_true, if_false]
            lia

/-- Without placements among the calls there are none among the turns. -/
theorem turns_placement {q : DungeonRoom F} {c : RoomCall F} {t : Turn F}
    (hc : c.isPlacement = false) (ht : t ∈ q.turns c) : t.isPlacement = false := by
  rcases mem_turns_cases ht with ⟨_, rfl⟩ | ⟨_, rfl | ⟨_, rfl⟩⟩ | ⟨_, _, _, hstep⟩
  · exact hc
  · rfl
  · rfl
  · rcases mem_stepTurns_cases hstep with rfl | ⟨_, rfl⟩ | ⟨_, rfl⟩ | ⟨_, rfl⟩ | ⟨_, rfl⟩
    all_goals rfl

/-- A building of an unknown type appears when it is asked for. -/
theorem asksUnknown_types {start : DungeonRoom F} {front : List (Turn F)} {t : Turn F}
    {back : List (Turn F)} (hask : AsksUnknown (front.foldl turn start) t) :
    ¬ Accounted start (front ++ t :: back) := by
  intro h
  rcases hask with ⟨cmd, rfl, htype, hunknown, hledger⟩
  rcases Table.mem_iff_lookup.mp hledger with ⟨res, hres⟩
  have hmay : MayBuild (front.foldl turn start) cmd res :=
    ⟨hres, Nat.ne_of_gt hunknown, canAfford_unknown hunknown res⟩
  rcases (allOrNothing (front.foldl turn start) cmd).build htype with ⟨_, hfounds⟩ |
    ⟨hnot, _⟩
  · rcases hfounds.site with ⟨b, _, _, _, hkind, _, hb⟩
    have hnew := (hb _).trans (if_pos rfl)
    have hmem : b ∈ chronicle turn newBuildings start
        (front ++ Turn.command cmd :: back) := by
      rw [mem_chronicle_iff]
      refine ⟨front, _, back, rfl, ?_⟩
      unfold newBuildings
      change b ∈ (((front.foldl turn start).applyCommand cmd).buildings.lookup _).toList
      rw [hnew]
      exact List.mem_singleton_self b
    have hlegal := legal_build_iff.mp (h.types b hmem)
    rw [hkind] at hlegal
    lia
  · exact hnot ⟨res, hmay⟩

/--
From the beginning of a battle, whatever the calls but for the placement of
buildings: only camps, inns and barracks are built, and Build commands take
exactly their price, if and only if nobody who has a ledger asks for a type of
building that does not exist.
-/
theorem buildings_accounted_iff {r : DungeonRoom F} (hr : Reachable r)
    (calls : List (RoomCall F)) (hcalls : forall c, c ∈ calls -> c.isPlacement = false) :
    Accounted r.beginBattle (r.beginBattle.scriptOf calls) <->
      Throughout turn (fun q t => ¬ AsksUnknown q t) r.beginBattle
        (r.beginBattle.scriptOf calls) := by
  constructor
  · intro h front t back heq hask
    rw [heq] at h
    exact asksUnknown_types hask h
  · intro h
    apply accounted_run hr.beginBattle.keyed
    intro front t back heq
    refine ⟨?_, h front t back heq⟩
    have hmem : t ∈ r.beginBattle.scriptOf calls := by
      rw [heq]
      exact List.mem_append_right front List.mem_cons_self
    rcases mem_script hmem with ⟨q, c, hc, ht⟩
    exact turns_placement (hcalls c hc) ht

/-- The player orders a building, and the order is applied. -/
def purchase (buildingType : Nat) : List (RoomCall Rat) :=
  [RoomCall.enqueueCommand (siteOrder buildingType), RoomCall.applyPending]

theorem purchase_script (buildingType : Nat) :
    bazaar.scriptOf (purchase buildingType) =
      [Turn.call (RoomCall.enqueueCommand (siteOrder buildingType)) rfl] ++
        Turn.command (siteOrder buildingType) :: [Turn.clearPending] := rfl

/-- A camp is ordered and paid for. -/
theorem camp_accounted :
    Accounted bazaar (bazaar.scriptOf (purchase kBuildingResourceCamp)) := by
  have hcalls : forall c, c ∈ purchase kBuildingResourceCamp -> c.isPlacement = false := by
    intro c hc
    simp only [purchase, List.mem_cons, List.not_mem_nil, or_false] at hc
    rcases hc with rfl | rfl
    all_goals rfl
  refine (buildings_accounted_iff ((Reachable.create 1 "bazaar" 2).call
    (RoomCall.addPlayer 1)) (purchase kBuildingResourceCamp) hcalls).mpr ?_
  rintro front t back heq ⟨cmd, rfl, _, hunknown, _⟩
  have hmem := List.mem_append_right front (List.mem_cons_self (a := Turn.command cmd)
    (l := back))
  change bazaar.scriptOf (purchase kBuildingResourceCamp) = _ at heq
  rw [← heq, purchase_script] at hmem
  simp only [List.cons_append, List.nil_append, List.mem_cons, reduceCtorEq, Turn.command.injEq,
    List.not_mem_nil, or_false, false_or] at hmem
  rw [hmem] at hunknown
  exact absurd hunknown (by decide)

/-- A building of a type that does not exist is put up for nothing. -/
theorem unknownType_unaccounted : ¬ Accounted bazaar (bazaar.scriptOf (purchase 7)) := by
  rw [purchase_script]
  exact asksUnknown_types ⟨siteOrder 7, rfl, rfl, by decide, by decide⟩

end DungeonRoom

end RtsGame
