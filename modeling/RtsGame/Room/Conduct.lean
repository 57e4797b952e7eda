import RtsGame.Room.Accounting
import RtsGame.Room.Turns

/-!
# What a unit does in its turn

The turn of a unit changes the unit itself and at most one other thing: it hits
an enemy or an enemy's building, works on a building site, or credits a ledger.
Every one of these actions is listed here with the conditions that the code has
checked, and with what the unit is like afterwards.
-/

namespace RtsGame

open Scalar

namespace DungeonRoom

variable {F : Type} [Scalar F]

/-!
## Rooms that differ in one unit
-/

/-- One unit was rewritten, and no other. -/
structure Alone (q q' : DungeonRoom F) (id : Nat) (v : GameUnit F) : Prop where
  own : q'.units.lookup id = some v
  others : forall j, j ≠ id -> q'.units.lookup j = q.units.lookup j

/-- Besides the unit, at most fields and drops differ. -/
structure Solo (q q' : DungeonRoom F) (id : Nat) (v : GameUnit F) : Prop
    extends Alone q q' id v where
  buildings : q'.buildings = q.buildings
  playerRes : q'.playerRes = q.playerRes

omit [Scalar F] in
theorem alone_of_insert {q q' : DungeonRoom F} {id : Nat} {v : GameUnit F}
    (h : q'.units = q.units.insert id v) : Alone q q' id v := by
  constructor
  · rw [h, AList.lookup_insert]
  · intro j hj
    rw [h, AList.lookup_insert_ne hj]

omit [Scalar F] in
theorem solo_commit (q : DungeonRoom F) (id : Nat) (v : GameUnit F) :
    Solo q (q.commit id v) id v :=
  ⟨alone_of_insert rfl, rfl, rfl⟩

omit [Scalar F] in
theorem solo_refl {q : DungeonRoom F} {id : Nat} {u : GameUnit F}
    (hu : q.units.lookup id = some u) : Solo q q id u :=
  ⟨⟨hu, fun _ _ => rfl⟩, rfl, rfl⟩

omit [Scalar F] in
theorem Alone.after {q p q' : DungeonRoom F} {id : Nat} {w v : GameUnit F}
    (hp : Alone q p id w) (hq' : Alone p q' id v) : Alone q q' id v := by
  refine ⟨hq'.own, ?_⟩
  intro j hj
  rw [hq'.others j hj, hp.others j hj]

/-!
## Work
-/

/-- What a worker or a walking unit keeps. -/
structure Labour (u v : GameUnit F) : Prop where
  body : SameBody u v
  speed : v.speed = u.speed
  attackTarget : v.attackTarget = u.attackTarget
  attackCd : v.attackCd = u.attackCd
  dropoff : v.dropoffId = u.dropoffId ∨ v.dropoffId = 0
  site : v.task = WorkerTask.constructing ->
    u.task = WorkerTask.constructing ∧ v.buildTargetId = u.buildTargetId

omit [Scalar F] in
theorem Labour.refl (u : GameUnit F) : Labour u u :=
  ⟨SameBody.refl u, rfl, rfl, rfl, Or.inl rfl, fun h => ⟨h, rfl⟩⟩

omit [Scalar F] in
theorem Labour.trans {u v w : GameUnit F} (huv : Labour u v) (hvw : Labour v w) :
    Labour u w := by
  refine ⟨huv.body.trans hvw.body, hvw.speed.trans huv.speed,
    hvw.attackTarget.trans huv.attackTarget, hvw.attackCd.trans huv.attackCd, ?_, ?_⟩
  · cases hvw.dropoff with
    | inl hsame =>
        rw [hsame]
        exact huv.dropoff
    | inr hzero => exact Or.inr hzero
  · intro hw
    rcases hvw.site hw with ⟨hv, hsite⟩
    rcases huv.site hv with ⟨hu, hsite'⟩
    exact ⟨hu, hsite.trans hsite'⟩

omit [Scalar F] in
/-- The unit has another task than construction afterwards. -/
theorem Labour.of_task {u v : GameUnit F} (hbody : SameBody u v)
    (hspeed : v.speed = u.speed) (hattack : v.attackTarget = u.attackTarget)
    (hcd : v.attackCd = u.attackCd)
    (hdropoff : v.dropoffId = u.dropoffId ∨ v.dropoffId = 0)
    (htask : v.task ≠ WorkerTask.constructing) : Labour u v :=
  ⟨hbody, hspeed, hattack, hcd, hdropoff, fun h => absurd h htask⟩

omit [Scalar F] in
/-- Only what clients are shown differs. -/
theorem Labour.showing {u v : GameUnit F} (h : Labour u v) (state : UnitState) :
    Labour u { v with state := state } :=
  ⟨⟨h.body.id, h.body.ownerUid, h.body.team, h.body.unitType, h.body.hp⟩, h.speed,
    h.attackTarget, h.attackCd, h.dropoff, h.site⟩

theorem moveToward_labour (u : GameUnit F) (dest : Vec3f F) (arriveDist dt : F) :
    Labour u (moveToward u dest arriveDist dt).1 := by
  unfold moveToward
  dsimp only
  split
  · exact Labour.refl u
  · split
    · exact ⟨⟨rfl, rfl, rfl, rfl, rfl⟩, rfl, rfl, rfl, Or.inl rfl, fun h => ⟨h, rfl⟩⟩
    · exact Labour.refl u

theorem faceToward_labour (u : GameUnit F) (target : Vec3f F) :
    Labour u (faceToward u target) := by
  unfold faceToward
  dsimp only
  split
  · exact ⟨⟨rfl, rfl, rfl, rfl, rfl⟩, rfl, rfl, rfl, Or.inl rfl, fun h => ⟨h, rfl⟩⟩
  · exact Labour.refl u

theorem followPath_labour (waypoints : List (Vec3f F)) (u : GameUnit F)
    (remaining : F) : Labour u (followPath waypoints u remaining) := by
  induction waypoints generalizing u remaining with
  | nil =>
      unfold followPath
      dsimp only
      repeat' split
      all_goals
        exact ⟨⟨rfl, rfl, rfl, rfl, rfl⟩, rfl, rfl, rfl, Or.inl rfl, fun h => ⟨h, rfl⟩⟩
  | cons waypoint rest ih =>
      have hnext : Labour u { u with pos := waypoint, pathIndex := u.pathIndex + 1 } :=
        ⟨⟨rfl, rfl, rfl, rfl, rfl⟩, rfl, rfl, rfl, Or.inl rfl, fun h => ⟨h, rfl⟩⟩
      unfold followPath
      dsimp only
      split
      · split
        · split
          · exact ⟨⟨rfl, rfl, rfl, rfl, rfl⟩, rfl, rfl, rfl, Or.inl rfl,
              fun h => ⟨h, rfl⟩⟩
          · exact hnext.trans (ih _ _)
        · exact ⟨⟨rfl, rfl, rfl, rfl, rfl⟩, rfl, rfl, rfl, Or.inl rfl,
            fun h => ⟨h, rfl⟩⟩
      · exact Labour.refl u

theorem goIdle_labour (u : GameUnit F) : Labour u (goIdle u) :=
  Labour.of_task ⟨rfl, rfl, rfl, rfl, rfl⟩ rfl rfl rfl (Or.inr rfl) (by
    intro h
    cases h)

theorem switchToReturn_labour (u : GameUnit F) : Labour u (switchToReturn u) :=
  Labour.of_task ⟨rfl, rfl, rfl, rfl, rfl⟩ rfl rfl rfl (Or.inl rfl) (by
    intro h
    cases h)

theorem switchToPreparingReturn_labour (u : GameUnit F) (face : Vec3f F) :
    Labour u (switchToPreparingReturn u face) := by
  refine Labour.trans ?_ (faceToward_labour _ face)
  exact Labour.of_task ⟨rfl, rfl, rfl, rfl, rfl⟩ rfl rfl rfl (Or.inl rfl) (by
    intro h
    cases h)

theorem resumeGathering_labour (q : DungeonRoom F) (u : GameUnit F) :
    Labour u (q.resumeGathering u) := by
  unfold resumeGathering
  split
  · exact Labour.of_task ⟨rfl, rfl, rfl, rfl, rfl⟩ rfl rfl rfl (Or.inl rfl) (by
      intro h
      cases h)
  · exact goIdle_labour u

theorem harvestLoop_labour (fuel : Nat) (u : GameUnit F) (amountLeft : UInt32)
    (wrapped : Bool) : Labour u (harvestLoop fuel u amountLeft wrapped).1 := by
  induction fuel generalizing u amountLeft wrapped with
  | zero =>
      exact Labour.refl u
  | succ fuel ih =>
      simp only [harvestLoop]
      split
      · refine Labour.trans ?_ (ih _ _ _)
        exact ⟨⟨rfl, rfl, rfl, rfl, rfl⟩, rfl, rfl, rfl, Or.inl rfl, fun h => ⟨h, rfl⟩⟩
      · exact Labour.refl u

/-!
## Actions
-/

/-- The distance in the plane, as the code computes it. -/
def planeDist (a b : Vec3f F) : F :=
  sqrt ((b.x - a.x) * (b.x - a.x) + (b.z - a.z) * (b.z - a.z))

/-- A place where resources may be stored. -/
def IsDropoff (b : Building F) : Prop :=
  b.buildingType = kBuildingResourceCamp ∨ b.buildingType = kBuildingCrystal

/-- The building to which a worker carries its load. -/
def chosenDropoff (ω : IterOrder) (r : DungeonRoom F) (u : GameUnit F) :
    Option (Building F) :=
  match r.namedDropoff u with
  | some camp => some camp
  | none => r.findNearestDropoff ω u.team u.pos

/-- Has the worker reached its place at the drop-off? -/
def atDropoff (u : GameUnit F) (camp : Building F) (dt : F) : Bool :=
  (moveToward u (offsetBy camp.pos u.interactionOffset) (lit 0.15) dt).2

/-- A unit that goes on with an automatic engagement. -/
structure Chasing (dt : F) (u v : GameUnit F) : Prop where
  attackTarget : v.attackTarget = u.attackTarget
  autoAggro : u.autoAggro = true
  aggroOrigin : v.aggroOrigin = u.aggroOrigin
  leash : beyondLeash u = false
  pos : exists tpos range, v.pos = (chaseToward u tpos dt range).1.pos

/-- What a unit is like after it has acted. -/
structure Conduct (q : DungeonRoom F) (dt : F) (u v : GameUnit F) : Prop where
  body : SameBody u v
  speed : v.speed = u.speed
  chase : v.attackTarget ≠ 0 -> v.autoAggro = true -> Chasing dt u v
  dropoff : v.dropoffId = u.dropoffId ∨ v.dropoffId = 0 ∨
    exists key camp, q.buildings.lookup key = some camp ∧ v.dropoffId = camp.id ∧
      IsDropoff camp
  site : v.task = WorkerTask.constructing ->
    u.task = WorkerTask.constructing ∧ v.buildTargetId = u.buildTargetId

theorem Labour.conduct {q : DungeonRoom F} {u v : GameUnit F} (h : Labour u v)
    (hattack : u.attackTarget = 0) (dt : F) : Conduct q dt u v := by
  refine ⟨h.body, h.speed, ?_, ?_, h.site⟩
  · intro hne
    exact absurd (h.attackTarget.trans hattack) hne
  · cases h.dropoff with
    | inl hsame => exact Or.inl hsame
    | inr hzero => exact Or.inr (Or.inl hzero)

/-- A worker that was given a drop-off by the search. -/
theorem Labour.conduct_found {q : DungeonRoom F} {u v : GameUnit F}
    {camp : Building F} {key : Nat} (h : Labour { u with dropoffId := camp.id } v)
    (hattack : u.attackTarget = 0) (hcamp : q.buildings.lookup key = some camp)
    (hreal : IsDropoff camp) (dt : F) : Conduct q dt u v := by
  have hbody := h.body
  refine ⟨⟨hbody.id, hbody.ownerUid, hbody.team, hbody.unitType, hbody.hp⟩, h.speed,
    ?_, ?_, h.site⟩
  · intro hne
    exact absurd (h.attackTarget.trans hattack) hne
  · cases h.dropoff with
    | inl hsame => exact Or.inr (Or.inr ⟨key, camp, hcamp, hsame, hreal⟩)
    | inr hzero => exact Or.inr (Or.inl hzero)

/-- Everything that a unit can do when it acts. -/
inductive Action (ω : IterOrder) (dt : F) (q : DungeonRoom F) (id : Nat)
    (u : GameUnit F) (q' : DungeonRoom F) : Prop where
  | rests {v : GameUnit F} : Solo q q' id v -> Conduct q dt u v ->
      v.attackCd = u.attackCd -> Action ω dt q id u q'
  | strikesUnit {v target : GameUnit F} {targetId : Nat} :
      q.units.lookup targetId = some target -> ¬ target.hp ≤ lit 0 ->
      target.team ≠ u.team -> ¬ planeDist u.pos target.pos > kAttackRange ->
      u.attackCd ≤ lit 0 -> Alone (q.putUnit targetId (hitUnit target)) q' id v ->
      q'.buildings = q.buildings -> q'.playerRes = q.playerRes -> Conduct q dt u v ->
      v.attackCd = kAttackCooldown -> Action ω dt q id u q'
  | strikesBuilding {v : GameUnit F} {target : Building F} {targetId : Nat} :
      q.buildings.lookup targetId = some target -> ¬ target.hp ≤ lit 0 ->
      target.team ≠ u.team -> ¬ planeDist u.pos target.pos > kBuildingAttackRange ->
      u.attackCd ≤ lit 0 -> Alone q q' id v ->
      q'.buildings = q.buildings.insert targetId (hitBuilding target) ->
      q'.playerRes = q.playerRes -> Conduct q dt u v ->
      v.attackCd = kAttackCooldown -> Action ω dt q id u q'
  | builds {v : GameUnit F} {b : Building F} :
      u.attackTarget = 0 -> u.task = WorkerTask.constructing ->
      q.buildings.lookup u.buildTargetId = some b -> b.underConstruction = true ->
      (moveToward u b.pos kBuildRange dt).2 = true -> Alone q q' id v ->
      q'.buildings = q.buildings.insert u.buildTargetId (buildProgress b dt) ->
      q'.playerRes = q.playerRes -> Conduct q dt u v ->
      v.attackCd = u.attackCd -> Action ω dt q id u q'
  | banks {v : GameUnit F} {camp : Building F} {res : PlayerRes} :
      u.attackTarget = 0 -> u.task = WorkerTask.returning ->
      q.chosenDropoff ω u = some camp -> atDropoff u camp dt = true ->
      q.playerRes.lookup u.ownerUid = some res -> Alone q q' id v ->
      q'.buildings = q.buildings ->
      q'.playerRes = q.playerRes.insert u.ownerUid
        (res.add (rawToResourceType u.carriedRaw) u.carriedAmount) ->
      Conduct q dt u v -> v.attackCd = u.attackCd -> Action ω dt q id u q'

section Actions

variable {ω : IterOrder} {dt : F} {q : DungeonRoom F} {id : Nat} {u v : GameUnit F}

/-- Work that changes nothing but fields, drops and the worker. -/
theorem Labour.action {q' : DungeonRoom F} (h : Labour u v) (hattack : u.attackTarget = 0)
    (hsolo : Solo q q' id v) : Action ω dt q id u q' :=
  Action.rests hsolo (h.conduct hattack dt) h.attackCd

theorem Labour.commits (h : Labour u v) (hattack : u.attackTarget = 0) :
    Action ω dt q id u (q.commit id v) :=
  h.action hattack (solo_commit q id v)

/-!
### Combat
-/

theorem stopAttack_action : Action ω dt q id u (q.stopAttack id u) := by
  refine Action.rests (solo_commit q id _) ⟨⟨rfl, rfl, rfl, rfl, rfl⟩, rfl, ?_,
    Or.inl rfl, fun h => ⟨h, rfl⟩⟩ rfl
  intro hne
  exact absurd rfl hne

/-- A step of the chase turns and moves the attacker. -/
theorem chaseToward_eq (w : GameUnit F) (tpos : Vec3f F) (range : F) :
    exists pos yaw, (chaseToward w tpos dt range).1 = { w with pos := pos, yaw := yaw } := by
  unfold chaseToward
  dsimp only
  repeat' split
  all_goals exact ⟨_, _, rfl⟩

/-- The attacker after a step of the chase, whether or not it strikes. -/
theorem chaser_conduct (hleash : ¬ (u.autoAggro = true ∧ beyondLeash u = true))
    (tpos : Vec3f F) (range cd : F) :
    Conduct q dt u { (chaseToward { u with state := UnitState.attacking } tpos dt
      range).1 with attackCd := cd } := by
  have hpos : (chaseToward { u with state := UnitState.attacking } tpos dt range).1.pos =
      (chaseToward u tpos dt range).1.pos := by
    unfold chaseToward
    dsimp only
    repeat' split
    all_goals rfl
  rcases chaseToward_eq { u with state := UnitState.attacking } tpos range with
    ⟨pos, yaw, heq⟩
  rw [heq] at hpos ⊢
  refine ⟨⟨rfl, rfl, rfl, rfl, rfl⟩, rfl, ?_, Or.inl rfl, fun h => ⟨h, rfl⟩⟩
  intro _ haggro
  have hu : u.autoAggro = true := haggro
  refine ⟨rfl, hu, rfl, ?_, tpos, range, hpos⟩
  rw [not_and, Bool.not_eq_true] at hleash
  exact hleash hu

theorem chaseToward_attackCd (tpos : Vec3f F) (range : F) :
    (chaseToward { u with state := UnitState.attacking } tpos dt range).1.attackCd =
      u.attackCd := by
  rcases chaseToward_eq { u with state := UnitState.attacking } tpos range with
    ⟨pos, yaw, heq⟩
  rw [heq]

/-- The attacker gets no closer than its range, or it does not strike yet. -/
theorem chaser_rests (hleash : ¬ (u.autoAggro = true ∧ beyondLeash u = true))
    (tpos : Vec3f F) (range : F) :
    Action ω dt q id u (q.commit id
      (chaseToward { u with state := UnitState.attacking } tpos dt range).1) := by
  have hconduct : Conduct q dt u _ := chaser_conduct hleash tpos range
    (chaseToward { u with state := UnitState.attacking } tpos dt range).1.attackCd
  exact Action.rests (solo_commit q id _) hconduct (chaseToward_attackCd tpos range)

/-- Within range, the chase leaves the attacker where it is. -/
theorem chaseToward_near {tpos : Vec3f F} {range : F}
    (h : (chaseToward u tpos dt range).2 = true) :
    ¬ planeDist u.pos tpos > range := by
  intro hfar
  unfold chaseToward at h
  dsimp only at h
  rw [if_pos (show sqrt _ > range from hfar)] at h
  split at h
  · cases h
  · cases h

theorem attackUnit_action {target : GameUnit F}
    (ht : q.units.lookup u.attackTarget = some target)
    (hleash : ¬ (u.autoAggro = true ∧ beyondLeash u = true)) :
    Action ω dt q id u (q.attackUnit id u target dt) := by
  unfold attackUnit
  split
  · exact stopAttack_action
  · rename_i hfoe
    rw [not_or] at hfoe
    dsimp only
    split
    · rename_i hhit
      rw [chaseToward_attackCd] at hhit
      have hnear := chaseToward_near (u := { u with state := UnitState.attacking }) hhit.left
      have hconduct : Conduct q dt u _ := chaser_conduct hleash target.pos kAttackRange
        kAttackCooldown
      refine Action.strikesUnit ht hfoe.left hfoe.right hnear hhit.right ?_ rfl rfl hconduct rfl
      exact alone_of_insert rfl
    · exact chaser_rests hleash target.pos kAttackRange

theorem attackBuilding_action {target : Building F}
    (ht : q.buildings.lookup u.attackTarget = some target)
    (hleash : ¬ (u.autoAggro = true ∧ beyondLeash u = true)) :
    Action ω dt q id u (q.attackBuilding id u target dt) := by
  unfold attackBuilding
  split
  · exact stopAttack_action
  · rename_i hfoe
    rw [not_or] at hfoe
    dsimp only
    split
    · rename_i hhit
      rw [chaseToward_attackCd] at hhit
      have hnear := chaseToward_near (u := { u with state := UnitState.attacking }) hhit.left
      have hconduct : Conduct q dt u _ := chaser_conduct hleash target.pos
        kBuildingAttackRange kAttackCooldown
      refine Action.strikesBuilding ht hfoe.left hfoe.right hnear hhit.right ?_ rfl rfl
        hconduct rfl
      exact alone_of_insert rfl
    · exact chaser_rests hleash target.pos kBuildingAttackRange

theorem stepCombat_action : Action ω dt q id u (q.stepCombat id u dt) := by
  unfold stepCombat
  split
  · refine Action.rests (solo_commit q id _) ⟨⟨rfl, rfl, rfl, rfl, rfl⟩, rfl, ?_,
      Or.inl rfl, fun h => ⟨h, rfl⟩⟩ rfl
    intro hne
    exact absurd rfl hne
  · rename_i hleash
    split
    · rename_i target ht
      exact attackUnit_action ht hleash
    · split
      · rename_i target ht
        exact attackBuilding_action ht hleash
      · exact stopAttack_action

/-!
### Gathering
-/

omit [Scalar F] in
theorem settleField_solo (fieldId : Nat) (field : ResourceFieldEntity F) (left : UInt32)
    (wraps : Bool) (v : GameUnit F) :
    Solo q (((q.settleField fieldId field left).noteWrap wraps).commit id v) id v := by
  have hframe := settleField_frame q fieldId field left
  refine ⟨alone_of_insert ?_, ?_, ?_⟩
  · rw [commit_units, noteWrap_units, settleField_units]
  · rw [commit_buildings, noteWrap_buildings, hframe.left]
  · rw [commit_playerRes, noteWrap_playerRes, hframe.right.right.left]

omit [Scalar F] in
theorem settleDrop_solo (dropId : Nat) (drop : ResourceDropEntity F) (amount : UInt32)
    (wraps : Bool) (v : GameUnit F) :
    Solo q (((q.settleDrop dropId drop amount).noteWrap wraps).commit id v) id v := by
  have hframe := settleDrop_frame q dropId drop amount
  refine ⟨alone_of_insert ?_, ?_, ?_⟩
  · rw [commit_units, noteWrap_units, settleDrop_units]
  · rw [commit_buildings, noteWrap_buildings, hframe.left]
  · rw [commit_playerRes, noteWrap_playerRes, hframe.right.right.left]

theorem workField_action (hattack : u.attackTarget = 0)
    (field : ResourceFieldEntity F) (h : Labour u v) :
    Action ω dt q id u (q.workField id v field dt) := by
  unfold workField
  dsimp only
  have hready : Labour u { faceToward v field.pos with
      state := UnitState.working
      carriedRaw := field.raw
      workCd := v.workCd + dt } := by
    have hfaced := h.trans (faceToward_labour v field.pos)
    have hbody := hfaced.body
    exact ⟨⟨hbody.id, hbody.ownerUid, hbody.team, hbody.unitType, hbody.hp⟩,
      hfaced.speed, hfaced.attackTarget, hfaced.attackCd, hfaced.dropoff, hfaced.site⟩
  have hloop := hready.trans (harvestLoop_labour kVillagerCarryCapacity.toNat _
    field.amountLeft false)
  split
  · exact (hloop.trans (switchToPreparingReturn_labour _ _)).action hattack
      (settleField_solo _ _ _ _ _)
  · split
    · exact (hloop.trans (switchToPreparingReturn_labour _ _)).action hattack
        (settleField_solo _ _ _ _ _)
    · exact hloop.action hattack (settleField_solo _ _ _ _ _)

theorem stepGather_action (hattack : u.attackTarget = 0) :
    Action ω dt q id u (q.stepGather id u dt) := by
  unfold stepGather
  split
  · split
    · exact (switchToPreparingReturn_labour u _).commits hattack
    · exact (switchToPreparingReturn_labour u _).commits hattack
  · split
    · split
      · exact (switchToPreparingReturn_labour u _).commits hattack
      · exact (goIdle_labour u).commits hattack
    · rename_i field hfield
      split
      · split
        · exact (switchToPreparingReturn_labour u _).commits hattack
        · exact (goIdle_labour u).commits hattack
      · have haimed : Labour u { u with target := field.pos } :=
          ⟨⟨rfl, rfl, rfl, rfl, rfl⟩, rfl, rfl, rfl, Or.inl rfl, fun h => ⟨h, rfl⟩⟩
        have hmove := haimed.trans (moveToward_labour _
          (offsetBy field.pos u.interactionOffset) (lit 0.15) dt)
        dsimp only
        split
        · exact (hmove.showing _).commits hattack
        · exact workField_action hattack field hmove

theorem stepPreparingReturn_action (hattack : u.attackTarget = 0) :
    Action ω dt q id u (q.stepPreparingReturn id u dt) := by
  have hlifted : Labour u { faceToward u u.target with
      state := UnitState.working
      workCd := u.workCd - dt } := by
    have hfaced := faceToward_labour u u.target
    have hbody := hfaced.body
    exact ⟨⟨hbody.id, hbody.ownerUid, hbody.team, hbody.unitType, hbody.hp⟩,
      hfaced.speed, hfaced.attackTarget, hfaced.attackCd, hfaced.dropoff, hfaced.site⟩
  unfold stepPreparingReturn
  dsimp only
  split
  · exact hlifted.commits hattack
  · exact (hlifted.trans (switchToReturn_labour _)).commits hattack

/-!
### Returning
-/

/-- What the search for a drop-off finds. -/
theorem findNearestDropoff_spec {team : Nat} {origin : Vec3f F} {camp : Building F}
    (h : q.findNearestDropoff ω team origin = some camp) :
    exists key, q.buildings.lookup key = some camp ∧ camp.team = team ∧
      camp.underConstruction = false ∧ IsDropoff camp := by
  unfold findNearestDropoff at h
  revert h camp
  refine List.foldlRecOn (motive := fun best : F × Option (Building F) =>
    forall {camp : Building F}, best.2 = some camp ->
      exists key, q.buildings.lookup key = some camp ∧ camp.team = team ∧
        camp.underConstruction = false ∧ IsDropoff camp) _ _ ?_ ?_
  · intro camp h
    cases h
  · intro best ih key _ camp h
    dsimp only at h
    split at h
    · exact ih h
    · rename_i b hb
      split at h
      · exact ih h
      · rename_i hown
        split at h
        · exact ih h
        · rename_i htype
          split at h
          · injection h with heq
            subst heq
            rw [not_or, not_not, Bool.not_eq_true] at hown
            refine ⟨key, hb, hown.left, hown.right, ?_⟩
            rw [not_and_or, not_not, not_not] at htype
            exact htype
          · exact ih h

/-- A unit that has arrived is not moved. -/
theorem moveToward_arrived {dest : Vec3f F} {arriveDist : F}
    (h : (moveToward u dest arriveDist dt).2 = true) :
    (moveToward u dest arriveDist dt).1 = u := by
  unfold moveToward at h ⊢
  dsimp only at h ⊢
  split
  · rfl
  · rename_i hfar
    rw [if_neg hfar] at h
    split at h
    · cases h
    · cases h

theorem carryTo_action {camp : Building F} {d : Nat} (hattack : u.attackTarget = 0)
    (htask : u.task = WorkerTask.returning) (hcamp : q.chosenDropoff ω u = some camp)
    (hconduct : forall v, Labour { u with dropoffId := d } v -> Conduct q dt u v) :
    Action ω dt q id u (q.carryTo id { u with dropoffId := d } camp dt) := by
  have hsame : (moveToward { u with dropoffId := d }
      (offsetBy camp.pos u.interactionOffset) (lit 0.15) dt).2 = atDropoff u camp dt := by
    unfold atDropoff moveToward
    dsimp only
    repeat' split
    all_goals rfl
  have hmove := moveToward_labour { u with dropoffId := d }
    (offsetBy camp.pos u.interactionOffset) (lit 0.15) dt
  unfold carryTo
  dsimp only
  split
  · exact Action.rests (solo_commit q id _) (hconduct _ (hmove.showing _)) hmove.attackCd
  · rename_i hthere
    rw [Bool.not_eq_true, Bool.not_eq_false'] at hthere
    rw [moveToward_arrived hthere]
    have hback : Labour { u with dropoffId := d }
        (q.resumeGathering { u with dropoffId := d, carriedAmount := 0 }) := by
      refine Labour.trans ?_ (resumeGathering_labour q _)
      exact ⟨⟨rfl, rfl, rfl, rfl, rfl⟩, rfl, rfl, rfl, Or.inl rfl, fun h => ⟨h, rfl⟩⟩
    cases hres : q.playerRes.lookup u.ownerUid with
    | none =>
        have hnone : q.deposit { u with dropoffId := d } = q := by
          unfold deposit
          rw [hres]
        rw [hnone]
        exact Action.rests (solo_commit q id _) (hconduct _ hback) hback.attackCd
    | some res =>
        rw [deposit_eq (u := { u with dropoffId := d }) hres]
        exact Action.banks hattack htask hcamp (hsame ▸ hthere) hres (alone_of_insert rfl)
          rfl rfl (hconduct _ hback) hback.attackCd

theorem stepReturn_action (hattack : u.attackTarget = 0)
    (htask : u.task = WorkerTask.returning) :
    Action ω dt q id u (stepReturn ω q id u dt) := by
  unfold stepReturn
  split
  · exact (resumeGathering_labour q u).commits hattack
  · split
    · rename_i camp hnamed
      have hcamp : q.chosenDropoff ω u = some camp := by
        unfold chosenDropoff
        rw [hnamed]
      exact carryTo_action hattack htask hcamp fun v hv => Labour.conduct hv hattack dt
    · rename_i hnamed
      split
      · rename_i camp hfound
        have hcamp : q.chosenDropoff ω u = some camp := by
          unfold chosenDropoff
          rw [hnamed, hfound]
        rcases findNearestDropoff_spec hfound with ⟨key, hkey, _, _, hreal⟩
        exact carryTo_action hattack htask hcamp fun v hv =>
          hv.conduct_found hattack hkey hreal dt
      · exact ((Labour.refl u).showing _).commits hattack

theorem takeDrop_action (hattack : u.attackTarget = 0) (drop : ResourceDropEntity F)
    (h : Labour u v) : Action ω dt q id u (q.takeDrop id v drop) := by
  have hloaded : Labour u { v with
      carriedRaw := drop.raw
      carriedAmount := v.carriedAmount + takeAmount v drop } := by
    have hbody := h.body
    exact ⟨⟨hbody.id, hbody.ownerUid, hbody.team, hbody.unitType, hbody.hp⟩,
      h.speed, h.attackTarget, h.attackCd, h.dropoff, h.site⟩
  unfold takeDrop
  exact (hloaded.trans (switchToReturn_labour _)).action hattack (settleDrop_solo _ _ _ _ _)

theorem stepPickup_action (hattack : u.attackTarget = 0) :
    Action ω dt q id u (q.stepPickup id u dt) := by
  unfold stepPickup
  split
  · split
    · exact (switchToReturn_labour u).commits hattack
    · exact (goIdle_labour u).commits hattack
  · rename_i drop hdrop
    have hmove := moveToward_labour u (offsetBy drop.pos u.interactionOffset) (lit 0.15) dt
    dsimp only
    split
    · exact (hmove.showing _).commits hattack
    · exact takeDrop_action hattack drop hmove

/-!
### Construction, movement and the choice between them
-/

theorem stepConstruct_action (hattack : u.attackTarget = 0)
    (htask : u.task = WorkerTask.constructing) :
    Action ω dt q id u (q.stepConstruct id u dt) := by
  unfold stepConstruct
  split
  · exact (goIdle_labour u).commits hattack
  · rename_i b hb
    have hmove := moveToward_labour u b.pos kBuildRange dt
    split
    · exact (goIdle_labour u).commits hattack
    · rename_i hsite
      rw [Bool.not_eq_true, Bool.not_eq_false'] at hsite
      dsimp only
      split
      · exact (hmove.showing _).commits hattack
      · rename_i hthere
        rw [Bool.not_eq_true, Bool.not_eq_false'] at hthere
        split
        · have hconduct := (hmove.showing UnitState.working).conduct (q := q) hattack dt
          exact Action.builds hattack htask hb hsite hthere (alone_of_insert rfl) rfl rfl
            hconduct hmove.attackCd
        · have hidle := hmove.trans (goIdle_labour _)
          exact Action.builds hattack htask hb hsite hthere (alone_of_insert rfl) rfl rfl
            (hidle.conduct hattack dt) hidle.attackCd

theorem act_action (hu : q.units.lookup id = some u) :
    Action ω dt q id u (act ω dt q id u) := by
  unfold act
  split
  · exact stepCombat_action
  · rename_i hattack
    rw [not_not] at hattack
    split
    · exact stepGather_action hattack
    · exact stepPreparingReturn_action hattack
    · rename_i htask
      exact stepReturn_action hattack htask
    · exact stepPickup_action hattack
    · rename_i htask
      exact stepConstruct_action hattack htask
    · split
      · exact (followPath_labour _ u _).commits hattack
      · exact (Labour.refl u).action hattack (solo_refl hu)

end Actions

/-!
## The whole turn
-/

/-- The room when a living unit has cooled down and looked around. -/
def readied (ω : IterOrder) (dt : F) (doAggro : Bool) (r : DungeonRoom F) (id : Nat)
    (u : GameUnit F) : DungeonRoom F :=
  if doAggro then (r.putUnit id (coolDown dt u)).withUnit id (scanAggro ω)
  else r.putUnit id (coolDown dt u)

/-- A unit that has just found an enemy by itself. -/
structure Engages (dt : F) (u w : GameUnit F) : Prop where
  free : u.attackTarget = 0
  attackTarget : w.attackTarget ≠ 0
  autoAggro : w.autoAggro = true
  aggroOrigin : w.aggroOrigin = u.pos
  pos : w.pos = u.pos
  body : SameBody u w
  speed : w.speed = u.speed
  attackCd : w.attackCd = (coolDown dt u).attackCd
  task : w.task = WorkerTask.none
  dropoff : w.dropoffId = u.dropoffId ∨ w.dropoffId = 0

/-- A unit when its action begins. -/
def Stance (dt : F) (u w : GameUnit F) : Prop := w = coolDown dt u ∨ Engages dt u w

theorem coolDown_eq (dt : F) (u : GameUnit F) :
    coolDown dt u = { u with attackCd := (coolDown dt u).attackCd } := by
  unfold coolDown
  dsimp only
  split
  · rfl
  · rfl

theorem engageAuto_solo (dt : F) (q p : DungeonRoom F) (id : Nat) (u w : GameUnit F)
    {target : Nat} (hunits : p.units = q.units) (hbuildings : p.buildings = q.buildings)
    (hres : p.playerRes = q.playerRes) (htarget : target ≠ 0) (hfree : u.attackTarget = 0)
    (hbody : SameBody u w) (hspeed : w.speed = u.speed) (hpos : w.pos = u.pos)
    (hcd : w.attackCd = (coolDown dt u).attackCd) (htask : w.task = WorkerTask.none)
    (hdropoff : w.dropoffId = u.dropoffId ∨ w.dropoffId = 0) :
    exists v, Solo q (p.engageAuto id w target) id v ∧ Stance dt u v := by
  refine ⟨{ w with
      attackTarget := target
      autoAggro := true
      aggroOrigin := w.pos
      state := UnitState.attacking }, ⟨alone_of_insert ?_, hbuildings, hres⟩, Or.inr ?_⟩
  · unfold engageAuto
    rw [commit_units, hunits]
  · exact ⟨hfree, htarget, rfl, hpos, hpos,
      ⟨hbody.id, hbody.ownerUid, hbody.team, hbody.unitType, hbody.hp⟩, hspeed, hcd, htask,
      hdropoff⟩

/-- What the periodic scan does. -/
theorem scanAggro_cases (ω : IterOrder) {q : DungeonRoom F} {id : Nat} {u : GameUnit F}
    {dt : F} (hu : q.units.lookup id = some (coolDown dt u)) :
    exists w, Solo q (scanAggro ω q id (coolDown dt u)) id w ∧ Stance dt u w := by
  have heq := coolDown_eq dt u
  generalize hcd : (coolDown dt u).attackCd = cd at heq
  rw [heq] at hu ⊢
  have hsame : Stance dt u { u with attackCd := cd } := Or.inl heq.symm
  unfold scanAggro
  split
  · exact ⟨_, solo_refl hu, hsame⟩
  · rename_i hfree
    rw [not_not] at hfree
    split
    · rename_i htask
      split
      · unfold acquireAutoTarget
        dsimp only
        split
        · rename_i htarget
          exact engageAuto_solo dt q q id u { u with attackCd := cd } rfl rfl rfl htarget
            hfree ⟨rfl, rfl, rfl, rfl, rfl⟩ rfl rfl hcd.symm htask (Or.inl rfl)
        · exact ⟨_, solo_refl hu, hsame⟩
      · exact ⟨_, solo_refl hu, hsame⟩
    · dsimp only
      split
      · rename_i hthreat
        unfold dropCarried
        split
        · exact engageAuto_solo dt q
            (q.spawnResourceDrop u.carriedRaw u.pos u.carriedAmount) id u
            { clearWorkerTask { u with attackCd := cd, carriedAmount := 0 } with
              hasTarget := false } rfl rfl rfl hthreat hfree ⟨rfl, rfl, rfl, rfl, rfl⟩
            rfl rfl hcd.symm rfl (Or.inr rfl)
        · exact engageAuto_solo dt q q id u
            { clearWorkerTask { u with attackCd := cd } with hasTarget := false }
            rfl rfl rfl hthreat hfree ⟨rfl, rfl, rfl, rfl, rfl⟩ rfl rfl hcd.symm rfl
            (Or.inr rfl)
      · exact ⟨_, solo_refl hu, hsame⟩

omit [Scalar F] in
theorem Solo.after {q p q' : DungeonRoom F} {id : Nat} {w v : GameUnit F}
    (hp : Solo q p id w) (hq' : Solo p q' id v) : Solo q q' id v :=
  ⟨hp.toAlone.after hq'.toAlone, hq'.buildings.trans hp.buildings,
    hq'.playerRes.trans hp.playerRes⟩

theorem readied_cases (ω : IterOrder) (dt : F) (doAggro : Bool) (r : DungeonRoom F)
    (id : Nat) (u : GameUnit F) :
    exists w, Solo r (readied ω dt doAggro r id u) id w ∧ Stance dt u w := by
  have hcooled : Solo r (r.putUnit id (coolDown dt u)) id (coolDown dt u) :=
    ⟨alone_of_insert rfl, rfl, rfl⟩
  unfold readied
  split
  · rcases scanAggro_cases ω hcooled.own with ⟨w, hsolo, hstance⟩
    refine ⟨w, ?_, hstance⟩
    unfold withUnit
    rw [hcooled.own]
    exact hcooled.after hsolo
  · exact ⟨coolDown dt u, hcooled, Or.inl rfl⟩

/--
The turn of a unit that acts: how it stands when its action begins, and the rest
of the room at that time.
-/
structure Outing (ω : IterOrder) (dt : F) (doAggro : Bool) (q : DungeonRoom F) (id : Nat)
    (u : GameUnit F) (p : DungeonRoom F) (w : GameUnit F) : Prop where
  found : q.units.lookup id = some u
  alive : ¬ u.hp ≤ lit 0
  start : p = readied ω dt doAggro q id u
  solo : Solo q p id w
  stance : Stance dt u w

/-- A unit that is gone or dead does nothing; any other acts. -/
theorem stepUnit_cases (ω : IterOrder) (dt : F) (doAggro : Bool) (q : DungeonRoom F)
    (id : Nat) :
    (stepUnit ω dt doAggro q id = q ∧
      forall u, q.units.lookup id = some u -> u.hp ≤ lit 0) ∨
    exists u p w, Outing ω dt doAggro q id u p w ∧
      stepUnit ω dt doAggro q id = act ω dt p id w ∧
      Action ω dt p id w (stepUnit ω dt doAggro q id) := by
  cases hu : q.units.lookup id with
  | none =>
      refine Or.inl ⟨?_, ?_⟩
      · unfold stepUnit
        rw [hu]
      · intro u hsome
        cases hsome
  | some u =>
      by_cases hdead : u.hp ≤ lit 0
      · refine Or.inl ⟨?_, ?_⟩
        · unfold stepUnit
          rw [hu]
          dsimp only
          rw [if_pos hdead]
        · intro other hsome
          injection hsome with heq
          rw [← heq]
          exact hdead
      · rcases readied_cases ω dt doAggro q id u with ⟨w, hsolo, hstance⟩
        have hact : stepUnit ω dt doAggro q id =
            act ω dt (readied ω dt doAggro q id u) id w := by
          unfold stepUnit
          rw [hu]
          dsimp only
          rw [if_neg hdead]
          change (readied ω dt doAggro q id u).withUnit id (act ω dt) = _
          unfold withUnit
          rw [hsolo.own]
        refine Or.inr ⟨u, _, w, ⟨hu, hdead, rfl, hsolo, hstance⟩, hact, ?_⟩
        rw [hact]
        exact act_action hsolo.own

/-!
## Work on a site
-/

/-- The site on which a unit works if it acts now: it has arrived there. -/
def siteOf (q : DungeonRoom F) (dt : F) (w : GameUnit F) : Option Nat :=
  match q.buildings.lookup w.buildTargetId with
  | none => none
  | some b =>
      if w.attackTarget = 0 ∧ w.task = WorkerTask.constructing ∧
          b.underConstruction = true ∧ (moveToward w b.pos kBuildRange dt).2 = true then
        some w.buildTargetId
      else none

/-- The site on which a unit works in its turn. -/
def worksAt (ω : IterOrder) (dt : F) (doAggro : Bool) (q : DungeonRoom F) (id : Nat) :
    Option Nat :=
  match q.units.lookup id with
  | none => none
  | some u =>
      if u.hp ≤ lit 0 then none
      else
        match (readied ω dt doAggro q id u).units.lookup id with
        | none => none
        | some w => q.siteOf dt w

section Sites

variable {ω : IterOrder} {dt : F} {doAggro : Bool} {q p : DungeonRoom F} {id site : Nat}
  {u w : GameUnit F} {b : Building F}

theorem Outing.worksAt_eq (h : Outing ω dt doAggro q id u p w) :
    worksAt ω dt doAggro q id = q.siteOf dt w := by
  unfold worksAt
  rw [h.found]
  dsimp only
  rw [if_neg h.alive, ← h.start, h.solo.own]

/-- A unit that works on a site acts and advances it. -/
theorem worksAt_spec (h : worksAt ω dt doAggro q id = some site) :
    exists b, q.buildings.lookup site = some b ∧ b.underConstruction = true ∧
      (stepUnit ω dt doAggro q id).buildings = q.buildings.insert site (buildProgress b dt) := by
  rcases stepUnit_cases ω dt doAggro q id with ⟨_, hdead⟩ | ⟨u, p, w, hout, hact, _⟩
  · unfold worksAt at h
    split at h
    · cases h
    · rename_i u hu
      rw [if_pos (hdead u hu)] at h
      cases h
  · rw [hout.worksAt_eq] at h
    unfold siteOf at h
    split at h
    · cases h
    · rename_i b hb
      split at h
      · rename_i hworks
        rcases hworks with ⟨hattack, htask, hsite, hthere⟩
        injection h with heq
        rw [← heq]
        refine ⟨b, hb, hsite, ?_⟩
        have hb' : p.buildings.lookup w.buildTargetId = some b := by
          rw [hout.solo.buildings]
          exact hb
        rw [hact]
        unfold act
        rw [if_neg (not_not.mpr hattack), htask]
        dsimp only
        unfold stepConstruct
        rw [hb']
        simp only [hsite, hthere, Bool.not_true, Bool.false_eq_true, if_false]
        split
        · change p.buildings.insert _ _ = _
          rw [hout.solo.buildings]
        · change p.buildings.insert _ _ = _
          rw [hout.solo.buildings]
      · cases h

end Sites

end DungeonRoom

end RtsGame
