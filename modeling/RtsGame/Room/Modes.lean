import RtsGame.Room.Identity

/-!
# What a unit is doing

A unit attacks, works, walks or rests, and more than ten of its fields say
which.  Every command and every part of the step leaves them in agreement.
What clients are shown agrees with them too, if every attack order names a
target.
-/

namespace RtsGame

open Scalar

namespace DungeonRoom

variable {F : Type} [Scalar F]

/-- The fields of a unit describe one activity. -/
structure InMode (u : GameUnit F) : Prop where
  attack : u.attackTarget ≠ 0 -> u.task = WorkerTask.none ∧ u.hasTarget = false
  task : u.task ≠ WorkerTask.none -> u.hasTarget = false
  standing : u.hasTarget = false -> u.path = []
  index : u.path ≠ [] -> u.pathIndex < u.path.length
  free : u.task = WorkerTask.none ->
    u.gatherFieldId = 0 ∧ u.dropoffId = 0 ∧ u.pickupDropId = 0 ∧
      u.buildTargetId = 0 ∧ u.workCd = lit 0
  gathering : u.task = WorkerTask.gathering -> u.gatherFieldId ≠ 0
  pickup : u.task = WorkerTask.pickup -> u.pickupDropId ≠ 0
  constructing : u.task = WorkerTask.constructing -> u.buildTargetId ≠ 0

/-- The state that clients are shown is the activity. -/
structure Shown (u : GameUnit F) : Prop where
  attacking : u.state = UnitState.attacking -> u.attackTarget ≠ 0
  moving : u.state = UnitState.moving -> u.hasTarget = true ∨ u.task ≠ WorkerTask.none
  working : u.state = UnitState.working ->
    u.task = WorkerTask.gathering ∨ u.task = WorkerTask.preparingReturn ∨
      u.task = WorkerTask.constructing
  idle : u.state = UnitState.idle -> u.attackTarget = 0

/--
The fields agree with each other and, if all attack orders name a target, with
the state.
-/
structure Poised (told : Prop) (u : GameUnit F) : Prop where
  mode : InMode u
  shown : told -> Shown u

/-- Nothing that says what the unit is doing differs. -/
structure SameMode (u v : GameUnit F) : Prop where
  attackTarget : v.attackTarget = u.attackTarget
  task : v.task = u.task
  hasTarget : v.hasTarget = u.hasTarget
  path : v.path = u.path
  pathIndex : v.pathIndex = u.pathIndex
  gatherFieldId : v.gatherFieldId = u.gatherFieldId
  dropoffId : v.dropoffId = u.dropoffId
  pickupDropId : v.pickupDropId = u.pickupDropId
  buildTargetId : v.buildTargetId = u.buildTargetId
  workCd : v.workCd = u.workCd
  state : v.state = u.state

omit [Scalar F] in
theorem SameMode.refl (u : GameUnit F) : SameMode u u :=
  ⟨rfl, rfl, rfl, rfl, rfl, rfl, rfl, rfl, rfl, rfl, rfl⟩

theorem SameMode.inMode {u v : GameUnit F} (h : SameMode u v) (hu : InMode u) :
    InMode v := by
  constructor
  · rw [h.attackTarget, h.task, h.hasTarget]
    exact hu.attack
  · rw [h.task, h.hasTarget]
    exact hu.task
  · rw [h.hasTarget, h.path]
    exact hu.standing
  · rw [h.path, h.pathIndex]
    exact hu.index
  · rw [h.task, h.gatherFieldId, h.dropoffId, h.pickupDropId, h.buildTargetId,
      h.workCd]
    exact hu.free
  · rw [h.task, h.gatherFieldId]
    exact hu.gathering
  · rw [h.task, h.pickupDropId]
    exact hu.pickup
  · rw [h.task, h.buildTargetId]
    exact hu.constructing

theorem SameMode.poised {told : Prop} {u v : GameUnit F} (h : SameMode u v)
    (hu : Poised told u) : Poised told v := by
  refine ⟨h.inMode hu.mode, ?_⟩
  intro htold
  have hshown := hu.shown htold
  constructor
  · rw [h.state, h.attackTarget]
    exact hshown.attacking
  · rw [h.state, h.hasTarget, h.task]
    exact hshown.moving
  · rw [h.state, h.task]
    exact hshown.working
  · rw [h.state, h.attackTarget]
    exact hshown.idle

/-!
## Units without a task
-/

/-- A unit without a task: it attacks, walks or rests. -/
theorem inMode_of_free {u : GameUnit F} (htask : u.task = WorkerTask.none)
    (hfree : u.gatherFieldId = 0 ∧ u.dropoffId = 0 ∧ u.pickupDropId = 0 ∧
      u.buildTargetId = 0 ∧ u.workCd = lit 0)
    (hattack : u.attackTarget ≠ 0 -> u.hasTarget = false)
    (hstanding : u.hasTarget = false -> u.path = [])
    (hindex : u.path ≠ [] -> u.pathIndex < u.path.length) : InMode u := by
  refine ⟨fun h => ⟨htask, hattack h⟩, fun h => absurd htask h, hstanding, hindex,
    fun _ => hfree, ?_, ?_, ?_⟩
  · intro h
    rw [htask] at h
    cases h
  · intro h
    rw [htask] at h
    cases h
  · intro h
    rw [htask] at h
    cases h

omit [Scalar F] in
theorem shown_attacking {u : GameUnit F} (hstate : u.state = UnitState.attacking)
    (h : u.attackTarget ≠ 0) : Shown u := by
  refine ⟨fun _ => h, ?_, ?_, ?_⟩ <;>
  · intro hother
    rw [hstate] at hother
    cases hother

omit [Scalar F] in
theorem shown_moving {u : GameUnit F} (hstate : u.state = UnitState.moving)
    (h : u.hasTarget = true ∨ u.task ≠ WorkerTask.none) : Shown u := by
  refine ⟨?_, fun _ => h, ?_, ?_⟩ <;>
  · intro hother
    rw [hstate] at hother
    cases hother

omit [Scalar F] in
theorem shown_working {u : GameUnit F} (hstate : u.state = UnitState.working)
    (h : u.task = WorkerTask.gathering ∨ u.task = WorkerTask.preparingReturn ∨
      u.task = WorkerTask.constructing) : Shown u := by
  refine ⟨?_, ?_, fun _ => h, ?_⟩ <;>
  · intro hother
    rw [hstate] at hother
    cases hother

omit [Scalar F] in
theorem shown_idle {u : GameUnit F} (hstate : u.state = UnitState.idle)
    (h : u.attackTarget = 0) : Shown u := by
  refine ⟨?_, ?_, ?_, fun _ => h⟩ <;>
  · intro hother
    rw [hstate] at hother
    cases hother

theorem newUnit_poised (told : Prop) (id ownerUid team unitType : Nat)
    (pos : Vec3f F) (hp speed yaw : F) :
    Poised told (newUnit id ownerUid team unitType pos hp speed yaw) :=
  ⟨inMode_of_free rfl ⟨rfl, rfl, rfl, rfl, rfl⟩ (fun _ => rfl) (fun _ => rfl)
      (fun h => absurd rfl h),
    fun _ => shown_idle rfl rfl⟩

theorem trainedUnit_poised (told : Prop) (id : Nat) (b : Building F) (unitType : Nat) :
    Poised told (trainedUnit id b unitType) :=
  ⟨inMode_of_free rfl ⟨rfl, rfl, rfl, rfl, rfl⟩ (fun h => absurd rfl h) (fun _ => rfl)
      (fun h => absurd rfl h),
    fun _ => shown_idle rfl rfl⟩

theorem moveOrder_poised (told : Prop) (count : Nat) (forward : F × F)
    (target : Vec3f F) (path : List (Vec3f F)) (index : Nat) (u : GameUnit F) :
    Poised told (moveOrder count forward target path index u) := by
  refine ⟨inMode_of_free rfl ⟨rfl, rfl, rfl, rfl, rfl⟩ (fun h => absurd rfl h)
    (fun h => by cases h) ?_, fun _ => shown_moving rfl (Or.inl rfl)⟩
  intro hpath
  exact List.length_pos_iff.mpr hpath

theorem stopOrder_poised (told : Prop) (u : GameUnit F) : Poised told (stopOrder u) :=
  ⟨inMode_of_free rfl ⟨rfl, rfl, rfl, rfl, rfl⟩ (fun _ => rfl) (fun _ => rfl)
      (fun h => absurd rfl h),
    fun _ => shown_idle rfl rfl⟩

theorem attackOrder_poised {told : Prop} {targetEntity : Nat}
    (htarget : told -> targetEntity ≠ 0) (u : GameUnit F) :
    Poised told (attackOrder targetEntity u) :=
  ⟨inMode_of_free rfl ⟨rfl, rfl, rfl, rfl, rfl⟩ (fun _ => rfl) (fun _ => rfl)
      (fun h => absurd rfl h),
    fun htold => shown_attacking rfl (htarget htold)⟩

/-!
## Units with a task
-/

/-- A worker has no other activity. -/
theorem inMode_of_task {u : GameUnit F} (htask : u.task ≠ WorkerTask.none)
    (hattack : u.attackTarget = 0) (hhas : u.hasTarget = false) (hpath : u.path = [])
    (hgathering : u.task = WorkerTask.gathering -> u.gatherFieldId ≠ 0)
    (hpickup : u.task = WorkerTask.pickup -> u.pickupDropId ≠ 0)
    (hconstructing : u.task = WorkerTask.constructing -> u.buildTargetId ≠ 0) :
    InMode u :=
  ⟨fun h => absurd hattack h, fun _ => hhas, fun _ => hpath, fun h => absurd hpath h,
    fun h => absurd h htask, hgathering, hpickup, hconstructing⟩

/-- What a worker, or a unit at rest, is not doing. -/
structure Settled (u : GameUnit F) : Prop where
  attackTarget : u.attackTarget = 0
  hasTarget : u.hasTarget = false
  path : u.path = []

theorem InMode.settled {u : GameUnit F} (h : InMode u)
    (htask : u.task ≠ WorkerTask.none) : Settled u := by
  have hhas := h.task htask
  refine ⟨?_, hhas, h.standing hhas⟩
  by_contra hattack
  exact htask (h.attack hattack).left

theorem harvestOrder_poised (told : Prop) (count : Nat) {fieldId : Nat}
    (hfield : fieldId ≠ 0) (pos : Vec3f F) (index : Nat) (u : GameUnit F) :
    Poised told (harvestOrder count fieldId pos index u) := by
  have htask : (harvestOrder count fieldId pos index u).task ≠ WorkerTask.none := by
    intro h
    cases h
  refine ⟨inMode_of_task htask rfl rfl rfl (fun _ => hfield) ?_ ?_,
    fun _ => shown_moving rfl (Or.inr htask)⟩
  · intro h
    cases h
  · intro h
    cases h

theorem storeOrder_poised (told : Prop) (count campId index : Nat) (u : GameUnit F) :
    Poised told (storeOrder count campId index u) := by
  have htask : (storeOrder count campId index u).task ≠ WorkerTask.none := by
    intro h
    cases h
  refine ⟨inMode_of_task htask rfl rfl rfl ?_ ?_ ?_,
    fun _ => shown_moving rfl (Or.inr htask)⟩
  · intro h
    cases h
  · intro h
    cases h
  · intro h
    cases h

theorem pickupOrder_poised (told : Prop) (count : Nat) {dropId : Nat}
    (hdrop : dropId ≠ 0) (index : Nat) (u : GameUnit F) :
    Poised told (pickupOrder count dropId index u) := by
  have htask : (pickupOrder count dropId index u).task ≠ WorkerTask.none := by
    intro h
    cases h
  refine ⟨inMode_of_task htask rfl rfl rfl ?_ (fun _ => hdrop) ?_,
    fun _ => shown_moving rfl (Or.inr htask)⟩
  · intro h
    cases h
  · intro h
    cases h

theorem constructOrder_poised (told : Prop) {buildingId : Nat}
    (hbuilding : buildingId ≠ 0) (u : GameUnit F) :
    Poised told (constructOrder buildingId u) := by
  have htask : (constructOrder buildingId u).task ≠ WorkerTask.none := by
    intro h
    cases h
  refine ⟨inMode_of_task htask rfl rfl rfl ?_ ?_ (fun _ => hbuilding),
    fun _ => shown_moving rfl (Or.inr htask)⟩
  · intro h
    cases h
  · intro h
    cases h

theorem goIdle_poised (told : Prop) {u : GameUnit F} (h : Settled u) :
    Poised told (goIdle u) :=
  ⟨inMode_of_free rfl ⟨rfl, rfl, rfl, rfl, rfl⟩ (fun hne => absurd h.attackTarget hne)
      (fun _ => rfl) (fun hne => absurd rfl hne),
    fun _ => shown_idle rfl h.attackTarget⟩

theorem faceToward_same (u : GameUnit F) (target : Vec3f F) :
    SameMode u (faceToward u target) := by
  unfold faceToward
  dsimp only
  split
  · exact ⟨rfl, rfl, rfl, rfl, rfl, rfl, rfl, rfl, rfl, rfl, rfl⟩
  · exact SameMode.refl u

omit [Scalar F] in
theorem SameMode.settled {u v : GameUnit F} (h : SameMode u v) (hu : Settled u) :
    Settled v :=
  ⟨h.attackTarget.trans hu.attackTarget, h.hasTarget.trans hu.hasTarget,
    h.path.trans hu.path⟩

theorem moveToward_same (u : GameUnit F) (dest : Vec3f F) (arriveDist dt : F) :
    SameMode u (moveToward u dest arriveDist dt).1 := by
  unfold moveToward
  dsimp only
  split
  · exact SameMode.refl u
  · split
    · exact ⟨rfl, rfl, rfl, rfl, rfl, rfl, rfl, rfl, rfl, rfl, rfl⟩
    · exact SameMode.refl u

theorem chaseToward_same (u : GameUnit F) (tpos : Vec3f F) (dt range : F) :
    SameMode u (chaseToward u tpos dt range).1 := by
  unfold chaseToward
  dsimp only
  split <;> split <;> first
    | exact SameMode.refl u
    | exact ⟨rfl, rfl, rfl, rfl, rfl, rfl, rfl, rfl, rfl, rfl, rfl⟩
    | (split <;> exact ⟨rfl, rfl, rfl, rfl, rfl, rfl, rfl, rfl, rfl, rfl, rfl⟩)

theorem switchToPreparingReturn_poised (told : Prop) {u : GameUnit F} (h : Settled u)
    (faceTarget : Vec3f F) : Poised told (switchToPreparingReturn u faceTarget) := by
  unfold switchToPreparingReturn
  refine (faceToward_same _ _).poised ⟨?_, ?_⟩
  · refine inMode_of_task ?_ h.attackTarget rfl h.path ?_ ?_ ?_
    · intro htask
      cases htask
    · intro htask
      cases htask
    · intro htask
      cases htask
    · intro htask
      cases htask
  · intro _
    exact shown_working rfl (Or.inr (Or.inl rfl))

theorem switchToReturn_poised (told : Prop) {u : GameUnit F} (h : Settled u) :
    Poised told (switchToReturn u) := by
  have htask : (switchToReturn u).task ≠ WorkerTask.none := by
    intro htask
    cases htask
  refine ⟨inMode_of_task htask h.attackTarget h.hasTarget h.path ?_ ?_ ?_,
    fun _ => shown_moving rfl (Or.inr htask)⟩
  · intro htask
    cases htask
  · intro htask
    cases htask
  · intro htask
    cases htask

/-- A worker on its way. -/
theorem poised_walkingWorker (told : Prop) {u : GameUnit F} (h : InMode u)
    (htask : u.task ≠ WorkerTask.none) :
    Poised told { u with state := UnitState.moving } :=
  ⟨⟨h.attack, h.task, h.standing, h.index, h.free, h.gathering, h.pickup,
      h.constructing⟩,
    fun _ => shown_moving rfl (Or.inr htask)⟩

/-!
## Walking
-/

theorem walkToward_poised (told : Prop) {u : GameUnit F} (h : InMode u)
    (hhas : u.hasTarget = true) (dx dz dist remaining : F) :
    Poised told (walkToward u dx dz dist remaining) :=
  ⟨⟨h.attack, h.task, h.standing, h.index, h.free, h.gathering, h.pickup,
      h.constructing⟩,
    fun _ => shown_moving rfl (Or.inl hhas)⟩

/-- Induction on the waypoints ahead, which are those of the path from its index on. -/
theorem followPath_poised (told : Prop) (waypoints : List (Vec3f F)) {u : GameUnit F}
    (h : Poised told u) (htask : u.task = WorkerTask.none)
    (hattack : u.attackTarget = 0) (hhas : u.hasTarget = true)
    (hpath : u.path.drop u.pathIndex = waypoints) (remaining : F) :
    Poised told (followPath waypoints u remaining) := by
  have hfree := h.mode.free htask
  induction waypoints generalizing u remaining with
  | nil =>
      have hnone : u.path = [] := by
        by_contra hne
        have hindex := h.mode.index hne
        have hle := List.drop_eq_nil_iff.mp hpath
        lia
      unfold followPath
      split
      · dsimp only
        split
        · exact ⟨inMode_of_free htask hfree (fun hne => absurd hattack hne)
              (fun _ => hnone) (fun hne => absurd hnone hne),
            fun _ => shown_idle rfl hattack⟩
        · exact walkToward_poised told h.mode hhas _ _ _ _
      · exact h
  | cons waypoint rest ih =>
      unfold followPath
      split
      · dsimp only
        split
        · split
          · exact ⟨inMode_of_free htask hfree (fun hne => absurd hattack hne)
                (fun _ => rfl) (fun hne => absurd rfl hne),
              fun _ => shown_idle rfl hattack⟩
          · rename_i hrest
            have hdrop : u.path.drop (u.pathIndex + 1) = rest := by
              rw [← List.tail_drop, hpath, List.tail_cons]
            have hnext : Poised told
                { u with pos := waypoint, pathIndex := u.pathIndex + 1 } := by
              refine ⟨inMode_of_free htask hfree (fun hne => absurd hattack hne)
                h.mode.standing ?_, ?_⟩
              · intro _
                by_contra hge
                apply hrest
                rw [List.isEmpty_iff, ← hdrop]
                exact List.drop_eq_nil_iff.mpr (Nat.le_of_not_lt hge)
              · intro htold
                have hshown := h.shown htold
                exact ⟨hshown.attacking, hshown.moving, hshown.working, hshown.idle⟩
            exact ih hnext htask hattack hhas hdrop _ hfree
        · exact walkToward_poised told h.mode hhas _ _ _ _
      · exact h

/-!
## Rooms
-/

/-- Every unit of the room is poised. -/
def UnitsPoised (told : Prop) (r : DungeonRoom F) : Prop :=
  r.units.AllAt fun _ u => Poised told u

variable {told : Prop} {r : DungeonRoom F} {id : Nat} {u : GameUnit F}

theorem UnitsPoised.commit (h : UnitsPoised told r) (id : Nat) {v : GameUnit F}
    (hv : Poised told v) : UnitsPoised told (r.commit id v) :=
  Table.AllAt.insert h hv

theorem stepMove_poised (h : UnitsPoised told r) (hu : Poised told u)
    (htask : u.task = WorkerTask.none) (hattack : u.attackTarget = 0)
    (hhas : u.hasTarget = true) (dt : F) : UnitsPoised told (r.stepMove id u dt) :=
  h.commit id (followPath_poised told _ hu htask hattack hhas rfl _)

theorem stopAttack_poised (h : UnitsPoised told r) (hu : Poised told u)
    (hattack : u.attackTarget ≠ 0) : UnitsPoised told (r.stopAttack id u) := by
  rcases hu.mode.attack hattack with ⟨htask, hhas⟩
  refine h.commit id ⟨?_, fun _ => shown_idle rfl rfl⟩
  exact inMode_of_free htask (hu.mode.free htask) (fun _ => hhas) hu.mode.standing
    hu.mode.index

/-- A unit that starts to attack on its own has nothing else to do. -/
theorem engageAuto_poised (h : UnitsPoised told r) (hu : InMode u)
    (htask : u.task = WorkerTask.none) (hhas : u.hasTarget = false) {target : Nat}
    (htarget : target ≠ 0) : UnitsPoised told (r.engageAuto id u target) := by
  refine h.commit id ⟨?_, fun _ => shown_attacking rfl htarget⟩
  exact inMode_of_free htask (hu.free htask) (fun _ => hhas) hu.standing hu.index

theorem hitUnit_same (target : GameUnit F) : SameMode target (hitUnit target) :=
  ⟨rfl, rfl, rfl, rfl, rfl, rfl, rfl, rfl, rfl, rfl, rfl⟩

/-- The attacker after a step of the chase, whether or not it strikes. -/
theorem chaser_poised (hu : Poised told u) (hattack : u.attackTarget ≠ 0)
    (tpos : Vec3f F) (dt range : F) :
    Poised told (chaseToward { u with state := UnitState.attacking } tpos dt range).1 := by
  have hmode := hu.mode
  refine (chaseToward_same _ tpos dt range).poised ⟨?_, fun _ => shown_attacking rfl hattack⟩
  exact ⟨hmode.attack, hmode.task, hmode.standing, hmode.index, hmode.free,
    hmode.gathering, hmode.pickup, hmode.constructing⟩

theorem Poised.rest (hu : Poised told u) (cd : F) :
    Poised told { u with attackCd := cd } := by
  have hsame : SameMode u { u with attackCd := cd } :=
    ⟨rfl, rfl, rfl, rfl, rfl, rfl, rfl, rfl, rfl, rfl, rfl⟩
  exact hsame.poised hu

theorem attackUnit_poised (h : UnitsPoised told r) (hu : Poised told u)
    (hattack : u.attackTarget ≠ 0) {target : GameUnit F} (ht : Poised told target)
    (dt : F) : UnitsPoised told (r.attackUnit id u target dt) := by
  unfold attackUnit
  have hchase := chaser_poised hu hattack target.pos dt kAttackRange
  split
  · exact stopAttack_poised h hu hattack
  · dsimp only
    split
    · have hhit : UnitsPoised told
          ((r.putUnit u.attackTarget (hitUnit target)).markDirty target.id) :=
        Table.AllAt.insert h ((hitUnit_same target).poised ht)
      exact hhit.commit id (hchase.rest kAttackCooldown)
    · exact h.commit id hchase

theorem attackBuilding_poised (h : UnitsPoised told r) (hu : Poised told u)
    (hattack : u.attackTarget ≠ 0) (target : Building F) (dt : F) :
    UnitsPoised told (r.attackBuilding id u target dt) := by
  unfold attackBuilding
  have hchase := chaser_poised hu hattack target.pos dt kBuildingAttackRange
  split
  · exact stopAttack_poised h hu hattack
  · dsimp only
    split
    · have hhit : UnitsPoised told ((r.putBuilding u.attackTarget
          (hitBuilding target)).markBuilding target.id) := h
      exact hhit.commit id (hchase.rest kAttackCooldown)
    · exact h.commit id hchase

theorem stepCombat_poised (h : UnitsPoised told r) (hu : Poised told u)
    (hattack : u.attackTarget ≠ 0) (dt : F) :
    UnitsPoised told (r.stepCombat id u dt) := by
  unfold stepCombat
  split
  · -- the way back is straight: an attacker has no path left
    rcases hu.mode.attack hattack with ⟨htask, hhas⟩
    refine h.commit id ⟨?_, fun _ => shown_moving rfl (Or.inl rfl)⟩
    exact inMode_of_free htask (hu.mode.free htask) (fun hne => absurd rfl hne)
      (fun hno => by cases hno) hu.mode.index
  · cases ht : r.units.lookup u.attackTarget with
    | some target => exact attackUnit_poised h hu hattack (h _ target ht) dt
    | none =>
        cases hb : r.buildings.lookup u.attackTarget with
        | some target => exact attackBuilding_poised h hu hattack target dt
        | none => exact stopAttack_poised h hu hattack

/-!
## Working
-/

/-- A worker at its field. -/
structure Harvesting (u : GameUnit F) : Prop where
  settled : Settled u
  task : u.task = WorkerTask.gathering
  gatherFieldId : u.gatherFieldId ≠ 0
  state : u.state = UnitState.working

omit [Scalar F] in
theorem works_of_task {task : WorkerTask} (htask : u.task = task)
    (hworks : task ≠ WorkerTask.none) : u.task ≠ WorkerTask.none := by
  rw [htask]
  exact hworks

theorem Harvesting.poised (told : Prop) (h : Harvesting u) : Poised told u := by
  refine ⟨inMode_of_task (works_of_task h.task (by decide)) h.settled.attackTarget
    h.settled.hasTarget h.settled.path (fun _ => h.gatherFieldId) ?_ ?_,
    fun _ => shown_working h.state (Or.inl h.task)⟩
  · intro htask
    rw [h.task] at htask
    cases htask
  · intro htask
    rw [h.task] at htask
    cases htask

theorem harvestLoop_harvesting (fuel : Nat) {u : GameUnit F} (h : Harvesting u)
    (amountLeft : UInt32) (wrapped : Bool) :
    Harvesting (harvestLoop fuel u amountLeft wrapped).1 := by
  induction fuel generalizing u amountLeft wrapped with
  | zero =>
      exact h
  | succ fuel ih =>
      simp only [harvestLoop]
      split
      · apply ih
        exact ⟨⟨h.settled.attackTarget, h.settled.hasTarget, h.settled.path⟩, h.task,
          h.gatherFieldId, h.state⟩
      · exact h

theorem workField_poised (h : UnitsPoised told r) (hu : InMode u)
    (htask : u.task = WorkerTask.gathering) (field : ResourceFieldEntity F) (dt : F) :
    UnitsPoised told (r.workField id u field dt) := by
  have hfaced := faceToward_same u field.pos
  have hsettled := hfaced.settled (hu.settled (works_of_task htask (by decide)))
  have hready : Harvesting
      { faceToward u field.pos with
        state := UnitState.working
        carriedRaw := field.raw
        workCd := u.workCd + dt } := by
    refine ⟨⟨hsettled.attackTarget, hsettled.hasTarget, hsettled.path⟩,
      hfaced.task.trans htask, ?_, rfl⟩
    change (faceToward u field.pos).gatherFieldId ≠ 0
    rw [hfaced.gatherFieldId]
    exact hu.gathering htask
  have hloop := harvestLoop_harvesting kVillagerCarryCapacity.toNat hready
    field.amountLeft false
  have hroom : forall left w, UnitsPoised told
      ((r.settleField u.gatherFieldId field left).noteWrap w) := by
    intro left w
    unfold UnitsPoised
    rw [noteWrap_units, settleField_units]
    exact h
  unfold workField
  dsimp only
  split
  · exact (hroom _ _).commit id (switchToPreparingReturn_poised told hloop.settled _)
  · split
    · exact (hroom _ _).commit id (switchToPreparingReturn_poised told hloop.settled _)
    · exact (hroom _ _).commit id (hloop.poised told)

theorem stepGather_poised (h : UnitsPoised told r) (hu : Poised told u)
    (htask : u.task = WorkerTask.gathering) (dt : F) :
    UnitsPoised told (r.stepGather id u dt) := by
  have hworks := works_of_task htask (by decide)
  have hsettled := hu.mode.settled hworks
  unfold stepGather
  split
  · split
    · exact h.commit id (switchToPreparingReturn_poised told hsettled _)
    · exact h.commit id (switchToPreparingReturn_poised told hsettled _)
  · split
    · split
      · exact h.commit id (switchToPreparingReturn_poised told hsettled _)
      · exact h.commit id (goIdle_poised told hsettled)
    · rename_i field _
      split
      · split
        · exact h.commit id (switchToPreparingReturn_poised told hsettled _)
        · exact h.commit id (goIdle_poised told hsettled)
      · have hsame : SameMode u
            (moveToward { u with target := field.pos }
              (offsetBy field.pos u.interactionOffset) (lit 0.15) dt).1 := by
          have hmoved := moveToward_same { u with target := field.pos }
            (offsetBy field.pos u.interactionOffset) (lit 0.15) dt
          exact ⟨hmoved.1, hmoved.2, hmoved.3, hmoved.4, hmoved.5, hmoved.6, hmoved.7,
            hmoved.8, hmoved.9, hmoved.10, hmoved.11⟩
        dsimp only
        split
        · exact h.commit id (poised_walkingWorker told (hsame.inMode hu.mode)
            (by rw [hsame.task]; exact hworks))
        · exact workField_poised h (hsame.inMode hu.mode) (hsame.task.trans htask) field dt

theorem stepPreparingReturn_poised (h : UnitsPoised told r) (hu : Poised told u)
    (htask : u.task = WorkerTask.preparingReturn) (dt : F) :
    UnitsPoised told (r.stepPreparingReturn id u dt) := by
  have hworks := works_of_task htask (by decide)
  have hfaced := faceToward_same u u.target
  have hsettled := hfaced.settled (hu.mode.settled hworks)
  have hlifted : Settled
      { faceToward u u.target with
        state := UnitState.working
        workCd := u.workCd - dt } :=
    ⟨hsettled.attackTarget, hsettled.hasTarget, hsettled.path⟩
  have htask' : (faceToward u u.target).task = WorkerTask.preparingReturn :=
    hfaced.task.trans htask
  unfold stepPreparingReturn
  dsimp only
  split
  · refine h.commit id ⟨inMode_of_task ?_ hlifted.attackTarget hlifted.hasTarget
      hlifted.path ?_ ?_ ?_, fun _ => shown_working rfl (Or.inr (Or.inl htask'))⟩
    · intro hnone
      exact hworks (hfaced.task.symm.trans hnone)
    · intro hother
      cases htask'.symm.trans hother
    · intro hother
      cases htask'.symm.trans hother
    · intro hother
      cases htask'.symm.trans hother
  · exact h.commit id (switchToReturn_poised told hlifted)

theorem resumeGathering_poised (told : Prop) (hu : Settled u) :
    Poised told (r.resumeGathering u) := by
  unfold resumeGathering
  split
  · rename_i hfield
    have htask : WorkerTask.gathering ≠ WorkerTask.none := by
      intro hnone
      cases hnone
    refine ⟨inMode_of_task htask hu.attackTarget hu.hasTarget hu.path
      (fun _ => hfield.left) ?_ ?_, fun _ => shown_moving rfl (Or.inr htask)⟩
    · intro hother
      cases hother
    · intro hother
      cases hother
  · exact goIdle_poised told hu

theorem carryTo_poised (h : UnitsPoised told r) (hu : InMode u)
    (htask : u.task = WorkerTask.returning) (camp : Building F) (dt : F) :
    UnitsPoised told (r.carryTo id u camp dt) := by
  have hworks := works_of_task htask (by decide)
  have hmove := moveToward_same u (offsetBy camp.pos u.interactionOffset) (lit 0.15) dt
  have hsettled := hmove.settled (hu.settled hworks)
  unfold carryTo
  dsimp only
  split
  · exact h.commit id (poised_walkingWorker told (hmove.inMode hu)
      (by rw [hmove.task]; exact hworks))
  · have hroom : UnitsPoised told (r.deposit (moveToward u
        (offsetBy camp.pos u.interactionOffset) (lit 0.15) dt).1) := by
      unfold deposit
      split
      · exact h
      · exact h
    exact hroom.commit id (resumeGathering_poised told
      ⟨hsettled.attackTarget, hsettled.hasTarget, hsettled.path⟩)

theorem stepReturn_poised (ω : IterOrder) (h : UnitsPoised told r) (hu : Poised told u)
    (htask : u.task = WorkerTask.returning) (dt : F) :
    UnitsPoised told (r.stepReturn ω id u dt) := by
  have hworks := works_of_task htask (by decide)
  have hsettled := hu.mode.settled hworks
  have hmode := hu.mode
  unfold stepReturn
  split
  · exact h.commit id (resumeGathering_poised told hsettled)
  · split
    · exact carryTo_poised h hmode htask _ dt
    · split
      · rename_i camp _
        refine carryTo_poised (u := { u with dropoffId := camp.id }) h ?_ htask camp dt
        exact ⟨hmode.attack, hmode.task, hmode.standing, hmode.index,
          fun hnone => absurd hnone hworks, hmode.gathering, hmode.pickup,
          hmode.constructing⟩
      · refine h.commit id ⟨?_, fun _ => shown_idle rfl hsettled.attackTarget⟩
        exact ⟨hmode.attack, hmode.task, hmode.standing, hmode.index, hmode.free,
          hmode.gathering, hmode.pickup, hmode.constructing⟩

theorem stepPickup_poised (h : UnitsPoised told r) (hu : Poised told u)
    (htask : u.task = WorkerTask.pickup) (dt : F) :
    UnitsPoised told (r.stepPickup id u dt) := by
  have hworks := works_of_task htask (by decide)
  have hsettled := hu.mode.settled hworks
  unfold stepPickup
  split
  · split
    · exact h.commit id (switchToReturn_poised told hsettled)
    · exact h.commit id (goIdle_poised told hsettled)
  · rename_i drop _
    have hmove := moveToward_same u (offsetBy drop.pos u.interactionOffset) (lit 0.15) dt
    have hthere := hmove.settled hsettled
    dsimp only
    split
    · exact h.commit id (poised_walkingWorker told (hmove.inMode hu.mode)
        (by rw [hmove.task]; exact hworks))
    · unfold takeDrop
      dsimp only
      refine UnitsPoised.commit ?_ id (switchToReturn_poised told
        ⟨hthere.attackTarget, hthere.hasTarget, hthere.path⟩)
      unfold UnitsPoised
      rw [noteWrap_units, settleDrop_units]
      exact h

theorem stepConstruct_poised (h : UnitsPoised told r) (hu : Poised told u)
    (htask : u.task = WorkerTask.constructing) (dt : F) :
    UnitsPoised told (r.stepConstruct id u dt) := by
  have hworks := works_of_task htask (by decide)
  have hsettled := hu.mode.settled hworks
  unfold stepConstruct
  split
  · exact h.commit id (goIdle_poised told hsettled)
  · rename_i b _
    split
    · exact h.commit id (goIdle_poised told hsettled)
    · have hmove := moveToward_same u b.pos kBuildRange dt
      have hmode := hmove.inMode hu.mode
      have hbuilt : UnitsPoised told ((r.putBuilding u.buildTargetId
          (buildProgress b dt)).markBuilding b.id) := h
      dsimp only
      split
      · exact h.commit id (poised_walkingWorker told hmode
          (by rw [hmove.task]; exact hworks))
      · split
        · refine hbuilt.commit id ⟨?_, fun _ => shown_working rfl
            (Or.inr (Or.inr (hmove.task.trans htask)))⟩
          exact ⟨hmode.attack, hmode.task, hmode.standing, hmode.index, hmode.free,
            hmode.gathering, hmode.pickup, hmode.constructing⟩
        · exact hbuilt.commit id (goIdle_poised told (hmove.settled hsettled))

/-!
## The step
-/

theorem coolDown_same (dt : F) (u : GameUnit F) : SameMode u (coolDown dt u) := by
  unfold coolDown
  split
  · exact ⟨rfl, rfl, rfl, rfl, rfl, rfl, rfl, rfl, rfl, rfl, rfl⟩
  · exact SameMode.refl u

theorem scanAggro_poised (ω : IterOrder) (h : UnitsPoised told r) (hu : Poised told u) :
    UnitsPoised told (r.scanAggro ω id u) := by
  unfold scanAggro
  split
  · exact h
  · split
    · rename_i htask
      split
      · rename_i hhas
        unfold acquireAutoTarget
        dsimp only
        split
        · rename_i htarget
          exact engageAuto_poised h hu.mode htask
            (by simpa using hhas) htarget
        · exact h
      · exact h
    · dsimp only
      split
      · rename_i hthreat
        have hroom : UnitsPoised told (r.dropCarried u).1 := by
          unfold dropCarried
          split
          · exact h
          · exact h
        have hmode : InMode { clearWorkerTask (r.dropCarried u).2 with hasTarget := false } :=
          inMode_of_free rfl ⟨rfl, rfl, rfl, rfl, rfl⟩ (fun _ => rfl) (fun _ => rfl)
            (fun hne => absurd rfl hne)
        exact engageAuto_poised hroom hmode rfl rfl hthreat
      · exact h

theorem act_poised (ω : IterOrder) (dt : F) (h : UnitsPoised told r)
    (hu : Poised told u) : UnitsPoised told (r.act ω dt id u) := by
  unfold act
  split
  · rename_i hattack
    exact stepCombat_poised h hu hattack dt
  · rename_i hattack
    cases htask : u.task with
    | gathering => exact stepGather_poised h hu htask dt
    | preparingReturn => exact stepPreparingReturn_poised h hu htask dt
    | returning => exact stepReturn_poised ω h hu htask dt
    | pickup => exact stepPickup_poised h hu htask dt
    | constructing => exact stepConstruct_poised h hu htask dt
    | none =>
        dsimp only
        split
        · rename_i hhas
          exact stepMove_poised h hu htask (Decidable.not_not.mp hattack) hhas dt
        · exact h

theorem withUnit_poised {k : DungeonRoom F -> Nat -> GameUnit F -> DungeonRoom F}
    (hk : forall r id u, UnitsPoised told r -> Poised told u -> UnitsPoised told (k r id u))
    (h : UnitsPoised told r) (id : Nat) : UnitsPoised told (r.withUnit id k) := by
  unfold withUnit
  split
  · exact h
  · rename_i u hu
    exact hk r id u h (h id u hu)

theorem stepUnit_poised (ω : IterOrder) (dt : F) (doAggro : Bool)
    (h : UnitsPoised told r) (id : Nat) :
    UnitsPoised told (stepUnit ω dt doAggro r id) := by
  unfold stepUnit
  split
  · exact h
  · rename_i u hu
    split
    · exact h
    · have hcool : UnitsPoised told (r.putUnit id (coolDown dt u)) :=
        Table.AllAt.insert h ((coolDown_same dt u).poised (h id u hu))
      have hscan : UnitsPoised told
          ((r.putUnit id (coolDown dt u)).withUnit id (scanAggro ω)) :=
        withUnit_poised (fun _ _ _ hr hv => scanAggro_poised ω hr hv) hcool id
      dsimp only
      refine withUnit_poised (fun _ _ _ hr hv => act_poised ω dt hr hv) ?_ id
      split
      · exact hscan
      · exact hcool

theorem foldl_poised {body : DungeonRoom F -> Nat -> DungeonRoom F}
    (hbody : forall r id, UnitsPoised told r -> UnitsPoised told (body r id))
    (ids : List Nat) (h : UnitsPoised told r) : UnitsPoised told (ids.foldl body r) := by
  induction ids generalizing r with
  | nil =>
      exact h
  | cons id rest ih =>
      exact ih (hbody r id h)

theorem stepBuilding_poised (dt : F) (h : UnitsPoised told r) (id : Nat) :
    UnitsPoised told (stepBuilding dt r id) := by
  unfold stepBuilding
  split
  · exact h
  · split
    · exact h
    · split
      · exact h
      · dsimp only
        split
        · exact Table.AllAt.insert h (trainedUnit_poised told _ _ _)
        · exact h

theorem removeDead_poised (ω : IterOrder) (h : UnitsPoised told r) :
    UnitsPoised told (removeDead ω r) := by
  unfold removeDead removeDeadBuildings removeDeadUnits
  apply foldl_poised
  · intro r id hr
    rcases removeDeadBuilding_cases r id with heq | ⟨_, _, _, heq⟩
    · rw [heq]
      exact hr
    · rw [heq]
      exact hr
  · apply foldl_poised _ _ h
    intro r id hr
    rcases removeDeadUnit_cases r id with heq | ⟨_, _, _, heq⟩
    · rw [heq]
      exact hr
    · rw [heq]
      exact Table.AllAt.erase hr id

theorem step_poised (ω : IterOrder) (dt : F) (h : UnitsPoised told r) :
    UnitsPoised told (r.step ω dt) := by
  unfold step stepAlive stepBuildings stepUnits
  apply removeDead_poised
  refine foldl_poised (fun r id hr => stepBuilding_poised dt hr id) _ ?_
  exact foldl_poised (fun r id hr => stepUnit_poised ω dt _ hr id) _ h

/-!
## Commands
-/

/-- An attack order names a target. -/
def Targeted (cmd : PendingCommand F) : Prop :=
  cmd.type = CommandType.attack -> cmd.targetEntity ≠ 0

theorem orderSelected_poised {order : Nat -> GameUnit F -> GameUnit F}
    (horder : forall index u, Poised told (order index u)) (ids : List Nat)
    (index : Nat) (h : UnitsPoised told r) :
    UnitsPoised told (orderSelected order index ids r) := by
  induction ids generalizing index r with
  | nil =>
      exact h
  | cons id rest ih =>
      unfold orderSelected
      split
      · exact ih (index + 1) h
      · exact ih (index + 1) (Table.AllAt.insert h (horder index _))

theorem orderEachOwned_poised {ownerUid : Nat}
    {order : DungeonRoom F -> Nat -> GameUnit F -> DungeonRoom F}
    (horder : forall r id u, UnitsPoised told r -> UnitsPoised told (order r id u))
    (ids : List Nat) (h : UnitsPoised told r) :
    UnitsPoised told (orderEachOwned ownerUid order ids r) := by
  induction ids generalizing r with
  | nil =>
      exact h
  | cons id rest ih =>
      unfold orderEachOwned
      split
      · exact ih h
      · split
        · exact ih h
        · exact ih (horder r id _ h)

theorem assignConstructors_poised (ownerUid : Nat) (unitIds : List Nat)
    {buildingId : Nat} (hbuilding : buildingId ≠ 0) (h : UnitsPoised told r) :
    UnitsPoised told (r.assignConstructors ownerUid unitIds buildingId) := by
  apply orderEachOwned_poised _ _ h
  intro r id u hr
  exact Table.AllAt.insert hr (constructOrder_poised told hbuilding u)

omit [Scalar F] in
theorem nonzero_of_mem (hproper : r.census.Proper) {k : EntityKind} {id : Nat}
    (hid : id ∈ r.entityKeys k) : id ≠ 0 :=
  Nat.ne_of_gt (hproper.bounds k id hid).left

theorem applyCommand_poised (hproper : r.census.Proper) (h : UnitsPoised told r)
    {cmd : PendingCommand F} (hcmd : told -> Targeted cmd) :
    UnitsPoised told (r.applyCommand cmd) := by
  unfold applyCommand
  cases htype : cmd.type with
  | move =>
      apply orderSelected_poised _ _ _ h
      intro index u
      exact moveOrder_poised told _ _ _ _ index u
  | stop =>
      apply orderEachOwned_poised _ _ h
      intro r id u hr
      have hroom : UnitsPoised told (r.dropCarried u).1 := by
        unfold dropCarried
        split
        · exact hr
        · exact hr
      exact Table.AllAt.insert hroom (stopOrder_poised told _)
  | attack =>
      apply orderEachOwned_poised _ _ h
      intro r id u hr
      split
      · exact hr
      · exact Table.AllAt.insert hr
          (attackOrder_poised (fun htold => hcmd htold htype) u)
  | harvest =>
      dsimp only
      unfold applyHarvest
      split
      · exact h
      · rename_i field hfield
        apply orderSelected_poised _ _ _ h
        intro index u
        have hmem : cmd.targetEntity ∈ r.entityKeys EntityKind.field :=
          Table.mem_of_lookup hfield
        exact harvestOrder_poised told _ (nonzero_of_mem hproper hmem) _ index u
  | store =>
      apply orderSelected_poised _ _ _ h
      intro index u
      exact storeOrder_poised told _ _ index u
  | pickup =>
      dsimp only
      unfold applyPickup
      split
      · exact h
      · rename_i drop hdrop
        apply orderSelected_poised _ _ _ h
        intro index u
        have hmem : cmd.targetEntity ∈ r.entityKeys EntityKind.drop :=
          Table.mem_of_lookup hdrop
        exact pickupOrder_poised told _ (nonzero_of_mem hproper hmem) index u
  | build =>
      dsimp only
      unfold applyBuild
      split
      · exact h
      · dsimp only
        split
        · exact h
        · split
          · exact h
          · refine assignConstructors_poised _ _ ?_ h
            exact Nat.ne_of_gt hproper.next
  | construct =>
      dsimp only
      unfold applyConstruct
      split
      · exact h
      · rename_i b hb
        split
        · exact h
        · have hmem : cmd.targetEntity ∈ r.entityKeys EntityKind.building :=
            Table.mem_of_lookup hb
          exact assignConstructors_poised _ _ (nonzero_of_mem hproper hmem) h
  | train =>
      dsimp only
      unfold applyTrain
      split
      · exact h
      · split
        · exact h
        · split
          · exact h
          · split
            · exact h
            · split
              · exact h
              · exact h

theorem applyCommands_poised {cmds : List (PendingCommand F)} {r : DungeonRoom F}
    (hr : Keyed r) (hproper : r.census.Proper) (h : UnitsPoised told r)
    (hcmds : told -> forall cmd, cmd ∈ cmds -> Targeted cmd) :
    UnitsPoised told (r.applyCommands cmds) := by
  induction cmds generalizing r with
  | nil =>
      exact h
  | cons cmd rest ih =>
      rcases applyCommand_effects hr (justified_any r cmd) with ⟨_, heff, _⟩
      refine ih (Effects.keyed hr heff) (Effects.later hr hproper heff).left ?_ ?_
      · exact applyCommand_poised hproper h
          (fun htold => hcmds htold cmd List.mem_cons_self)
      · intro htold later hmem
        exact hcmds htold later (List.mem_cons_of_mem cmd hmem)

/-!
## Calls
-/

theorem Effect.pending_subset
    {keep : DungeonRoom F -> GameUnit F -> GameUnit F -> Prop} {r s : DungeonRoom F}
    {out : List Nat} (heff : Effect keep r out s) : s.pending ⊆ r.pending := by
  cases heff with
  | harvest _ _ _ _ _ _ _ _ _ _ _ =>
      unfold settleField
      split
      · exact List.Subset.refl _
      · exact List.Subset.refl _
  | credit _ _ _ hres _ _ =>
      rw [deposit_eq hres]
      exact List.Subset.refl _
  | take _ _ _ _ _ _ _ _ =>
      unfold settleDrop
      split
      · exact List.Subset.refl _
      · exact List.Subset.refl _
  | forgetPending => exact List.nil_subset _
  | _ => exact List.Subset.refl _

theorem Effects.pending_subset
    {keep : DungeonRoom F -> GameUnit F -> GameUnit F -> Prop} {r s : DungeonRoom F}
    {out : List Nat} (heff : Effects keep r out s) : s.pending ⊆ r.pending :=
  heff.preserves (fun t => t.pending ⊆ r.pending)
    (fun _ _ _ hsub hmove => List.Subset.trans hmove.pending_subset hsub)
    (List.Subset.refl _)

/-- Reachable rooms in which the units, and the commands that wait, are in order. -/
structure InOrder (told : Prop) (r : DungeonRoom F) : Prop where
  reachable : Reachable r
  proper : r.census.Proper
  units : UnitsPoised told r
  pending : told -> forall cmd, cmd ∈ r.pending -> Targeted cmd

theorem InOrder.call (h : InOrder told r) {c : RoomCall F}
    (hc : told -> forall cmd, c = RoomCall.enqueueCommand cmd -> Targeted cmd) :
    InOrder told (r.call c) := by
  have hunits : UnitsPoised told (r.call c) ∧
      (told -> forall cmd, cmd ∈ (r.call c).pending -> Targeted cmd) := by
    cases c with
    | addPlayer uid =>
        cases hadd : r.addPlayer uid with
        | none =>
            simp only [DungeonRoom.call, hadd]
            exact ⟨h.units, h.pending⟩
        | some joined =>
            simp only [DungeonRoom.call, hadd, Option.map_some, Option.getD_some]
            rcases addPlayer_cases hadd with ⟨hjoined, _⟩ | ⟨_, _, _, hjoined⟩
            · rw [hjoined]
              exact ⟨h.units, h.pending⟩
            · rw [hjoined]
              exact ⟨h.units, h.pending⟩
    | setReady uid ready =>
        cases hready : r.setReady uid ready with
        | none =>
            simp only [DungeonRoom.call, hready]
            exact ⟨h.units, h.pending⟩
        | some s =>
            simp only [DungeonRoom.call, hready]
            rcases setReady_cases hready with ⟨_, _, rfl⟩
            exact ⟨h.units, h.pending⟩
    | spawnUnit ownerUid team unitType pos hp speed yaw =>
        exact ⟨Table.AllAt.insert h.units (newUnit_poised told _ _ _ _ _ _ _ _), h.pending⟩
    | enqueueCommand cmd =>
        refine ⟨h.units, ?_⟩
        intro htold waiting hmem
        rcases List.mem_append.mp hmem with hold | hnew
        · exact h.pending htold waiting hold
        · rw [List.mem_singleton.mp hnew]
          exact hc htold cmd rfl
    | applyPending =>
        refine ⟨?_, ?_⟩
        · exact applyCommands_poised h.reachable.keyed h.proper h.units h.pending
        · intro _ cmd hmem
          cases hmem
    | step ω dt =>
        rcases step_effects ω dt r with ⟨_, heff, _⟩
        refine ⟨step_poised ω dt h.units, ?_⟩
        intro htold cmd hmem
        exact h.pending htold cmd (Effects.pending_subset heff hmem)
    | _ => exact ⟨h.units, h.pending⟩
  exact ⟨h.reachable.call c, call_proper h.reachable.keyed h.proper c, hunits.left,
    hunits.right⟩

theorem calls_inOrder {calls : List (RoomCall F)} {r : DungeonRoom F}
    (h : InOrder told r)
    (hcalls : told -> forall cmd, RoomCall.enqueueCommand cmd ∈ calls -> Targeted cmd) :
    InOrder told (calls.foldl DungeonRoom.call r) := by
  induction calls generalizing r with
  | nil =>
      exact h
  | cons c rest ih =>
      apply ih
      · apply h.call
        rintro htold cmd rfl
        exact hcalls htold cmd List.mem_cons_self
      · intro htold cmd hmem
        exact hcalls htold cmd (List.mem_cons_of_mem c hmem)

theorem create_inOrder (told : Prop) (roomId : Nat) (roomName : String)
    (maxPlayers : Nat) :
    InOrder told (create roomId roomName maxPlayers : DungeonRoom F) := by
  refine ⟨Reachable.create _ _ _, create_proper _ _ _, Table.allAt_empty _, ?_⟩
  intro _ cmd hmem
  cases hmem

/-- After every sequence of calls each unit is in one mode. -/
theorem run_modes (roomId : Nat) (roomName : String) (maxPlayers : Nat)
    (calls : List (RoomCall F)) :
    (calls.foldl DungeonRoom.call (create roomId roomName maxPlayers)).units.AllAt
      fun _ u => InMode u := by
  have hall : InOrder False
      (calls.foldl DungeonRoom.call (create roomId roomName maxPlayers)) :=
    calls_inOrder (create_inOrder False roomId roomName maxPlayers)
      (fun hfalse => hfalse.elim)
  exact hall.units.mono fun _ _ hu => hu.mode

/--
After every sequence of calls in which the attack orders name targets, the state
that clients are shown is what the unit is doing.
-/
theorem run_shown (roomId : Nat) (roomName : String) (maxPlayers : Nat)
    (calls : List (RoomCall F))
    (hcalls : forall cmd, RoomCall.enqueueCommand cmd ∈ calls -> Targeted cmd) :
    (calls.foldl DungeonRoom.call (create roomId roomName maxPlayers)).units.AllAt
      fun _ u => Shown u := by
  have hall := calls_inOrder (create_inOrder True roomId roomName maxPlayers)
    (fun _ => hcalls)
  exact hall.units.mono fun _ _ hu => hu.shown trivial

/-- A villager that is told to attack. -/
def attackCalls (targetEntity : Nat) : List (RoomCall Rat) :=
  [RoomCall.spawnUnit 1 0 kUnitVillager ⟨0, 0, 0⟩ 100 6 0,
    RoomCall.spawnUnit 2 1 kUnitVillager ⟨5, 0, 0⟩ 100 6 0,
    RoomCall.enqueueCommand
      ⟨CommandType.attack, 1, 0, [1], ⟨0, 0, 0⟩, [], targetEntity, 0, 0⟩,
    RoomCall.applyPending]

theorem attackCalls_shown :
    ((attackCalls 2).foldl DungeonRoom.call (create 1 "neighbours" 2)).units.AllAt
      fun _ u => Shown u := by
  apply run_shown
  intro cmd hmem _
  simp only [attackCalls, List.mem_cons, reduceCtorEq, RoomCall.enqueueCommand.injEq,
    List.not_mem_nil, or_false, false_or] at hmem
  rw [hmem]
  decide

/-- An attack order without a target leaves the unit attacking nothing. -/
theorem attackNothing_not_shown :
    ¬ forall calls : List (RoomCall Rat),
      (calls.foldl DungeonRoom.call (create 1 "neighbours" 2)).units.AllAt
        fun _ u => Shown u := by
  intro h
  have hall := h (attackCalls 0)
  generalize hr : (attackCalls 0).foldl DungeonRoom.call (create 1 "neighbours" 2) = r
    at hall
  have hbad : (r.units.lookup 1).any
      (fun u => u.state = UnitState.attacking ∧ u.attackTarget = 0) = true := by
    rw [← hr]
    decide +kernel
  rcases (Option.any_eq_true _ _).mp hbad with ⟨u, hu, hfields⟩
  rcases of_decide_eq_true hfields with ⟨hstate, htarget⟩
  exact (hall 1 u hu).attacking hstate htarget

end DungeonRoom

end RtsGame
