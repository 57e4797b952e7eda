import RtsGame.Room.Reach

/-!
# Where a unit goes and what it works at

When a unit acts, its place, its task and its work clock change in few ways: it stays,
it takes a stride, it follows its path, it harvests, it gives up its task for another
one that is not gathering, or it goes back to gathering.  Bounds over whole runs are
proved from this list.
-/

namespace RtsGame

open Scalar

namespace DungeonRoom

variable {F : Type} [Scalar F]

/-- A stride in the direction of a difference. -/
def strideFrom (pos : Vec3f F) (dx dz stride : F) : Vec3f F :=
  ⟨pos.x + dx / sqrt (dx * dx + dz * dz) * stride, pos.y,
    pos.z + dz / sqrt (dx * dx + dz * dz) * stride⟩

/-- The unit is where it was, or a full stride away. -/
def Strides (dt : F) (w v : GameUnit F) : Prop :=
  v.pos = w.pos ∨
    (w.speed * dt > lit 0 ∧ exists dx dz, v.pos = strideFrom w.pos dx dz (w.speed * dt))

/-- A unit that begins to harvest. -/
structure Harvest (dt : F) (w ready : GameUnit F) : Prop where
  task : ready.task = w.task
  pos : ready.pos = w.pos
  workCd : ready.workCd = w.workCd + dt
  amount : ready.carriedAmount = w.carriedAmount

/-- What is left to do after the harvesting loop. -/
def harvested (ready : GameUnit F) (field : ResourceFieldEntity F) :
    GameUnit F × UInt32 × Bool :=
  harvestLoop kVillagerCarryCapacity.toNat ready field.amountLeft false

/-- Where a unit goes and what it works at when it acts. -/
inductive Doing (dt : F) (q : DungeonRoom F) (w v : GameUnit F) (q' : DungeonRoom F) :
    Prop where
  | goes : Strides dt w v -> v.task = w.task -> v.workCd = w.workCd ->
      q'.fields = q.fields -> Doing dt q w v q'
  | travels : w.task = WorkerTask.none -> w.hasTarget = true ->
      v = followPath (w.path.drop w.pathIndex) w (w.speed * dt) ->
      q'.fields = q.fields -> Doing dt q w v q'
  | harvests {field : ResourceFieldEntity F} {ready : GameUnit F} {left : UInt32} :
      w.task = WorkerTask.gathering -> q.fields.lookup w.gatherFieldId = some field ->
      field.amountLeft ≠ 0 -> Harvest dt w ready ->
      (harvested ready field).2.1 = left ->
      q'.fields = (q.settleField w.gatherFieldId field left).fields -> v.pos = w.pos ->
      (v.task = WorkerTask.preparingReturn ∨
        (v = (harvested ready field).1 ∧ ¬ (left = 0 ∧ v.carriedAmount > 0) ∧
          ¬ v.carriedAmount ≥ kVillagerCarryCapacity)) -> Doing dt q w v q'
  | leaves : v.pos = w.pos -> v.task ≠ WorkerTask.gathering ->
      (v.task = WorkerTask.returning -> v.workCd = lit 0) -> q'.fields = q.fields ->
      Doing dt q w v q'
  | resumes : w.task = WorkerTask.returning -> v.pos = w.pos ->
      v.task = WorkerTask.gathering -> v.workCd = w.workCd -> q'.fields = q.fields ->
      Doing dt q w v q'

/-!
## The pieces
-/

section Pieces

variable {dt : F} {q p : DungeonRoom F} {id : Nat} {w v : GameUnit F}

theorem Strides.refl (dt : F) (w : GameUnit F) : Strides dt w w := Or.inl rfl

theorem moveToward_strides (u : GameUnit F) (dest : Vec3f F) (arriveDist dt : F) :
    Strides dt u (moveToward u dest arriveDist dt).1 := by
  unfold moveToward
  dsimp only
  split
  · exact Or.inl rfl
  · split
    · rename_i hgoes
      exact Or.inr ⟨hgoes.left, _, _, rfl⟩
    · exact Or.inl rfl

theorem moveToward_clock (u : GameUnit F) (dest : Vec3f F) (arriveDist dt : F) :
    (moveToward u dest arriveDist dt).1.task = u.task ∧
      (moveToward u dest arriveDist dt).1.workCd = u.workCd := by
  unfold moveToward
  dsimp only
  split
  · exact ⟨rfl, rfl⟩
  · split
    · exact ⟨rfl, rfl⟩
    · exact ⟨rfl, rfl⟩

theorem chaseToward_strides (u : GameUnit F) (tpos : Vec3f F) (dt range : F) :
    Strides dt u (chaseToward u tpos dt range).1 := by
  unfold chaseToward
  dsimp only
  split
  · split
    · rename_i hgoes
      exact Or.inr ⟨hgoes, _, _, rfl⟩
    · split
      · exact Or.inl rfl
      · exact Or.inl rfl
  · split
    · exact Or.inl rfl
    · exact Or.inl rfl

theorem faceToward_eq (u : GameUnit F) (target : Vec3f F) :
    exists yaw, faceToward u target = { u with yaw := yaw } := by
  unfold faceToward
  dsimp only
  split
  · exact ⟨_, rfl⟩
  · exact ⟨u.yaw, rfl⟩

/-- The harvesting loop changes the load and the work clock only. -/
theorem harvestLoop_keeps (fuel : Nat) (u : GameUnit F) (amountLeft : UInt32)
    (wrapped : Bool) :
    exists carried workCd, (harvestLoop fuel u amountLeft wrapped).1 =
      { u with carriedAmount := carried, workCd := workCd } := by
  induction fuel generalizing u amountLeft wrapped with
  | zero => exact ⟨u.carriedAmount, u.workCd, rfl⟩
  | succ fuel ih =>
      unfold harvestLoop
      split
      · rcases ih _ _ _ with ⟨carried, workCd, heq⟩
        exact ⟨carried, workCd, heq⟩
      · exact ⟨u.carriedAmount, u.workCd, rfl⟩

omit [Scalar F] in
theorem lookup_commit (p : DungeonRoom F) (id : Nat) (v : GameUnit F) :
    (p.commit id v).units.lookup id = some v := by
  rw [commit_units, AList.lookup_insert]

/-- A unit that turns to walk home. -/
theorem turnsBack_deed (face : Vec3f F) :
    Doing dt q w (switchToPreparingReturn w face)
      (q.commit id (switchToPreparingReturn w face)) := by
  rcases faceToward_eq { w with
    task := WorkerTask.preparingReturn
    target := face
    hasTarget := false
    workCd := kCarryLiftDuration
    state := UnitState.working } face with ⟨yaw, heq⟩
  have hback : switchToPreparingReturn w face = _ := heq
  rw [hback]
  refine Doing.leaves rfl ?_ ?_ rfl
  · intro h
    cases h
  · intro h
    cases h

theorem quits_deed : Doing dt q w (goIdle w) (q.commit id (goIdle w)) := by
  refine Doing.leaves rfl ?_ ?_ rfl
  · intro h
    cases h
  · intro h
    cases h

theorem setsOff_deed (hpos : v.pos = w.pos) (hfields : p.fields = q.fields) :
    Doing dt q w (switchToReturn v) (p.commit id (switchToReturn v)) := by
  refine Doing.leaves hpos ?_ (fun _ => rfl) hfields
  intro h
  cases h

/-- A unit that walks on towards its place. -/
theorem walks_deed {u : GameUnit F} (hpos : u.pos = w.pos) (hspeed : u.speed = w.speed)
    (htask : u.task = w.task) (hclock : u.workCd = w.workCd) (dest : Vec3f F)
    (arriveDist : F) (state : UnitState) :
    Doing dt q w { (moveToward u dest arriveDist dt).1 with state := state }
      (q.commit id { (moveToward u dest arriveDist dt).1 with state := state }) := by
  have hkeeps := moveToward_clock u dest arriveDist dt
  refine Doing.goes ?_ (hkeeps.left.trans htask) (hkeeps.right.trans hclock) rfl
  have hstride := moveToward_strides u dest arriveDist dt
  unfold Strides at hstride ⊢
  rw [hpos, hspeed] at hstride
  exact hstride

end Pieces

/-!
## The action of a unit
-/

/-- The unit is as some deed has left it. -/
def Did (dt : F) (q : DungeonRoom F) (id : Nat) (w : GameUnit F) (q' : DungeonRoom F) :
    Prop :=
  exists v, q'.units.lookup id = some v ∧ Doing dt q w v q'

section Actions

variable {ω : IterOrder} {dt : F} {q p : DungeonRoom F} {id : Nat} {w v : GameUnit F}

theorem did_of (h : Doing dt q w v (p.commit id v)) :
    Did dt q id w (p.commit id v) :=
  ⟨v, lookup_commit p id v, h⟩

/-- Nothing that matters here is changed. -/
theorem keeps_did (hpos : v.pos = w.pos) (htask : v.task = w.task)
    (hclock : v.workCd = w.workCd) (hfields : p.fields = q.fields) :
    Did dt q id w (p.commit id v) :=
  did_of (Doing.goes (Or.inl hpos) htask hclock hfields)

theorem chases_did (tpos : Vec3f F) (range cd : F) (hfields : p.fields = q.fields) :
    Did dt q id w (p.commit id
      { (chaseToward { w with state := UnitState.attacking } tpos dt range).1 with
        attackCd := cd }) := by
  have hstride := chaseToward_strides { w with state := UnitState.attacking } tpos dt range
  have hsame : exists pos yaw, (chaseToward { w with state := UnitState.attacking } tpos dt
      range).1 = { w with state := UnitState.attacking, pos := pos, yaw := yaw } :=
    chaseToward_eq { w with state := UnitState.attacking } tpos range
  rcases hsame with ⟨pos, yaw, heq⟩
  rw [heq] at hstride ⊢
  exact did_of (Doing.goes hstride rfl rfl hfields)

theorem stepCombat_did : Did dt q id w (q.stepCombat id w dt) := by
  have hstop : Did dt q id w (q.stopAttack id w) := keeps_did rfl rfl rfl rfl
  unfold stepCombat
  split
  · exact keeps_did rfl rfl rfl rfl
  · split
    · unfold attackUnit
      split
      · exact hstop
      · dsimp only
        split
        · exact chases_did _ _ _ rfl
        · exact chases_did _ _ _ rfl
    · split
      · unfold attackBuilding
        split
        · exact hstop
        · dsimp only
          split
          · exact chases_did _ _ _ rfl
          · exact chases_did _ _ _ rfl
      · exact hstop

theorem workField_did {field : ResourceFieldEntity F}
    (htask : w.task = WorkerTask.gathering)
    (hfield : q.fields.lookup w.gatherFieldId = some field)
    (hleft : field.amountLeft ≠ 0) (target : Vec3f F) :
    Did dt q id w (q.workField id { w with target := target } field dt) := by
  rcases faceToward_eq { w with target := target } field.pos with ⟨yaw, hface⟩
  unfold workField
  rw [hface]
  dsimp only
  have hready : Harvest dt w
      { w with
        target := target
        yaw := yaw
        state := UnitState.working
        carriedRaw := field.raw
        workCd := w.workCd + dt } := ⟨rfl, rfl, rfl, rfl⟩
  have hloop : (harvestLoop kVillagerCarryCapacity.toNat
      { w with
        target := target
        yaw := yaw
        state := UnitState.working
        carriedRaw := field.raw
        workCd := w.workCd + dt } field.amountLeft false).1.pos = w.pos := by
    rcases harvestLoop_keeps kVillagerCarryCapacity.toNat
      { w with
        target := target
        yaw := yaw
        state := UnitState.working
        carriedRaw := field.raw
        workCd := w.workCd + dt } field.amountLeft false with ⟨_, _, heq⟩
    rw [heq]
  have hback : forall u : GameUnit F, u.pos = w.pos ->
      (switchToPreparingReturn u field.pos).pos = w.pos ∧
        (switchToPreparingReturn u field.pos).task = WorkerTask.preparingReturn := by
    intro u hu
    rcases faceToward_eq { u with
      task := WorkerTask.preparingReturn
      target := field.pos
      hasTarget := false
      workCd := kCarryLiftDuration
      state := UnitState.working } field.pos with ⟨turned, heq⟩
    have hswitch : switchToPreparingReturn u field.pos = _ := heq
    rw [hswitch]
    exact ⟨hu, rfl⟩
  have hfields : forall left wraps (v : GameUnit F),
      (((q.settleField w.gatherFieldId field left).noteWrap wraps).commit id v).fields =
        (q.settleField w.gatherFieldId field left).fields := by
    intro left wraps v
    rw [commit_fields, noteWrap_fields]
  split
  · exact did_of (Doing.harvests htask hfield hleft hready rfl (hfields _ _ _) (hback _ hloop).left
      (Or.inl (hback _ hloop).right))
  · rename_i hempty
    split
    · exact did_of (Doing.harvests htask hfield hleft hready rfl (hfields _ _ _) (hback _ hloop).left
        (Or.inl (hback _ hloop).right))
    · rename_i hroom
      exact did_of (Doing.harvests htask hfield hleft hready rfl (hfields _ _ _) hloop
        (Or.inr ⟨rfl, hempty, hroom⟩))

theorem stepGather_did (htask : w.task = WorkerTask.gathering) :
    Did dt q id w (q.stepGather id w dt) := by
  unfold stepGather
  split
  · split
    · exact did_of (turnsBack_deed _)
    · exact did_of (turnsBack_deed _)
  · split
    · split
      · exact did_of (turnsBack_deed _)
      · exact did_of quits_deed
    · rename_i field hfield
      split
      · split
        · exact did_of (turnsBack_deed _)
        · exact did_of quits_deed
      · rename_i hleft
        dsimp only
        split
        · exact did_of (walks_deed (w := w) (u := { w with target := field.pos }) rfl rfl rfl
            rfl _ _ _)
        · rename_i hthere
          rw [Bool.not_eq_true, Bool.not_eq_false'] at hthere
          rw [moveToward_arrived hthere]
          exact workField_did htask hfield hleft field.pos

theorem stepPreparingReturn_did (htask : w.task = WorkerTask.preparingReturn) :
    Did dt q id w (q.stepPreparingReturn id w dt) := by
  rcases faceToward_eq w w.target with ⟨yaw, hface⟩
  unfold stepPreparingReturn
  rw [hface]
  dsimp only
  split
  · refine did_of (Doing.leaves rfl ?_ ?_ rfl)
    · intro h
      cases htask.symm.trans h
    · intro h
      cases htask.symm.trans h
  · exact did_of (setsOff_deed rfl rfl)

/-- After a delivery the worker resumes gathering, or is done. -/
theorem resumes_did {u : GameUnit F} (htask : w.task = WorkerTask.returning)
    (hpos : u.pos = w.pos) (hclock : u.workCd = w.workCd) (hfields : p.fields = q.fields) :
    Did dt q id w (p.commit id (q.resumeGathering u)) := by
  unfold resumeGathering
  split
  · exact did_of (Doing.resumes htask hpos rfl hclock hfields)
  · refine did_of (Doing.leaves hpos ?_ ?_ hfields)
    · intro h
      cases h
    · intro h
      cases h

theorem carryTo_did {u : GameUnit F} (htask : w.task = WorkerTask.returning)
    (hpos : u.pos = w.pos) (hspeed : u.speed = w.speed) (hkept : u.task = w.task)
    (hclock : u.workCd = w.workCd) (camp : Building F) :
    Did dt q id w (q.carryTo id u camp dt) := by
  unfold carryTo
  dsimp only
  split
  · exact did_of (walks_deed hpos hspeed hkept hclock _ _ _)
  · rename_i hthere
    rw [Bool.not_eq_true, Bool.not_eq_false'] at hthere
    rw [moveToward_arrived hthere]
    exact resumes_did htask hpos hclock (deposit_frame q u).right.right.left

theorem stepReturn_did (ω : IterOrder) (htask : w.task = WorkerTask.returning) :
    Did dt q id w (q.stepReturn ω id w dt) := by
  unfold stepReturn
  split
  · exact resumes_did htask rfl rfl rfl
  · split
    · exact carryTo_did htask rfl rfl rfl rfl _
    · split
      · rename_i camp _
        exact carryTo_did (w := w) (u := { w with dropoffId := camp.id }) htask rfl rfl rfl rfl _
      · exact keeps_did rfl rfl rfl rfl

theorem stepPickup_did : Did dt q id w (q.stepPickup id w dt) := by
  unfold stepPickup
  split
  · split
    · exact did_of (setsOff_deed rfl rfl)
    · exact did_of quits_deed
  · rename_i drop _
    dsimp only
    split
    · exact did_of (walks_deed rfl rfl rfl rfl _ _ _)
    · rename_i hthere
      rw [Bool.not_eq_true, Bool.not_eq_false'] at hthere
      rw [moveToward_arrived hthere]
      unfold takeDrop
      refine did_of (setsOff_deed rfl ?_)
      rw [noteWrap_fields]
      exact (settleDrop_frame q _ _ _).right.left

theorem stepConstruct_did : Did dt q id w (q.stepConstruct id w dt) := by
  unfold stepConstruct
  split
  · exact did_of quits_deed
  · split
    · exact did_of quits_deed
    · dsimp only
      split
      · exact did_of (walks_deed rfl rfl rfl rfl _ _ _)
      · rename_i hthere
        rw [Bool.not_eq_true, Bool.not_eq_false'] at hthere
        rw [moveToward_arrived hthere]
        split
        · exact keeps_did rfl rfl rfl rfl
        · refine did_of (Doing.leaves rfl ?_ ?_ rfl)
          · intro h
            cases h
          · intro h
            cases h

/-- Whatever a unit does is a deed. -/
theorem act_did (ω : IterOrder) (dt : F) (hw : q.units.lookup id = some w) :
    Did dt q id w (act ω dt q id w) := by
  unfold act
  split
  · exact stepCombat_did
  · split
    · rename_i htask
      exact stepGather_did htask
    · rename_i htask
      exact stepPreparingReturn_did htask
    · rename_i htask
      exact stepReturn_did ω htask
    · exact stepPickup_did
    · exact stepConstruct_did
    · rename_i htask
      split
      · rename_i htarget
        exact did_of (Doing.travels htask htarget rfl rfl)
      · exact ⟨w, hw, Doing.goes (Strides.refl dt w) rfl rfl rfl⟩

end Actions

end DungeonRoom

end RtsGame
