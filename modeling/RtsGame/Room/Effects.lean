import RtsGame.Library.Runs
import RtsGame.Room.Simulation

/-!
# What a room can do

Every command and every part of the simulation step changes a room by a
sequence of elementary effects: a unit is redirected, a load is dropped, a
field is harvested, a ledger is credited, an enemy is hit, and so on.  An
effect lists everything it changes and the conditions under which the code
performs it, so that an invariant of the room is checked effect by effect and
not branch by branch.
-/

namespace RtsGame

open Scalar

namespace DungeonRoom

variable {F : Type}

/-!
## Relations between a unit before and after
-/

/-- Identity, owner, team, type and hit points are kept. -/
structure SameBody (u v : GameUnit F) : Prop where
  id : v.id = u.id
  ownerUid : v.ownerUid = u.ownerUid
  team : v.team = u.team
  unitType : v.unitType = u.unitType
  hp : v.hp = u.hp

/-- The load and its type are kept. -/
structure SameLoad (u v : GameUnit F) : Prop where
  amount : v.carriedAmount = u.carriedAmount
  raw : v.carriedRaw = u.carriedRaw

/-- The task and the field or drop it is about are kept. -/
structure SameJob (u v : GameUnit F) : Prop where
  task : v.task = u.task
  gatherFieldId : v.gatherFieldId = u.gatherFieldId
  pickupDropId : v.pickupDropId = u.pickupDropId

/-- Only position, heading and the like may differ. -/
structure Steered (u v : GameUnit F) : Prop where
  body : SameBody u v
  load : SameLoad u v
  job : SameJob u v

/--
What the simulation may do to a unit's job: it never starts a gathering job
except with an empty backpack, and never starts a pickup job.
-/
structure KeepsJob (u v : GameUnit F) : Prop where
  gathering : v.task = WorkerTask.gathering ->
    v.carriedAmount = 0 ∨
      (u.task = WorkerTask.gathering ∧ v.gatherFieldId = u.gatherFieldId)
  pickup : v.task = WorkerTask.pickup ->
    u.task = WorkerTask.pickup ∧ v.pickupDropId = u.pickupDropId

theorem SameBody.refl (u : GameUnit F) : SameBody u u :=
  ⟨rfl, rfl, rfl, rfl, rfl⟩

theorem SameBody.trans {u v w : GameUnit F} (huv : SameBody u v)
    (hvw : SameBody v w) : SameBody u w :=
  ⟨hvw.id.trans huv.id, hvw.ownerUid.trans huv.ownerUid,
    hvw.team.trans huv.team, hvw.unitType.trans huv.unitType,
    hvw.hp.trans huv.hp⟩

theorem SameLoad.refl (u : GameUnit F) : SameLoad u u := ⟨rfl, rfl⟩

theorem SameLoad.trans {u v w : GameUnit F} (huv : SameLoad u v)
    (hvw : SameLoad v w) : SameLoad u w :=
  ⟨hvw.amount.trans huv.amount, hvw.raw.trans huv.raw⟩

theorem SameJob.refl (u : GameUnit F) : SameJob u u := ⟨rfl, rfl, rfl⟩

theorem SameJob.trans {u v w : GameUnit F} (huv : SameJob u v)
    (hvw : SameJob v w) : SameJob u w :=
  ⟨hvw.task.trans huv.task, hvw.gatherFieldId.trans huv.gatherFieldId,
    hvw.pickupDropId.trans huv.pickupDropId⟩

theorem Steered.refl (u : GameUnit F) : Steered u u :=
  ⟨SameBody.refl u, SameLoad.refl u, SameJob.refl u⟩

theorem Steered.trans {u v w : GameUnit F} (huv : Steered u v)
    (hvw : Steered v w) : Steered u w :=
  ⟨huv.body.trans hvw.body, huv.load.trans hvw.load, huv.job.trans hvw.job⟩

/-- The same with the later step first, so that its endpoints are known. -/
theorem Steered.after {u v w : GameUnit F} (hvw : Steered v w)
    (huv : Steered u v) : Steered u w :=
  huv.trans hvw

theorem KeepsJob.of_idle {u v : GameUnit F} (h : v.task = WorkerTask.none) :
    KeepsJob u v := by
  constructor
  · intro hv
    rw [h] at hv
    cases hv
  · intro hv
    rw [h] at hv
    cases hv

theorem KeepsJob.of_same {u v : GameUnit F} (h : SameJob u v) :
    KeepsJob u v := by
  constructor
  · intro hv
    exact Or.inr ⟨h.task.symm.trans hv, h.gatherFieldId⟩
  · intro hv
    exact ⟨h.task.symm.trans hv, h.pickupDropId⟩

theorem KeepsJob.of_returning {u v : GameUnit F}
    (h : v.task = WorkerTask.preparingReturn ∨ v.task = WorkerTask.returning) :
    KeepsJob u v := by
  constructor
  · intro hv
    rcases h with h | h <;> rw [h] at hv <;> cases hv
  · intro hv
    rcases h with h | h <;> rw [h] at hv <;> cases hv

/-!
## Identity of entities

Every entity is stored under its own id, and all ids lie below the counter.
-/

structure Keyed (r : DungeonRoom F) : Prop where
  units : r.units.AllAt fun id u => u.id = id ∧ id < r.nextEntityId
  buildings : r.buildings.AllAt fun id b => b.id = id ∧ id < r.nextEntityId
  fields : r.fields.AllAt fun id f => f.id = id ∧ id < r.nextEntityId
  drops : r.drops.AllAt fun id d => d.id = id ∧ id < r.nextEntityId

theorem Keyed.unit_id {r : DungeonRoom F} (h : Keyed r) {id : Nat}
    {u : GameUnit F} (hu : r.units.lookup id = some u) : u.id = id :=
  (h.units id u hu).left

theorem Keyed.unit_lt {r : DungeonRoom F} (h : Keyed r) {id : Nat}
    {u : GameUnit F} (hu : r.units.lookup id = some u) :
    id < r.nextEntityId :=
  (h.units id u hu).right

theorem Keyed.units_fresh {r : DungeonRoom F} (h : Keyed r) :
    r.units.lookup r.nextEntityId = none := by
  cases hu : r.units.lookup r.nextEntityId with
  | none => rfl
  | some u =>
      have hlt := h.unit_lt hu
      lia

theorem Keyed.buildings_fresh {r : DungeonRoom F} (h : Keyed r) :
    r.buildings.lookup r.nextEntityId = none := by
  cases hb : r.buildings.lookup r.nextEntityId with
  | none => rfl
  | some b =>
      have hlt := (h.buildings _ b hb).right
      lia

theorem Keyed.fields_fresh {r : DungeonRoom F} (h : Keyed r) {n : Nat}
    (hn : r.nextEntityId ≤ n) : r.fields.lookup n = none := by
  cases hf : r.fields.lookup n with
  | none => rfl
  | some f =>
      have hlt := (h.fields _ f hf).right
      lia

theorem Keyed.drops_fresh {r : DungeonRoom F} (h : Keyed r) :
    r.drops.lookup r.nextEntityId = none := by
  cases hd : r.drops.lookup r.nextEntityId with
  | none => rfl
  | some d =>
      have hlt := (h.drops _ d hd).right
      lia

/-- Raising the counter keeps the entities keyed. -/
theorem Keyed.lift {r : DungeonRoom F} (h : Keyed r) {n : Nat}
    (hn : r.nextEntityId ≤ n) :
    (r.units.AllAt fun id u => u.id = id ∧ id < n) ∧
      (r.buildings.AllAt fun id b => b.id = id ∧ id < n) ∧
      (r.fields.AllAt fun id f => f.id = id ∧ id < n) ∧
      (r.drops.AllAt fun id d => d.id = id ∧ id < n) := by
  refine ⟨h.units.mono ?_, h.buildings.mono ?_, h.fields.mono ?_,
    h.drops.mono ?_⟩ <;>
  · rintro id _ ⟨hid, hlt⟩
    exact ⟨hid, by lia⟩

theorem Keyed.putUnit {r : DungeonRoom F} (h : Keyed r) {id : Nat}
    {u v : GameUnit F} (hu : r.units.lookup id = some u) (hid : v.id = u.id) :
    Keyed (r.putUnit id v) :=
  ⟨h.units.insert ⟨hid.trans (h.unit_id hu), h.unit_lt hu⟩, h.buildings,
    h.fields, h.drops⟩

theorem Keyed.putBuilding {r : DungeonRoom F} (h : Keyed r) {id : Nat}
    {b c : Building F} (hb : r.buildings.lookup id = some b)
    (hid : c.id = b.id) : Keyed (r.putBuilding id c) :=
  ⟨h.units,
    h.buildings.insert
      ⟨hid.trans (h.buildings id b hb).left, (h.buildings id b hb).right⟩,
    h.fields, h.drops⟩

/-!
## The parts of a room that the helpers leave alone
-/

@[simp] theorem commit_units (r : DungeonRoom F) (id : Nat) (u : GameUnit F) :
    (r.commit id u).units = r.units.insert id u := rfl

@[simp] theorem commit_buildings (r : DungeonRoom F) (id : Nat)
    (u : GameUnit F) : (r.commit id u).buildings = r.buildings := rfl

@[simp] theorem commit_fields (r : DungeonRoom F) (id : Nat)
    (u : GameUnit F) : (r.commit id u).fields = r.fields := rfl

@[simp] theorem commit_drops (r : DungeonRoom F) (id : Nat)
    (u : GameUnit F) : (r.commit id u).drops = r.drops := rfl

@[simp] theorem commit_playerRes (r : DungeonRoom F) (id : Nat)
    (u : GameUnit F) : (r.commit id u).playerRes = r.playerRes := rfl

@[simp] theorem commit_players (r : DungeonRoom F) (id : Nat)
    (u : GameUnit F) : (r.commit id u).players = r.players := rfl

@[simp] theorem commit_nextEntityId (r : DungeonRoom F) (id : Nat)
    (u : GameUnit F) : (r.commit id u).nextEntityId = r.nextEntityId := rfl

@[simp] theorem noteWrap_units (r : DungeonRoom F) (w : Bool) :
    (r.noteWrap w).units = r.units := rfl

@[simp] theorem noteWrap_buildings (r : DungeonRoom F) (w : Bool) :
    (r.noteWrap w).buildings = r.buildings := rfl

@[simp] theorem noteWrap_fields (r : DungeonRoom F) (w : Bool) :
    (r.noteWrap w).fields = r.fields := rfl

@[simp] theorem noteWrap_drops (r : DungeonRoom F) (w : Bool) :
    (r.noteWrap w).drops = r.drops := rfl

@[simp] theorem noteWrap_playerRes (r : DungeonRoom F) (w : Bool) :
    (r.noteWrap w).playerRes = r.playerRes := rfl

@[simp] theorem noteWrap_players (r : DungeonRoom F) (w : Bool) :
    (r.noteWrap w).players = r.players := rfl

@[simp] theorem noteWrap_nextEntityId (r : DungeonRoom F) (w : Bool) :
    (r.noteWrap w).nextEntityId = r.nextEntityId := rfl

@[simp] theorem settleField_units (r : DungeonRoom F) (fieldId : Nat)
    (field : ResourceFieldEntity F) (left : UInt32) :
    (r.settleField fieldId field left).units = r.units := by
  unfold settleField
  split <;> rfl

@[simp] theorem settleDrop_units (r : DungeonRoom F) (dropId : Nat)
    (drop : ResourceDropEntity F) (amount : UInt32) :
    (r.settleDrop dropId drop amount).units = r.units := by
  unfold settleDrop
  split <;> rfl

theorem Keyed.settleField {r : DungeonRoom F} (h : Keyed r) {fieldId : Nat}
    {field : ResourceFieldEntity F} (left : UInt32)
    (hf : r.fields.lookup fieldId = some field) :
    Keyed (r.settleField fieldId field left) := by
  unfold DungeonRoom.settleField
  split
  · exact ⟨h.units, h.buildings, h.fields.erase fieldId, h.drops⟩
  · exact ⟨h.units, h.buildings, h.fields.insert (h.fields fieldId field hf),
      h.drops⟩

theorem Keyed.settleDrop {r : DungeonRoom F} (h : Keyed r) {dropId : Nat}
    {drop : ResourceDropEntity F} (amount : UInt32)
    (hd : r.drops.lookup dropId = some drop) :
    Keyed (r.settleDrop dropId drop amount) := by
  unfold DungeonRoom.settleDrop
  split
  · exact ⟨h.units, h.buildings, h.fields, h.drops.erase dropId⟩
  · exact ⟨h.units, h.buildings, h.fields, h.drops.insert (h.drops dropId drop hd)⟩

/-- A deposit into an existing ledger, written out. -/
theorem deposit_eq {r : DungeonRoom F} {u : GameUnit F} {res : PlayerRes}
    (h : r.playerRes.lookup u.ownerUid = some res) :
    r.deposit u =
      ({ r with
          playerRes := r.playerRes.insert u.ownerUid
            (res.add (rawToResourceType u.carriedRaw) u.carriedAmount) }.noteWrap
        (res.addingWraps (rawToResourceType u.carriedRaw)
          u.carriedAmount)).markResource u.ownerUid := by
  unfold DungeonRoom.deposit
  rw [h]

/-!
## Effects
-/

variable [Scalar F]

/-- The sum of the three components of a cost. -/
def costTotal (c : ResCost) : Nat := c.food.toNat + c.wood.toNat + c.gold.toNat

/--
One elementary change of a room.  The list holds the resources that leave the
room: the price of a purchase or the load of a unit that is removed.  The
parameter restricts how an effect may redirect a unit.
-/
inductive Effect (keep : DungeonRoom F -> GameUnit F -> GameUnit F -> Prop) :
    DungeonRoom F -> List Nat -> DungeonRoom F -> Prop where
  | cool {r : DungeonRoom F} {id : Nat} {u : GameUnit F} (cd : F) :
      r.units.lookup id = some u ->
      Effect keep r [] (r.putUnit id { u with attackCd := cd })
  | redirect {r : DungeonRoom F} {id : Nat} {u v : GameUnit F} :
      r.units.lookup id = some u -> SameBody u v -> SameLoad u v -> keep r u v ->
      Effect keep r [] (r.commit id v)
  | dropLoad {r : DungeonRoom F} {id : Nat} {u v : GameUnit F} :
      r.units.lookup id = some u -> SameBody u v -> keep r u v ->
      0 < u.carriedAmount -> v.carriedAmount = 0 ->
      v.carriedRaw = u.carriedRaw ->
      Effect keep r []
        ((r.spawnResourceDrop u.carriedRaw u.pos u.carriedAmount).commit id v)
  | harvest {r : DungeonRoom F} {id fieldId : Nat} {u v : GameUnit F}
      {field : ResourceFieldEntity F} {left : UInt32} :
      r.units.lookup id = some u -> SameBody u v -> keep r u v ->
      u.task = WorkerTask.gathering -> u.gatherFieldId = fieldId ->
      u.carriedAmount < kVillagerCarryCapacity ->
      r.fields.lookup fieldId = some field ->
      v.carriedRaw = field.raw -> v.carriedAmount.toNat ≤ 10 ->
      left.toNat ≤ field.amountLeft.toNat ->
      v.carriedAmount.toNat + left.toNat =
        u.carriedAmount.toNat + field.amountLeft.toNat ->
      Effect keep r []
        ((r.settleField fieldId field left).commit id v)
  | credit {r : DungeonRoom F} {id : Nat} {u v : GameUnit F}
      {res : PlayerRes} :
      r.units.lookup id = some u -> SameBody u v -> keep r u v ->
      r.playerRes.lookup u.ownerUid = some res ->
      v.carriedAmount = 0 -> v.carriedRaw = u.carriedRaw ->
      Effect keep r [] ((r.deposit u).commit id v)
  | forfeit {r : DungeonRoom F} {id : Nat} {u v : GameUnit F} :
      r.units.lookup id = some u -> SameBody u v -> keep r u v ->
      r.playerRes.lookup u.ownerUid = none ->
      v.carriedAmount = 0 -> v.carriedRaw = u.carriedRaw ->
      Effect keep r [] (r.commit id v)
  | take {r : DungeonRoom F} {id dropId : Nat} {u v : GameUnit F}
      {drop : ResourceDropEntity F} :
      r.units.lookup id = some u -> SameBody u v -> keep r u v ->
      u.task = WorkerTask.pickup -> u.pickupDropId = dropId ->
      r.drops.lookup dropId = some drop ->
      v.carriedRaw = drop.raw ->
      v.carriedAmount = u.carriedAmount + takeAmount u drop ->
      Effect keep r []
        (((r.settleDrop dropId drop (drop.amount - takeAmount u drop)).noteWrap
          (takeWraps u drop)).commit id v)
  | strikeUnit {r : DungeonRoom F} {id targetId : Nat}
      {u v target : GameUnit F} :
      r.units.lookup id = some u -> SameBody u v -> SameLoad u v -> keep r u v ->
      r.units.lookup targetId = some target -> target.team ≠ u.team ->
      ¬ target.hp ≤ lit 0 ->
      Effect keep r []
        (((r.putUnit targetId (hitUnit target)).markDirty target.id).commit id v)
  | strikeBuilding {r : DungeonRoom F} {id targetId : Nat} {u v : GameUnit F}
      {target : Building F} :
      r.units.lookup id = some u -> SameBody u v -> SameLoad u v -> keep r u v ->
      r.buildings.lookup targetId = some target -> target.team ≠ u.team ->
      ¬ target.hp ≤ lit 0 ->
      Effect keep r []
        (((r.putBuilding targetId (hitBuilding target)).markBuilding
          target.id).commit id v)
  | construct {r : DungeonRoom F} {id buildingId : Nat} {u v : GameUnit F}
      {b : Building F} (dt : F) :
      r.units.lookup id = some u -> SameBody u v -> SameLoad u v -> keep r u v ->
      r.buildings.lookup buildingId = some b -> b.underConstruction = true ->
      Effect keep r []
        (((r.putBuilding buildingId (buildProgress b dt)).markBuilding
          b.id).commit id v)
  | train {r : DungeonRoom F} {id : Nat} {b : Building F}
      (queue : List (TrainItem F)) :
      r.buildings.lookup id = some b ->
      Effect keep r []
        ((r.putBuilding id { b with trainQueue := queue }).markBuilding b.id)
  | graduate {r : DungeonRoom F} {id : Nat} {b : Building F} (unitType : Nat)
      (queue : List (TrainItem F)) :
      r.buildings.lookup id = some b ->
      Effect keep r []
        (((r.spawnTrained b unitType).putBuilding id
          { b with trainQueue := queue }).markBuilding b.id)
  | buyBuilding {r : DungeonRoom F} {uid : Nat} {res : PlayerRes}
      (buildingType : Nat) (pos : Vec3f F) (yaw : F) :
      r.playerRes.lookup uid = some res ->
      buildingType ≠ kBuildingCrystal ->
      res.canAfford (buildingCost buildingType) = true ->
      Effect keep r [costTotal (buildingCost buildingType)]
        ((r.payFrom uid res (buildingCost buildingType)).spawnBuilding uid
          (r.teamOf uid) buildingType pos yaw true)
  | buyTraining {r : DungeonRoom F} {uid id : Nat} {res : PlayerRes}
      {b : Building F} (cost : ResCost) (queue : List (TrainItem F)) :
      r.playerRes.lookup uid = some res ->
      r.buildings.lookup id = some b -> res.canAfford cost = true ->
      Effect keep r [costTotal cost]
        (((r.payFrom uid res cost).putBuilding id
          { b with trainQueue := queue }).markBuilding b.id)
  | refuse {r : DungeonRoom F} (cmd : PendingCommand F) (code : RejectCode) :
      Effect keep r [] (r.reject cmd code)
  | buryUnit {r : DungeonRoom F} {id : Nat} {u : GameUnit F} :
      r.units.lookup id = some u -> u.hp ≤ lit 0 ->
      Effect keep r [u.carriedAmount.toNat]
        { r with
          despawned := r.despawned ++ [id]
          units := r.units.erase id }
  | buryBuilding {r : DungeonRoom F} {id : Nat} {b : Building F} :
      r.buildings.lookup id = some b -> b.hp ≤ lit 0 ->
      Effect keep r []
        { r with
          buildingDespawned := r.buildingDespawned ++ [id]
          buildings := r.buildings.erase id }
  | scanTick {r : DungeonRoom F} (n : Nat) :
      Effect keep r [] { r with aggroScanTick := n }
  | forgetPending {r : DungeonRoom F} :
      Effect keep r [] { r with pending := [] }

/-- A sequence of effects, with everything that leaves the room. -/
abbrev Effects (keep : DungeonRoom F -> GameUnit F -> GameUnit F -> Prop) :
    DungeonRoom F -> List Nat -> DungeonRoom F -> Prop :=
  Moves (Effect keep)

/-- The restriction that the simulation step obeys. -/
def Routine (_ : DungeonRoom F) (u v : GameUnit F) : Prop := KeepsJob u v

/-- No restriction. -/
def AnyOrder (_ : DungeonRoom F) (_ _ : GameUnit F) : Prop := True

theorem Effect.mono {keep keep' : DungeonRoom F -> GameUnit F -> GameUnit F -> Prop}
    (himp : forall r u v, keep r u v -> keep' r u v) {r s : DungeonRoom F}
    {out : List Nat} (h : Effect keep r out s) : Effect keep' r out s := by
  cases h with
  | cool cd hu => exact Effect.cool cd hu
  | redirect hu hbody hload hk =>
      exact Effect.redirect hu hbody hload (himp _ _ _ hk)
  | dropLoad hu hbody hk hpos hzero hraw =>
      exact Effect.dropLoad hu hbody (himp _ _ _ hk) hpos hzero hraw
  | harvest hu hbody hk htask hid hspace hf hraw hcap hle hsum =>
      exact Effect.harvest hu hbody (himp _ _ _ hk) htask hid hspace hf hraw hcap
        hle hsum
  | credit hu hbody hk hres hzero hraw =>
      exact Effect.credit hu hbody (himp _ _ _ hk) hres hzero hraw
  | forfeit hu hbody hk hres hzero hraw =>
      exact Effect.forfeit hu hbody (himp _ _ _ hk) hres hzero hraw
  | take hu hbody hk htask hid hd hraw hamount =>
      exact Effect.take hu hbody (himp _ _ _ hk) htask hid hd hraw hamount
  | strikeUnit hu hbody hload hk ht hteam hhp =>
      exact Effect.strikeUnit hu hbody hload (himp _ _ _ hk) ht hteam hhp
  | strikeBuilding hu hbody hload hk ht hteam hhp =>
      exact Effect.strikeBuilding hu hbody hload (himp _ _ _ hk) ht hteam hhp
  | construct dt hu hbody hload hk hb hsite =>
      exact Effect.construct dt hu hbody hload (himp _ _ _ hk) hb hsite
  | train queue hb => exact Effect.train queue hb
  | graduate unitType queue hb => exact Effect.graduate unitType queue hb
  | buyBuilding buildingType pos yaw hres htype hcost =>
      exact Effect.buyBuilding buildingType pos yaw hres htype hcost
  | buyTraining cost queue hres hb hcost =>
      exact Effect.buyTraining cost queue hres hb hcost
  | refuse cmd code => exact Effect.refuse cmd code
  | buryUnit hu hhp => exact Effect.buryUnit hu hhp
  | buryBuilding hb hhp => exact Effect.buryBuilding hb hhp
  | scanTick n => exact Effect.scanTick n
  | forgetPending => exact Effect.forgetPending

theorem Effects.any {keep : DungeonRoom F -> GameUnit F -> GameUnit F -> Prop}
    {r s : DungeonRoom F} {out : List Nat} (h : Effects keep r out s) :
    Effects AnyOrder r out s :=
  h.mono fun _ _ _ heff => heff.mono fun _ _ _ _ => trivial

omit [Scalar F] in
/-- The attacker is not its own target, so the hit leaves it as it was. -/
theorem strike_lookup {r : DungeonRoom F} {id targetId : Nat}
    {u target w : GameUnit F} (hu : r.units.lookup id = some u)
    (ht : r.units.lookup targetId = some target) (hteam : target.team ≠ u.team) :
    (r.putUnit targetId w).units.lookup id = some u := by
  have hne : id ≠ targetId := by
    intro heq
    subst heq
    rw [hu] at ht
    injection ht with hut
    exact hteam (by rw [hut])
  change (r.units.insert targetId w).lookup id = some u
  rw [AList.lookup_insert_ne hne]
  exact hu

/-!
## Effects keep the entities keyed
-/

/-- Every effect keeps the entities keyed. -/
theorem Effect.keyed {keep : DungeonRoom F -> GameUnit F -> GameUnit F -> Prop}
    {r s : DungeonRoom F} {out : List Nat} (h : Keyed r)
    (heff : Effect keep r out s) : Keyed s := by
  cases heff with
  | cool cd hu => exact h.putUnit hu rfl
  | redirect hu hbody _ _ =>
      have hput := h.putUnit hu hbody.id
      exact ⟨hput.units, hput.buildings, hput.fields, hput.drops⟩
  | @dropLoad id u v hu hbody _ _ _ _ =>
      have hlift := h.lift (n := r.nextEntityId + 1) (by lia)
      have hlt := h.unit_lt hu
      exact ⟨hlift.1.insert ⟨hbody.id.trans (h.unit_id hu), by lia⟩, hlift.2.1,
        hlift.2.2.1, hlift.2.2.2.insert ⟨rfl, by lia⟩⟩
  | @harvest id fieldId u v field left hu hbody _ _ _ _ hf _ _ _ _ =>
      have hu' : (r.settleField fieldId field left).units.lookup id = some u := by
        simpa using hu
      have hput := (h.settleField left hf).putUnit hu' hbody.id
      exact ⟨hput.units, hput.buildings, hput.fields, hput.drops⟩
  | @credit id u v res hu hbody _ hres _ _ =>
      have hput := h.putUnit hu hbody.id
      rw [deposit_eq hres]
      exact ⟨hput.units, hput.buildings, hput.fields, hput.drops⟩
  | forfeit hu hbody _ _ _ _ =>
      have hput := h.putUnit hu hbody.id
      exact ⟨hput.units, hput.buildings, hput.fields, hput.drops⟩
  | @take id dropId u v drop hu hbody _ _ _ hd _ _ =>
      have hu' : (r.settleDrop dropId drop
          (drop.amount - takeAmount u drop)).units.lookup id = some u := by
        simpa using hu
      have hsettled := h.settleDrop (drop.amount - takeAmount u drop) hd
      -- the room behind the drop is a variable from here on, so that it is not unfolded
      generalize r.settleDrop dropId drop (drop.amount - takeAmount u drop) = t at *
      have hput := hsettled.putUnit hu' hbody.id
      exact ⟨hput.units, hput.buildings, hput.fields, hput.drops⟩
  | @strikeUnit id targetId u v target hu hbody _ _ ht hteam _ =>
      have hfirst := h.putUnit (v := hitUnit target) ht rfl
      have hput := hfirst.putUnit (strike_lookup hu ht hteam) hbody.id
      exact ⟨hput.units, hput.buildings, hput.fields, hput.drops⟩
  | @strikeBuilding id targetId u v target hu hbody _ _ ht _ _ =>
      have hfirst := h.putBuilding (c := hitBuilding target) ht rfl
      have hput := hfirst.putUnit hu hbody.id
      exact ⟨hput.units, hput.buildings, hput.fields, hput.drops⟩
  | @construct id buildingId u v b dt hu hbody _ _ hb _ =>
      have hid : (buildProgress b dt).id = b.id := by
        unfold buildProgress
        dsimp only
        split <;> rfl
      have hput := (h.putBuilding hb hid).putUnit hu hbody.id
      exact ⟨hput.units, hput.buildings, hput.fields, hput.drops⟩
  | @train id b queue hb =>
      have hput := h.putBuilding (c := { b with trainQueue := queue }) hb rfl
      exact ⟨hput.units, hput.buildings, hput.fields, hput.drops⟩
  | @graduate id b unitType queue hb =>
      have hlift := h.lift (n := r.nextEntityId + 1) (by lia)
      have hlt := h.buildings id b hb
      exact ⟨hlift.1.insert ⟨rfl, by lia⟩,
        hlift.2.1.insert ⟨hlt.left, by have := hlt.right; lia⟩,
        hlift.2.2.1, hlift.2.2.2⟩
  | buyBuilding buildingType pos yaw _ _ _ =>
      have hlift := h.lift (n := r.nextEntityId + 1) (by lia)
      exact ⟨hlift.1, hlift.2.1.insert ⟨rfl, by simp [payFrom, noteWrap, markResource]⟩,
        hlift.2.2.1, hlift.2.2.2⟩
  | @buyTraining uid id res b cost queue _ hb _ =>
      have hput := h.putBuilding (c := { b with trainQueue := queue }) hb rfl
      exact ⟨hput.units, hput.buildings, hput.fields, hput.drops⟩
  | refuse cmd code => exact ⟨h.units, h.buildings, h.fields, h.drops⟩
  | @buryUnit id u _ _ =>
      exact ⟨h.units.erase id, h.buildings, h.fields, h.drops⟩
  | @buryBuilding id b _ _ =>
      exact ⟨h.units, h.buildings.erase id, h.fields, h.drops⟩
  | scanTick n => exact ⟨h.units, h.buildings, h.fields, h.drops⟩
  | forgetPending => exact ⟨h.units, h.buildings, h.fields, h.drops⟩

theorem Effects.keyed {keep : DungeonRoom F -> GameUnit F -> GameUnit F -> Prop}
    {r s : DungeonRoom F} {out : List Nat} (h : Keyed r)
    (heff : Effects keep r out s) : Keyed s :=
  heff.preserves Keyed (fun _ _ _ hr hmove => hmove.keyed hr) h

end DungeonRoom

end RtsGame
