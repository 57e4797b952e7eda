import RtsGame.Room.Tracking

/-!
# The lists of a frame

The log of a room is complete; here it is shown to be true.  What a room lists
as despawned is not there any more, and the fields and drops that it lists as
spawned were not there when the frame began.
-/

namespace RtsGame

open Scalar

namespace DungeonRoom

variable {F : Type} [Scalar F]

/-- The lists of a frame that began when the given id was the next one. -/
structure SoundLog (base : Nat) (r : DungeonRoom F) : Prop where
  next : base ≤ r.nextEntityId
  units : Table.Gone r.units r.nextEntityId r.despawned
  buildings : Table.Gone r.buildings r.nextEntityId r.buildingDespawned
  fields : Table.Gone r.fields r.nextEntityId r.fieldDespawned
  drops : Table.Gone r.drops r.nextEntityId r.dropDespawned
  newFields : forall id, id ∈ r.fieldSpawned -> base ≤ id
  newDrops : forall id, id ∈ r.dropSpawned -> base ≤ id

/-- No change is listed. -/
structure Cleared (r : DungeonRoom F) : Prop where
  despawned : r.despawned = []
  buildingDespawned : r.buildingDespawned = []
  fieldSpawned : r.fieldSpawned = []
  fieldDespawned : r.fieldDespawned = []
  dropSpawned : r.dropSpawned = []
  dropDespawned : r.dropDespawned = []

omit [Scalar F] in
theorem clearFrameChanges_cleared (r : DungeonRoom F) :
    Cleared r.clearFrameChanges :=
  ⟨rfl, rfl, rfl, rfl, rfl, rfl⟩

omit [Scalar F] in
theorem Cleared.soundLog {r : DungeonRoom F} (h : Cleared r) :
    SoundLog r.nextEntityId r := by
  constructor
  · exact Nat.le_refl _
  · rw [h.despawned]
    exact Table.Gone.nil
  · rw [h.buildingDespawned]
    exact Table.Gone.nil
  · rw [h.fieldDespawned]
    exact Table.Gone.nil
  · rw [h.dropDespawned]
    exact Table.Gone.nil
  · rw [h.fieldSpawned]
    intro id hid
    cases hid
  · rw [h.dropSpawned]
    intro id hid
    cases hid

namespace SoundLog

variable {base : Nat} {r : DungeonRoom F}

omit [Scalar F] in
theorem putUnit (h : SoundLog base r) {id : Nat} {u : GameUnit F}
    (v : GameUnit F) (hu : r.units.lookup id = some u) :
    SoundLog base (r.putUnit id v) :=
  ⟨h.next, h.units.write v hu, h.buildings, h.fields, h.drops, h.newFields,
    h.newDrops⟩

omit [Scalar F] in
theorem commit (h : SoundLog base r) {id : Nat} {u : GameUnit F}
    (v : GameUnit F) (hu : r.units.lookup id = some u) :
    SoundLog base (r.commit id v) :=
  ⟨h.next, h.units.write v hu, h.buildings, h.fields, h.drops, h.newFields,
    h.newDrops⟩

omit [Scalar F] in
theorem putBuilding (h : SoundLog base r) {id : Nat} {b : Building F}
    (c : Building F) (mark : Nat) (hb : r.buildings.lookup id = some b) :
    SoundLog base ((r.putBuilding id c).markBuilding mark) :=
  ⟨h.next, h.units, h.buildings.write c hb, h.fields, h.drops, h.newFields,
    h.newDrops⟩

theorem spawnTrained (h : SoundLog base r) (b : Building F) (unitType : Nat) :
    SoundLog base (r.spawnTrained b unitType) :=
  ⟨Nat.le_succ_of_le h.next, h.units.spawn _, h.buildings.later,
    h.fields.later, h.drops.later, h.newFields, h.newDrops⟩

theorem spawnBuilding (h : SoundLog base r) (ownerUid team buildingType : Nat)
    (pos : Vec3f F) (yaw : F) (site : Bool) :
    SoundLog base (r.spawnBuilding ownerUid team buildingType pos yaw site) :=
  ⟨Nat.le_succ_of_le h.next, h.units.later, h.buildings.spawn _,
    h.fields.later, h.drops.later, h.newFields, h.newDrops⟩

omit [Scalar F] in
theorem spawnResourceDrop (h : SoundLog base r) (raw : Nat) (pos : Vec3f F)
    (amount : UInt32) : SoundLog base (r.spawnResourceDrop raw pos amount) := by
  refine ⟨Nat.le_succ_of_le h.next, h.units.later, h.buildings.later,
    h.fields.later, h.drops.spawn _, h.newFields, ?_⟩
  intro id hid
  rcases List.mem_append.mp hid with hold | hnew
  · exact h.newDrops id hold
  · rw [List.mem_singleton.mp hnew]
    exact h.next

omit [Scalar F] in
theorem settleField (h : SoundLog base r) (hr : Keyed r) {fieldId : Nat}
    {field : ResourceFieldEntity F} (left : UInt32)
    (hf : r.fields.lookup fieldId = some field) :
    SoundLog base (r.settleField fieldId field left) := by
  rcases hr.fields fieldId field hf with ⟨hid, hlt⟩
  unfold DungeonRoom.settleField
  split
  · refine ⟨h.next, h.units, h.buildings, ?_, h.drops, h.newFields, h.newDrops⟩
    change Table.Gone (r.fields.erase fieldId) r.nextEntityId
      (r.fieldDespawned ++ [field.id])
    rw [hid]
    exact h.fields.erase hlt
  · exact ⟨h.next, h.units, h.buildings, h.fields.write _ hf, h.drops,
      h.newFields, h.newDrops⟩

omit [Scalar F] in
theorem settleDrop (h : SoundLog base r) (hr : Keyed r) {dropId : Nat}
    {drop : ResourceDropEntity F} (amount : UInt32)
    (hd : r.drops.lookup dropId = some drop) :
    SoundLog base (r.settleDrop dropId drop amount) := by
  rcases hr.drops dropId drop hd with ⟨hid, hlt⟩
  unfold DungeonRoom.settleDrop
  split
  · refine ⟨h.next, h.units, h.buildings, h.fields, ?_, h.newFields, h.newDrops⟩
    change Table.Gone (r.drops.erase dropId) r.nextEntityId
      (r.dropDespawned ++ [drop.id])
    rw [hid]
    exact h.drops.erase hlt
  · exact ⟨h.next, h.units, h.buildings, h.fields, h.drops.write _ hd,
      h.newFields, h.newDrops⟩

omit [Scalar F] in
theorem payFrom (h : SoundLog base r) (uid : Nat) (res : PlayerRes)
    (cost : ResCost) : SoundLog base (r.payFrom uid res cost) :=
  ⟨h.next, h.units, h.buildings, h.fields, h.drops, h.newFields, h.newDrops⟩

omit [Scalar F] in
theorem deposit (h : SoundLog base r) (u : GameUnit F) :
    SoundLog base (r.deposit u) := by
  unfold DungeonRoom.deposit
  split
  · exact h
  · exact ⟨h.next, h.units, h.buildings, h.fields, h.drops, h.newFields,
      h.newDrops⟩

end SoundLog

/-!
## Effects keep the lists true
-/

theorem Effect.soundLog
    {keep : DungeonRoom F -> GameUnit F -> GameUnit F -> Prop} {base : Nat}
    {r s : DungeonRoom F} {out : List Nat} (hr : Keyed r) (h : SoundLog base r)
    (heff : Effect keep r out s) : SoundLog base s := by
  cases heff with
  | cool cd hu => exact h.putUnit _ hu
  | redirect hu _ _ _ => exact h.commit _ hu
  | @dropLoad id u v hu _ _ _ _ _ =>
      exact (h.spawnResourceDrop u.carriedRaw u.pos u.carriedAmount).commit v hu
  | @harvest id fieldId u v field left hu _ _ _ _ _ hf _ _ _ _ =>
      exact (h.settleField hr left hf).commit (u := u) v (by simpa using hu)
  | @credit id u v res hu _ _ hres _ _ =>
      have hledger := h.deposit u
      rw [deposit_eq hres] at hledger ⊢
      exact hledger.commit v hu
  | forfeit hu _ _ _ _ _ => exact h.commit _ hu
  | @take id dropId u v drop hu _ _ _ _ hd _ _ =>
      have hdrop := h.settleDrop hr (drop.amount - takeAmount u drop) hd
      have hnoted : SoundLog base
          ((r.settleDrop dropId drop (drop.amount - takeAmount u drop)).noteWrap
            (takeWraps u drop)) :=
        ⟨hdrop.next, hdrop.units, hdrop.buildings, hdrop.fields, hdrop.drops,
          hdrop.newFields, hdrop.newDrops⟩
      apply hnoted.commit (u := u) v
      change (r.settleDrop dropId drop
        (drop.amount - takeAmount u drop)).units.lookup id = some u
      simpa using hu
  | @strikeUnit id targetId u v target hu _ _ _ ht hteam _ =>
      have hhit : SoundLog base (r.commit targetId (hitUnit target)) :=
        h.commit _ ht
      exact hhit.commit v (strike_lookup hu ht hteam)
  | @strikeBuilding id targetId u v target hu _ _ _ ht _ _ =>
      exact (h.putBuilding (hitBuilding target) target.id ht).commit v hu
  | @construct id buildingId u v b dt hu _ _ _ hb _ =>
      exact (h.putBuilding (buildProgress b dt) b.id hb).commit v hu
  | @train id b queue hb => exact h.putBuilding _ b.id hb
  | @graduate id b unitType queue hb =>
      exact (h.spawnTrained b unitType).putBuilding _ b.id hb
  | @buyBuilding uid res buildingType pos yaw _ _ _ =>
      exact (h.payFrom uid res (buildingCost buildingType)).spawnBuilding uid
        (r.teamOf uid) buildingType pos yaw true
  | @buyTraining uid id res b cost queue _ hb _ =>
      exact (h.payFrom uid res cost).putBuilding _ b.id hb
  | refuse cmd code =>
      exact ⟨h.next, h.units, h.buildings, h.fields, h.drops, h.newFields,
        h.newDrops⟩
  | @buryUnit id u hu _ =>
      exact ⟨h.next, h.units.erase (hr.units id u hu).2, h.buildings, h.fields,
        h.drops, h.newFields, h.newDrops⟩
  | @buryBuilding id b hb _ =>
      exact ⟨h.next, h.units, h.buildings.erase (hr.buildings id b hb).2,
        h.fields, h.drops, h.newFields, h.newDrops⟩
  | scanTick n =>
      exact ⟨h.next, h.units, h.buildings, h.fields, h.drops, h.newFields,
        h.newDrops⟩
  | forgetPending =>
      exact ⟨h.next, h.units, h.buildings, h.fields, h.drops, h.newFields,
        h.newDrops⟩

theorem Effects.soundLog
    {keep : DungeonRoom F -> GameUnit F -> GameUnit F -> Prop} {base : Nat}
    {r s : DungeonRoom F} {out : List Nat} (hr : Keyed r) (h : SoundLog base r)
    (heff : Effects keep r out s) : SoundLog base s := by
  have hboth : Keyed s ∧ SoundLog base s := by
    apply heff.preserves (fun t => Keyed t ∧ SoundLog base t) _ ⟨hr, h⟩
    rintro r out s ⟨hr, hlog⟩ hmove
    exact ⟨hmove.keyed hr, hmove.soundLog hr hlog⟩
  exact hboth.2

/-!
## The sets of changes
-/

/-- The lists that stand for sets name nothing twice. -/
structure DirtySets (r : DungeonRoom F) : Prop where
  units : r.dirty.Nodup
  buildings : r.buildingDirty.Nodup
  ledgers : r.resourceDirty.Nodup

namespace DirtySets

variable {r : DungeonRoom F}

omit [Scalar F] in
theorem commit (h : DirtySets r) (id : Nat) (u : GameUnit F) :
    DirtySets (r.commit id u) :=
  ⟨h.units.insert, h.buildings, h.ledgers⟩

omit [Scalar F] in
theorem putBuilding (h : DirtySets r) (id : Nat) (b : Building F) (mark : Nat) :
    DirtySets ((r.putBuilding id b).markBuilding mark) :=
  ⟨h.units, h.buildings.insert, h.ledgers⟩

omit [Scalar F] in
theorem payFrom (h : DirtySets r) (uid : Nat) (res : PlayerRes) (cost : ResCost) :
    DirtySets (r.payFrom uid res cost) :=
  ⟨h.units, h.buildings, h.ledgers.insert⟩

omit [Scalar F] in
theorem deposit (h : DirtySets r) (u : GameUnit F) : DirtySets (r.deposit u) := by
  unfold DungeonRoom.deposit
  split
  · exact h
  · exact ⟨h.units, h.buildings, h.ledgers.insert⟩

omit [Scalar F] in
theorem settleField (h : DirtySets r) (fieldId : Nat)
    (field : ResourceFieldEntity F) (left : UInt32) :
    DirtySets (r.settleField fieldId field left) := by
  unfold DungeonRoom.settleField
  split
  · exact ⟨h.units, h.buildings, h.ledgers⟩
  · exact ⟨h.units, h.buildings, h.ledgers⟩

omit [Scalar F] in
theorem settleDrop (h : DirtySets r) (dropId : Nat) (drop : ResourceDropEntity F)
    (amount : UInt32) : DirtySets (r.settleDrop dropId drop amount) := by
  unfold DungeonRoom.settleDrop
  split
  · exact ⟨h.units, h.buildings, h.ledgers⟩
  · exact ⟨h.units, h.buildings, h.ledgers⟩

end DirtySets

theorem Effect.dirtySets
    {keep : DungeonRoom F -> GameUnit F -> GameUnit F -> Prop}
    {r s : DungeonRoom F} {out : List Nat} (h : DirtySets r)
    (heff : Effect keep r out s) : DirtySets s := by
  cases heff with
  | cool cd _ => exact ⟨h.units, h.buildings, h.ledgers⟩
  | @redirect id u v _ _ _ _ => exact h.commit id v
  | dropLoad _ _ _ _ _ _ => exact ⟨h.units.insert, h.buildings, h.ledgers⟩
  | @harvest id fieldId u v field left _ _ _ _ _ _ _ _ _ _ _ =>
      exact (h.settleField fieldId field left).commit id v
  | @credit id u v res _ _ _ _ _ _ => exact (h.deposit u).commit id v
  | @forfeit id u v _ _ _ _ _ _ => exact h.commit id v
  | @take id dropId u v drop _ _ _ _ _ _ _ _ =>
      have hdrop := h.settleDrop dropId drop (drop.amount - takeAmount u drop)
      have hnoted : DirtySets
          ((r.settleDrop dropId drop (drop.amount - takeAmount u drop)).noteWrap
            (takeWraps u drop)) := ⟨hdrop.units, hdrop.buildings, hdrop.ledgers⟩
      exact hnoted.commit id v
  | @strikeUnit id targetId u v target _ _ _ _ _ _ _ =>
      have hhit : DirtySets (r.commit target.id (hitUnit target)) := h.commit _ _
      exact ⟨hhit.units.insert, hhit.buildings, hhit.ledgers⟩
  | @strikeBuilding id targetId u v target _ _ _ _ _ _ _ =>
      exact (h.putBuilding targetId (hitBuilding target) target.id).commit id v
  | @construct id buildingId u v b dt _ _ _ _ _ _ =>
      exact (h.putBuilding buildingId (buildProgress b dt) b.id).commit id v
  | @train id b queue _ => exact h.putBuilding id _ b.id
  | graduate _ _ _ => exact ⟨h.units, h.buildings.insert, h.ledgers⟩
  | buyBuilding _ _ _ _ _ _ => exact ⟨h.units, h.buildings, h.ledgers.insert⟩
  | @buyTraining uid id res b cost queue _ _ _ =>
      exact (h.payFrom uid res cost).putBuilding id _ b.id
  | refuse _ _ => exact ⟨h.units, h.buildings, h.ledgers⟩
  | buryUnit _ _ => exact ⟨h.units, h.buildings, h.ledgers⟩
  | buryBuilding _ _ => exact ⟨h.units, h.buildings, h.ledgers⟩
  | scanTick _ => exact ⟨h.units, h.buildings, h.ledgers⟩
  | forgetPending => exact ⟨h.units, h.buildings, h.ledgers⟩

theorem Effects.dirtySets
    {keep : DungeonRoom F -> GameUnit F -> GameUnit F -> Prop}
    {r s : DungeonRoom F} {out : List Nat} (h : DirtySets r)
    (heff : Effects keep r out s) : DirtySets s :=
  heff.preserves DirtySets (fun _ _ _ hr hmove => hmove.dirtySets hr) h

end DungeonRoom

end RtsGame
