import RtsGame.Room.Accounting

/-!
# Where entities come from

After an effect, every unit and building goes back to one of the room before,
or is new; fields only shrink and drops only shrink or are new.  Invariants
about tasks, owners, teams and crystals are read off these descriptions.
-/

namespace RtsGame

open Scalar

namespace DungeonRoom

variable {F : Type} [Scalar F]

/-!
## What remains of fields and drops

Effects add no fields, never change the type of a field or a drop, and give new
drops new ids.
-/

/-- The fields and the older drops of the second room come from the first. -/
structure Depleted (r s : DungeonRoom F) : Prop where
  fields : forall id f, s.fields.lookup id = some f ->
    exists g, r.fields.lookup id = some g ∧ g.raw = f.raw
  drops : forall id d, id < r.nextEntityId -> s.drops.lookup id = some d ->
    exists e, r.drops.lookup id = some e ∧ e.raw = d.raw
  next : r.nextEntityId ≤ s.nextEntityId

omit [Scalar F] in
theorem Depleted.of_eq {r s : DungeonRoom F} (hfields : s.fields = r.fields)
    (hdrops : s.drops = r.drops) (hnext : r.nextEntityId ≤ s.nextEntityId) :
    Depleted r s := by
  refine ⟨?_, ?_, hnext⟩
  · intro id f hf
    rw [hfields] at hf
    exact ⟨f, hf, rfl⟩
  · intro id d _ hd
    rw [hdrops] at hd
    exact ⟨d, hd, rfl⟩

omit [Scalar F] in
theorem Depleted.congr {r s t : DungeonRoom F} (h : Depleted r s)
    (hfields : t.fields = s.fields) (hdrops : t.drops = s.drops)
    (hnext : t.nextEntityId = s.nextEntityId) : Depleted r t := by
  constructor
  · rw [hfields]
    exact h.fields
  · rw [hdrops]
    exact h.drops
  · rw [hnext]
    exact h.next

omit [Scalar F] in
theorem settleField_depleted {r : DungeonRoom F} {fieldId : Nat}
    {field : ResourceFieldEntity F} (hf : r.fields.lookup fieldId = some field)
    (left : UInt32) : Depleted r (r.settleField fieldId field left) := by
  rcases settleField_frame r fieldId field left with ⟨_, hdrops, _, _, hnext, _⟩
  refine ⟨?_, ?_, Nat.le_of_eq hnext.symm⟩
  · intro id f hlook
    unfold settleField at hlook
    split at hlook
    · change (r.fields.erase fieldId).lookup id = some f at hlook
      rw [Table.lookup_erase_ite] at hlook
      split at hlook
      · cases hlook
      · exact ⟨f, hlook, rfl⟩
    · change (r.fields.insert fieldId _).lookup id = some f at hlook
      rw [Table.lookup_insert_ite] at hlook
      split at hlook
      · rename_i hid
        injection hlook with hfield
        rw [hid, ← hfield]
        exact ⟨field, hf, rfl⟩
      · exact ⟨f, hlook, rfl⟩
  · intro id d _ hd
    rw [hdrops] at hd
    exact ⟨d, hd, rfl⟩

omit [Scalar F] in
theorem settleDrop_depleted {r : DungeonRoom F} {dropId : Nat}
    {drop : ResourceDropEntity F} (hd : r.drops.lookup dropId = some drop)
    (amount : UInt32) : Depleted r (r.settleDrop dropId drop amount) := by
  rcases settleDrop_frame r dropId drop amount with ⟨_, hfields, _, _, hnext, _⟩
  refine ⟨?_, ?_, Nat.le_of_eq hnext.symm⟩
  · intro id f hf
    rw [hfields] at hf
    exact ⟨f, hf, rfl⟩
  · intro id d _ hlook
    unfold settleDrop at hlook
    split at hlook
    · change (r.drops.erase dropId).lookup id = some d at hlook
      rw [Table.lookup_erase_ite] at hlook
      split at hlook
      · cases hlook
      · exact ⟨d, hlook, rfl⟩
    · change (r.drops.insert dropId _).lookup id = some d at hlook
      rw [Table.lookup_insert_ite] at hlook
      split at hlook
      · rename_i hid
        injection hlook with hdrop
        rw [hid, ← hdrop]
        exact ⟨drop, hd, rfl⟩
      · exact ⟨d, hlook, rfl⟩

omit [Scalar F] in
theorem spawnResourceDrop_depleted (r : DungeonRoom F) (raw : Nat)
    (pos : Vec3f F) (amount : UInt32) :
    Depleted r (r.spawnResourceDrop raw pos amount) := by
  refine ⟨?_, ?_, Nat.le_succ r.nextEntityId⟩
  · intro id f hf
    exact ⟨f, hf, rfl⟩
  · intro id d hlt hd
    change (r.drops.insert r.nextEntityId _).lookup id = some d at hd
    rw [AList.lookup_insert_ne (by lia)] at hd
    exact ⟨d, hd, rfl⟩

theorem Effect.depleted
    {keep : DungeonRoom F -> GameUnit F -> GameUnit F -> Prop}
    {r s : DungeonRoom F} {out : List Nat} (heff : Effect keep r out s) :
    Depleted r s := by
  have hle := Nat.le_refl r.nextEntityId
  cases heff with
  | cool _ _ => exact Depleted.of_eq rfl rfl hle
  | redirect _ _ _ _ => exact Depleted.of_eq rfl rfl hle
  | @dropLoad id u v _ _ _ _ _ _ =>
      have h := spawnResourceDrop_depleted r u.carriedRaw u.pos u.carriedAmount
      exact h.congr (by simp) (by simp) (by simp)
  | @harvest id fieldId u v field left _ _ _ _ _ _ hf _ _ _ _ =>
      have h := settleField_depleted hf left
      exact h.congr (by simp) (by simp) (by simp)
  | @credit id u v res _ _ _ _ _ _ =>
      rcases deposit_frame r u with ⟨_, _, hfields, hdrops, _, hnext⟩
      refine Depleted.of_eq ?_ ?_ ?_
      · simpa using hfields
      · simpa using hdrops
      · simp [hnext]
  | forfeit _ _ _ _ _ _ => exact Depleted.of_eq rfl rfl hle
  | @take id dropId u v drop _ _ _ _ _ hd _ _ =>
      have h := settleDrop_depleted hd (drop.amount - takeAmount u drop)
      exact h.congr (by simp) (by simp) (by simp)
  | strikeUnit _ _ _ _ _ _ _ => exact Depleted.of_eq rfl rfl hle
  | strikeBuilding _ _ _ _ _ _ _ => exact Depleted.of_eq rfl rfl hle
  | construct _ _ _ _ _ _ _ => exact Depleted.of_eq rfl rfl hle
  | train _ _ => exact Depleted.of_eq rfl rfl hle
  | graduate _ _ _ => exact Depleted.of_eq rfl rfl (Nat.le_succ r.nextEntityId)
  | buyBuilding _ _ _ _ _ _ =>
      exact Depleted.of_eq rfl rfl (Nat.le_succ r.nextEntityId)
  | buyTraining _ _ _ _ _ => exact Depleted.of_eq rfl rfl hle
  | refuse _ _ => exact Depleted.of_eq rfl rfl hle
  | buryUnit _ _ => exact Depleted.of_eq rfl rfl hle
  | buryBuilding _ _ => exact Depleted.of_eq rfl rfl hle
  | scanTick _ => exact Depleted.of_eq rfl rfl hle
  | forgetPending => exact Depleted.of_eq rfl rfl hle

/-!
## Units
-/

/-- How a unit under a key after an effect relates to the room before it. -/
inductive UnitOrigin
    (keep : DungeonRoom F -> GameUnit F -> GameUnit F -> Prop)
    (r : DungeonRoom F) (j : Nat) (w : GameUnit F) : Prop where
  | same {u : GameUnit F} : r.units.lookup j = some u ->
      w.ownerUid = u.ownerUid -> w.team = u.team -> SameLoad u w ->
      SameJob u w -> UnitOrigin keep r j w
  | steered {u : GameUnit F} : r.units.lookup j = some u -> SameBody u w ->
      SameLoad u w -> keep r u w -> UnitOrigin keep r j w
  | emptied {u : GameUnit F} : r.units.lookup j = some u -> SameBody u w ->
      keep r u w -> w.carriedAmount = 0 -> UnitOrigin keep r j w
  | filled {u : GameUnit F} {field : ResourceFieldEntity F} :
      r.units.lookup j = some u -> SameBody u w -> keep r u w ->
      u.task = WorkerTask.gathering ->
      r.fields.lookup u.gatherFieldId = some field ->
      w.carriedRaw = field.raw -> UnitOrigin keep r j w
  | loaded {u : GameUnit F} {drop : ResourceDropEntity F} :
      r.units.lookup j = some u -> SameBody u w -> keep r u w ->
      u.task = WorkerTask.pickup ->
      r.drops.lookup u.pickupDropId = some drop ->
      w.carriedRaw = drop.raw -> UnitOrigin keep r j w
  | trained {id unitType : Nat} {b : Building F} :
      r.buildings.lookup id = some b -> j = r.nextEntityId ->
      w = trainedUnit r.nextEntityId b unitType -> UnitOrigin keep r j w

section Origins

variable {keep : DungeonRoom F -> GameUnit F -> GameUnit F -> Prop}
variable {r s : DungeonRoom F}

theorem UnitOrigin.unchanged {j : Nat} {w : GameUnit F}
    (h : r.units.lookup j = some w) : UnitOrigin keep r j w :=
  UnitOrigin.same h rfl rfl (SameLoad.refl w) (SameJob.refl w)

/-- After one unit was written. -/
theorem UnitOrigin.insert {id j : Nat} {v w : GameUnit F}
    (hv : UnitOrigin keep r id v)
    (h : (r.units.insert id v).lookup j = some w) : UnitOrigin keep r j w := by
  rw [Table.lookup_insert_ite] at h
  split at h
  · rename_i hj
    injection h with hvw
    rw [hj, ← hvw]
    exact hv
  · exact UnitOrigin.unchanged h

theorem Effect.unit_origin {out : List Nat} (heff : Effect keep r out s)
    {j : Nat} {w : GameUnit F} (hw : s.units.lookup j = some w) :
    UnitOrigin keep r j w := by
  cases heff with
  | @cool id u cd hu =>
      exact UnitOrigin.insert (v := { u with attackCd := cd })
        (UnitOrigin.same hu rfl rfl ⟨rfl, rfl⟩ ⟨rfl, rfl, rfl⟩) hw
  | redirect hu hbody hload hk =>
      exact UnitOrigin.insert (UnitOrigin.steered hu hbody hload hk) hw
  | dropLoad hu hbody hk _ hzero _ =>
      exact UnitOrigin.insert (UnitOrigin.emptied hu hbody hk hzero) hw
  | @harvest id fieldId u v field left hu hbody hk htask hid _ hf hraw _ _ _ =>
      rw [commit_units, settleField_units] at hw
      rw [← hid] at hf
      exact UnitOrigin.insert (UnitOrigin.filled hu hbody hk htask hf hraw) hw
  | @credit id u v res hu hbody hk _ hzero _ =>
      rw [commit_units, (deposit_frame r u).1] at hw
      exact UnitOrigin.insert (UnitOrigin.emptied hu hbody hk hzero) hw
  | forfeit hu hbody hk _ hzero _ =>
      exact UnitOrigin.insert (UnitOrigin.emptied hu hbody hk hzero) hw
  | @take id dropId u v drop hu hbody hk htask hid hd hraw _ =>
      rw [commit_units, noteWrap_units, settleDrop_units] at hw
      rw [← hid] at hd
      exact UnitOrigin.insert (UnitOrigin.loaded hu hbody hk htask hd hraw) hw
  | @strikeUnit id targetId u v target hu hbody hload hk ht _ _ =>
      change ((r.units.insert targetId (hitUnit target)).insert id v).lookup j =
        some w at hw
      rw [Table.lookup_insert_ite] at hw
      split at hw
      · rename_i hj
        injection hw with hvw
        rw [hj, ← hvw]
        exact UnitOrigin.steered hu hbody hload hk
      · exact UnitOrigin.insert (v := hitUnit target)
          (UnitOrigin.same ht rfl rfl ⟨rfl, rfl⟩ ⟨rfl, rfl, rfl⟩) hw
  | strikeBuilding hu hbody hload hk _ _ _ =>
      exact UnitOrigin.insert (UnitOrigin.steered hu hbody hload hk) hw
  | construct dt hu hbody hload hk _ _ =>
      exact UnitOrigin.insert (UnitOrigin.steered hu hbody hload hk) hw
  | train _ _ => exact UnitOrigin.unchanged hw
  | graduate unitType queue hb =>
      exact UnitOrigin.insert (UnitOrigin.trained hb rfl rfl) hw
  | buyBuilding _ _ _ _ _ _ => exact UnitOrigin.unchanged hw
  | buyTraining _ _ _ _ _ => exact UnitOrigin.unchanged hw
  | refuse _ _ => exact UnitOrigin.unchanged hw
  | @buryUnit id u _ _ =>
      change (r.units.erase id).lookup j = some w at hw
      rw [Table.lookup_erase_ite] at hw
      split at hw
      · cases hw
      · exact UnitOrigin.unchanged hw
  | buryBuilding _ _ => exact UnitOrigin.unchanged hw
  | scanTick _ => exact UnitOrigin.unchanged hw
  | forgetPending => exact UnitOrigin.unchanged hw

/-!
## Buildings
-/

/-- How a building under a key after an effect relates to the room before it. -/
inductive BuildingOrigin (r : DungeonRoom F) (j : Nat) (c : Building F) :
    Prop where
  | kept {b : Building F} : r.buildings.lookup j = some b ->
      c.ownerUid = b.ownerUid -> c.team = b.team ->
      c.buildingType = b.buildingType ->
      (b.underConstruction = false -> c.underConstruction = false) ->
      BuildingOrigin r j c
  | bought {uid buildingType : Nat} {pos : Vec3f F} {yaw : F} :
      uid ∈ r.playerRes -> buildingType ≠ kBuildingCrystal ->
      c = newBuilding r.nextEntityId uid (r.teamOf uid) buildingType pos yaw
        true -> BuildingOrigin r j c

theorem BuildingOrigin.unchanged {j : Nat} {c : Building F}
    (h : r.buildings.lookup j = some c) : BuildingOrigin r j c :=
  BuildingOrigin.kept h rfl rfl rfl id

/-- After one building was written. -/
theorem BuildingOrigin.insert {id j : Nat} {b c : Building F}
    (hb : BuildingOrigin r id b)
    (h : (r.buildings.insert id b).lookup j = some c) :
    BuildingOrigin r j c := by
  rw [Table.lookup_insert_ite] at h
  split at h
  · rename_i hj
    injection h with hbc
    rw [hj, ← hbc]
    exact hb
  · exact BuildingOrigin.unchanged h

/-- Progress on a building site keeps owner, team and type. -/
theorem buildProgress_frame (b : Building F) (dt : F) :
    (buildProgress b dt).ownerUid = b.ownerUid ∧
      (buildProgress b dt).team = b.team ∧
      (buildProgress b dt).buildingType = b.buildingType := by
  unfold buildProgress
  dsimp only
  split
  · exact ⟨rfl, rfl, rfl⟩
  · exact ⟨rfl, rfl, rfl⟩

theorem Effect.building_origin {out : List Nat} (heff : Effect keep r out s)
    {j : Nat} {c : Building F} (hc : s.buildings.lookup j = some c) :
    BuildingOrigin r j c := by
  cases heff with
  | cool _ _ => exact BuildingOrigin.unchanged hc
  | redirect _ _ _ _ => exact BuildingOrigin.unchanged hc
  | dropLoad _ _ _ _ _ _ => exact BuildingOrigin.unchanged hc
  | @harvest id fieldId u v field left _ _ _ _ _ _ _ _ _ _ _ =>
      rw [commit_buildings, (settleField_frame r fieldId field left).1] at hc
      exact BuildingOrigin.unchanged hc
  | @credit id u v res _ _ _ _ _ _ =>
      rw [commit_buildings, (deposit_frame r u).2.1] at hc
      exact BuildingOrigin.unchanged hc
  | forfeit _ _ _ _ _ _ => exact BuildingOrigin.unchanged hc
  | @take id dropId u v drop _ _ _ _ _ _ _ _ =>
      rw [commit_buildings, noteWrap_buildings, (settleDrop_frame r dropId drop
        (drop.amount - takeAmount u drop)).1] at hc
      exact BuildingOrigin.unchanged hc
  | strikeUnit _ _ _ _ _ _ _ => exact BuildingOrigin.unchanged hc
  | @strikeBuilding id targetId u v target _ _ _ _ ht _ _ =>
      exact BuildingOrigin.insert (b := hitBuilding target)
        (BuildingOrigin.kept ht rfl rfl rfl fun h => h) hc
  | @construct id buildingId u v b dt _ _ _ _ hb hsite =>
      rcases buildProgress_frame b dt with ⟨howner, hteam, htype⟩
      refine BuildingOrigin.insert (b := buildProgress b dt)
        (BuildingOrigin.kept hb howner hteam htype ?_) hc
      intro hdone
      rw [hsite] at hdone
      cases hdone
  | @train id b queue hb =>
      exact BuildingOrigin.insert (b := { b with trainQueue := queue })
        (BuildingOrigin.kept hb rfl rfl rfl fun h => h) hc
  | @graduate id b unitType queue hb =>
      exact BuildingOrigin.insert (b := { b with trainQueue := queue })
        (BuildingOrigin.kept hb rfl rfl rfl fun h => h) hc
  | @buyBuilding uid res buildingType pos yaw hres htype _ =>
      exact BuildingOrigin.insert
        (BuildingOrigin.bought (Table.mem_of_lookup hres) htype rfl) hc
  | @buyTraining uid id res b cost queue _ hb _ =>
      exact BuildingOrigin.insert (b := { b with trainQueue := queue })
        (BuildingOrigin.kept hb rfl rfl rfl fun h => h) hc
  | refuse _ _ => exact BuildingOrigin.unchanged hc
  | buryUnit _ _ => exact BuildingOrigin.unchanged hc
  | @buryBuilding id b _ _ =>
      change (r.buildings.erase id).lookup j = some c at hc
      rw [Table.lookup_erase_ite] at hc
      split at hc
      · cases hc
      · exact BuildingOrigin.unchanged hc
  | scanTick _ => exact BuildingOrigin.unchanged hc
  | forgetPending => exact BuildingOrigin.unchanged hc

/-- The building is still there, as it was. -/
def Intact (s : DungeonRoom F) (j : Nat) (b : Building F) : Prop :=
  exists c, s.buildings.lookup j = some c ∧ c.ownerUid = b.ownerUid ∧
    c.buildingType = b.buildingType ∧ c.hp = b.hp

omit [Scalar F] in
theorem Intact.unchanged {j : Nat} {b : Building F}
    (h : s.buildings.lookup j = some b) : Intact s j b :=
  ⟨b, h, rfl, rfl, rfl⟩

omit [Scalar F] in
/-- After one building was written with the same owner, type and hit points. -/
theorem Intact.insert {id j : Nat} {a b c : Building F}
    (ha : r.buildings.lookup id = some a)
    (hsame : c.ownerUid = a.ownerUid ∧ c.buildingType = a.buildingType ∧
      c.hp = a.hp)
    (hb : r.buildings.lookup j = some b)
    (hs : s.buildings = r.buildings.insert id c) : Intact s j b := by
  unfold Intact
  rw [hs, Table.lookup_insert_ite]
  split
  · rename_i hj
    rw [hj, ha] at hb
    injection hb with hab
    rw [← hab]
    exact ⟨c, rfl, hsame⟩
  · exact ⟨b, hb, rfl, rfl, rfl⟩

/-- A finished building among its own units stays as it is. -/
theorem Effect.intact {out : List Nat} (heff : Effect keep r out s)
    (hr : Keyed r) {j : Nat} {b : Building F}
    (hb : r.buildings.lookup j = some b) (hdone : b.underConstruction = false)
    (halive : ¬ b.hp ≤ lit 0)
    (hpeace : forall id u, r.units.lookup id = some u -> u.team = b.team) :
    Intact s j b := by
  cases heff with
  | cool _ _ => exact Intact.unchanged hb
  | redirect _ _ _ _ => exact Intact.unchanged hb
  | dropLoad _ _ _ _ _ _ => exact Intact.unchanged hb
  | @harvest id fieldId u v field left _ _ _ _ _ _ _ _ _ _ _ =>
      apply Intact.unchanged
      rw [commit_buildings, (settleField_frame r fieldId field left).1]
      exact hb
  | @credit id u v res _ _ _ _ _ _ =>
      apply Intact.unchanged
      rw [commit_buildings, (deposit_frame r u).2.1]
      exact hb
  | forfeit _ _ _ _ _ _ => exact Intact.unchanged hb
  | @take id dropId u v drop _ _ _ _ _ _ _ _ =>
      apply Intact.unchanged
      rw [commit_buildings, noteWrap_buildings, (settleDrop_frame r dropId drop
        (drop.amount - takeAmount u drop)).1]
      exact hb
  | strikeUnit _ _ _ _ _ _ _ => exact Intact.unchanged hb
  | @strikeBuilding id targetId u v target hu _ _ _ ht hteam _ =>
      by_cases hj : j = targetId
      · rw [hj, ht] at hb
        injection hb with htarget
        rw [← htarget] at hpeace
        exact absurd (hpeace id u hu).symm hteam
      · refine ⟨b, ?_, rfl, rfl, rfl⟩
        change (r.buildings.insert targetId _).lookup j = some b
        rw [AList.lookup_insert_ne hj]
        exact hb
  | @construct id buildingId u v site dt _ _ _ _ hsite hunder =>
      by_cases hj : j = buildingId
      · rw [hj, hsite] at hb
        injection hb with hsame
        rw [hsame, hdone] at hunder
        cases hunder
      · refine ⟨b, ?_, rfl, rfl, rfl⟩
        change (r.buildings.insert buildingId _).lookup j = some b
        rw [AList.lookup_insert_ne hj]
        exact hb
  | @train id a queue ha =>
      exact Intact.insert (c := { a with trainQueue := queue }) ha
        ⟨rfl, rfl, rfl⟩ hb rfl
  | @graduate id a unitType queue ha =>
      exact Intact.insert (c := { a with trainQueue := queue }) ha
        ⟨rfl, rfl, rfl⟩ hb rfl
  | @buyBuilding uid res buildingType pos yaw _ _ _ =>
      refine ⟨b, ?_, rfl, rfl, rfl⟩
      change (r.buildings.insert r.nextEntityId _).lookup j = some b
      have hlt := (hr.buildings j b hb).right
      rw [AList.lookup_insert_ne (by lia)]
      exact hb
  | @buyTraining uid id res a cost queue _ ha _ =>
      exact Intact.insert (c := { a with trainQueue := queue }) ha
        ⟨rfl, rfl, rfl⟩ hb rfl
  | refuse _ _ => exact Intact.unchanged hb
  | buryUnit _ _ => exact Intact.unchanged hb
  | @buryBuilding id a ha hdead =>
      by_cases hj : j = id
      · rw [hj, ha] at hb
        injection hb with hsame
        rw [hsame] at hdead
        exact absurd hdead halive
      · refine ⟨b, ?_, rfl, rfl, rfl⟩
        change (r.buildings.erase id).lookup j = some b
        rw [AList.lookup_erase_ne hj]
        exact hb
  | scanTick _ => exact Intact.unchanged hb
  | forgetPending => exact Intact.unchanged hb

end Origins

end DungeonRoom

end RtsGame
