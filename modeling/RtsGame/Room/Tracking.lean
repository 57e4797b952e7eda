import Mathlib.Data.List.Infix
import RtsGame.Library.Tracking
import RtsGame.Room.Reachability

/-!
# Change tracking

Between two calls of `ClearFrameChanges` a room logs what has changed.  Every
effect keeps the log complete: an entity that a client would see differently is
marked, a new entity is listed as spawned, a lost one as despawned.
-/

namespace RtsGame

open Scalar

namespace DungeonRoom

variable {F : Type} [Scalar F]

/-!
## What a client sees of an entity
-/

def unitView (u : GameUnit F) :=
  (u.id, u.team, u.unitType, u.pos, u.yaw, u.hp, u.state, u.carriedAmount,
    u.carriedRaw)

def buildingView (b : Building F) :=
  (b.id, b.team, b.buildingType, b.pos, b.yaw, b.hp, b.constructedPercent)

/-- The part of a field that never changes. -/
def fieldSite (f : ResourceFieldEntity F) := (f.id, f.raw, f.pos, f.yaw)

/-- The part of a drop that never changes. -/
def dropSite (d : ResourceDropEntity F) := (d.id, d.raw, d.pos)

/-- The log of the second room covers all changes since the first. -/
structure ChangeLog (r s : DungeonRoom F) : Prop where
  next : r.nextEntityId ≤ s.nextEntityId
  units : Table.Tracked unitView r.units s.units s.dirty s.spawned s.despawned
  buildings : Table.Tracked buildingView r.buildings s.buildings s.buildingDirty
    s.buildingSpawned s.buildingDespawned
  amounts : Table.Tracked ResourceFieldEntity.amountLeft r.fields s.fields
    s.fieldDirty s.fieldSpawned s.fieldDespawned
  fieldSites : Table.Tracked fieldSite r.fields s.fields [] s.fieldSpawned
    s.fieldDespawned
  dropSites : Table.Tracked dropSite r.drops s.drops [] s.dropSpawned
    s.dropDespawned
  ledgers : Table.Tracked id r.playerRes s.playerRes s.resourceDirty
    s.resourceDirty s.resourceDirty

omit [Scalar F] in
theorem Keyed.fresh {r : DungeonRoom F} (h : Keyed r) {n : Nat}
    (hn : r.nextEntityId ≤ n) :
    r.units.lookup n = none ∧ r.buildings.lookup n = none ∧
      r.drops.lookup n = none := by
  have habove : forall {alpha : Type} {P : Nat -> alpha -> Prop}
      {m : Table alpha}, (m.AllAt fun id v => P id v ∧ id < r.nextEntityId) ->
      m.lookup n = none := by
    intro alpha P m hm
    cases hv : m.lookup n with
    | none => rfl
    | some v =>
        have hlt := (hm n v hv).right
        lia
  exact ⟨habove h.units, habove h.buildings, habove h.drops⟩

namespace ChangeLog

variable {r s : DungeonRoom F}

omit [Scalar F] in
theorem refl (r : DungeonRoom F) : ChangeLog r r :=
  ⟨Nat.le_refl _, Table.Tracked.refl _, Table.Tracked.refl _,
    Table.Tracked.refl _, Table.Tracked.refl _, Table.Tracked.refl _,
    Table.Tracked.refl _⟩

omit [Scalar F] in
/-- Writing a unit back under its key and marking it. -/
theorem commit (h : ChangeLog r s) {id : Nat} {u v : GameUnit F}
    (hu : s.units.lookup id = some u) (hv : v.id = id) :
    ChangeLog r (s.commit id v) := by
  refine ⟨h.next, ?_, h.buildings, h.amounts, h.fieldSites, h.dropSites,
    h.ledgers⟩
  have hgrown : s.dirty ⊆ s.dirty.insert v.id := List.subset_insert v.id s.dirty
  have htracked := h.units.mono hgrown (List.Subset.refl _) (List.Subset.refl _)
  apply htracked.write hu
  exact Or.inl (by rw [hv]; exact List.mem_insert_self)

omit [Scalar F] in
theorem cool (h : ChangeLog r s) {id : Nat} {u : GameUnit F} (cd : F)
    (hu : s.units.lookup id = some u) :
    ChangeLog r (s.putUnit id { u with attackCd := cd }) :=
  ⟨h.next, h.units.write hu (Or.inr rfl), h.buildings, h.amounts, h.fieldSites,
    h.dropSites, h.ledgers⟩

omit [Scalar F] in
theorem putBuilding (h : ChangeLog r s) {id mark : Nat} {b c : Building F}
    (hb : s.buildings.lookup id = some b) (hmark : mark = id) :
    ChangeLog r ((s.putBuilding id c).markBuilding mark) := by
  refine ⟨h.next, h.units, ?_, h.amounts, h.fieldSites, h.dropSites, h.ledgers⟩
  have hgrown : s.buildingDirty ⊆ s.buildingDirty.insert mark :=
    List.subset_insert mark s.buildingDirty
  have htracked := h.buildings.mono hgrown (List.Subset.refl _)
    (List.Subset.refl _)
  apply htracked.write hb
  exact Or.inl (by rw [hmark]; exact List.mem_insert_self)

theorem spawnTrained (h : ChangeLog r s) (hr : Keyed r) (b : Building F)
    (unitType : Nat) : ChangeLog r (s.spawnTrained b unitType) := by
  refine ⟨Nat.le_succ_of_le h.next, ?_, h.buildings, h.amounts, h.fieldSites,
    h.dropSites, h.ledgers⟩
  have htracked := h.units.mono (List.Subset.refl _)
    (List.subset_append_left s.spawned [s.nextEntityId]) (List.Subset.refl _)
  apply htracked.spawn _ (hr.fresh h.next).1
  exact List.mem_append_right _ (List.mem_singleton_self _)

theorem spawnBuilding (h : ChangeLog r s) (hr : Keyed r)
    (ownerUid team buildingType : Nat) (pos : Vec3f F) (yaw : F)
    (site : Bool) :
    ChangeLog r (s.spawnBuilding ownerUid team buildingType pos yaw site) := by
  refine ⟨Nat.le_succ_of_le h.next, h.units, ?_, h.amounts, h.fieldSites,
    h.dropSites, h.ledgers⟩
  have htracked := h.buildings.mono (List.Subset.refl _)
    (List.subset_append_left s.buildingSpawned [s.nextEntityId])
    (List.Subset.refl _)
  apply htracked.spawn _ (hr.fresh h.next).2.1
  exact List.mem_append_right _ (List.mem_singleton_self _)

omit [Scalar F] in
theorem spawnResourceDrop (h : ChangeLog r s) (hr : Keyed r) (raw : Nat)
    (pos : Vec3f F) (amount : UInt32) :
    ChangeLog r (s.spawnResourceDrop raw pos amount) := by
  refine ⟨Nat.le_succ_of_le h.next, h.units, h.buildings, h.amounts,
    h.fieldSites, ?_, h.ledgers⟩
  have htracked := h.dropSites.mono (List.Subset.refl _)
    (List.subset_append_left s.dropSpawned [s.nextEntityId])
    (List.Subset.refl _)
  apply htracked.spawn _ (hr.fresh h.next).2.2
  exact List.mem_append_right _ (List.mem_singleton_self _)

omit [Scalar F] in
theorem settleField (h : ChangeLog r s) (hs : Keyed s) {fieldId : Nat}
    {field : ResourceFieldEntity F} (left : UInt32)
    (hf : s.fields.lookup fieldId = some field) :
    ChangeLog r (s.settleField fieldId field left) := by
  have hid : field.id = fieldId := (hs.fields fieldId field hf).left
  have hgrown : s.fieldDirty ⊆ s.fieldDirty.insert field.id :=
    List.subset_insert field.id s.fieldDirty
  have hgone : s.fieldDespawned ⊆ s.fieldDespawned ++ [field.id] :=
    List.subset_append_left s.fieldDespawned [field.id]
  have hlisted : fieldId ∈ s.fieldDespawned ++ [field.id] := by
    rw [hid]
    exact List.mem_append_right _ (List.mem_singleton_self _)
  unfold DungeonRoom.settleField
  split
  · refine ⟨h.next, h.units, h.buildings, ?_, ?_, h.dropSites, h.ledgers⟩
    · exact (h.amounts.mono hgrown (List.Subset.refl _) hgone).erase hlisted
    · exact (h.fieldSites.mono (List.Subset.refl _) (List.Subset.refl _)
        hgone).erase hlisted
  · refine ⟨h.next, h.units, h.buildings, ?_, ?_, h.dropSites, h.ledgers⟩
    · apply (h.amounts.mono hgrown (List.Subset.refl _)
        (List.Subset.refl _)).write hf
      exact Or.inl (by rw [hid]; exact List.mem_insert_self)
    · exact h.fieldSites.write hf (Or.inr rfl)

omit [Scalar F] in
theorem settleDrop (h : ChangeLog r s) (hs : Keyed s) {dropId : Nat}
    {drop : ResourceDropEntity F} (amount : UInt32)
    (hd : s.drops.lookup dropId = some drop) :
    ChangeLog r (s.settleDrop dropId drop amount) := by
  have hid : drop.id = dropId := (hs.drops dropId drop hd).left
  unfold DungeonRoom.settleDrop
  split
  · refine ⟨h.next, h.units, h.buildings, h.amounts, h.fieldSites, ?_, h.ledgers⟩
    have hgone : s.dropDespawned ⊆ s.dropDespawned ++ [drop.id] :=
      List.subset_append_left s.dropDespawned [drop.id]
    apply (h.dropSites.mono (List.Subset.refl _) (List.Subset.refl _)
      hgone).erase
    rw [hid]
    exact List.mem_append_right _ (List.mem_singleton_self _)
  · exact ⟨h.next, h.units, h.buildings, h.amounts, h.fieldSites,
      h.dropSites.write hd (Or.inr rfl), h.ledgers⟩

omit [Scalar F] in
/-- Writing a ledger that is there and marking it. -/
theorem writeLedger (h : ChangeLog r s) {uid : Nat} {res res' : PlayerRes}
    (hres : s.playerRes.lookup uid = some res) (wrapped : Bool) :
    ChangeLog r
      (({ s with playerRes := s.playerRes.insert uid res' }.noteWrap
        wrapped).markResource uid) := by
  refine ⟨h.next, h.units, h.buildings, h.amounts, h.fieldSites, h.dropSites, ?_⟩
  have hgrown : s.resourceDirty ⊆ s.resourceDirty.insert uid :=
    List.subset_insert uid s.resourceDirty
  apply (h.ledgers.mono hgrown hgrown hgrown).write hres
  exact Or.inl List.mem_insert_self

omit [Scalar F] in
/-- Changes that no client sees. -/
theorem congr {t : DungeonRoom F} (h : ChangeLog r s)
    (hnext : t.nextEntityId = s.nextEntityId) (hunits : t.units = s.units)
    (hbuildings : t.buildings = s.buildings) (hfields : t.fields = s.fields)
    (hdrops : t.drops = s.drops) (hres : t.playerRes = s.playerRes)
    (hlog : (t.dirty, t.spawned, t.despawned, t.buildingDirty,
        t.buildingSpawned, t.buildingDespawned, t.fieldDirty, t.fieldSpawned,
        t.fieldDespawned, t.dropSpawned, t.dropDespawned, t.resourceDirty) =
      (s.dirty, s.spawned, s.despawned, s.buildingDirty, s.buildingSpawned,
        s.buildingDespawned, s.fieldDirty, s.fieldSpawned, s.fieldDespawned,
        s.dropSpawned, s.dropDespawned, s.resourceDirty)) :
    ChangeLog r t := by
  simp only [Prod.mk.injEq] at hlog
  rcases hlog with ⟨h1, h2, h3, h4, h5, h6, h7, h8, h9, h10, h11, h12⟩
  constructor
  · rw [hnext]
    exact h.next
  · rw [hunits, h1, h2, h3]
    exact h.units
  · rw [hbuildings, h4, h5, h6]
    exact h.buildings
  · rw [hfields, h7, h8, h9]
    exact h.amounts
  · rw [hfields, h8, h9]
    exact h.fieldSites
  · rw [hdrops, h10, h11]
    exact h.dropSites
  · rw [hres, h12]
    exact h.ledgers

omit [Scalar F] in
theorem buryUnit (h : ChangeLog r s) (id : Nat) :
    ChangeLog r
      { s with despawned := s.despawned ++ [id], units := s.units.erase id } := by
  refine ⟨h.next, ?_, h.buildings, h.amounts, h.fieldSites, h.dropSites,
    h.ledgers⟩
  apply (h.units.mono (List.Subset.refl _) (List.Subset.refl _)
    (List.subset_append_left s.despawned [id])).erase
  exact List.mem_append_right _ (List.mem_singleton_self _)

omit [Scalar F] in
theorem buryBuilding (h : ChangeLog r s) (id : Nat) :
    ChangeLog r
      { s with
        buildingDespawned := s.buildingDespawned ++ [id]
        buildings := s.buildings.erase id } := by
  refine ⟨h.next, h.units, ?_, h.amounts, h.fieldSites, h.dropSites, h.ledgers⟩
  apply (h.buildings.mono (List.Subset.refl _) (List.Subset.refl _)
    (List.subset_append_left s.buildingDespawned [id])).erase
  exact List.mem_append_right _ (List.mem_singleton_self _)

end ChangeLog

/-!
## Effects keep the log complete
-/

theorem Effect.changeLog
    {keep : DungeonRoom F -> GameUnit F -> GameUnit F -> Prop}
    {r s t : DungeonRoom F} {out : List Nat} (hr : Keyed r) (hs : Keyed s)
    (h : ChangeLog r s) (heff : Effect keep s out t) : ChangeLog r t := by
  cases heff with
  | cool cd hu => exact h.cool cd hu
  | redirect hu hbody _ _ =>
      exact h.commit hu (hbody.id.trans (hs.unit_id hu))
  | @dropLoad id u v hu hbody _ _ _ _ =>
      have hdrop := h.spawnResourceDrop hr u.carriedRaw u.pos u.carriedAmount
      exact hdrop.commit hu (hbody.id.trans (hs.unit_id hu))
  | @harvest id fieldId u v field left hu hbody _ _ _ _ hf _ _ _ _ =>
      have hfield := h.settleField hs left hf
      exact hfield.commit (by simpa using hu) (hbody.id.trans (hs.unit_id hu))
  | @credit id u v res hu hbody _ hres _ _ =>
      rw [deposit_eq hres]
      exact (h.writeLedger hres _).commit hu (hbody.id.trans (hs.unit_id hu))
  | forfeit hu hbody _ _ _ _ =>
      exact h.commit hu (hbody.id.trans (hs.unit_id hu))
  | @take id dropId u v drop hu hbody _ _ _ hd _ _ =>
      have hdrop := h.settleDrop hs (drop.amount - takeAmount u drop) hd
      have hnoted : ChangeLog r
          ((s.settleDrop dropId drop (drop.amount - takeAmount u drop)).noteWrap
            (takeWraps u drop)) :=
        hdrop.congr rfl rfl rfl rfl rfl rfl rfl
      refine hnoted.commit (u := u) ?_ (hbody.id.trans (hs.unit_id hu))
      change (s.settleDrop dropId drop
        (drop.amount - takeAmount u drop)).units.lookup id = some u
      simpa using hu
  | @strikeUnit id targetId u v target hu hbody _ _ ht hteam _ =>
      have hhit : ChangeLog r (s.commit targetId (hitUnit target)) :=
        h.commit (v := hitUnit target) ht (show target.id = targetId from
          hs.unit_id ht)
      exact hhit.commit (strike_lookup hu ht hteam)
        (hbody.id.trans (hs.unit_id hu))
  | @strikeBuilding id targetId u v target hu hbody _ _ ht _ _ =>
      have hhit := h.putBuilding (c := hitBuilding target) ht
        (hs.buildings targetId target ht).left
      exact hhit.commit hu (hbody.id.trans (hs.unit_id hu))
  | @construct id buildingId u v b dt hu hbody _ _ hb _ =>
      have hbuilt := h.putBuilding (c := buildProgress b dt) hb
        (hs.buildings buildingId b hb).left
      exact hbuilt.commit hu (hbody.id.trans (hs.unit_id hu))
  | @train id b queue hb =>
      exact h.putBuilding hb (hs.buildings id b hb).left
  | @graduate id b unitType queue hb =>
      have hspawn := h.spawnTrained hr b unitType
      exact hspawn.putBuilding hb (hs.buildings id b hb).left
  | @buyBuilding uid res buildingType pos yaw hres _ _ =>
      have hpaid : ChangeLog r (s.payFrom uid res (buildingCost buildingType)) :=
        h.writeLedger hres _
      exact hpaid.spawnBuilding hr uid (s.teamOf uid) buildingType pos yaw true
  | @buyTraining uid id res b cost queue hres hb _ =>
      have hpaid : ChangeLog r (s.payFrom uid res cost) := h.writeLedger hres _
      exact hpaid.putBuilding hb (hs.buildings id b hb).left
  | refuse cmd code => exact h.congr rfl rfl rfl rfl rfl rfl rfl
  | @buryUnit id u _ _ => exact h.buryUnit id
  | @buryBuilding id b _ _ => exact h.buryBuilding id
  | scanTick n => exact h.congr rfl rfl rfl rfl rfl rfl rfl
  | forgetPending => exact h.congr rfl rfl rfl rfl rfl rfl rfl

theorem Effects.changeLog
    {keep : DungeonRoom F -> GameUnit F -> GameUnit F -> Prop}
    {r s t : DungeonRoom F} {out : List Nat} (hr : Keyed r) (hs : Keyed s)
    (h : ChangeLog r s) (heff : Effects keep s out t) : ChangeLog r t := by
  have hboth : Keyed t ∧ ChangeLog r t := by
    apply heff.preserves (fun t => Keyed t ∧ ChangeLog r t) _ ⟨hs, h⟩
    rintro s out t ⟨hs, hlog⟩ hmove
    exact ⟨hmove.keyed hs, hmove.changeLog hr hs hlog⟩
  exact hboth.2

/-- A tick's commands and step keep the log complete. -/
theorem tick_changeLog {r : DungeonRoom F} (hr : Keyed r) (ω : IterOrder)
    (dt : F) : ChangeLog r (r.applyPending.step ω dt) := by
  rcases applyPending_effects hr (allJustified_any r r.pending) with
    ⟨_, hcmds, _⟩
  rcases step_effects ω dt r.applyPending with ⟨_, hstep, _⟩
  have hlog := Effects.changeLog hr hr (ChangeLog.refl r) hcmds
  exact Effects.changeLog hr (Effects.keyed hr hcmds) hlog hstep

/-!
## Completeness of the frame changes
-/

/-- Every difference that clients are told about is in a frame-change set. -/
structure ChangesTracked (r s : DungeonRoom F) : Prop where
  unit : forall id u v, r.units.lookup id = some u ->
    s.units.lookup id = some v ->
    (v.pos, v.yaw, v.hp, v.state, v.carriedAmount, v.carriedRaw) ≠
      (u.pos, u.yaw, u.hp, u.state, u.carriedAmount, u.carriedRaw) ->
    id ∈ s.dirty
  building : forall id b c, r.buildings.lookup id = some b ->
    s.buildings.lookup id = some c ->
    (c.hp, c.constructedPercent) ≠ (b.hp, b.constructedPercent) ->
    id ∈ s.buildingDirty
  field : forall id f g, r.fields.lookup id = some f ->
    s.fields.lookup id = some g -> g.amountLeft ≠ f.amountLeft ->
    id ∈ s.fieldDirty
  ledger : forall uid, s.playerRes.lookup uid ≠ r.playerRes.lookup uid ->
    uid ∈ s.resourceDirty
  unitSpawned : forall id, id ∉ r.units -> id ∈ s.units -> id ∈ s.spawned
  buildingSpawned : forall id, id ∉ r.buildings -> id ∈ s.buildings ->
    id ∈ s.buildingSpawned
  fieldSpawned : forall id, id ∉ r.fields -> id ∈ s.fields ->
    id ∈ s.fieldSpawned
  dropSpawned : forall id, id ∉ r.drops -> id ∈ s.drops -> id ∈ s.dropSpawned
  unitDespawned : forall id, id ∈ r.units -> id ∉ s.units -> id ∈ s.despawned
  buildingDespawned : forall id, id ∈ r.buildings -> id ∉ s.buildings ->
    id ∈ s.buildingDespawned
  fieldDespawned : forall id, id ∈ r.fields -> id ∉ s.fields ->
    id ∈ s.fieldDespawned
  dropDespawned : forall id, id ∈ r.drops -> id ∉ s.drops ->
    id ∈ s.dropDespawned

omit [Scalar F] in
theorem ChangeLog.ledger {r s : DungeonRoom F} (h : ChangeLog r s) {uid : Nat}
    (hne : s.playerRes.lookup uid ≠ r.playerRes.lookup uid) :
    uid ∈ s.resourceDirty := by
  cases hold : r.playerRes.lookup uid with
  | none =>
      cases hnew : s.playerRes.lookup uid with
      | none => exact absurd (by rw [hold, hnew]) hne
      | some res => exact h.ledgers.appeared uid res hold hnew
  | some res =>
      cases hnew : s.playerRes.lookup uid with
      | none => exact h.ledgers.vanished uid res hold hnew
      | some res' =>
          apply h.ledgers.changed uid res res' hold hnew
          intro heq
          apply hne
          rw [hold, hnew]
          exact congrArg some heq

omit [Scalar F] in
theorem ChangeLog.complete {r s : DungeonRoom F} (h : ChangeLog r s) :
    ChangesTracked r s := by
  constructor
  · intro id u v hu hv hne
    apply h.units.changed id u v hu hv
    intro hview
    apply hne
    simp only [unitView, Prod.mk.injEq] at hview ⊢
    exact ⟨hview.2.2.2.1, hview.2.2.2.2.1, hview.2.2.2.2.2.1,
      hview.2.2.2.2.2.2.1, hview.2.2.2.2.2.2.2⟩
  · intro id b c hb hc hne
    apply h.buildings.changed id b c hb hc
    intro hview
    apply hne
    simp only [buildingView, Prod.mk.injEq] at hview ⊢
    exact hview.2.2.2.2.2
  · intro id f g hf hg hne
    exact h.amounts.changed id f g hf hg hne
  · intro uid hne
    exact h.ledger hne
  · intro id hold hnew
    exact h.units.listed_of_appeared hold hnew
  · intro id hold hnew
    exact h.buildings.listed_of_appeared hold hnew
  · intro id hold hnew
    exact h.amounts.listed_of_appeared hold hnew
  · intro id hold hnew
    exact h.dropSites.listed_of_appeared hold hnew
  · intro id hold hnew
    exact h.units.listed_of_vanished hold hnew
  · intro id hold hnew
    exact h.buildings.listed_of_vanished hold hnew
  · intro id hold hnew
    exact h.amounts.listed_of_vanished hold hnew
  · intro id hold hnew
    exact h.dropSites.listed_of_vanished hold hnew

/--
Whatever the pending commands and the time step, the frame-change sets after
`ApplyPending` and `Step` contain every change since the state before.
-/
theorem frame_changes_complete {r : DungeonRoom F} (hr : Reachable r)
    (cmds : List (PendingCommand F)) (ω : IterOrder) (dt : F) :
    ChangesTracked r
      (({ r with pending := cmds } : DungeonRoom F).applyPending.step ω dt) := by
  have hkeyed : Keyed ({ r with pending := cmds } : DungeonRoom F) :=
    hr.keyed.congr rfl rfl rfl rfl rfl
  have hlog := tick_changeLog hkeyed ω dt
  have hfrom : ChangeLog r
      (({ r with pending := cmds } : DungeonRoom F).applyPending.step ω dt) :=
    ⟨hlog.next, hlog.units, hlog.buildings, hlog.amounts, hlog.fieldSites,
      hlog.dropSites, hlog.ledgers⟩
  exact hfrom.complete

theorem neighbours_changes_complete :
    ChangesTracked neighbours.clearFrameChanges
      (({ neighbours.clearFrameChanges with
          pending := [trespass] } : DungeonRoom Rat).applyPending.step
        IterOrder.stored (1 / 20)) :=
  frame_changes_complete neighbours_reachable.clearFrameChanges [trespass]
    IterOrder.stored (1 / 20)

end DungeonRoom

end RtsGame
