import RtsGame.Library.Register
import RtsGame.Room.Reachability

/-!
# The identity of entities

A room is a register of units, buildings, fields and drops, which share one
counter.  Every effect is at most one enlistment or one dismissal, so that no
two entities ever have the same id, and an id that was listed as despawned does
not come back.
-/

namespace RtsGame

open Scalar

/-- The four tables of entities. -/
inductive EntityKind where
  | unit
  | building
  | field
  | drop
deriving DecidableEq, Repr

namespace EntityKind

def all : List EntityKind := [unit, building, field, drop]

theorem all_nodup : all.Nodup := by decide

end EntityKind

namespace DungeonRoom

variable {F : Type}

/-- The keys of one of the tables. -/
def entityKeys (r : DungeonRoom F) : EntityKind -> Set Nat
  | EntityKind.unit => { id | id ∈ r.units }
  | EntityKind.building => { id | id ∈ r.buildings }
  | EntityKind.field => { id | id ∈ r.fields }
  | EntityKind.drop => { id | id ∈ r.drops }

def spawnList (r : DungeonRoom F) : EntityKind -> List Nat
  | EntityKind.unit => r.spawned
  | EntityKind.building => r.buildingSpawned
  | EntityKind.field => r.fieldSpawned
  | EntityKind.drop => r.dropSpawned

def despawnList (r : DungeonRoom F) : EntityKind -> List Nat
  | EntityKind.unit => r.despawned
  | EntityKind.building => r.buildingDespawned
  | EntityKind.field => r.fieldDespawned
  | EntityKind.drop => r.dropDespawned

/-- The room as a register of its entities. -/
def census (r : DungeonRoom F) : Register EntityKind where
  next := r.nextEntityId
  present := r.entityKeys
  enlisted := r.spawnList
  dismissed := r.despawnList

/-!
## Writing, adding and removing entities
-/

/-- Nothing came and nothing went. -/
theorem census_congr {r s : DungeonRoom F} (hnext : s.nextEntityId = r.nextEntityId)
    (hkeys : forall k id, id ∈ s.entityKeys k <-> id ∈ r.entityKeys k)
    (hspawn : s.spawnList = r.spawnList) (hdespawn : s.despawnList = r.despawnList) :
    s.census = r.census := by
  apply Register.ext
  · exact hnext
  · funext k
    exact Set.ext (hkeys k)
  · exact hspawn
  · exact hdespawn

theorem census_putUnit {r : DungeonRoom F} {id : Nat} {u : GameUnit F}
    (v : GameUnit F) (hu : r.units.lookup id = some u) :
    (r.putUnit id v).census = r.census := by
  refine census_congr rfl ?_ rfl rfl
  intro k j
  cases k with
  | unit => exact Table.mem_insert_of_lookup _ hu
  | building => exact Iff.rfl
  | field => exact Iff.rfl
  | drop => exact Iff.rfl

theorem census_commit {r : DungeonRoom F} {id : Nat} {u : GameUnit F}
    (v : GameUnit F) (hu : r.units.lookup id = some u) :
    (r.commit id v).census = r.census :=
  (rfl : (r.commit id v).census = (r.putUnit id v).census).trans (census_putUnit v hu)

theorem census_putBuilding {r : DungeonRoom F} {id : Nat} {b : Building F}
    (c : Building F) (mark : Nat) (hb : r.buildings.lookup id = some b) :
    ((r.putBuilding id c).markBuilding mark).census = r.census := by
  refine census_congr rfl ?_ rfl rfl
  intro k j
  cases k with
  | unit => exact Iff.rfl
  | building => exact Table.mem_insert_of_lookup _ hb
  | field => exact Iff.rfl
  | drop => exact Iff.rfl

/-- One table got the next id, and so did its list of spawned entities. -/
theorem census_enlist {r s : DungeonRoom F} (k : EntityKind)
    (hnext : s.nextEntityId = r.nextEntityId + 1)
    (hkey : forall id, id ∈ s.entityKeys k <-> id = r.nextEntityId ∨ id ∈ r.entityKeys k)
    (hlist : s.spawnList k = r.spawnList k ++ [r.nextEntityId])
    (hothers : forall j, j ≠ k ->
      s.entityKeys j = r.entityKeys j ∧ s.spawnList j = r.spawnList j)
    (hdespawn : s.despawnList = r.despawnList) :
    s.census = r.census.enlist k := by
  apply Register.ext
  · exact hnext
  · funext j
    by_cases hj : j = k
    · subst hj
      simp only [census, Register.enlist, Function.update_self]
      exact Set.ext hkey
    · simp only [census, Register.enlist, Function.update_of_ne hj]
      exact (hothers j hj).left
  · funext j
    by_cases hj : j = k
    · subst hj
      simp only [census, Register.enlist, Function.update_self]
      exact hlist
    · simp only [census, Register.enlist, Function.update_of_ne hj]
      exact (hothers j hj).right
  · exact hdespawn

/-- One table lost an id, which its list of despawned entities got. -/
theorem census_dismiss {r s : DungeonRoom F} (k : EntityKind) (id : Nat)
    (hnext : s.nextEntityId = r.nextEntityId)
    (hkey : forall x, x ∈ s.entityKeys k <-> x ∈ r.entityKeys k ∧ x ≠ id)
    (hspawn : s.spawnList = r.spawnList)
    (hlist : s.despawnList k = r.despawnList k ++ [id])
    (hothers : forall j, j ≠ k ->
      s.entityKeys j = r.entityKeys j ∧ s.despawnList j = r.despawnList j) :
    s.census = r.census.dismiss k id := by
  apply Register.ext
  · exact hnext
  · funext j
    by_cases hj : j = k
    · subst hj
      simp only [census, Register.dismiss, Function.update_self]
      exact Set.ext hkey
    · simp only [census, Register.dismiss, Function.update_of_ne hj]
      exact (hothers j hj).left
  · exact hspawn
  · funext j
    by_cases hj : j = k
    · subst hj
      simp only [census, Register.dismiss, Function.update_self]
      exact hlist
    · simp only [census, Register.dismiss, Function.update_of_ne hj]
      exact (hothers j hj).right

theorem settleField_change {r : DungeonRoom F} (hr : Keyed r) {fieldId : Nat}
    {field : ResourceFieldEntity F} (left : UInt32)
    (hf : r.fields.lookup fieldId = some field) :
    Register.Change r.census (r.settleField fieldId field left).census := by
  unfold settleField
  split
  · have hdismiss : census
        { r with
          fieldDirty := r.fieldDirty.insert field.id
          fieldDespawned := r.fieldDespawned ++ [field.id]
          fields := r.fields.erase fieldId } =
        r.census.dismiss EntityKind.field fieldId := by
      refine census_dismiss _ _ rfl (fun x => Table.mem_erase_iff) rfl ?_ ?_
      · change r.fieldDespawned ++ [field.id] = r.fieldDespawned ++ [fieldId]
        rw [(hr.fields fieldId field hf).left]
      · intro j hj
        cases j with
        | field => exact absurd rfl hj
        | _ => exact ⟨rfl, rfl⟩
    rw [hdismiss]
    exact Register.Change.dismiss (Table.mem_of_lookup hf)
  · have hsame : census
        { r with
          fieldDirty := r.fieldDirty.insert field.id
          fields := r.fields.insert fieldId { field with amountLeft := left } } =
        r.census := by
      refine census_congr rfl ?_ rfl rfl
      intro k j
      cases k with
      | field => exact Table.mem_insert_of_lookup _ hf
      | _ => exact Iff.rfl
    rw [hsame]
    exact Register.Change.same

theorem settleDrop_change {r : DungeonRoom F} (hr : Keyed r) {dropId : Nat}
    {drop : ResourceDropEntity F} (amount : UInt32)
    (hd : r.drops.lookup dropId = some drop) :
    Register.Change r.census (r.settleDrop dropId drop amount).census := by
  unfold settleDrop
  split
  · have hdismiss : census
        { r with
          dropDespawned := r.dropDespawned ++ [drop.id]
          drops := r.drops.erase dropId } =
        r.census.dismiss EntityKind.drop dropId := by
      refine census_dismiss _ _ rfl (fun x => Table.mem_erase_iff) rfl ?_ ?_
      · change r.dropDespawned ++ [drop.id] = r.dropDespawned ++ [dropId]
        rw [(hr.drops dropId drop hd).left]
      · intro j hj
        cases j with
        | drop => exact absurd rfl hj
        | _ => exact ⟨rfl, rfl⟩
    rw [hdismiss]
    exact Register.Change.dismiss (Table.mem_of_lookup hd)
  · have hsame : census
        { r with drops := r.drops.insert dropId { drop with amount := amount } } =
        r.census := by
      refine census_congr rfl ?_ rfl rfl
      intro k j
      cases k with
      | drop => exact Table.mem_insert_of_lookup _ hd
      | _ => exact Iff.rfl
    rw [hsame]
    exact Register.Change.same

/-- A unit with the next id. -/
theorem census_addUnit (r : DungeonRoom F) (u : GameUnit F) :
    census
      { r with
        nextEntityId := r.nextEntityId + 1
        units := r.units.insert r.nextEntityId u
        spawned := r.spawned ++ [r.nextEntityId] } =
      r.census.enlist EntityKind.unit := by
  refine census_enlist _ rfl (fun id => AList.mem_insert _) rfl ?_ rfl
  intro j hj
  cases j with
  | unit => exact absurd rfl hj
  | _ => exact ⟨rfl, rfl⟩

theorem census_spawnResourceDrop (r : DungeonRoom F) (raw : Nat) (pos : Vec3f F)
    (amount : UInt32) :
    (r.spawnResourceDrop raw pos amount).census = r.census.enlist EntityKind.drop := by
  refine census_enlist _ rfl (fun id => AList.mem_insert _) rfl ?_ rfl
  intro j hj
  cases j with
  | drop => exact absurd rfl hj
  | _ => exact ⟨rfl, rfl⟩

variable [Scalar F]

theorem census_spawnBuilding (r : DungeonRoom F) (ownerUid team buildingType : Nat)
    (pos : Vec3f F) (yaw : F) (site : Bool) :
    (r.spawnBuilding ownerUid team buildingType pos yaw site).census =
      r.census.enlist EntityKind.building := by
  refine census_enlist _ rfl (fun id => AList.mem_insert _) rfl ?_ rfl
  intro j hj
  cases j with
  | building => exact absurd rfl hj
  | _ => exact ⟨rfl, rfl⟩

theorem census_spawnResourceField (r : DungeonRoom F) (raw : Nat) (pos : Vec3f F)
    (amount : UInt32) :
    (r.spawnResourceField raw pos amount).census =
      r.census.enlist EntityKind.field := by
  refine census_enlist _ rfl (fun id => AList.mem_insert _) rfl ?_ rfl
  intro j hj
  cases j with
  | field => exact absurd rfl hj
  | _ => exact ⟨rfl, rfl⟩

/-!
## Effects
-/

omit [Scalar F] in
theorem buryUnit_change {r : DungeonRoom F} {id : Nat} {u : GameUnit F}
    (hu : r.units.lookup id = some u) :
    Register.Change r.census (census { r with
      despawned := r.despawned ++ [id]
      units := r.units.erase id }) := by
  have hdismiss : census
      { r with
        despawned := r.despawned ++ [id]
        units := r.units.erase id } = r.census.dismiss EntityKind.unit id := by
    refine census_dismiss _ _ rfl (fun x => Table.mem_erase_iff) rfl rfl ?_
    intro j hj
    cases j with
    | unit => exact absurd rfl hj
    | _ => exact ⟨rfl, rfl⟩
  rw [hdismiss]
  exact Register.Change.dismiss (Table.mem_of_lookup hu)

omit [Scalar F] in
theorem buryBuilding_change {r : DungeonRoom F} {id : Nat} {b : Building F}
    (hb : r.buildings.lookup id = some b) :
    Register.Change r.census (census { r with
      buildingDespawned := r.buildingDespawned ++ [id]
      buildings := r.buildings.erase id }) := by
  have hdismiss : census
      { r with
        buildingDespawned := r.buildingDespawned ++ [id]
        buildings := r.buildings.erase id } = r.census.dismiss EntityKind.building id := by
    refine census_dismiss _ _ rfl (fun x => Table.mem_erase_iff) rfl rfl ?_
    intro j hj
    cases j with
    | building => exact absurd rfl hj
    | _ => exact ⟨rfl, rfl⟩
  rw [hdismiss]
  exact Register.Change.dismiss (Table.mem_of_lookup hb)

/-- An effect brings at most one entity, or takes at most one away. -/
theorem Effect.change
    {keep : DungeonRoom F -> GameUnit F -> GameUnit F -> Prop}
    {r s : DungeonRoom F} {out : List Nat} (hr : Keyed r)
    (heff : Effect keep r out s) : Register.Change r.census s.census := by
  cases heff with
  | cool cd hu =>
      rw [census_putUnit _ hu]
      exact Register.Change.same
  | redirect hu _ _ _ =>
      rw [census_commit _ hu]
      exact Register.Change.same
  | @dropLoad id u v hu _ _ _ _ _ =>
      have hu' : (r.spawnResourceDrop u.carriedRaw u.pos
          u.carriedAmount).units.lookup id = some u := hu
      rw [census_commit v hu', census_spawnResourceDrop]
      exact Register.Change.enlist _
  | @harvest id fieldId u v field left hu _ _ _ _ _ hf _ _ _ _ =>
      have hu' : (r.settleField fieldId field left).units.lookup id = some u := by
        simpa using hu
      rw [census_commit v hu']
      exact settleField_change hr left hf
  | @credit id u v res hu _ _ hres _ _ =>
      rw [deposit_eq hres]
      have hsame : (r.commit id v).census = r.census := census_commit v hu
      change Register.Change r.census (r.commit id v).census
      rw [hsame]
      exact Register.Change.same
  | forfeit hu _ _ _ _ _ =>
      rw [census_commit _ hu]
      exact Register.Change.same
  | @take id dropId u v drop hu _ _ _ _ hd _ _ =>
      have hu' : (r.settleDrop dropId drop
          (drop.amount - takeAmount u drop)).units.lookup id = some u := by
        simpa using hu
      change Register.Change r.census
        ((r.settleDrop dropId drop (drop.amount - takeAmount u drop)).commit id
          v).census
      rw [census_commit v hu']
      exact settleDrop_change hr _ hd
  | @strikeUnit id targetId u v target hu _ _ _ ht hteam _ =>
      have hu' : (r.commit targetId (hitUnit target)).units.lookup id = some u :=
        strike_lookup hu ht hteam
      change Register.Change r.census
        ((r.commit targetId (hitUnit target)).commit id v).census
      rw [census_commit v hu', census_commit _ ht]
      exact Register.Change.same
  | @strikeBuilding id targetId u v target hu _ _ _ ht _ _ =>
      have hu' : ((r.putBuilding targetId (hitBuilding target)).markBuilding
          target.id).units.lookup id = some u := hu
      rw [census_commit v hu', census_putBuilding _ _ ht]
      exact Register.Change.same
  | @construct id buildingId u v b dt hu _ _ _ hb _ =>
      have hu' : ((r.putBuilding buildingId (buildProgress b dt)).markBuilding
          b.id).units.lookup id = some u := hu
      rw [census_commit v hu', census_putBuilding _ _ hb]
      exact Register.Change.same
  | train queue hb =>
      rw [census_putBuilding _ _ hb]
      exact Register.Change.same
  | @graduate id b unitType queue hb =>
      have hb' : (r.spawnTrained b unitType).buildings.lookup id = some b := hb
      rw [census_putBuilding _ _ hb']
      have hadd : (r.spawnTrained b unitType).census =
          r.census.enlist EntityKind.unit := census_addUnit r _
      rw [hadd]
      exact Register.Change.enlist _
  | @buyBuilding uid res buildingType pos yaw _ _ _ =>
      rw [census_spawnBuilding]
      have hpaid : (r.payFrom uid res (buildingCost buildingType)).census =
          r.census := rfl
      rw [hpaid]
      exact Register.Change.enlist _
  | @buyTraining uid id res b cost queue _ hb _ =>
      have hb' : (r.payFrom uid res cost).buildings.lookup id = some b := hb
      rw [census_putBuilding _ _ hb']
      exact Register.Change.same
  | refuse cmd code => exact Register.Change.same
  | buryUnit hu _ => exact buryUnit_change hu
  | buryBuilding hb _ => exact buryBuilding_change hb
  | scanTick n => exact Register.Change.same
  | forgetPending => exact Register.Change.same

theorem Effects.later
    {keep : DungeonRoom F -> GameUnit F -> GameUnit F -> Prop}
    {r s : DungeonRoom F} {out : List Nat} (hr : Keyed r) (h : r.census.Proper)
    (heff : Effects keep r out s) : s.census.Proper ∧ r.census.Later s.census := by
  have hall : Keyed s ∧ s.census.Proper ∧ r.census.Later s.census := by
    apply heff.preserves
      (fun t => Keyed t ∧ t.census.Proper ∧ r.census.Later t.census) _
      ⟨hr, h, Register.Later.refl h⟩
    rintro t out t' ⟨ht, hproper, hlater⟩ hmove
    have hchange := hmove.change ht
    exact ⟨hmove.keyed ht, hproper.change hchange, hlater.change hproper hchange⟩
  exact hall.right

/-!
## Calls
-/

/-- A call that does not empty the lists adds to them. -/
theorem call_later {r : DungeonRoom F} (hr : Keyed r) (h : r.census.Proper)
    {c : RoomCall F} (hc : c ≠ RoomCall.clearFrameChanges) :
    (r.call c).census.Proper ∧ r.census.Later (r.call c).census := by
  have hsame : forall s : DungeonRoom F, s.census = r.census ->
      s.census.Proper ∧ r.census.Later s.census := by
    intro s heq
    rw [heq]
    exact ⟨h, Register.Later.refl h⟩
  have hadds : forall (s : DungeonRoom F) k, s.census = r.census.enlist k ->
      s.census.Proper ∧ r.census.Later s.census := by
    intro s k heq
    rw [heq]
    exact ⟨h.enlist k, (Register.Later.refl h).enlist k⟩
  cases c with
  | addPlayer uid =>
      cases hadd : r.addPlayer uid with
      | none =>
          simp only [call, hadd]
          exact hsame r rfl
      | some joined =>
          simp only [call, hadd]
          apply hsame
          rcases addPlayer_cases hadd with ⟨hjoined, _⟩ | ⟨_, _, _, hjoined⟩
          · rw [Option.map_some, Option.getD_some, hjoined]
          · rw [Option.map_some, Option.getD_some, hjoined]
            rfl
  | setReady uid ready =>
      cases hready : r.setReady uid ready with
      | none =>
          simp only [call, hready]
          exact hsame r rfl
      | some s =>
          simp only [call, hready]
          apply hsame
          rcases setReady_cases hready with ⟨_, _, rfl⟩
          rfl
  | removePlayer uid => exact hsame _ rfl
  | setStarted started => exact hsame _ rfl
  | setGameOver finished => exact hsame _ rfl
  | nextServerTick => exact hsame _ rfl
  | spawnUnit ownerUid team unitType pos hp speed yaw =>
      exact hadds _ _ (census_addUnit r _)
  | spawnBuilding ownerUid team buildingType pos yaw site =>
      exact hadds _ _ (census_spawnBuilding r ownerUid team buildingType pos yaw site)
  | spawnResourceField raw pos amount =>
      exact hadds _ _ (census_spawnResourceField r raw pos amount)
  | spawnResourceDrop raw pos amount =>
      exact hadds _ _ (census_spawnResourceDrop r raw pos amount)
  | enqueueCommand cmd => exact hsame _ rfl
  | applyPending =>
      rcases applyPending_effects hr (allJustified_any r r.pending) with ⟨_, heff, _⟩
      exact Effects.later hr h heff
  | takeRejected => exact hsame _ rfl
  | step ω dt =>
      rcases step_effects ω dt r with ⟨_, heff, _⟩
      exact Effects.later hr h heff
  | beginBattle => exact hsame _ rfl
  | clearFrameChanges => exact absurd rfl hc

/--
The room after a call, with what the call put on the lists: first the spawned
entities, then the despawned ones.
-/
def chronicled (r : DungeonRoom F) (c : RoomCall F) :
    DungeonRoom F × List (LifeEvent EntityKind) :=
  (r.call c, Register.events EntityKind.all r.census (r.call c).census)

/-- What identifies the entities of a room. -/
structure Identified (r : DungeonRoom F) : Prop where
  keyed : Keyed r
  nonzero : forall k id, id ∈ r.entityKeys k -> id ≠ 0
  apart : forall k j id, id ∈ r.entityKeys k -> id ∈ r.entityKeys j -> k = j
  once : forall k, (r.spawnList k).Nodup

omit [Scalar F] in
theorem identified_of_proper {r : DungeonRoom F} (hr : Keyed r)
    (h : r.census.Proper) : Identified r := by
  refine ⟨hr, ?_, h.apart, h.once⟩
  intro k id hid
  exact Nat.ne_of_gt (h.bounds k id hid).left

omit [Scalar F] in
theorem create_proper (roomId : Nat) (roomName : String) (maxPlayers : Nat) :
    (create roomId roomName maxPlayers : DungeonRoom F).census.Proper := by
  have hnone : forall k id,
      id ∉ (create roomId roomName maxPlayers : DungeonRoom F).entityKeys k := by
    intro k id
    cases k with
    | unit => exact AList.notMem_empty id
    | building => exact AList.notMem_empty id
    | field => exact AList.notMem_empty id
    | drop => exact AList.notMem_empty id
  constructor
  · exact Nat.one_pos
  · intro k id hid
    exact absurd hid (hnone k id)
  · intro k j id hid
    exact absurd hid (hnone k id)
  · intro k id hid
    cases k with
    | unit => cases hid
    | building => cases hid
    | field => cases hid
    | drop => cases hid
  · intro k
    cases k with
    | unit => exact List.nodup_nil
    | building => exact List.nodup_nil
    | field => exact List.nodup_nil
    | drop => exact List.nodup_nil

omit [Scalar F] in
/-- Emptying the lists of the frame says nothing about the entities. -/
theorem clearFrameChanges_lists (r : DungeonRoom F) :
    (forall k, r.clearFrameChanges.spawnList k = []) ∧
      forall k, r.clearFrameChanges.despawnList k = [] := by
  constructor
  · intro k
    cases k with
    | _ => rfl
  · intro k
    cases k with
    | _ => rfl

theorem call_proper {r : DungeonRoom F} (hr : Keyed r) (h : r.census.Proper)
    (c : RoomCall F) : (r.call c).census.Proper := by
  cases c with
  | clearFrameChanges =>
      have hkeys : r.clearFrameChanges.entityKeys = r.entityKeys := rfl
      exact h.of_lists rfl hkeys (clearFrameChanges_lists r).left
  | _ => exact (call_later hr h (by simp)).left

theorem call_chronicled {past : List (LifeEvent EntityKind)} {r : DungeonRoom F}
    (hr : Keyed r) (h : r.census.Proper) (hpast : Register.Chronicled past r.census)
    (c : RoomCall F) :
    Register.Chronicled (past ++ (r.chronicled c).2) (r.chronicled c).1.census := by
  cases c with
  | clearFrameChanges =>
      have hnone : (r.chronicled RoomCall.clearFrameChanges).2 = [] :=
        Register.events_of_empty EntityKind.all r.census
          (clearFrameChanges_lists r).left (clearFrameChanges_lists r).right
      rw [hnone, List.append_nil]
      exact hpast.emptied rfl rfl
  | _ => exact hpast.later EntityKind.all_nodup (call_later hr h (by simp)).right

/--
After every sequence of calls each entity is stored under its own id, which is
not zero, lies below the counter and belongs to no entity of another kind; no
spawn list names an id twice; and an id that was put on a despawn list is in
none of the tables and is not put on any list again.
-/
theorem run_identity (roomId : Nat) (roomName : String) (maxPlayers : Nat)
    (calls : List (RoomCall F)) :
    Identified (runMachine chronicled (create roomId roomName maxPlayers) calls).1 ∧
      Register.Chronicled
        (runMachine chronicled (create roomId roomName maxPlayers) calls).2
        (runMachine chronicled (create roomId roomName maxPlayers) calls).1.census := by
  have hinit : Register.Chronicled []
      (create roomId roomName maxPlayers : DungeonRoom F).census := by
    refine ⟨?_, List.Pairwise.nil⟩
    intro k id hid
    cases hid
  have hrun := runMachine_invariant
    (fun past (r : DungeonRoom F) => Reachable r ∧ r.census.Proper ∧
      Register.Chronicled past r.census)
    (by
      rintro past r c ⟨hr, hproper, hpast⟩
      exact ⟨hr.call c, call_proper hr.keyed hproper c,
        call_chronicled hr.keyed hproper hpast c⟩)
    [] _ ⟨Reachable.create roomId roomName maxPlayers, create_proper _ _ _, hinit⟩ calls
  rcases hrun with ⟨hreach, hproper, hpast⟩
  exact ⟨identified_of_proper hreach.keyed hproper, hpast⟩

end DungeonRoom

end RtsGame
