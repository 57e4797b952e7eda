import RtsGame.Library.Replica
import RtsGame.Room.FrameLists
import RtsGame.Shard.Accounts

/-!
# Client replicas

A client keeps the five collections of a snapshot and updates them with the
messages of its room.  Snapshots carry everything.  The messages of the other
ticks follow the units, the buildings and the ledgers exactly, but of fields
and drops they tell only which ones come and go: a client does not learn that
one of them has become smaller before the next snapshot.
-/

namespace RtsGame

open Scalar
open DungeonRoom

variable {B F : Type}

/-- The five collections of a snapshot, as a client keeps them. -/
@[ext] structure Replica (F : Type) where
  units : Replicated (UnitStateSnapshot F)
  buildings : Replicated (BuildingStateSnapshot F)
  resourceFields : Replicated (ResourceFieldStateSnapshot F)
  resourceDrops : Replicated (ResourceDropStateSnapshot F)
  resources : Replicated PlayerResources

namespace Replica

def empty : Replica F :=
  ⟨Replicated.blank, Replicated.blank, Replicated.blank, Replicated.blank,
    Replicated.blank⟩

/-- A snapshot replaces everything. -/
def ofSnapshot (snapshot : SnapshotNtf F) : Replica F where
  units := Replicated.putAll UnitStateSnapshot.id Replicated.blank snapshot.units
  buildings := Replicated.putAll BuildingStateSnapshot.id Replicated.blank
    snapshot.buildings
  resourceFields := Replicated.putAll ResourceFieldStateSnapshot.id
    Replicated.blank snapshot.resourceFields
  resourceDrops := Replicated.putAll ResourceDropStateSnapshot.id
    Replicated.blank snapshot.resourceDrops
  resources := Replicated.putAll PlayerResources.uid Replicated.blank
    snapshot.resources

def spawn (m : Replica F) : EntityState F -> Replica F
  | EntityState.unit state => { m with units := m.units.put state.id state }
  | EntityState.building state =>
      { m with buildings := m.buildings.put state.id state }
  | EntityState.resourceField state =>
      { m with resourceFields := m.resourceFields.put state.id state }
  | EntityState.resourceDrop state =>
      { m with resourceDrops := m.resourceDrops.put state.id state }

def despawn (m : Replica F) : EntityType × Nat -> Replica F
  | (EntityType.unit, id) => { m with units := m.units.remove id }
  | (EntityType.building, id) => { m with buildings := m.buildings.remove id }
  | (EntityType.resourceField, id) =>
      { m with resourceFields := m.resourceFields.remove id }
  | (EntityType.resourceDrop, id) =>
      { m with resourceDrops := m.resourceDrops.remove id }

/-- The entries of a delta overwrite what is known under their ids. -/
def overwrite (m : Replica F) (delta : WorldDeltaNtf F) : Replica F :=
  { m with
    units := Replicated.putAll UnitStateSnapshot.id m.units delta.units
    buildings := Replicated.putAll BuildingStateSnapshot.id m.buildings
      delta.buildings
    resources := Replicated.putAll PlayerResources.uid m.resources
      delta.resources }

def receive (m : Replica F) : ServerMsg F -> Replica F
  | ServerMsg.snapshotNtf snapshot => ofSnapshot snapshot
  | ServerMsg.entitySpawnNtf _ _ state => m.spawn state
  | ServerMsg.entityDespawnNtf _ _ type id => m.despawn (type, id)
  | ServerMsg.worldDeltaNtf delta => m.overwrite delta
  | _ => m

end Replica

/-- The messages that describe the world of a room. -/
def ShardEvent.worldMsg (roomId : Nat) : ShardEvent F -> Option (ServerMsg F)
  | ShardEvent.sent _ _ msg _ =>
      if msg.syncRoom = some roomId then some msg else none
  | ShardEvent.ran _ _ => none

/-- The replica of a client that receives every message of a room in order. -/
def replica (roomId : Nat) (events : List (ShardEvent F)) : Replica F :=
  (events.filterMap (ShardEvent.worldMsg roomId)).foldl Replica.receive
    Replica.empty

/-!
## Snapshots
-/

/-- What there is to know about a room. -/
def DungeonRoom.world (r : DungeonRoom F) : Replica F where
  units := Replicated.ofTable (fun _ => fillUnitSnapshot) r.units
  buildings := Replicated.ofTable (fun _ => fillBuildingSnapshot) r.buildings
  resourceFields := Replicated.ofTable (fun _ => fillFieldSnapshot) r.fields
  resourceDrops := Replicated.ofTable (fun _ => fillDropSnapshot) r.drops
  resources := Replicated.ofTable fillPlayerResources r.playerRes

/-- A snapshot tells everything, in whatever order. -/
theorem ofSnapshot_snapshotOf (ω : RoomOrders) {r : DungeonRoom F}
    (hr : Keyed r) : Replica.ofSnapshot (snapshotOf ω r) = r.world := by
  unfold Replica.ofSnapshot snapshotOf DungeonRoom.world
  dsimp only
  rw [Replicated.map_values, Replicated.map_values, Replicated.map_values,
    Replicated.map_values]
  congr 1
  · exact Replicated.putAll_visit ω.world fun id u hu => (hr.units id u hu).1
  · exact Replicated.putAll_visit ω.world fun id b hb => (hr.buildings id b hb).1
  · exact Replicated.putAll_visit ω.world fun id f hf => (hr.fields id f hf).1
  · exact Replicated.putAll_visit ω.world fun id d hd => (hr.drops id d hd).1
  · exact Replicated.putAll_visit ω.ledgers fun uid res _ => rfl

/-!
## Deltas
-/

section Deltas

open Replicated

theorem spawnStates_eq (s : DungeonRoom F) :
    spawnStates s =
      (reports (fun _ => fillUnitSnapshot) s.units s.spawned).map
          EntityState.unit ++
        (reports (fun _ => fillBuildingSnapshot) s.buildings
          s.buildingSpawned).map EntityState.building ++
        (reports (fun _ => fillFieldSnapshot) s.fields s.fieldSpawned).map
          EntityState.resourceField ++
        (reports (fun _ => fillDropSnapshot) s.drops s.dropSpawned).map
          EntityState.resourceDrop := by
  unfold spawnStates reports ofTable
  simp only [List.map_filterMap, Option.map_map]
  rfl

/-- The new entities reach each collection on its own. -/
theorem foldl_spawn (m : Replica F) (s : DungeonRoom F) :
    (spawnStates s).foldl Replica.spawn m =
      { units := putAll UnitStateSnapshot.id m.units
          (reports (fun _ => fillUnitSnapshot) s.units s.spawned)
        buildings := putAll BuildingStateSnapshot.id m.buildings
          (reports (fun _ => fillBuildingSnapshot) s.buildings s.buildingSpawned)
        resourceFields := putAll ResourceFieldStateSnapshot.id m.resourceFields
          (reports (fun _ => fillFieldSnapshot) s.fields s.fieldSpawned)
        resourceDrops := putAll ResourceDropStateSnapshot.id m.resourceDrops
          (reports (fun _ => fillDropSnapshot) s.drops s.dropSpawned)
        resources := m.resources } := by
  have hunits : forall (m : Replica F) (vs : List (UnitStateSnapshot F)),
      vs.foldl (fun m v => m.spawn (EntityState.unit v)) m =
        { m with units := putAll UnitStateSnapshot.id m.units vs } :=
    fun m vs => List.foldl_hom (fun c => { m with units := c }) fun _ _ => rfl
  have hbuildings : forall (m : Replica F) (vs : List (BuildingStateSnapshot F)),
      vs.foldl (fun m v => m.spawn (EntityState.building v)) m =
        { m with buildings := putAll BuildingStateSnapshot.id m.buildings vs } :=
    fun m vs => List.foldl_hom (fun c => { m with buildings := c })
      fun _ _ => rfl
  have hfields : forall (m : Replica F)
      (vs : List (ResourceFieldStateSnapshot F)),
      vs.foldl (fun m v => m.spawn (EntityState.resourceField v)) m =
        { m with
          resourceFields :=
            putAll ResourceFieldStateSnapshot.id m.resourceFields vs } :=
    fun m vs => List.foldl_hom (fun c => { m with resourceFields := c })
      fun _ _ => rfl
  have hdrops : forall (m : Replica F) (vs : List (ResourceDropStateSnapshot F)),
      vs.foldl (fun m v => m.spawn (EntityState.resourceDrop v)) m =
        { m with
          resourceDrops :=
            putAll ResourceDropStateSnapshot.id m.resourceDrops vs } :=
    fun m vs => List.foldl_hom (fun c => { m with resourceDrops := c })
      fun _ _ => rfl
  rw [spawnStates_eq, List.foldl_append, List.foldl_append, List.foldl_append,
    List.foldl_map, List.foldl_map, List.foldl_map, List.foldl_map, hunits,
    hbuildings, hfields, hdrops]

/-- So do the entities that are gone. -/
theorem foldl_despawn (m : Replica F) (s : DungeonRoom F) :
    (despawnRefs s).foldl Replica.despawn m =
      { units := removeAll m.units s.despawned
        buildings := removeAll m.buildings s.buildingDespawned
        resourceFields := removeAll m.resourceFields s.fieldDespawned
        resourceDrops := removeAll m.resourceDrops s.dropDespawned
        resources := m.resources } := by
  have hunits : forall (m : Replica F) (ids : List Nat),
      ids.foldl (fun m id => m.despawn (EntityType.unit, id)) m =
        { m with units := removeAll m.units ids } :=
    fun m vs => List.foldl_hom (fun c => { m with units := c }) fun _ _ => rfl
  have hbuildings : forall (m : Replica F) (ids : List Nat),
      ids.foldl (fun m id => m.despawn (EntityType.building, id)) m =
        { m with buildings := removeAll m.buildings ids } :=
    fun m vs => List.foldl_hom (fun c => { m with buildings := c })
      fun _ _ => rfl
  have hfields : forall (m : Replica F) (ids : List Nat),
      ids.foldl (fun m id => m.despawn (EntityType.resourceField, id)) m =
        { m with resourceFields := removeAll m.resourceFields ids } :=
    fun m vs => List.foldl_hom (fun c => { m with resourceFields := c })
      fun _ _ => rfl
  have hdrops : forall (m : Replica F) (ids : List Nat),
      ids.foldl (fun m id => m.despawn (EntityType.resourceDrop, id)) m =
        { m with resourceDrops := removeAll m.resourceDrops ids } :=
    fun m vs => List.foldl_hom (fun c => { m with resourceDrops := c })
      fun _ _ => rfl
  rw [despawnRefs, List.foldl_append, List.foldl_append, List.foldl_append,
    List.foldl_map, List.foldl_map, List.foldl_map, List.foldl_map, hunits,
    hbuildings, hfields, hdrops]

/-- A delta without changes is not sent, and would change nothing. -/
theorem overwrite_silent {delta : WorldDeltaNtf F}
    (h : delta.hasChanges = false) (m : Replica F) : m.overwrite delta = m := by
  simp only [WorldDeltaNtf.hasChanges, Bool.not_eq_false', Bool.and_eq_true,
    List.isEmpty_iff] at h
  rw [Replica.overwrite, h.1.1, h.1.2, h.2]
  rfl

/-- The messages of a delta tick bring each collection its reports. -/
theorem receive_deltaMsgs (ω : RoomOrders) (m : Replica F) (s : DungeonRoom F) :
    (deltaMsgs ω s).foldl Replica.receive m =
      { units := replay UnitStateSnapshot.id m.units
          (reports (fun _ => fillUnitSnapshot) s.units s.spawned) s.despawned
          (reports (fun _ => fillUnitSnapshot) s.units
            ((ω.world.order s.dirty).filter fun id => id ∉ s.spawned))
        buildings := replay BuildingStateSnapshot.id m.buildings
          (reports (fun _ => fillBuildingSnapshot) s.buildings s.buildingSpawned)
          s.buildingDespawned
          (reports (fun _ => fillBuildingSnapshot) s.buildings
            ((ω.world.order s.buildingDirty).filter fun id =>
              id ∉ s.buildingSpawned))
        resourceFields := replay ResourceFieldStateSnapshot.id m.resourceFields
          (reports (fun _ => fillFieldSnapshot) s.fields s.fieldSpawned)
          s.fieldDespawned []
        resourceDrops := replay ResourceDropStateSnapshot.id m.resourceDrops
          (reports (fun _ => fillDropSnapshot) s.drops s.dropSpawned)
          s.dropDespawned []
        resources := replay PlayerResources.uid m.resources [] []
          (reports fillPlayerResources s.playerRes
            (ω.ledgers.order s.resourceDirty)) } := by
  have hdelta : forall m : Replica F,
      (if (deltaOf ω s).hasChanges then [ServerMsg.worldDeltaNtf (deltaOf ω s)]
        else []).foldl Replica.receive m = m.overwrite (deltaOf ω s) := by
    intro m
    split
    · rfl
    · rename_i hsilent
      rw [overwrite_silent (by simpa using hsilent)]
      rfl
  have hspawn : forall m : Replica F,
      ((spawnStates s).map
        (ServerMsg.entitySpawnNtf s.roomId s.serverTick)).foldl
          Replica.receive m = (spawnStates s).foldl Replica.spawn m :=
    fun m => List.foldl_map
  have hdespawn : forall m : Replica F,
      ((despawnRefs s).map fun ref => ServerMsg.entityDespawnNtf s.roomId
        s.serverTick ref.1 ref.2).foldl Replica.receive m =
          (despawnRefs s).foldl Replica.despawn m :=
    fun m => List.foldl_map
  rw [deltaMsgs, List.foldl_append, List.foldl_append, hspawn, hdespawn, hdelta,
    foldl_spawn, foldl_despawn, Replica.overwrite, deltaOf]
  dsimp only
  rw [reports_unless, reports_unless]
  rfl

end Deltas

/-!
## What deltas leave out
-/

/-- Every field and every drop that stays has the amount that it had. -/
def AmountsKept (r s : DungeonRoom F) : Prop :=
  (r.fields.AllAt fun id f =>
    forall g, g ∈ s.fields.lookup id -> g.amountLeft = f.amountLeft) ∧
  r.drops.AllAt fun id d =>
    forall e, e ∈ s.drops.lookup id -> e.amount = d.amount

instance (r s : DungeonRoom F) : Decidable (AmountsKept r s) :=
  inferInstanceAs (Decidable (_ ∧ _))

theorem fields_kept_iff {r s : DungeonRoom F} (hlog : ChangeLog r s) :
    (forall id f g, r.fields.lookup id = some f ->
        s.fields.lookup id = some g ->
        fillFieldSnapshot g = fillFieldSnapshot f) <->
      r.fields.AllAt fun id f =>
        forall g, g ∈ s.fields.lookup id -> g.amountLeft = f.amountLeft := by
  constructor
  · intro h id f hf g hg
    exact congrArg ResourceFieldStateSnapshot.amountLeft (h id f g hf hg)
  · intro h id f g hf hg
    have hamount := h id f hf g hg
    have hsite : fieldSite g = fieldSite f := by
      by_contra hne
      cases hlog.fieldSites.changed id f g hf hg hne
    simp only [fieldSite, Prod.mk.injEq] at hsite
    simp only [fillFieldSnapshot, hamount, hsite]

theorem drops_kept_iff {r s : DungeonRoom F} (hlog : ChangeLog r s) :
    (forall id d e, r.drops.lookup id = some d ->
        s.drops.lookup id = some e ->
        fillDropSnapshot e = fillDropSnapshot d) <->
      r.drops.AllAt fun id d =>
        forall e, e ∈ s.drops.lookup id -> e.amount = d.amount := by
  constructor
  · intro h id d hd e he
    exact congrArg ResourceDropStateSnapshot.amount (h id d e hd he)
  · intro h id d e hd he
    have hamount := h id d hd e he
    have hsite : dropSite e = dropSite d := by
      by_contra hne
      cases hlog.dropSites.changed id d e hd he hne
    simp only [dropSite, Prod.mk.injEq] at hsite
    simp only [fillDropSnapshot, hamount, hsite]

section Following

open Replicated

variable {r s : DungeonRoom F}

/-- Units, buildings and ledgers are followed exactly. -/
theorem units_followed (ω : RoomOrders) (hlog : ChangeLog r s) {base : Nat}
    (hsound : SoundLog base s) (hs : Keyed s) :
    replay UnitStateSnapshot.id r.world.units
        (reports (fun _ => fillUnitSnapshot) s.units s.spawned) s.despawned
        (reports (fun _ => fillUnitSnapshot) s.units
          ((ω.world.order s.dirty).filter fun id => id ∉ s.spawned)) =
      s.world.units := by
  apply replay_tracked hlog.units
  · intro _ u v hview
    simp only [unitView, Prod.mk.injEq] at hview
    simp only [fillUnitSnapshot, hview]
  · exact fun id u hu => (hs.units id u hu).1
  · exact fun id hid => (hsound.units id hid).1
  · intro id hdirty hold
    exact List.mem_filter.mpr
      ⟨(ω.world.perm s.dirty).mem_iff.mpr hdirty, by simpa using hold⟩

theorem buildings_followed (ω : RoomOrders) (hlog : ChangeLog r s) {base : Nat}
    (hsound : SoundLog base s) (hs : Keyed s) :
    replay BuildingStateSnapshot.id r.world.buildings
        (reports (fun _ => fillBuildingSnapshot) s.buildings s.buildingSpawned)
        s.buildingDespawned
        (reports (fun _ => fillBuildingSnapshot) s.buildings
          ((ω.world.order s.buildingDirty).filter fun id =>
            id ∉ s.buildingSpawned)) =
      s.world.buildings := by
  apply replay_tracked hlog.buildings
  · intro _ b c hview
    simp only [buildingView, Prod.mk.injEq] at hview
    simp only [fillBuildingSnapshot, hview]
  · exact fun id b hb => (hs.buildings id b hb).1
  · exact fun id hid => (hsound.buildings id hid).1
  · intro id hdirty hold
    exact List.mem_filter.mpr
      ⟨(ω.world.perm s.buildingDirty).mem_iff.mpr hdirty, by simpa using hold⟩

theorem ledgers_followed (ω : RoomOrders) (hlog : ChangeLog r s)
    (hledgers : forall uid, uid ∈ s.playerRes <-> uid ∈ r.playerRes) :
    replay PlayerResources.uid r.world.resources [] []
        (reports fillPlayerResources s.playerRes
          (ω.ledgers.order s.resourceDirty)) =
      s.world.resources := by
  have htracked : Table.Tracked id r.playerRes s.playerRes s.resourceDirty
      [] [] := by
    refine ⟨hlog.ledgers.changed, ?_, ?_⟩
    · intro uid res hnone hsome
      have hmem := (hledgers uid).mp (Table.mem_of_lookup hsome)
      exact absurd hmem (AList.lookup_eq_none.mp hnone)
    · intro uid res hsome hnone
      have hmem := (hledgers uid).mpr (Table.mem_of_lookup hsome)
      exact absurd hmem (AList.lookup_eq_none.mp hnone)
  apply replay_tracked htracked
  · intro uid res res' heq
    exact congrArg (fillPlayerResources uid) heq
  · exact fun _ _ _ => rfl
  · intro uid huid
    cases huid
  · intro uid hdirty _
    exact (ω.ledgers.perm s.resourceDirty).mem_iff.mpr hdirty

/--
A client that knows a room follows the messages of a delta tick exactly if all
amounts are kept.
-/
theorem delta_follows_iff (ω : RoomOrders) (hlog : ChangeLog r s)
    (hsound : SoundLog r.nextEntityId s) (hr : Keyed r) (hs : Keyed s)
    (hledgers : forall uid, uid ∈ s.playerRes <-> uid ∈ r.playerRes) :
    (deltaMsgs ω s).foldl Replica.receive r.world = s.world <->
      AmountsKept r s := by
  have hfields : replay ResourceFieldStateSnapshot.id r.world.resourceFields
      (reports (fun _ => fillFieldSnapshot) s.fields s.fieldSpawned)
      s.fieldDespawned [] = s.world.resourceFields <-> _ :=
    replay_unmarked_iff hlog.fieldSites (fun id f hf => (hs.fields id f hf).1)
      (fun id hid => (hsound.fields id hid).1)
      (fun id hid => hr.fields_fresh (hsound.newFields id hid))
  have hdrops : replay ResourceDropStateSnapshot.id r.world.resourceDrops
      (reports (fun _ => fillDropSnapshot) s.drops s.dropSpawned)
      s.dropDespawned [] = s.world.resourceDrops <-> _ :=
    replay_unmarked_iff hlog.dropSites (fun id d hd => (hs.drops id d hd).1)
      (fun id hid => (hsound.drops id hid).1)
      (fun id hid => (hr.fresh (hsound.newDrops id hid)).2.2)
  rw [fields_kept_iff hlog] at hfields
  rw [drops_kept_iff hlog] at hdrops
  rw [receive_deltaMsgs, Replica.ext_iff]
  constructor
  · rintro ⟨_, _, hf, hd, _⟩
    exact ⟨hfields.mp hf, hdrops.mp hd⟩
  · rintro ⟨hf, hd⟩
    exact ⟨units_followed ω hlog hsound hs, buildings_followed ω hlog hsound hs,
      hfields.mpr hf, hdrops.mpr hd, ledgers_followed ω hlog hledgers⟩

end Following

/-!
## The messages of moves
-/

/-- The messages about the world that a tick sends. -/
def syncMsgs (ω : RoomOrders) (s : DungeonRoom F) : List (ServerMsg F) :=
  if s.serverTick % kFullSnapshotInterval = 0 then
    [ServerMsg.snapshotNtf (snapshotOf ω s)]
  else deltaMsgs ω s

theorem worldMsg_reply (roomId : Nat) (e : ShardEvent F)
    (h : e.isReply = true) : e.worldMsg roomId = none := by
  cases e with
  | ran call r => rfl
  | sent uids targets msg seq =>
      rw [ShardEvent.isReply, Bool.and_eq_true, Option.isNone_iff_eq_none] at h
      simp [ShardEvent.worldMsg, h.2]

theorem told_replies {events : List (ShardEvent F)}
    (h : forall e, e ∈ events -> e.isReply = true) (roomId : Nat) :
    told ShardEvent.worldMsg roomId events = [] := by
  rw [told, List.filterMap_eq_nil_iff]
  intro e he
  exact worldMsg_reply roomId e (h e he)

theorem told_append (roomId : Nat) (front back : List (ShardEvent F)) :
    told ShardEvent.worldMsg roomId (front ++ back) =
      told ShardEvent.worldMsg roomId front ++
        told ShardEvent.worldMsg roomId back :=
  List.filterMap_append

theorem told_sendToPlayers (routes : Routes) {uids : List Nat}
    (huids : uids.isEmpty = false) (msg : ServerMsg F) (seq roomId : Nat) :
    told ShardEvent.worldMsg roomId (sendToPlayers routes uids msg seq) =
      if msg.syncRoom = some roomId then [msg] else [] := by
  unfold sendToPlayers
  rw [huids]
  by_cases hroom : msg.syncRoom = some roomId
  · simp [told, ShardEvent.worldMsg, hroom]
  · simp [told, ShardEvent.worldMsg, hroom]

theorem told_broadcast (routes : Routes) {uids : List Nat}
    (huids : uids.isEmpty = false) (seq roomId : Nat) {msgs : List (ServerMsg F)}
    {own : Nat} (hmsgs : forall msg, msg ∈ msgs -> msg.syncRoom = some own) :
    told ShardEvent.worldMsg roomId
        (msgs.flatMap fun msg => sendToPlayers routes uids msg seq) =
      if roomId = own then msgs else [] := by
  induction msgs with
  | nil =>
      simp [told]
  | cons msg rest ih =>
      have hlater := ih fun msg hmsg => hmsgs msg (List.mem_cons_of_mem _ hmsg)
      have hroom := hmsgs msg List.mem_cons_self
      rw [List.flatMap_cons, told_append, told_sendToPlayers routes huids, hlater,
        hroom]
      by_cases hown : roomId = own
      · simp [hown]
      · simp [hown, Ne.symm hown]

theorem deltaMsgs_room (ω : RoomOrders) (s : DungeonRoom F) :
    forall msg, msg ∈ deltaMsgs ω s -> msg.syncRoom = some s.roomId := by
  intro msg hmsg
  rcases List.mem_append.mp hmsg with hmsg | hmsg
  · rcases List.mem_append.mp hmsg with hmsg | hmsg
    · rcases List.mem_map.mp hmsg with ⟨state, _, rfl⟩
      rfl
    · rcases List.mem_map.mp hmsg with ⟨ref, _, rfl⟩
      rfl
  · split at hmsg
    · rw [List.mem_singleton] at hmsg
      rw [hmsg]
      rfl
    · cases hmsg

theorem told_sendFullSnapshot (routes : Routes) (ω : RoomOrders)
    {s : DungeonRoom F} (h : 0 < s.players.size) (roomId : Nat) :
    told ShardEvent.worldMsg roomId (sendFullSnapshot routes ω s) =
      if roomId = s.roomId then [ServerMsg.snapshotNtf (snapshotOf ω s)]
      else [] := by
  rw [sendFullSnapshot, told_sendToPlayers routes (playerUids_isEmpty h)]
  have hroom : (ServerMsg.snapshotNtf (snapshotOf ω s)).syncRoom =
      some s.roomId := rfl
  rw [hroom]
  by_cases hown : roomId = s.roomId
  · rw [if_pos hown, if_pos (by rw [hown])]
  · rw [if_neg hown, if_neg (fun heq => hown (Option.some.inj heq).symm)]

theorem told_syncEvents (routes : Routes) (ω : RoomOrders)
    {s : DungeonRoom F} (h : 0 < s.players.size) (roomId : Nat) :
    told ShardEvent.worldMsg roomId (syncEvents routes ω s) =
      if roomId = s.roomId then syncMsgs ω s else [] := by
  unfold syncEvents syncMsgs
  split
  · exact told_sendFullSnapshot routes ω h roomId
  · exact told_broadcast routes (playerUids_isEmpty h) s.serverTick roomId
      (deltaMsgs_room ω s)

theorem told_gameOver (routes : Routes) (ω : RoomOrders) (r : DungeonRoom F)
    (winner roomId : Nat) :
    told ShardEvent.worldMsg roomId (broadcastGameOver routes ω r winner) =
      [] := by
  rw [told, List.filterMap_eq_nil_iff]
  intro e he
  rcases List.mem_cons.mp he with rfl | hsent
  · rfl
  · rcases eq_of_mem_sendToPlayers hsent with ⟨targets, rfl⟩
    rfl

variable [Scalar F]

/-- A tick tells the world of the room as it is when the tick is announced. -/
theorem told_tickRoom (routes : Routes) (ω : RoomOrders) {r : DungeonRoom F}
    (hshape : RoomShape r) (roomId : Nat) :
    told ShardEvent.worldMsg roomId (tickRoom routes ω r.roomId r).2 =
      if roomId = r.roomId then syncMsgs ω (r.afterStep ω) else [] := by
  have hsame := (afterStep_setup hshape.keyed ω).1
  have hoccupied : 0 < (r.afterStep ω).players.size := by
    rw [hsame.players]
    exact hshape.occupied
  have hfront : told ShardEvent.worldMsg roomId
      ((r.applyPending.takeRejected.2.flatMap fun rej =>
        sendCommandRejected routes rej.uid r.roomId rej.clientSeq
          rej.code.toErrorCode "command rejected") ++
        [ShardEvent.ran RoomCall.step r.beforeStep] ++
        syncEvents routes ω (r.afterStep ω)) =
      if roomId = r.roomId then syncMsgs ω (r.afterStep ω) else [] := by
    rw [told_append, told_append, told_replies (rejections_reply routes _ _),
      told_syncEvents routes ω hoccupied, hsame.roomId]
    rfl
  unfold tickRoom
  dsimp only
  split
  · exact hfront
  · rw [told_append, told_gameOver, List.append_nil]
    exact hfront

/-!
## Ticks
-/

theorem afterStep_changeLog {r : DungeonRoom F} (hr : Keyed r)
    (ω : RoomOrders) : ChangeLog r (r.afterStep ω) := by
  rcases applyPending_effects hr (allJustified_any r r.pending) with
    ⟨_, hcmds, _⟩
  rcases step_effects ω.world kTickSeconds r.beforeStep with ⟨_, hstep, _⟩
  have hordered : ChangeLog r r.beforeStep :=
    (Effects.changeLog hr hr (ChangeLog.refl r) hcmds).congr rfl rfl rfl rfl rfl
      rfl rfl
  have hstepped := Effects.changeLog hr (beforeStep_setup hr).2 hordered hstep
  exact hstepped.congr rfl rfl rfl rfl rfl rfl rfl

theorem afterStep_soundLog {r : DungeonRoom F} (hr : Keyed r) (h : Cleared r)
    (ω : RoomOrders) : SoundLog r.nextEntityId (r.afterStep ω) := by
  rcases applyPending_effects hr (allJustified_any r r.pending) with
    ⟨_, hcmds, _⟩
  rcases step_effects ω.world kTickSeconds r.beforeStep with ⟨_, hstep, _⟩
  have hcommands := Effects.soundLog hr h.soundLog hcmds
  have hordered : SoundLog r.nextEntityId r.beforeStep :=
    ⟨hcommands.next, hcommands.units, hcommands.buildings, hcommands.fields,
      hcommands.drops, hcommands.newFields, hcommands.newDrops⟩
  have hstepped := Effects.soundLog (beforeStep_setup hr).2 hordered hstep
  exact ⟨hstepped.next, hstepped.units, hstepped.buildings, hstepped.fields,
    hstepped.drops, hstepped.newFields, hstepped.newDrops⟩

/--
The tick is announced with a snapshot, or it leaves the amounts of the fields
and drops that stay.
-/
def QuietTick (ω : RoomOrders) (r : DungeonRoom F) : Prop :=
  (r.afterStep ω).serverTick % kFullSnapshotInterval = 0 ∨
    AmountsKept r (r.afterStep ω)

instance (ω : RoomOrders) (r : DungeonRoom F) : Decidable (QuietTick ω r) :=
  inferInstanceAs (Decidable (_ ∨ _))

/-- A client that knows a room knows it after a tick exactly if that is quiet. -/
theorem tick_follows_iff (ω : RoomOrders) {r : DungeonRoom F} (hr : Keyed r)
    (h : Cleared r) :
    (syncMsgs ω (r.afterStep ω)).foldl Replica.receive r.world =
        (r.afterStep ω).world <->
      QuietTick ω r := by
  rcases afterStep_setup hr ω with ⟨hsame, hkeyed⟩
  unfold syncMsgs QuietTick
  by_cases hfull : (r.afterStep ω).serverTick % kFullSnapshotInterval = 0
  · rw [if_pos hfull]
    constructor
    · exact fun _ => Or.inl hfull
    · exact fun _ => ofSnapshot_snapshotOf ω hkeyed
  · rw [if_neg hfull, delta_follows_iff ω (afterStep_changeLog hr ω)
      (afterStep_soundLog hr h ω) hr hkeyed hsame.ledgers]
    constructor
    · exact Or.inr
    · rintro (hyes | hkept)
      · exact absurd hyes hfull
      · exact hkept

theorem tickRoom_world (routes : Routes) (ω : RoomOrders) (roomId : Nat)
    (r : DungeonRoom F) :
    (tickRoom routes ω roomId r).1.world = (r.afterStep ω).world := by
  rcases tickRoom_cases routes ω roomId r with ⟨_, heq⟩ | ⟨_, _, heq⟩
  · rw [heq]
    rfl
  · rw [heq]
    rfl

/-!
## Runs
-/

/-- Between two inputs no change is listed. -/
structure Settled (r : DungeonRoom F) : Prop where
  phased : Phased r
  cleared : Cleared r

theorem InnerMove.settled {p : Policy F} {r r' : DungeonRoom F}
    {events : List (ShardEvent F)} (hshape : RoomShape r) (h : Settled r)
    (hmove : InnerMove p r events r') : Settled r' := by
  refine ⟨(hmove.phaseMove hshape h.phased).phased, ?_⟩
  cases hmove with
  | ready flag _ => exact ⟨h.cleared.1, h.cleared.2, h.cleared.3, h.cleared.4,
      h.cleared.5, h.cleared.6⟩
  | start routes ω _ _ _ => exact clearFrameChanges_cleared _
  | enqueue cmd _ => exact ⟨h.cleared.1, h.cleared.2, h.cleared.3, h.cleared.4,
      h.cleared.5, h.cleared.6⟩
  | tick routes ω _ _ =>
      rcases tickRoom_cases routes ω r.roomId r with ⟨_, heq⟩ | ⟨_, _, heq⟩
      · rw [heq]
        exact clearFrameChanges_cleared _
      · rw [heq]
        exact ⟨rfl, rfl, rfl, rfl, rfl, rfl⟩

theorem settledRule :
    RoomRule Policy.free (Settled (F := F)) fun _ => True where
  chatter := fun _ _ => trivial
  fresh := by
    intro roomId roomName maxPlayers uid
    exact ⟨phasedRule.fresh roomId roomName maxPlayers uid,
      rfl, rfl, rfl, rfl, rfl, rfl⟩
  enter := by
    intro r uid hshape h hnew hfits hseats
    exact ⟨phasedRule.enter r uid hshape h.phased hnew hfits hseats,
      h.cleared.1, h.cleared.2, h.cleared.3, h.cleared.4, h.cleared.5,
      h.cleared.6⟩
  inner := by
    intro r events r' hshape h hmove
    exact ⟨hmove.settled hshape h, fun _ _ => trivial⟩
  leave := by
    intro r events r' uid _ h _ hothers _ hmove
    have hphased := (hmove.phaseMove h.phased hothers).phased
    refine ⟨⟨hphased, ?_⟩, fun _ _ => trivial⟩
    cases hmove with
    | depart _ => exact ⟨h.cleared.1, h.cleared.2, h.cleared.3, h.cleared.4,
        h.cleared.5, h.cleared.6⟩
    | abandon routes ω _ => exact ⟨h.cleared.1, h.cleared.2, h.cleared.3,
        h.cleared.4, h.cleared.5, h.cleared.6⟩

/-- All ticks of running games are quiet. -/
def quietTicks : Policy F where
  seats := fun _ _ => True
  parts := fun _ _ => True
  ticks := QuietTick

/-- The messages so far describe the room, if its game is running. -/
def Mirrored (msgs : List (ServerMsg F)) (r : DungeonRoom F) : Prop :=
  LogicShard.isActive r = true ->
    msgs.foldl Replica.receive Replica.empty = r.world

/-- The world of a room when its game starts is told with one snapshot. -/
theorem told_startGame (routes : Routes) (ω : RoomOrders) {r : DungeonRoom F}
    (hshape : RoomShape r) (roomId : Nat) :
    told ShardEvent.worldMsg roomId (LogicShard.startGame routes ω r).2 =
      if roomId = r.roomId then
        [ServerMsg.snapshotNtf (snapshotOf ω
          (spawnInitialUnits ω (r.setStarted true)).beginBattle)]
      else [] := by
  have hstarted : Keyed (r.setStarted true) :=
    hshape.keyed.congr rfl rfl rfl rfl rfl
  have hsame := (spawnInitialUnits_setup ω hstarted).left
  have hplayers : (spawnInitialUnits ω (r.setStarted true)).beginBattle.players =
      r.players := hsame.players
  have hroom : (spawnInitialUnits ω (r.setStarted true)).beginBattle.roomId =
      r.roomId := hsame.roomId
  unfold LogicShard.startGame
  dsimp only
  rw [told_append, told_append, told_replies (broadcastGameStart_reply routes ω _),
    told_sendFullSnapshot routes ω (by rw [hplayers]; exact hshape.occupied),
    hroom]
  rfl

theorem start_mirrored (routes : Routes) (ω : RoomOrders) {r : DungeonRoom F}
    (hshape : RoomShape r) :
    Tells ShardEvent.worldMsg Mirrored r (LogicShard.startGame routes ω r).2
      (LogicShard.startGame routes ω r).1 := by
  have hstarted : Keyed (r.setStarted true) :=
    hshape.keyed.congr rfl rfl rfl rfl rfl
  have hkeyed := (spawnInitialUnits_setup ω hstarted).right
  have hbegun : Keyed (spawnInitialUnits ω (r.setStarted true)).beginBattle :=
    hkeyed.congr rfl rfl rfl rfl rfl
  constructor
  · intro past _ _
    rw [told_startGame routes ω hshape, if_pos rfl, List.foldl_append]
    exact ofSnapshot_snapshotOf ω hbegun
  · intro roomId hother
    rw [told_startGame routes ω hshape, if_neg hother]

omit [Scalar F] in
/-- Silent moves that keep the world and whether the game is running. -/
theorem Mirrored.silent {r r' : DungeonRoom F} (hworld : r'.world = r.world)
    (hactive : LogicShard.isActive r' = true -> LogicShard.isActive r = true) :
    Tells ShardEvent.worldMsg Mirrored r [] r' := by
  refine ⟨?_, fun _ _ => rfl⟩
  intro past hpast hrunning
  change (past ++ []).foldl Replica.receive Replica.empty = r'.world
  rw [List.append_nil, hworld]
  exact hpast (hactive hrunning)

theorem mirrorRule : NewsRule quietTicks (Settled (F := F)) ShardEvent.worldMsg
    Mirrored where
  replies := worldMsg_reply
  fresh := by
    intro roomId roomName maxPlayers uid hactive
    cases hactive
  enter := by
    intro r uid h hfits
    refine ⟨?_, fun _ _ => rfl⟩
    intro past _ hactive
    have hfull := h.phased.full hactive
    lia
  inner := by
    intro r events r' hshape h hmove
    cases hmove with
    | ready flag _ => exact Mirrored.silent rfl id
    | start routes ω _ _ _ => exact start_mirrored routes ω hshape
    | enqueue cmd _ => exact Mirrored.silent rfl id
    | tick routes ω hactive hquiet =>
        constructor
        · intro past hpast _
          rw [told_tickRoom routes ω hshape, if_pos rfl, List.foldl_append,
            hpast hactive, tickRoom_world]
          exact (tick_follows_iff ω hshape.keyed h.cleared).mpr hquiet
        · intro roomId hother
          rw [told_tickRoom routes ω hshape, if_neg hother]
  leave := by
    intro r events r' uid _ _ hmove
    cases hmove with
    | depart hidle =>
        refine ⟨?_, fun _ _ => rfl⟩
        intro past _ hactive
        change LogicShard.isActive r = true at hactive
        rw [hidle] at hactive
        cases hactive
    | abandon routes ω _ =>
        constructor
        · intro past _ hactive
          simp [LogicShard.isActive, DungeonRoom.setGameOver] at hactive
        · intro roomId _
          exact told_gameOver routes ω _ _ roomId

/-!
## The tick of a shard
-/

/-- The messages about the world of a room when its turn in a tick comes. -/
def LogicShard.turnMsgs (ω : Orders) (s : LogicShard F) (roomId : Nat) :
    List (ServerMsg F) :=
  match s.rooms.lookup roomId with
  | none => []
  | some r =>
      if LogicShard.isActive r then
        syncMsgs (ω.room roomId) (r.afterStep (ω.room roomId))
      else []

theorem tickOne_told (ω : Orders) (acc : LogicShard F × List (ShardEvent F))
    {roomId : Nat}
    (hroom : forall r, acc.1.rooms.lookup roomId = some r ->
      r.roomId = roomId ∧ RoomShape r) (k : Nat) :
    told ShardEvent.worldMsg k (LogicShard.tickOne ω acc roomId).2 =
      told ShardEvent.worldMsg k acc.2 ++
        if k = roomId then LogicShard.turnMsgs ω acc.1 k else [] := by
  cases hr : acc.1.rooms.lookup roomId with
  | none =>
      have hidle : LogicShard.tickOne ω acc roomId = acc := by
        rw [LogicShard.tickOne, hr]
      have hnothing : LogicShard.turnMsgs ω acc.1 roomId = [] := by
        rw [LogicShard.turnMsgs, hr]
      rw [hidle]
      by_cases hk : k = roomId
      · rw [if_pos hk, hk, hnothing, List.append_nil]
      · rw [if_neg hk, List.append_nil]
  | some r =>
      rcases hroom r hr with ⟨hid, hshape⟩
      have hown := told_tickRoom acc.1.uidRoute (ω.room roomId) hshape k
      rw [hid] at hown
      have hturn : LogicShard.turnMsgs ω acc.1 roomId =
          if LogicShard.isActive r then
            syncMsgs (ω.room roomId) (r.afterStep (ω.room roomId))
          else [] := by
        rw [LogicShard.turnMsgs, hr]
      rw [LogicShard.tickOne, hr]
      dsimp only
      by_cases hactive : LogicShard.isActive r = true
      · rw [if_pos hactive] at hturn ⊢
        rw [told_append, hown]
        by_cases hk : k = roomId
        · rw [if_pos hk, if_pos hk, hk, hturn]
        · rw [if_neg hk, if_neg hk]
      · rw [if_neg hactive] at hturn ⊢
        by_cases hk : k = roomId
        · rw [if_pos hk, hk, hturn, List.append_nil]
        · rw [if_neg hk, List.append_nil]

theorem tickLoop_told (ω : Orders) (ids : List Nat) (hnodup : ids.Nodup)
    (acc : LogicShard F × List (ShardEvent F))
    (hrooms : forall id, id ∈ ids -> forall r, acc.1.rooms.lookup id = some r ->
      r.roomId = id ∧ RoomShape r) (k : Nat) :
    told ShardEvent.worldMsg k (ids.foldl (LogicShard.tickOne ω) acc).2 =
      told ShardEvent.worldMsg k acc.2 ++
        if k ∈ ids then LogicShard.turnMsgs ω acc.1 k else [] := by
  induction ids generalizing acc with
  | nil =>
      simp
  | cons roomId rest ih =>
      rcases List.nodup_cons.mp hnodup with ⟨hnew, hrest⟩
      have hlookup : forall id, id ≠ roomId ->
          (LogicShard.tickOne ω acc roomId).1.rooms.lookup id =
            acc.1.rooms.lookup id := by
        intro id hne
        rw [LogicShard.tickOne_lookup, if_neg hne]
      have hlater := ih hrest (LogicShard.tickOne ω acc roomId) (by
        intro id hid r hr
        rw [hlookup id fun heq => hnew (heq ▸ hid)] at hr
        exact hrooms id (List.mem_cons_of_mem _ hid) r hr)
      rw [List.foldl_cons, hlater,
        tickOne_told ω acc (hrooms roomId List.mem_cons_self)]
      by_cases hk : k = roomId
      · simp [hk, hnew]
      · have hsame : LogicShard.turnMsgs ω (LogicShard.tickOne ω acc roomId).1 k =
            LogicShard.turnMsgs ω acc.1 k := by
          rw [LogicShard.turnMsgs, hlookup k hk]
          rfl
        simp [hk, hsame]

/-- A tick of a shard tells every client of a running game about one tick. -/
theorem tickRooms_told (ω : Orders) {s : LogicShard F} (h : WellIndexed s)
    {roomId : Nat} {r : DungeonRoom F} (hr : s.rooms.lookup roomId = some r)
    (hactive : LogicShard.isActive r = true) :
    told ShardEvent.worldMsg roomId (LogicShard.tickRooms ω s).2 =
      syncMsgs (ω.room roomId) (r.afterStep (ω.room roomId)) := by
  have hloop := tickLoop_told ω (ω.rooms.visit s.rooms)
    (ω.rooms.visit_nodup s.rooms) (s, [])
    (fun id _ q hq => ⟨(h.ids id q hq).1, h.shapes id q hq⟩) roomId
  rw [if_pos (IterOrder.mem_visit.mpr (Table.mem_of_lookup hr)),
    LogicShard.turnMsgs, hr] at hloop
  dsimp only at hloop
  rw [if_pos hactive] at hloop
  exact hloop

/-- Every running game has a quiet tick. -/
def TicksQuietly (s : LogicShard F) : LogicShard.ShardInput B -> Prop
  | LogicShard.ShardInput.task _ _ => True
  | LogicShard.ShardInput.tick ω =>
      s.rooms.AllAt fun roomId r =>
        LogicShard.isActive r = true -> QuietTick (ω.room roomId) r

instance (s : LogicShard F) (i : LogicShard.ShardInput B) :
    Decidable (TicksQuietly s i) :=
  match i with
  | LogicShard.ShardInput.task _ _ => isTrue trivial
  | LogicShard.ShardInput.tick ω =>
      inferInstanceAs (Decidable (s.rooms.AllAt fun roomId r =>
        LogicShard.isActive r = true -> QuietTick (ω.room roomId) r))

/--
After every run in which all ticks so far were quiet: the next tick, full or
delta, leaves the replica of a running game equal to the snapshot that could be
sent instead, in whatever order, exactly if it is quiet for this game.
-/
theorem run_replicas_exact (codec : Codec B F) (shardId shardCount : Nat)
    (inputs : List (LogicShard.ShardInput B))
    (hquiet : Along (LogicShard.handle codec) TicksQuietly
      (LogicShard.create shardId shardCount) inputs)
    (ω : Orders) (roomId : Nat) (r : DungeonRoom F)
    (hr : (LogicShard.run codec shardId shardCount inputs).1.rooms.lookup
      roomId = some r)
    (hactive : LogicShard.isActive r = true) :
    let result := LogicShard.run codec shardId shardCount
      (inputs ++ [LogicShard.ShardInput.tick ω])
    exists r', result.1.rooms.lookup roomId = some r' ∧
      forall ω', replica roomId result.2 =
          Replica.ofSnapshot (snapshotOf ω' r') <->
        QuietTick (ω.room roomId) r := by
  intro result
  have hhistory := mirrorRule.along (settledRule.under quietTicks) codec shardId
    shardCount inputs (hquiet.mono fun s i hi => by
      cases i with
      | task task ω => exact ⟨fun _ _ _ => trivial, fun _ _ _ => trivial⟩
      | tick ω => exact hi)
  have hindexed := hhistory.rooms.indexed
  have hshape := hindexed.shapes roomId r hr
  have hsettled := hhistory.rooms.rooms roomId r hr
  have hstate : result.1 = (LogicShard.tickRooms ω
      (LogicShard.run codec shardId shardCount inputs).1).1 := by
    simp only [result, LogicShard.run, runMachine_append]
    rfl
  have hevents : result.2 = (LogicShard.run codec shardId shardCount inputs).2 ++
      (LogicShard.tickRooms ω
        (LogicShard.run codec shardId shardCount inputs).1).2 := by
    simp only [result, LogicShard.run, runMachine_append, runMachine,
      List.append_nil]
    rfl
  refine ⟨(tickRoom (LogicShard.run codec shardId shardCount inputs).1.uidRoute
    (ω.room roomId) roomId r).1, ?_, ?_⟩
  · rw [hstate, LogicShard.tickRooms_lookup, hr, Option.map_some,
      LogicShard.ticked, if_pos hactive]
  · intro ω'
    have hkeyed := (tickRoom_kept
      (LogicShard.run codec shardId shardCount inputs).1.uidRoute
      (ω.room roomId) roomId hshape.keyed).2
    have hreplica : replica roomId result.2 =
        (syncMsgs (ω.room roomId) (r.afterStep (ω.room roomId))).foldl
          Replica.receive r.world := by
      rw [← hhistory.present roomId r hr hactive,
        ← tickRooms_told ω hindexed hr hactive, ← List.foldl_append,
        ← told_append, ← hevents]
      rfl
    rw [ofSnapshot_snapshotOf ω' hkeyed, tickRoom_world, hreplica]
    exact tick_follows_iff (ω.room roomId) hshape.keyed hsettled.cleared

/-- The worker is on its way to the tree, and its client knows where it is. -/
theorem walksToTree_replica_exact :
    exists r, (LogicShard.run Wire.codec 0 1 (cutsWood.take 10)).1.rooms.lookup 1 =
        some r ∧ QuietTick (Orders.stored.room 1) r ∧
      let result := LogicShard.run Wire.codec 0 1
        (cutsWood.take 10 ++ [LogicShard.ShardInput.tick Orders.stored])
      exists r', result.1.rooms.lookup 1 = some r' ∧
        forall ω', replica 1 result.2 = Replica.ofSnapshot (snapshotOf ω' r') := by
  have hquiet : Along (LogicShard.handle Wire.codec) TicksQuietly
      (LogicShard.create 0 1) (cutsWood.take 10) := by
    decide +kernel
  have hroom : ((LogicShard.run Wire.codec 0 1 (cutsWood.take 10)).1.rooms.lookup
      1).map (fun r => LogicShard.isActive r &&
        decide (QuietTick (Orders.stored.room 1) r)) = some true := by
    decide +kernel
  rcases Option.map_eq_some_iff.mp hroom with ⟨r, hr, hcheck⟩
  rw [Bool.and_eq_true, decide_eq_true_eq] at hcheck
  rcases hcheck with ⟨hactive, htick⟩
  refine ⟨r, hr, htick, ?_⟩
  rcases run_replicas_exact Wire.codec 0 1 (cutsWood.take 10) hquiet Orders.stored
    1 r hr hactive with ⟨r', hr', hexact⟩
  exact ⟨r', hr', fun ω' => (hexact ω').mpr htick⟩

/-- What a replica knows about the wood in the tree. -/
def woodLeft (m : Replica Rat) : Option UInt32 :=
  (m.resourceFields 11).map ResourceFieldStateSnapshot.amountLeft

/-- When the worker cuts the first wood, its client is not told. -/
theorem cutsWood_replica_stale :
    ¬ forall (inputs : List (LogicShard.ShardInput (Wire Rat))) (ω : Orders)
      (roomId : Nat) (r : DungeonRoom Rat),
      (LogicShard.run Wire.codec 0 1 inputs).1.rooms.lookup roomId = some r ->
      LogicShard.isActive r = true ->
      let result := LogicShard.run Wire.codec 0 1
        (inputs ++ [LogicShard.ShardInput.tick ω])
      exists r', result.1.rooms.lookup roomId = some r' ∧
        forall ω', replica roomId result.2 =
          Replica.ofSnapshot (snapshotOf ω' r') := by
  intro h
  have hbefore : ((LogicShard.run Wire.codec 0 1 cutsWood.dropLast).1.rooms.lookup
      1).map LogicShard.isActive = some true := by
    decide +kernel
  have hafter : ((LogicShard.run Wire.codec 0 1 (cutsWood.dropLast ++
        [LogicShard.ShardInput.tick Orders.stored])).1.rooms.lookup 1).map
      (fun r' => woodLeft (Replica.ofSnapshot
        (snapshotOf (Orders.stored.room 1) r'))) = some (some 599) := by
    decide +kernel
  have hknown : woodLeft (replica 1 (LogicShard.run Wire.codec 0 1
      (cutsWood.dropLast ++ [LogicShard.ShardInput.tick Orders.stored])).2) =
      some 600 := by
    decide +kernel
  rcases Option.map_eq_some_iff.mp hbefore with ⟨r, hr, hactive⟩
  rcases h cutsWood.dropLast Orders.stored 1 r hr hactive with
    ⟨r', hr', hexact⟩
  rw [hr', Option.map_some, ← hexact, hknown] at hafter
  cases hafter

end RtsGame
