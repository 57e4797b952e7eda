import RtsGame.Library.Runs
import RtsGame.Room.Accounting
import RtsGame.Room.Isolation

/-!
# Interleavings of the commands of several players

Within one tick the order in which the commands of different players arrive
does not matter, as long as nobody stops a loaded unit or starts a building:
these two create entities, whose ids are taken from a counter that all players
share.  Every other command reads what belongs to its owner, and of the rest
only what no command changes.
-/

namespace RtsGame

open Scalar

namespace DungeonRoom

variable {F : Type}

/-- The kinds of commands that create no entity. -/
def createsNothing (type : CommandType) : Bool :=
  type ≠ CommandType.stop && type ≠ CommandType.build

/-- Is there a building under the key, and is it a construction site? -/
def siteAt (r : DungeonRoom F) (id : Nat) : Option Bool :=
  (r.buildings.lookup id).map fun b => b.underConstruction

/-- The room without the queue and what the commands that create nothing write. -/
def background (r : DungeonRoom F) : DungeonRoom F :=
  { r with
    units := ∅
    buildings := ∅
    playerRes := ∅
    dirty := []
    buildingDirty := []
    resourceDirty := []
    pending := []
    rejected := [] }

/-- The rejections of one player, in order. -/
def rejectedOf (r : DungeonRoom F) (uid : Nat) : List RejectedCommand :=
  r.rejected.filter fun c => c.uid = uid

/-!
## What a command of a player depends on
-/

/-- The two rooms show a player the same. -/
structure Alike (p : Nat) (r s : DungeonRoom F) : Prop where
  units : forall id u, u.ownerUid = p ->
    (s.units.lookup id = some u <-> r.units.lookup id = some u)
  buildings : forall id b, b.ownerUid = p ->
    (s.buildings.lookup id = some b <-> r.buildings.lookup id = some b)
  ledger : s.playerRes.lookup p = r.playerRes.lookup p
  dirty : forall id u, u.ownerUid = p -> r.units.lookup id = some u ->
    (id ∈ s.dirty <-> id ∈ r.dirty)
  buildingDirty : forall id b, b.ownerUid = p -> r.buildings.lookup id = some b ->
    (id ∈ s.buildingDirty <-> id ∈ r.buildingDirty)
  resourceDirty : p ∈ s.resourceDirty <-> p ∈ r.resourceDirty
  rejected : s.rejectedOf p = r.rejectedOf p
  sites : forall id, s.siteAt id = r.siteAt id
  background : s.background = r.background

namespace Alike

variable {p : Nat}

theorem refl (r : DungeonRoom F) : Alike p r r :=
  ⟨fun _ _ _ => Iff.rfl, fun _ _ _ => Iff.rfl, rfl, fun _ _ _ _ => Iff.rfl,
    fun _ _ _ _ => Iff.rfl, Iff.rfl, rfl, fun _ => rfl, rfl⟩

theorem symm {r s : DungeonRoom F} (h : Alike p r s) : Alike p s r := by
  constructor
  · intro id u hu
    exact (h.units id u hu).symm
  · intro id b hb
    exact (h.buildings id b hb).symm
  · exact h.ledger.symm
  · intro id u hu hlook
    exact (h.dirty id u hu ((h.units id u hu).mp hlook)).symm
  · intro id b hb hlook
    exact (h.buildingDirty id b hb ((h.buildings id b hb).mp hlook)).symm
  · exact h.resourceDirty.symm
  · exact h.rejected.symm
  · intro id
    exact (h.sites id).symm
  · exact h.background.symm

theorem trans {r s t : DungeonRoom F} (hrs : Alike p r s) (hst : Alike p s t) :
    Alike p r t := by
  constructor
  · intro id u hu
    exact (hst.units id u hu).trans (hrs.units id u hu)
  · intro id b hb
    exact (hst.buildings id b hb).trans (hrs.buildings id b hb)
  · exact hst.ledger.trans hrs.ledger
  · intro id u hu hlook
    exact (hst.dirty id u hu ((hrs.units id u hu).mpr hlook)).trans
      (hrs.dirty id u hu hlook)
  · intro id b hb hlook
    exact (hst.buildingDirty id b hb ((hrs.buildings id b hb).mpr hlook)).trans
      (hrs.buildingDirty id b hb hlook)
  · exact hst.resourceDirty.trans hrs.resourceDirty
  · exact hst.rejected.trans hrs.rejected
  · intro id
    exact (hst.sites id).trans (hrs.sites id)
  · exact hst.background.trans hrs.background

theorem equivalence (p : Nat) : Equivalence (Alike (F := F) p) :=
  ⟨refl, symm, trans⟩

theorem fields {r s : DungeonRoom F} (h : Alike p r s) : s.fields = r.fields := by
  have hfields : s.background.fields = r.background.fields := by
    rw [h.background]
  exact hfields

theorem drops {r s : DungeonRoom F} (h : Alike p r s) : s.drops = r.drops := by
  have hdrops : s.background.drops = r.background.drops := by
    rw [h.background]
  exact hdrops

end Alike

/-!
## The single acts of a player

A command that creates nothing is a sequence of orders to own units, of
rejections, and of purchases for own buildings.
-/

/-- One act of the player. -/
inductive Deed (q : Nat) : DungeonRoom F -> DungeonRoom F -> Prop where
  | order {r : DungeonRoom F} {id : Nat} {u v : GameUnit F} :
      r.units.lookup id = some u -> u.ownerUid = q -> SameBody u v ->
      Deed q r ((r.putUnit id v).markDirty id)
  | reject {r : DungeonRoom F} {cmd : PendingCommand F} {code : RejectCode} :
      cmd.ownerUid = q -> Deed q r (r.reject cmd code)
  | train {r : DungeonRoom F} {id : Nat} {b : Building F} {res : PlayerRes}
      {cost : ResCost} {item : TrainItem F} :
      r.buildings.lookup id = some b -> b.id = id -> b.ownerUid = q ->
      res.canAfford cost = true ->
      Deed q r (((r.payFrom q res cost).putBuilding id
        { b with trainQueue := b.trainQueue ++ [item] }).markBuilding b.id)

/-- A sequence of acts of the player. -/
abbrev Deeds (q : Nat) : DungeonRoom F -> DungeonRoom F -> Prop :=
  Relation.ReflTransGen (Deed q)

theorem putBuilding_siteAt {r : DungeonRoom F} {id : Nat} {b c : Building F}
    (hb : r.buildings.lookup id = some b)
    (hc : c.underConstruction = b.underConstruction) (j : Nat) :
    (r.putBuilding id c).siteAt j = r.siteAt j := by
  show ((r.buildings.insert id c).lookup j).map _ = _
  rw [Table.lookup_insert_ite]
  split
  · rename_i hj
    subst hj
    show some c.underConstruction = (r.buildings.lookup j).map _
    rw [hb, hc]
    rfl
  · rfl

theorem payFrom_background {r : DungeonRoom F} {uid : Nat} {res : PlayerRes}
    {cost : ResCost} (h : res.canAfford cost = true) :
    (r.payFrom uid res cost).background = r.background := by
  unfold payFrom
  rw [payWraps_of_canAfford h, noteWrap_false]
  rfl

theorem reject_rejectedOf_ne (r : DungeonRoom F) {cmd : PendingCommand F}
    (code : RejectCode) {p : Nat} (h : cmd.ownerUid ≠ p) :
    (r.reject cmd code).rejectedOf p = r.rejectedOf p := by
  show (r.rejected ++ [_]).filter _ = _
  rw [List.filter_append, List.filter_singleton]
  simp [h, rejectedOf]

/-- The acts of the others do not show. -/
theorem Deed.foreign {p q : Nat} (hpq : q ≠ p) {r s : DungeonRoom F}
    (h : Deed q r s) : Alike p r s := by
  have hrefl := Alike.refl (p := p) r
  cases h with
  | @order id u v hu howner hbody =>
      have hun : Untouched p r ((r.putUnit id v).markDirty id) :=
        Untouched.putUnit hu (by rw [howner]; exact hpq) hbody.ownerUid rfl
      refine ⟨hun.units, hrefl.buildings, rfl, ?_, hrefl.buildingDirty, Iff.rfl,
        rfl, fun _ => rfl, rfl⟩
      intro j w hw hlook
      constructor
      · intro hj
        by_contra hnot
        exact hun.dirty j hj hnot w ((hun.units j w hw).mpr hlook) hw
      · intro hj
        exact List.mem_insert_of_mem hj
  | reject howner =>
      exact ⟨hrefl.units, hrefl.buildings, rfl, hrefl.dirty, hrefl.buildingDirty,
        Iff.rfl, reject_rejectedOf_ne r _ (by rw [howner]; exact hpq),
        fun _ => rfl, rfl⟩
  | @train id b res cost item hb hid howner hafford =>
      have hput := Untouched.putBuilding (p := p) (r := r.payFrom q res cost)
        (c := { b with trainQueue := b.trainQueue ++ [item] }) hb
        (by rw [howner]; exact hpq) rfl hid
      have hpay := payFrom_untouched r hpq res cost
      have hun := hpay.trans hput
      refine ⟨hrefl.units, hun.buildings, hun.ledger, hrefl.dirty, ?_, ?_, rfl,
        putBuilding_siteAt hb rfl, payFrom_background (r := r) hafford⟩
      · intro j d hd hlook
        constructor
        · intro hj
          by_contra hnot
          exact hun.buildingDirty j hj hnot d ((hun.buildings j d hd).mpr hlook) hd
        · intro hj
          exact List.mem_insert_of_mem hj
      · show p ∈ r.resourceDirty.insert q <-> p ∈ r.resourceDirty
        rw [List.mem_insert_iff]
        simp [Ne.symm hpq]

theorem Deeds.foreign {p q : Nat} (hpq : q ≠ p) {r s : DungeonRoom F}
    (h : Deeds q r s) : Alike p r s := by
  induction h with
  | refl =>
      exact Alike.refl r
  | tail _ hlast ih =>
      exact ih.trans (hlast.foreign hpq)

/-- Nothing appears, nothing disappears, and only what exists is marked. -/
structure Steady (r s : DungeonRoom F) : Prop where
  units : forall id, s.units.lookup id = none <-> r.units.lookup id = none
  buildings : forall id, s.buildings.lookup id = none <-> r.buildings.lookup id = none
  dirty : forall id, r.units.lookup id = none -> (id ∈ s.dirty <-> id ∈ r.dirty)
  buildingDirty : forall id, r.buildings.lookup id = none ->
    (id ∈ s.buildingDirty <-> id ∈ r.buildingDirty)

theorem Steady.refl (r : DungeonRoom F) : Steady r r :=
  ⟨fun _ => Iff.rfl, fun _ => Iff.rfl, fun _ _ => Iff.rfl, fun _ _ => Iff.rfl⟩

theorem Steady.trans {r s t : DungeonRoom F} (hrs : Steady r s)
    (hst : Steady s t) : Steady r t := by
  constructor
  · intro id
    exact (hst.units id).trans (hrs.units id)
  · intro id
    exact (hst.buildings id).trans (hrs.buildings id)
  · intro id hid
    exact (hst.dirty id ((hrs.units id).mpr hid)).trans (hrs.dirty id hid)
  · intro id hid
    exact (hst.buildingDirty id ((hrs.buildings id).mpr hid)).trans
      (hrs.buildingDirty id hid)

/-- Overwriting an entry keeps the set of keys. -/
theorem overwrite_none_iff {alpha : Type} {m : Table alpha} {id : Nat} {u : alpha}
    (hu : m.lookup id = some u) (v : alpha) (j : Nat) :
    (m.insert id v).lookup j = none <-> m.lookup j = none := by
  rw [Table.lookup_insert_ite]
  by_cases hj : j = id
  · subst hj
    simp [hu]
  · simp [hj]

/-- A mark on an entry is no mark on a key without an entry. -/
theorem mem_mark_iff {alpha : Type} {m : Table alpha} {id : Nat} {u : alpha}
    (hu : m.lookup id = some u) (marks : List Nat) {j : Nat}
    (hj : m.lookup j = none) : j ∈ marks.insert id <-> j ∈ marks := by
  have hne : j ≠ id := by
    intro h
    rw [h, hu] at hj
    cases hj
  simp [List.mem_insert_iff, hne]

theorem Deed.steady {q : Nat} {r s : DungeonRoom F} (h : Deed q r s) :
    Steady r s := by
  have hrefl := Steady.refl r
  cases h with
  | order hu _ _ =>
      exact ⟨overwrite_none_iff hu _, hrefl.buildings,
        fun _ hj => mem_mark_iff hu r.dirty hj, hrefl.buildingDirty⟩
  | reject _ =>
      exact ⟨hrefl.units, hrefl.buildings, hrefl.dirty, hrefl.buildingDirty⟩
  | train hb hid _ _ =>
      rw [hid]
      exact ⟨hrefl.units, overwrite_none_iff hb _, hrefl.dirty,
        fun _ hj => mem_mark_iff hb r.buildingDirty hj⟩

theorem Deeds.steady {q : Nat} {r s : DungeonRoom F} (h : Deeds q r s) :
    Steady r s := by
  induction h with
  | refl =>
      exact Steady.refl r
  | tail _ hlast ih =>
      exact ih.trans hlast.steady

/-!
## The commands as acts of their owner
-/

theorem orderSelected_deeds {q : Nat} {order : Nat -> GameUnit F -> GameUnit F}
    (hbody : forall index u, SameBody u (order index u)) (ids : List Nat)
    (index : Nat) (s : DungeonRoom F) (hs : Keyed s)
    (howned : forall id u, id ∈ ids -> s.units.lookup id = some u ->
      u.ownerUid = q) :
    Deeds q s (orderSelected order index ids s) := by
  refine orderSelected_owned (fun _ => Relation.ReflTransGen.refl)
    (fun _ _ _ => Relation.ReflTransGen.trans) ?_ hbody ids index s hs howned
  intro t id u v ht hu howner hb
  rw [hb.id.trans (ht.unit_id hu)]
  exact Relation.ReflTransGen.single (Deed.order hu howner hb)

theorem collected_deeds {r : DungeonRoom F} (hr : Keyed r) (q : Nat)
    (unitIds : List Nat) {order : Nat -> GameUnit F -> GameUnit F}
    (hbody : forall index u, SameBody u (order index u)) :
    Deeds q r (orderSelected order 0 (r.collectOwnedUnits q unitIds) r) := by
  apply orderSelected_deeds hbody _ 0 r hr
  intro id u hid hu
  rcases mem_collectOwnedUnits hid with ⟨_, w, hw, hwowner⟩
  rw [hu] at hw
  injection hw with huw
  rw [huw]
  exact hwowner

theorem orderEachOwned_deeds {q : Nat}
    {order : DungeonRoom F -> Nat -> GameUnit F -> DungeonRoom F}
    (horder : forall s id u, s.units.lookup id = some u -> u.ownerUid = q ->
      Deeds q s (order s id u)) (ids : List Nat) (s : DungeonRoom F) :
    Deeds q s (orderEachOwned q order ids s) := by
  induction ids generalizing s with
  | nil =>
      exact Relation.ReflTransGen.refl
  | cons id rest ih =>
      unfold orderEachOwned
      split
      · exact ih s
      · rename_i u hu
        split
        · exact ih s
        · rename_i howner
          exact (horder s id u hu (not_not.mp howner)).trans (ih _)

variable [Scalar F]

theorem assignConstructors_deeds (r : DungeonRoom F) (q : Nat)
    (unitIds : List Nat) (buildingId : Nat) :
    Deeds q r (r.assignConstructors q unitIds buildingId) := by
  unfold assignConstructors
  apply orderEachOwned_deeds
  intro s id u hu hq
  exact Relation.ReflTransGen.single
    (Deed.order hu hq ⟨rfl, rfl, rfl, rfl, rfl⟩)

theorem applyAttack_deeds (r : DungeonRoom F) (q : Nat) (unitIds : List Nat)
    (targetEntity : Nat) : Deeds q r (r.applyAttack q unitIds targetEntity) := by
  unfold applyAttack
  apply orderEachOwned_deeds
  intro s id u hu hq
  split
  · exact Relation.ReflTransGen.refl
  · exact Relation.ReflTransGen.single
      (Deed.order hu hq ⟨rfl, rfl, rfl, rfl, rfl⟩)

theorem applyTrain_deeds {r : DungeonRoom F} (hr : Keyed r)
    (cmd : PendingCommand F) : Deeds cmd.ownerUid r (r.applyTrain cmd) := by
  have hreject : forall code, Deeds cmd.ownerUid r (r.reject cmd code) :=
    fun _ => Relation.ReflTransGen.single (Deed.reject rfl)
  unfold applyTrain
  split
  · exact hreject _
  · rename_i b hb
    split
    · exact hreject _
    · rename_i hown
      split
      · exact hreject _
      · split
        · exact hreject _
        · rename_i res hres
          split
          · exact hreject _
          · rename_i hafford
            have howner : b.ownerUid = cmd.ownerUid :=
              not_not.mp fun h => hown (Or.inl h)
            exact Relation.ReflTransGen.single
              (Deed.train hb (hr.buildings _ b hb).left howner
                (by simpa using hafford))

theorem applyCommand_deeds {r : DungeonRoom F} (hr : Keyed r)
    {cmd : PendingCommand F} (hcmd : createsNothing cmd.type = true) :
    Deeds cmd.ownerUid r (r.applyCommand cmd) := by
  unfold applyCommand
  cases htype : cmd.type with
  | move =>
      exact collected_deeds hr cmd.ownerUid cmd.unitIds
        fun _ _ => ⟨rfl, rfl, rfl, rfl, rfl⟩
  | stop =>
      rw [htype] at hcmd
      cases hcmd
  | attack => exact applyAttack_deeds r cmd.ownerUid cmd.unitIds cmd.targetEntity
  | harvest =>
      show Deeds cmd.ownerUid r
        (r.applyHarvest cmd.ownerUid cmd.unitIds cmd.targetEntity)
      unfold applyHarvest
      split
      · exact Relation.ReflTransGen.refl
      · exact collected_deeds hr cmd.ownerUid cmd.unitIds
          fun _ _ => ⟨rfl, rfl, rfl, rfl, rfl⟩
  | store =>
      exact collected_deeds hr cmd.ownerUid cmd.unitIds
        fun _ _ => ⟨rfl, rfl, rfl, rfl, rfl⟩
  | pickup =>
      show Deeds cmd.ownerUid r
        (r.applyPickup cmd.ownerUid cmd.unitIds cmd.targetEntity)
      unfold applyPickup
      split
      · exact Relation.ReflTransGen.refl
      · exact collected_deeds hr cmd.ownerUid cmd.unitIds
          fun _ _ => ⟨rfl, rfl, rfl, rfl, rfl⟩
  | build =>
      rw [htype] at hcmd
      cases hcmd
  | construct =>
      show Deeds cmd.ownerUid r
        (r.applyConstruct cmd.ownerUid cmd.unitIds cmd.targetEntity)
      unfold applyConstruct
      split
      · exact Relation.ReflTransGen.refl
      · split
        · exact Relation.ReflTransGen.refl
        · exact assignConstructors_deeds r cmd.ownerUid cmd.unitIds
            cmd.targetEntity
  | train => exact applyTrain_deeds hr cmd

/-!
## The commands of a player in two rooms that show it the same
-/

omit [Scalar F] in
theorem Alike.ownsUnit {p : Nat} {r s : DungeonRoom F} (h : Alike p r s)
    (id : Nat) : s.ownsUnit p id = r.ownsUnit p id := by
  have hiff : forall t : DungeonRoom F, t.ownsUnit p id = true <->
      exists u, t.units.lookup id = some u ∧ u.ownerUid = p := by
    intro t
    unfold DungeonRoom.ownsUnit
    split
    · rename_i hnone
      simp [hnone]
    · rename_i u hu
      simp [hu]
  rw [Bool.eq_iff_iff, hiff, hiff]
  constructor
  · rintro ⟨u, hu, howner⟩
    exact ⟨u, (h.units id u howner).mp hu, howner⟩
  · rintro ⟨u, hu, howner⟩
    exact ⟨u, (h.units id u howner).mpr hu, howner⟩

/-- Two orders that agree on the members of a list sort it alike. -/
theorem insertionSort_congr {alpha : Type} {le le' : alpha -> alpha -> Prop}
    [DecidableRel le] [DecidableRel le'] (l : List alpha)
    (h : forall a b, a ∈ l -> b ∈ l -> (le a b <-> le' a b)) :
    l.insertionSort le = l.insertionSort le' := by
  have hinsert : forall (a : alpha) (l : List alpha),
      (forall b, b ∈ l -> (le a b <-> le' a b)) ->
      l.orderedInsert le a = l.orderedInsert le' a := by
    intro a l hl
    induction l with
    | nil =>
        rfl
    | cons b rest ih =>
        have hrest := ih fun c hc => hl c (List.mem_cons_of_mem _ hc)
        simp only [List.orderedInsert, hl b (List.mem_cons_self), hrest]
  induction l with
  | nil =>
      rfl
  | cons a rest ih =>
      have hrest := ih fun b c hb hc =>
        h b c (List.mem_cons_of_mem _ hb) (List.mem_cons_of_mem _ hc)
      rw [List.insertionSort_cons, List.insertionSort_cons, hrest]
      apply hinsert
      intro b hb
      rw [List.mem_insertionSort] at hb
      exact h a b (List.mem_cons_self) (List.mem_cons_of_mem _ hb)

omit [Scalar F] in
theorem Alike.collectOwnedUnits {p : Nat} {r s : DungeonRoom F}
    (h : Alike p r s) (unitIds : List Nat) :
    s.collectOwnedUnits p unitIds = r.collectOwnedUnits p unitIds := by
  unfold DungeonRoom.collectOwnedUnits
  have hfilter : (unitIds.filter fun id => s.ownsUnit p id) =
      unitIds.filter fun id => r.ownsUnit p id := by
    apply List.filter_congr
    intro id _
    exact h.ownsUnit id
  have hid : forall id, r.ownsUnit p id = true -> s.unitIdAt id = r.unitIdAt id := by
    intro id howns
    unfold DungeonRoom.ownsUnit at howns
    split at howns
    · cases howns
    · rename_i u hu
      have hus := (h.units id u (of_decide_eq_true howns)).mpr hu
      simp [unitIdAt, hu, hus]
  rw [hfilter]
  apply insertionSort_congr
  intro a b ha hb
  rw [hid a (List.mem_filter.mp ha).right, hid b (List.mem_filter.mp hb).right]

theorem Alike.moveDirection {p : Nat} {r s : DungeonRoom F} (h : Alike p r s)
    (unitIds : List Nat) (target : Vec3f F) :
    s.moveDirection (r.collectOwnedUnits p unitIds) target =
      r.moveDirection (r.collectOwnedUnits p unitIds) target := by
  have hsum : s.centerSum (r.collectOwnedUnits p unitIds) =
      r.centerSum (r.collectOwnedUnits p unitIds) := by
    unfold centerSum
    apply List.foldl_ext
    intro c id hid
    rcases mem_collectOwnedUnits hid with ⟨_, u, hu, howner⟩
    rw [hu, (h.units id u howner).mpr hu]
  unfold DungeonRoom.moveDirection
  rw [hsum]

omit [Scalar F] in
/-- The same order to the same own unit. -/
theorem Alike.order {p : Nat} {r s : DungeonRoom F} (h : Alike p r s) (id : Nat)
    (v : GameUnit F) :
    Alike p ((r.putUnit id v).markDirty id) ((s.putUnit id v).markDirty id) := by
  refine ⟨?_, h.buildings, h.ledger, ?_, h.buildingDirty, h.resourceDirty,
    h.rejected, h.sites, h.background⟩
  · intro j w hw
    show (s.units.insert id v).lookup j = some w <->
      (r.units.insert id v).lookup j = some w
    rw [Table.lookup_insert_ite, Table.lookup_insert_ite]
    split
    · exact Iff.rfl
    · exact h.units j w hw
  · intro j w hw hlook
    show j ∈ s.dirty.insert id <-> j ∈ r.dirty.insert id
    change (r.units.insert id v).lookup j = some w at hlook
    rw [Table.lookup_insert_ite] at hlook
    rw [List.mem_insert_iff, List.mem_insert_iff]
    by_cases hj : j = id
    · simp [hj]
    · rw [if_neg hj] at hlook
      rw [h.dirty j w hw hlook]

omit [Scalar F] in
theorem Alike.orderSelected {p : Nat} {order : Nat -> GameUnit F -> GameUnit F}
    (hbody : forall index u, SameBody u (order index u)) (ids : List Nat)
    (index : Nat) {r s : DungeonRoom F} (h : Alike p r s) (hr : Keyed r)
    (howned : forall id, id ∈ ids -> exists u, r.units.lookup id = some u ∧
      u.ownerUid = p) :
    Alike p (DungeonRoom.orderSelected order index ids r)
      (DungeonRoom.orderSelected order index ids s) := by
  induction ids generalizing index r s with
  | nil =>
      exact h
  | cons id rest ih =>
      rcases howned id (List.mem_cons_self) with ⟨u, hu, howner⟩
      have hus := (h.units id u howner).mpr hu
      have hb := hbody index u
      simp only [DungeonRoom.orderSelected, hu, hus]
      rw [hb.id.trans (hr.unit_id hu)]
      apply ih (index + 1) (h.order id _)
        ((hr.putUnit hu hb.id).congr rfl rfl rfl rfl rfl)
      intro j hj
      show exists w, (r.units.insert id (order index u)).lookup j = some w ∧ _
      rw [Table.lookup_insert_ite]
      split
      · exact ⟨_, rfl, hb.ownerUid.trans howner⟩
      · exact howned j (List.mem_cons_of_mem _ hj)

omit [Scalar F] in
theorem Alike.collected {p : Nat} {r s : DungeonRoom F} (h : Alike p r s)
    (hr : Keyed r) (unitIds : List Nat)
    {order : Nat -> GameUnit F -> GameUnit F}
    (hbody : forall index u, SameBody u (order index u)) :
    Alike p
      (DungeonRoom.orderSelected order 0 (r.collectOwnedUnits p unitIds) r)
      (DungeonRoom.orderSelected order 0 (r.collectOwnedUnits p unitIds) s) := by
  apply Alike.orderSelected hbody _ 0 h hr
  intro id hid
  exact (mem_collectOwnedUnits hid).right

omit [Scalar F] in
theorem Alike.orderEachOwned {p : Nat}
    {order : DungeonRoom F -> Nat -> GameUnit F -> DungeonRoom F}
    (horder : forall r s id u, Alike p r s -> u.ownerUid = p ->
      Alike p (order r id u) (order s id u)) (ids : List Nat)
    {r s : DungeonRoom F} (h : Alike p r s) :
    Alike p (DungeonRoom.orderEachOwned p order ids r)
      (DungeonRoom.orderEachOwned p order ids s) := by
  induction ids generalizing r s with
  | nil =>
      exact h
  | cons id rest ih =>
      by_cases howns : exists u, r.units.lookup id = some u ∧ u.ownerUid = p
      · rcases howns with ⟨u, hu, howner⟩
        have hus := (h.units id u howner).mpr hu
        simp only [DungeonRoom.orderEachOwned, hu, hus, howner, ne_eq,
          not_true_eq_false, if_false]
        exact ih (horder r s id u h howner)
      · have hskip : forall t : DungeonRoom F,
            ¬ (exists u, t.units.lookup id = some u ∧ u.ownerUid = p) ->
            DungeonRoom.orderEachOwned p order (id :: rest) t =
              DungeonRoom.orderEachOwned p order rest t := by
          intro t ht
          rw [DungeonRoom.orderEachOwned]
          split
          · rfl
          · rename_i u hu
            rw [if_pos fun howner => ht ⟨u, hu, howner⟩]
        have hownsS : ¬ exists u, s.units.lookup id = some u ∧ u.ownerUid = p := by
          rintro ⟨u, hu, howner⟩
          exact howns ⟨u, (h.units id u howner).mp hu, howner⟩
        rw [hskip r howns, hskip s hownsS]
        exact ih h

omit [Scalar F] in
theorem Alike.reject {p : Nat} {r s : DungeonRoom F} (h : Alike p r s)
    (cmd : PendingCommand F) (code : RejectCode) :
    Alike p (r.reject cmd code) (s.reject cmd code) := by
  refine ⟨h.units, h.buildings, h.ledger, h.dirty, h.buildingDirty,
    h.resourceDirty, ?_, h.sites, h.background⟩
  have hrejected := h.rejected
  unfold rejectedOf at hrejected
  show (s.rejected ++ [_]).filter _ = (r.rejected ++ [_]).filter _
  rw [List.filter_append, List.filter_append, hrejected]

omit [Scalar F] in
/-- The same purchase for the same own building. -/
theorem Alike.train {p : Nat} {r s : DungeonRoom F} (h : Alike p r s) {id : Nat}
    {b c : Building F} (hb : r.buildings.lookup id = some b)
    (hbs : s.buildings.lookup id = some b) (hid : b.id = id)
    (hc : c.underConstruction = b.underConstruction) {res : PlayerRes}
    {cost : ResCost} (hafford : res.canAfford cost = true) :
    Alike p (((r.payFrom p res cost).putBuilding id c).markBuilding b.id)
      (((s.payFrom p res cost).putBuilding id c).markBuilding b.id) := by
  refine ⟨h.units, ?_, ?_, h.dirty, ?_, ?_, h.rejected, ?_, ?_⟩
  · intro j d hd
    show (s.buildings.insert id c).lookup j = some d <->
      (r.buildings.insert id c).lookup j = some d
    rw [Table.lookup_insert_ite, Table.lookup_insert_ite]
    split
    · exact Iff.rfl
    · exact h.buildings j d hd
  · show (s.playerRes.insert p _).lookup p = (r.playerRes.insert p _).lookup p
    rw [AList.lookup_insert, AList.lookup_insert]
  · intro j d hd hlook
    show j ∈ s.buildingDirty.insert b.id <-> j ∈ r.buildingDirty.insert b.id
    change (r.buildings.insert id c).lookup j = some d at hlook
    rw [Table.lookup_insert_ite] at hlook
    rw [hid, List.mem_insert_iff, List.mem_insert_iff]
    by_cases hj : j = id
    · simp [hj]
    · rw [if_neg hj] at hlook
      rw [h.buildingDirty j d hd hlook]
  · show p ∈ s.resourceDirty.insert p <-> p ∈ r.resourceDirty.insert p
    simp
  · intro j
    calc (((s.payFrom p res cost).putBuilding id c).markBuilding b.id).siteAt j
        = s.siteAt j := putBuilding_siteAt (r := s.payFrom p res cost) hbs hc j
      _ = r.siteAt j := h.sites j
      _ = _ := (putBuilding_siteAt (r := r.payFrom p res cost) hb hc j).symm
  · calc (((s.payFrom p res cost).putBuilding id c).markBuilding b.id).background
        = s.background := payFrom_background (r := s) hafford
      _ = r.background := h.background
      _ = _ := (payFrom_background (r := r) hafford).symm

/-- Without a building of the sender under the key the command is rejected. -/
theorem applyTrain_foreign {r : DungeonRoom F} {cmd : PendingCommand F}
    (h : ¬ exists b, r.buildings.lookup cmd.targetEntity = some b ∧
      b.ownerUid = cmd.ownerUid) :
    r.applyTrain cmd = r.reject cmd RejectCode.invalidEntity := by
  unfold applyTrain
  split
  · rfl
  · rename_i b hb
    rw [if_pos (Or.inl fun howner => h ⟨b, hb, howner⟩)]

theorem Alike.applyTrain {r s : DungeonRoom F} {cmd : PendingCommand F}
    (h : Alike cmd.ownerUid r s) (hr : Keyed r) :
    Alike cmd.ownerUid (r.applyTrain cmd) (s.applyTrain cmd) := by
  by_cases howns : exists b, r.buildings.lookup cmd.targetEntity = some b ∧
      b.ownerUid = cmd.ownerUid
  · rcases howns with ⟨b, hb, howner⟩
    have hbs := (h.buildings _ b howner).mpr hb
    simp only [DungeonRoom.applyTrain, hb, hbs, h.ledger]
    split
    · exact h.reject cmd _
    · split
      · exact h.reject cmd _
      · split
        · exact h.reject cmd _
        · split
          · exact h.reject cmd _
          · rename_i hafford
            apply h.train hb hbs (hr.buildings _ b hb).left _
              (by simpa using hafford)
            rfl
  · have hownsS : ¬ exists b, s.buildings.lookup cmd.targetEntity = some b ∧
        b.ownerUid = cmd.ownerUid := by
      rintro ⟨b, hb, howner⟩
      exact howns ⟨b, (h.buildings _ b howner).mp hb, howner⟩
    rw [applyTrain_foreign howns, applyTrain_foreign hownsS]
    exact h.reject cmd _

theorem Alike.applyMove {p : Nat} {r s : DungeonRoom F} (h : Alike p r s)
    (hr : Keyed r) (unitIds : List Nat) (target : Vec3f F)
    (path : List (Vec3f F)) :
    Alike p (r.applyMove p unitIds target path)
      (s.applyMove p unitIds target path) := by
  unfold DungeonRoom.applyMove
  dsimp only
  rw [h.collectOwnedUnits, h.moveDirection]
  exact h.collected hr unitIds fun _ _ => ⟨rfl, rfl, rfl, rfl, rfl⟩

theorem Alike.applyAttack {p : Nat} {r s : DungeonRoom F} (h : Alike p r s)
    (unitIds : List Nat) (targetEntity : Nat) :
    Alike p (r.applyAttack p unitIds targetEntity)
      (s.applyAttack p unitIds targetEntity) := by
  unfold DungeonRoom.applyAttack
  apply Alike.orderEachOwned _ unitIds h
  intro r s id u hrs howner
  split
  · exact hrs
  · exact hrs.order id _

theorem Alike.applyHarvest {p : Nat} {r s : DungeonRoom F} (h : Alike p r s)
    (hr : Keyed r) (unitIds : List Nat) (fieldId : Nat) :
    Alike p (r.applyHarvest p unitIds fieldId)
      (s.applyHarvest p unitIds fieldId) := by
  unfold DungeonRoom.applyHarvest
  rw [h.fields]
  split
  · exact h
  · dsimp only
    rw [h.collectOwnedUnits]
    exact h.collected hr unitIds fun _ _ => ⟨rfl, rfl, rfl, rfl, rfl⟩

theorem Alike.applyStore {p : Nat} {r s : DungeonRoom F} (h : Alike p r s)
    (hr : Keyed r) (unitIds : List Nat) (campId : Nat) :
    Alike p (r.applyStore p unitIds campId) (s.applyStore p unitIds campId) := by
  unfold DungeonRoom.applyStore
  rw [h.collectOwnedUnits]
  exact h.collected hr unitIds fun _ _ => ⟨rfl, rfl, rfl, rfl, rfl⟩

theorem Alike.applyPickup {p : Nat} {r s : DungeonRoom F} (h : Alike p r s)
    (hr : Keyed r) (unitIds : List Nat) (dropId : Nat) :
    Alike p (r.applyPickup p unitIds dropId) (s.applyPickup p unitIds dropId) := by
  unfold DungeonRoom.applyPickup
  rw [h.drops]
  split
  · exact h
  · dsimp only
    rw [h.collectOwnedUnits]
    exact h.collected hr unitIds fun _ _ => ⟨rfl, rfl, rfl, rfl, rfl⟩

/-- The site may belong to anybody; whether it is one, no command changes. -/
theorem Alike.applyConstruct {p : Nat} {r s : DungeonRoom F} (h : Alike p r s)
    (unitIds : List Nat) (buildingId : Nat) :
    Alike p (r.applyConstruct p unitIds buildingId)
      (s.applyConstruct p unitIds buildingId) := by
  have hsite : forall t : DungeonRoom F, t.applyConstruct p unitIds buildingId =
      if t.siteAt buildingId = some true then
        t.assignConstructors p unitIds buildingId
      else t := by
    intro t
    unfold DungeonRoom.applyConstruct siteAt
    cases t.buildings.lookup buildingId with
    | none => rfl
    | some b => cases hb : b.underConstruction <;> simp [hb]
  rw [hsite r, hsite s, h.sites]
  split
  · unfold assignConstructors
    apply Alike.orderEachOwned _ unitIds h
    intro r s id u hrs howner
    exact hrs.order id _
  · exact h

theorem Alike.applyCommand {r s : DungeonRoom F} {cmd : PendingCommand F}
    (h : Alike cmd.ownerUid r s) (hr : Keyed r)
    (hcmd : createsNothing cmd.type = true) :
    Alike cmd.ownerUid (r.applyCommand cmd) (s.applyCommand cmd) := by
  unfold DungeonRoom.applyCommand
  cases htype : cmd.type with
  | move => exact h.applyMove hr cmd.unitIds cmd.target cmd.path
  | stop =>
      rw [htype] at hcmd
      cases hcmd
  | attack => exact h.applyAttack cmd.unitIds cmd.targetEntity
  | harvest => exact h.applyHarvest hr cmd.unitIds cmd.targetEntity
  | store => exact h.applyStore hr cmd.unitIds cmd.targetEntity
  | pickup => exact h.applyPickup hr cmd.unitIds cmd.targetEntity
  | build =>
      rw [htype] at hcmd
      cases hcmd
  | construct => exact h.applyConstruct cmd.unitIds cmd.targetEntity
  | train => exact h.applyTrain hr

/-!
## The theorem
-/

theorem applyCommand_confined :
    Confined (applyCommand (F := F)) (fun cmd => cmd.ownerUid) Keyed
      (fun cmd => createsNothing cmd.type = true) Alike where
  keeps := by
    intro r cmd hr _
    rcases applyCommand_effects hr (justified_any r cmd) with ⟨_, heff, _⟩
    exact Effects.keyed hr heff
  own := by
    intro r s cmd hr _ hcmd h
    exact h.applyCommand hr hcmd
  foreign := by
    intro r s cmd p hr hcmd hp h
    exact ((applyCommand_deeds hr hcmd).foreign hp).symm.trans h

theorem applyCommands_steady (cmds : List (PendingCommand F)) (r : DungeonRoom F)
    (hr : Keyed r)
    (hcmds : forall cmd, cmd ∈ cmds -> createsNothing cmd.type = true) :
    Steady r (r.applyCommands cmds) := by
  induction cmds generalizing r with
  | nil =>
      exact Steady.refl r
  | cons cmd rest ih =>
      have hcmd := hcmds cmd (List.mem_cons_self)
      have hfirst := (applyCommand_deeds hr hcmd).steady
      have hkeyed := applyCommand_confined.keeps r cmd hr hcmd
      apply hfirst.trans
      apply ih _ hkeyed
      intro c hc
      exact hcmds c (List.mem_cons_of_mem _ hc)

/--
The two rooms are the same: maps and sets hold the same, everything else is
equal, except that only the rejections of one and the same player are known to
be in the same order.
-/
structure SameRoom (r s : DungeonRoom F) : Prop where
  units : forall id, s.units.lookup id = r.units.lookup id
  buildings : forall id, s.buildings.lookup id = r.buildings.lookup id
  playerRes : forall uid, s.playerRes.lookup uid = r.playerRes.lookup uid
  dirty : forall id, id ∈ s.dirty <-> id ∈ r.dirty
  buildingDirty : forall id, id ∈ s.buildingDirty <-> id ∈ r.buildingDirty
  resourceDirty : forall uid, uid ∈ s.resourceDirty <-> uid ∈ r.resourceDirty
  rejected : forall uid, s.rejectedOf uid = r.rejectedOf uid
  pending : s.pending = r.pending
  background : s.background = r.background

omit [Scalar F] in
/-- Rooms that show every player the same are the same. -/
theorem sameRoom_of_alike {start r s : DungeonRoom F} (hr : Steady start r)
    (hs : Steady start s) (h : forall p, Alike p r s)
    (hpending : s.pending = r.pending) : SameRoom r s := by
  constructor
  · intro id
    cases hlook : r.units.lookup id with
    | none => exact (hs.units id).mpr ((hr.units id).mp hlook)
    | some u => exact ((h u.ownerUid).units id u rfl).mpr hlook
  · intro id
    cases hlook : r.buildings.lookup id with
    | none => exact (hs.buildings id).mpr ((hr.buildings id).mp hlook)
    | some b => exact ((h b.ownerUid).buildings id b rfl).mpr hlook
  · intro uid
    exact (h uid).ledger
  · intro id
    cases hlook : r.units.lookup id with
    | none =>
        have hstart := (hr.units id).mp hlook
        exact (hs.dirty id hstart).trans (hr.dirty id hstart).symm
    | some u => exact (h u.ownerUid).dirty id u rfl hlook
  · intro id
    cases hlook : r.buildings.lookup id with
    | none =>
        have hstart := (hr.buildings id).mp hlook
        exact (hs.buildingDirty id hstart).trans (hr.buildingDirty id hstart).symm
    | some b => exact (h b.ownerUid).buildingDirty id b rfl hlook
  · intro uid
    exact (h uid).resourceDirty
  · intro uid
    exact (h uid).rejected
  · exact hpending
  · exact (h 0).background

/--
Two interleavings of the same sequences of commands, none of which creates an
entity, lead to the same room.
-/
theorem applyPending_interleaved {r : DungeonRoom F} (hr : Reachable r)
    {cmds cmds' : List (PendingCommand F)}
    (hsame : Interleaved (fun cmd => cmd.ownerUid) cmds cmds')
    (hcmds : forall cmd, cmd ∈ cmds -> createsNothing cmd.type = true) :
    SameRoom ({ r with pending := cmds } : DungeonRoom F).applyPending
      ({ r with pending := cmds' } : DungeonRoom F).applyPending := by
  have hkeyed : forall q, Keyed ({ r with pending := q } : DungeonRoom F) :=
    fun _ => hr.keyed.congr rfl rfl rfl rfl rfl
  have hsteady : forall q l, (forall cmd, cmd ∈ l ->
      createsNothing cmd.type = true) ->
      Steady r { ({ r with pending := q } : DungeonRoom F).applyCommands l with
        pending := [] } := by
    intro q l hl
    have h := applyCommands_steady l _ (hkeyed q) hl
    exact ⟨h.units, h.buildings, h.dirty, h.buildingDirty⟩
  apply sameRoom_of_alike (hsteady cmds cmds hcmds)
    (hsteady cmds' cmds' fun cmd hcmd => hcmds cmd (hsame.symm.mem hcmd)) _ rfl
  intro p
  have hstart : Alike p ({ r with pending := cmds } : DungeonRoom F)
      { r with pending := cmds' } := by
    have h := Alike.refl (p := p) r
    exact ⟨h.units, h.buildings, rfl, h.dirty, h.buildingDirty, Iff.rfl, rfl,
      fun _ => rfl, rfl⟩
  have h := applyCommand_confined.foldl_interleaved Alike.equivalence hsame
    hcmds (hkeyed cmds) (hkeyed cmds') hstart
  exact ⟨h.units, h.buildings, h.ledger, h.dirty, h.buildingDirty,
    h.resourceDirty, h.rejected, h.sites, h.background⟩

/-- The first player sends its villager after the other one. -/
def pursuit : PendingCommand Rat :=
  ⟨CommandType.attack, 1, 0, [1, 2], ⟨0, 0, 0⟩, [], 2, 0, 0⟩

theorem neighbours_interleaved :
    SameRoom
      ({ neighbours with pending := [trespass, pursuit] } : DungeonRoom Rat).applyPending
      ({ neighbours with pending := [pursuit, trespass] } : DungeonRoom Rat).applyPending := by
  apply applyPending_interleaved neighbours_reachable
  · intro p
    by_cases hp : p = 1
    · subst hp
      rfl
    · have hpursuit : ¬ 1 = p := fun h => hp h.symm
      simp [List.filter_cons, trespass, pursuit, hpursuit]
  · intro cmd hcmd
    simp only [List.mem_cons, List.not_mem_nil, or_false] at hcmd
    rcases hcmd with hcmd | hcmd
    · rw [hcmd]
      decide
    · rw [hcmd]
      decide

end DungeonRoom

end RtsGame
