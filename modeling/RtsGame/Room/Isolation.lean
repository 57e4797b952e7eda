import RtsGame.Room.Reachability

/-!
# Ownership isolation

The commands of one player leave the units, the buildings and the ledger of
every other player alone, and mark none of their entities as changed.
-/

namespace RtsGame

open Scalar

namespace DungeonRoom

variable {F : Type}

/-- Nothing that belongs to the player differs between the two rooms. -/
structure Untouched (p : Nat) (r s : DungeonRoom F) : Prop where
  units : forall id u, u.ownerUid = p ->
    (s.units.lookup id = some u <-> r.units.lookup id = some u)
  buildings : forall id b, b.ownerUid = p ->
    (s.buildings.lookup id = some b <-> r.buildings.lookup id = some b)
  ledger : s.playerRes.lookup p = r.playerRes.lookup p
  dirty : forall id, id ∈ s.dirty -> id ∉ r.dirty ->
    forall u, s.units.lookup id = some u -> u.ownerUid ≠ p
  buildingDirty : forall id, id ∈ s.buildingDirty -> id ∉ r.buildingDirty ->
    forall b, s.buildings.lookup id = some b -> b.ownerUid ≠ p

namespace Untouched

variable {p : Nat}

theorem refl (r : DungeonRoom F) : Untouched p r r := by
  refine ⟨fun _ _ _ => Iff.rfl, fun _ _ _ => Iff.rfl, rfl, ?_, ?_⟩
  · intro id hid hnot
    exact absurd hid hnot
  · intro id hid hnot
    exact absurd hid hnot

theorem trans {r s t : DungeonRoom F} (hrs : Untouched p r s)
    (hst : Untouched p s t) : Untouched p r t := by
  constructor
  · intro id u hu
    exact (hst.units id u hu).trans (hrs.units id u hu)
  · intro id b hb
    exact (hst.buildings id b hb).trans (hrs.buildings id b hb)
  · exact hst.ledger.trans hrs.ledger
  · intro id hid hnot u hu howner
    by_cases hmid : id ∈ s.dirty
    · exact hrs.dirty id hmid hnot u ((hst.units id u howner).mp hu) howner
    · exact hst.dirty id hid hmid u hu howner
  · intro id hid hnot b hb howner
    by_cases hmid : id ∈ s.buildingDirty
    · exact hrs.buildingDirty id hmid hnot b
        ((hst.buildings id b howner).mp hb) howner
    · exact hst.buildingDirty id hid hmid b hb howner

/-- Writing a foreign unit back under the same owner. -/
theorem putUnit {r : DungeonRoom F} {id mark : Nat} {u v : GameUnit F}
    (hu : r.units.lookup id = some u) (hforeign : u.ownerUid ≠ p)
    (howner : v.ownerUid = u.ownerUid) (hmark : mark = id) :
    Untouched p r ((r.putUnit id v).markDirty mark) := by
  subst hmark
  constructor
  · intro j w hw
    change (r.units.insert mark v).lookup j = some w <-> _
    rw [Table.lookup_insert_ite]
    split
    · rename_i hj
      subst hj
      rw [hu]
      constructor
      · intro h
        injection h with hvw
        exact absurd (by rw [← hw, ← hvw, howner]) hforeign
      · intro h
        injection h with huw
        exact absurd (by rw [← hw, ← huw]) hforeign
    · exact Iff.rfl
  · intro _ _ _
    exact Iff.rfl
  · rfl
  · intro j hj hnot w hw
    change j ∈ r.dirty.insert mark at hj
    change (r.units.insert mark v).lookup j = some w at hw
    rw [List.mem_insert_iff] at hj
    rcases hj with hj | hj
    · subst hj
      rw [AList.lookup_insert] at hw
      injection hw with hvw
      rw [← hvw, howner]
      exact hforeign
    · exact absurd hj hnot
  · intro j hj hnot
    exact absurd hj hnot

/-- Writing a foreign building back under the same owner. -/
theorem putBuilding {r : DungeonRoom F} {id mark : Nat} {b c : Building F}
    (hb : r.buildings.lookup id = some b) (hforeign : b.ownerUid ≠ p)
    (howner : c.ownerUid = b.ownerUid) (hmark : mark = id) :
    Untouched p r ((r.putBuilding id c).markBuilding mark) := by
  subst hmark
  constructor
  · intro _ _ _
    exact Iff.rfl
  · intro j d hd
    change (r.buildings.insert mark c).lookup j = some d <-> _
    rw [Table.lookup_insert_ite]
    split
    · rename_i hj
      subst hj
      rw [hb]
      constructor
      · intro h
        injection h with hcd
        exact absurd (by rw [← hd, ← hcd, howner]) hforeign
      · intro h
        injection h with hbd
        exact absurd (by rw [← hd, ← hbd]) hforeign
    · exact Iff.rfl
  · rfl
  · intro j hj hnot
    exact absurd hj hnot
  · intro j hj hnot d hd
    change j ∈ r.buildingDirty.insert mark at hj
    change (r.buildings.insert mark c).lookup j = some d at hd
    rw [List.mem_insert_iff] at hj
    rcases hj with hj | hj
    · subst hj
      rw [AList.lookup_insert] at hd
      injection hd with hcd
      rw [← hcd, howner]
      exact hforeign
    · exact absurd hj hnot

end Untouched

/-!
## The loops of the commands
-/

/-- What every order to a unit of the owner does, in sequence, the group loop does. -/
theorem orderSelected_owned {q : Nat} {does : DungeonRoom F -> DungeonRoom F -> Prop}
    (hrefl : forall s, does s s)
    (htrans : forall s t t', does s t -> does t t' -> does s t')
    (hput : forall s id u v, Keyed s -> s.units.lookup id = some u -> u.ownerUid = q ->
      SameBody u v -> does s ((s.putUnit id v).markDirty v.id))
    {order : Nat -> GameUnit F -> GameUnit F}
    (hbody : forall index u, SameBody u (order index u)) (ids : List Nat)
    (index : Nat) (s : DungeonRoom F) (hs : Keyed s)
    (howned : forall id u, id ∈ ids -> s.units.lookup id = some u ->
      u.ownerUid = q) :
    does s (orderSelected order index ids s) := by
  induction ids generalizing index s with
  | nil =>
      exact hrefl s
  | cons id rest ih =>
      unfold orderSelected
      split
      · apply ih (index + 1) s hs
        intro j u hj hu
        exact howned j u (List.mem_cons_of_mem _ hj) hu
      · rename_i u hu
        have howner : u.ownerUid = q := howned id u (List.mem_cons_self) hu
        have hb := hbody index u
        have hkeyed : Keyed
            ((s.putUnit id (order index u)).markDirty (order index u).id) := by
          have hwritten := hs.putUnit hu hb.id
          exact ⟨hwritten.units, hwritten.buildings, hwritten.fields, hwritten.drops⟩
        apply htrans _ _ _ (hput s id u _ hs hu howner hb)
        apply ih (index + 1) _ hkeyed
        intro j w hj hw
        change (s.units.insert id (order index u)).lookup j = some w at hw
        rw [Table.lookup_insert_ite] at hw
        split at hw
        · injection hw with hvw
          rw [← hvw, hb.ownerUid, howner]
        · exact howned j w (List.mem_cons_of_mem _ hj) hw

theorem orderSelected_untouched {p q : Nat} (hpq : q ≠ p)
    {order : Nat -> GameUnit F -> GameUnit F}
    (hbody : forall index u, SameBody u (order index u)) (ids : List Nat)
    (index : Nat) (s : DungeonRoom F) (hs : Keyed s)
    (howned : forall id u, id ∈ ids -> s.units.lookup id = some u ->
      u.ownerUid = q) :
    Untouched p s (orderSelected order index ids s) := by
  refine orderSelected_owned Untouched.refl (fun _ _ _ => Untouched.trans) ?_ hbody ids index s
    hs howned
  intro t id u v ht hu howner hb
  rw [← howner] at hpq
  exact Untouched.putUnit hu hpq hb.ownerUid (hb.id.trans (ht.unit_id hu))

theorem orderEachOwned_untouched {p q : Nat}
    {order : DungeonRoom F -> Nat -> GameUnit F -> DungeonRoom F}
    (horder : forall s id u, Keyed s -> s.units.lookup id = some u ->
      u.ownerUid = q -> Untouched p s (order s id u) ∧ Keyed (order s id u))
    (ids : List Nat) (s : DungeonRoom F) (hs : Keyed s) :
    Untouched p s (orderEachOwned q order ids s) := by
  induction ids generalizing s with
  | nil =>
      exact Untouched.refl s
  | cons id rest ih =>
      unfold orderEachOwned
      split
      · exact ih s hs
      · rename_i u hu
        split
        · exact ih s hs
        · rename_i howner
          rcases horder s id u hs hu (not_not.mp howner) with ⟨hfirst, hkeyed⟩
          exact hfirst.trans (ih _ hkeyed)

variable [Scalar F]

omit [Scalar F] in
theorem collected_untouched {p : Nat} {r : DungeonRoom F} (hr : Keyed r)
    {ownerUid : Nat} (howner : ownerUid ≠ p) (unitIds : List Nat)
    {order : Nat -> GameUnit F -> GameUnit F}
    (hbody : forall index u, SameBody u (order index u)) :
    Untouched p r
      (orderSelected order 0 (r.collectOwnedUnits ownerUid unitIds) r) := by
  apply orderSelected_untouched howner hbody _ 0 r hr
  intro id u hid hu
  rcases mem_collectOwnedUnits hid with ⟨_, w, hw, hwowner⟩
  rw [hu] at hw
  injection hw with huw
  rw [huw]
  exact hwowner

omit [Scalar F] in
/-- An order under the key of a unit of another player. -/
theorem order_untouched {p q : Nat} (hpq : q ≠ p) {s : DungeonRoom F}
    (hs : Keyed s) {id : Nat} {u v : GameUnit F}
    (hu : s.units.lookup id = some u) (howner : u.ownerUid = q)
    (hbody : SameBody u v) :
    Untouched p s ((s.putUnit id v).markDirty id) ∧
      Keyed ((s.putUnit id v).markDirty id) := by
  constructor
  · exact Untouched.putUnit hu (by rw [howner]; exact hpq) hbody.ownerUid rfl
  · exact (hs.putUnit hu hbody.id).congr rfl rfl rfl rfl rfl

theorem assignConstructors_untouched {p : Nat} {r : DungeonRoom F}
    (hr : Keyed r) {ownerUid : Nat} (howner : ownerUid ≠ p)
    (unitIds : List Nat) (buildingId : Nat) :
    Untouched p r (r.assignConstructors ownerUid unitIds buildingId) := by
  unfold assignConstructors
  apply orderEachOwned_untouched _ unitIds r hr
  intro s id u hs hu hq
  exact order_untouched howner hs hu hq ⟨rfl, rfl, rfl, rfl, rfl⟩

omit [Scalar F] in
/-- A drop does not belong to anybody. -/
theorem spawnResourceDrop_untouched (p : Nat) (r : DungeonRoom F) (raw : Nat)
    (pos : Vec3f F) (amount : UInt32) :
    Untouched p r (r.spawnResourceDrop raw pos amount) := by
  have h := Untouched.refl (p := p) r
  exact ⟨h.units, h.buildings, h.ledger, h.dirty, h.buildingDirty⟩

theorem applyStop_untouched {p : Nat} {r : DungeonRoom F} (hr : Keyed r)
    {ownerUid : Nat} (howner : ownerUid ≠ p) (unitIds : List Nat) :
    Untouched p r (r.applyStop ownerUid unitIds) := by
  unfold applyStop
  apply orderEachOwned_untouched _ unitIds r hr
  intro s id u hs hu hq
  dsimp only
  unfold dropCarried
  split
  · have hdrop := spawnResourceDrop_untouched p s u.carriedRaw u.pos
      u.carriedAmount
    have hput := order_untouched howner
      (hs.spawnResourceDrop u.carriedRaw u.pos u.carriedAmount) (u := u)
      (v := stopOrder { u with carriedAmount := 0 }) hu hq
      ⟨rfl, rfl, rfl, rfl, rfl⟩
    exact ⟨hdrop.trans hput.1, hput.2⟩
  · exact order_untouched howner hs hu hq ⟨rfl, rfl, rfl, rfl, rfl⟩

theorem applyAttack_untouched {p : Nat} {r : DungeonRoom F} (hr : Keyed r)
    {ownerUid : Nat} (howner : ownerUid ≠ p) (unitIds : List Nat)
    (targetEntity : Nat) :
    Untouched p r (r.applyAttack ownerUid unitIds targetEntity) := by
  unfold applyAttack
  apply orderEachOwned_untouched _ unitIds r hr
  intro s id u hs hu hq
  split
  · exact ⟨Untouched.refl s, hs⟩
  · exact order_untouched howner hs hu hq ⟨rfl, rfl, rfl, rfl, rfl⟩

/-!
## Purchases and rejections
-/

omit [Scalar F] in
theorem reject_untouched (p : Nat) (r : DungeonRoom F)
    (cmd : PendingCommand F) (code : RejectCode) :
    Untouched p r (r.reject cmd code) := by
  have h := Untouched.refl (p := p) r
  exact ⟨h.units, h.buildings, h.ledger, h.dirty, h.buildingDirty⟩

omit [Scalar F] in
theorem payFrom_untouched {p : Nat} (r : DungeonRoom F) {uid : Nat}
    (huid : uid ≠ p) (res : PlayerRes) (cost : ResCost) :
    Untouched p r (r.payFrom uid res cost) := by
  have h := Untouched.refl (p := p) r
  refine ⟨h.units, h.buildings, ?_, h.dirty, h.buildingDirty⟩
  exact AList.lookup_insert_ne (Ne.symm huid)

theorem spawnBuilding_untouched {p : Nat} {r : DungeonRoom F} (hr : Keyed r)
    {uid : Nat} (huid : uid ≠ p) (team buildingType : Nat) (pos : Vec3f F)
    (yaw : F) (site : Bool) :
    Untouched p r (r.spawnBuilding uid team buildingType pos yaw site) := by
  have h := Untouched.refl (p := p) r
  refine ⟨h.units, ?_, h.ledger, h.dirty, ?_⟩
  · intro id b hb
    change (r.buildings.insert r.nextEntityId _).lookup id = some b <-> _
    rw [Table.lookup_insert_ite]
    split
    · rename_i hid
      subst hid
      rw [hr.buildings_fresh]
      constructor
      · intro hnew
        injection hnew with hnew
        exact absurd (by rw [← hb, ← hnew]; rfl) huid
      · intro hnone
        cases hnone
    · exact Iff.rfl
  · intro id hid hnot
    exact absurd hid hnot

theorem applyBuild_untouched {p : Nat} {r : DungeonRoom F} (hr : Keyed r)
    {cmd : PendingCommand F} (howner : cmd.ownerUid ≠ p) :
    Untouched p r (r.applyBuild cmd) := by
  unfold applyBuild
  split
  · exact reject_untouched p r cmd _
  · rename_i res hres
    dsimp only
    split
    · exact reject_untouched p r cmd _
    · split
      · exact reject_untouched p r cmd _
      · have hpaid : Keyed
            (r.payFrom cmd.ownerUid res (buildingCost cmd.auxType)) :=
          hr.congr rfl rfl rfl rfl rfl
        have hpay := payFrom_untouched r howner res (buildingCost cmd.auxType)
        have hspawn := spawnBuilding_untouched hpaid howner
          (r.teamOf cmd.ownerUid) cmd.auxType cmd.target cmd.yaw true
        have hassign := assignConstructors_untouched
          (hpaid.spawnBuilding cmd.ownerUid (r.teamOf cmd.ownerUid) cmd.auxType
            cmd.target cmd.yaw true) howner cmd.unitIds r.nextEntityId
        exact hpay.trans (hspawn.trans hassign)

theorem applyTrain_untouched {p : Nat} {r : DungeonRoom F} (hr : Keyed r)
    {cmd : PendingCommand F} (howner : cmd.ownerUid ≠ p) :
    Untouched p r (r.applyTrain cmd) := by
  unfold applyTrain
  split
  · exact reject_untouched p r cmd _
  · rename_i b hb
    split
    · exact reject_untouched p r cmd _
    · rename_i hown
      split
      · exact reject_untouched p r cmd _
      · split
        · exact reject_untouched p r cmd _
        · rename_i res hres
          split
          · exact reject_untouched p r cmd _
          · have hforeign : b.ownerUid ≠ p := by
              intro hbp
              exact hown (Or.inl (by rw [hbp]; exact Ne.symm howner))
            apply (payFrom_untouched r howner res (unitCost cmd.auxType)).trans
            exact Untouched.putBuilding hb hforeign rfl (hr.buildings _ b hb).left

/-!
## The theorem
-/

theorem applyCommand_untouched {p : Nat} {r : DungeonRoom F} (hr : Keyed r)
    {cmd : PendingCommand F} (howner : cmd.ownerUid ≠ p) :
    Untouched p r (r.applyCommand cmd) := by
  unfold applyCommand
  cases cmd.type with
  | move =>
      exact collected_untouched hr howner cmd.unitIds
        fun _ _ => ⟨rfl, rfl, rfl, rfl, rfl⟩
  | stop => exact applyStop_untouched hr howner cmd.unitIds
  | attack => exact applyAttack_untouched hr howner cmd.unitIds cmd.targetEntity
  | harvest =>
      show Untouched p r (r.applyHarvest cmd.ownerUid cmd.unitIds cmd.targetEntity)
      unfold applyHarvest
      split
      · exact Untouched.refl r
      · exact collected_untouched hr howner cmd.unitIds
          fun _ _ => ⟨rfl, rfl, rfl, rfl, rfl⟩
  | store =>
      exact collected_untouched hr howner cmd.unitIds
        fun _ _ => ⟨rfl, rfl, rfl, rfl, rfl⟩
  | pickup =>
      show Untouched p r (r.applyPickup cmd.ownerUid cmd.unitIds cmd.targetEntity)
      unfold applyPickup
      split
      · exact Untouched.refl r
      · exact collected_untouched hr howner cmd.unitIds
          fun _ _ => ⟨rfl, rfl, rfl, rfl, rfl⟩
  | build => exact applyBuild_untouched hr howner
  | construct =>
      show Untouched p r
        (r.applyConstruct cmd.ownerUid cmd.unitIds cmd.targetEntity)
      unfold applyConstruct
      split
      · exact Untouched.refl r
      · split
        · exact Untouched.refl r
        · exact assignConstructors_untouched hr howner cmd.unitIds
            cmd.targetEntity
  | train => exact applyTrain_untouched hr howner

theorem applyCommands_untouched {p : Nat} (cmds : List (PendingCommand F))
    {r : DungeonRoom F} (hr : Keyed r)
    (hcmds : forall cmd, cmd ∈ cmds -> cmd.ownerUid ≠ p) :
    Untouched p r (r.applyCommands cmds) := by
  induction cmds generalizing r with
  | nil =>
      exact Untouched.refl r
  | cons cmd rest ih =>
      have hfirst := applyCommand_untouched hr (hcmds cmd (List.mem_cons_self))
      rcases applyCommand_effects hr (justified_any r cmd) with ⟨_, heff, _⟩
      apply hfirst.trans
      apply ih (Effects.keyed hr heff)
      intro c hc
      exact hcmds c (List.mem_cons_of_mem _ hc)

/--
Commands of other players leave everything that belongs to a player as it was
and mark nothing of it.
-/
theorem applyPending_isolated {r : DungeonRoom F} (hr : Reachable r)
    (p : Nat) (cmds : List (PendingCommand F))
    (hcmds : forall cmd, cmd ∈ cmds -> cmd.ownerUid ≠ p) :
    Untouched p r ({ r with pending := cmds } : DungeonRoom F).applyPending := by
  have hkeyed : Keyed ({ r with pending := cmds } : DungeonRoom F) :=
    hr.keyed.congr rfl rfl rfl rfl rfl
  have h := applyCommands_untouched cmds hkeyed hcmds
  exact ⟨h.units, h.buildings, h.ledger, h.dirty, h.buildingDirty⟩

theorem neighbours_isolated :
    Untouched 1 neighbours
      ({ neighbours with pending := [trespass] } : DungeonRoom Rat).applyPending := by
  apply applyPending_isolated _ 1 [trespass]
  · intro cmd hcmd
    rw [List.mem_singleton] at hcmd
    rw [hcmd]
    decide
  · exact neighbours_reachable

end DungeonRoom

end RtsGame
