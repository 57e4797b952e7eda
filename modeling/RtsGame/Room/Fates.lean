import RtsGame.Room.Conduct
import RtsGame.Room.Origins

/-!
# What happens to an entity in one turn

A unit that is in the room after a turn is new, was ordered about, has acted
itself, was hit by an enemy, or is as it was before; and similarly for a
building.  Invariants about single entities are checked case by case on these
lists.
-/

namespace RtsGame

open Scalar

namespace DungeonRoom

variable {F : Type} [Scalar F]

/-!
## Commands
-/

/-- The site to which a command sends the units that it names. -/
inductive SentTo (q : DungeonRoom F) (cmd : PendingCommand F) (site : Nat) : Prop where
  | construct {b : Building F} : cmd.type = CommandType.construct ->
      site = cmd.targetEntity -> q.buildings.lookup site = some b ->
      b.underConstruction = true -> SentTo q cmd site
  | build {res : PlayerRes} : cmd.type = CommandType.build ->
      site = q.nextEntityId -> MayBuild q cmd res -> SentTo q cmd site

/-- What a command does to a unit. -/
structure Redirected (q : DungeonRoom F) (cmd : PendingCommand F) (u v : GameUnit F) :
    Prop where
  body : SameBody u v
  speed : v.speed = u.speed
  pos : v.pos = u.pos
  attackCd : v.attackCd = u.attackCd
  manual : v.attackTarget = 0 ∨
    (cmd.type = CommandType.attack ∧ v.attackTarget = cmd.targetEntity ∧
      v.autoAggro = false)
  dropoff : v.dropoffId = 0 ∨
    (cmd.type = CommandType.store ∧ v.dropoffId = cmd.targetEntity)
  site : v.task = WorkerTask.constructing -> SentTo q cmd v.buildTargetId

/-- The unit belongs to the owner of the command, which names it. -/
structure Ordered (q : DungeonRoom F) (cmd : PendingCommand F) (j : Nat)
    (u v : GameUnit F) : Prop extends Redirected q cmd u v where
  listed : j ∈ cmd.unitIds
  owner : u.ownerUid = cmd.ownerUid

section Loops

variable {q : DungeonRoom F} {cmd : PendingCommand F}

omit [Scalar F] in
theorem Redirected.trans {u v w : GameUnit F} (huv : Redirected q cmd u v)
    (hvw : Redirected q cmd v w) : Redirected q cmd u w :=
  ⟨huv.body.trans hvw.body, hvw.speed.trans huv.speed, hvw.pos.trans huv.pos,
    hvw.attackCd.trans huv.attackCd, hvw.manual, hvw.dropoff, hvw.site⟩

omit [Scalar F] in
/-- The group loop redirects listed units, some of them more than once. -/
theorem orderSelected_units {order : Nat -> GameUnit F -> GameUnit F}
    (horder : forall index u, Redirected q cmd u (order index u)) (ids : List Nat)
    (index : Nat) (s : DungeonRoom F) {j : Nat} {v : GameUnit F}
    (h : (orderSelected order index ids s).units.lookup j = some v) :
    s.units.lookup j = some v ∨
      exists u, j ∈ ids ∧ s.units.lookup j = some u ∧ Redirected q cmd u v := by
  induction ids generalizing index s with
  | nil =>
      exact Or.inl h
  | cons id rest ih =>
      unfold orderSelected at h
      split at h
      · rcases ih _ _ h with hsame | ⟨u, hj, hu, hre⟩
        · exact Or.inl hsame
        · exact Or.inr ⟨u, List.mem_cons_of_mem id hj, hu, hre⟩
      · rename_i w hw
        by_cases hj : j = id
        · subst hj
          have hput : ((s.putUnit j (order index w)).markDirty
              (order index w).id).units.lookup j = some (order index w) :=
            AList.lookup_insert _
          rcases ih _ _ h with hsame | ⟨u, _, hu, hre⟩
          · injection hput.symm.trans hsame with heq
            rw [← heq]
            exact Or.inr ⟨w, List.mem_cons_self, hw, horder index w⟩
          · injection hput.symm.trans hu with heq
            rw [← heq] at hre
            exact Or.inr ⟨w, List.mem_cons_self, hw, (horder index w).trans hre⟩
        · have hput : ((s.putUnit id (order index w)).markDirty
              (order index w).id).units.lookup j = s.units.lookup j :=
            AList.lookup_insert_ne hj
          rcases ih _ _ h with hsame | ⟨u, hmem, hu, hre⟩
          · exact Or.inl (hput.symm.trans hsame)
          · exact Or.inr ⟨u, List.mem_cons_of_mem id hmem, hput.symm.trans hu, hre⟩

omit [Scalar F] in
/-- So does the other loop, which looks at the owner each time. -/
theorem orderEachOwned_units {ownerUid : Nat}
    {order : DungeonRoom F -> Nat -> GameUnit F -> DungeonRoom F}
    (horder : forall s id u, (order s id u).units = s.units ∨
      exists v, (order s id u).units = s.units.insert id v ∧ Redirected q cmd u v)
    (ids : List Nat) (s : DungeonRoom F) {j : Nat} {v : GameUnit F}
    (h : (orderEachOwned ownerUid order ids s).units.lookup j = some v) :
    s.units.lookup j = some v ∨
      exists u, j ∈ ids ∧ s.units.lookup j = some u ∧ u.ownerUid = ownerUid ∧
        Redirected q cmd u v := by
  induction ids generalizing s with
  | nil =>
      exact Or.inl h
  | cons id rest ih =>
      have hskip : forall t : DungeonRoom F, t.units.lookup j = s.units.lookup j ->
          (orderEachOwned ownerUid order rest t).units.lookup j = some v ->
          s.units.lookup j = some v ∨
            exists u, j ∈ id :: rest ∧ s.units.lookup j = some u ∧ u.ownerUid = ownerUid ∧
              Redirected q cmd u v := by
        intro t ht hlook
        rcases ih t hlook with hsame | ⟨u, hj, hu, howner, hre⟩
        · exact Or.inl (ht.symm.trans hsame)
        · exact Or.inr ⟨u, List.mem_cons_of_mem id hj, ht.symm.trans hu, howner, hre⟩
      unfold orderEachOwned at h
      split at h
      · exact hskip s rfl h
      · rename_i w hw
        split at h
        · exact hskip s rfl h
        · rename_i howner
          rw [not_not] at howner
          rcases horder s id w with hsame | ⟨x, hx, hre⟩
          · exact hskip _ (by rw [hsame]) h
          · by_cases hj : j = id
            · subst hj
              have hput : (order s j w).units.lookup j = some x := by
                rw [hx, AList.lookup_insert]
              rcases ih _ h with hkept | ⟨u, _, hu, _, hlater⟩
              · injection hput.symm.trans hkept with heq
                rw [← heq]
                exact Or.inr ⟨w, List.mem_cons_self, hw, howner, hre⟩
              · injection hput.symm.trans hu with heq
                rw [← heq] at hlater
                exact Or.inr ⟨w, List.mem_cons_self, hw, howner, hre.trans hlater⟩
            · exact hskip _ (by rw [hx, AList.lookup_insert_ne hj]) h

omit [Scalar F] in
/-- The group loop over the units of the owner. -/
theorem collected_units {order : Nat -> GameUnit F -> GameUnit F}
    (horder : forall index u, Redirected q cmd u (order index u)) {j : Nat}
    {v : GameUnit F}
    (h : (orderSelected order 0 (q.collectOwnedUnits cmd.ownerUid cmd.unitIds)
      q).units.lookup j = some v) :
    q.units.lookup j = some v ∨
      exists u, q.units.lookup j = some u ∧ Ordered q cmd j u v := by
  rcases orderSelected_units horder _ _ _ h with hsame | ⟨u, hj, hu, hre⟩
  · exact Or.inl hsame
  · rcases mem_collectOwnedUnits hj with ⟨hlisted, w, hw, howner⟩
    injection hu.symm.trans hw with heq
    rw [← heq] at howner
    exact Or.inr ⟨u, hu, hre, hlisted, howner⟩

omit [Scalar F] in
/-- The other loop, in a room with the same units. -/
theorem eachOwned_units {order : DungeonRoom F -> Nat -> GameUnit F -> DungeonRoom F}
    (horder : forall s id u, (order s id u).units = s.units ∨
      exists v, (order s id u).units = s.units.insert id v ∧ Redirected q cmd u v)
    {s : DungeonRoom F} (hs : s.units = q.units) {j : Nat} {v : GameUnit F}
    (h : (orderEachOwned cmd.ownerUid order cmd.unitIds s).units.lookup j = some v) :
    q.units.lookup j = some v ∨
      exists u, q.units.lookup j = some u ∧ Ordered q cmd j u v := by
  rw [← hs]
  rcases orderEachOwned_units horder _ _ h with hsame | ⟨u, hj, hu, howner, hre⟩
  · exact Or.inl hsame
  · exact Or.inr ⟨u, hu, hre, hj, howner⟩

theorem assignConstructors_units {site : Nat} (hsent : SentTo q cmd site)
    {s : DungeonRoom F} (hs : s.units = q.units) {j : Nat} {v : GameUnit F}
    (h : (s.assignConstructors cmd.ownerUid cmd.unitIds site).units.lookup j = some v) :
    q.units.lookup j = some v ∨
      exists u, q.units.lookup j = some u ∧ Ordered q cmd j u v := by
  refine eachOwned_units ?_ hs h
  intro t id u
  exact Or.inr ⟨constructOrder site u, rfl, ⟨rfl, rfl, rfl, rfl, rfl⟩, rfl, rfl, rfl,
    Or.inl rfl, Or.inl rfl, fun _ => hsent⟩

omit [Scalar F] in
/-- An order to do anything else than to build. -/
theorem Redirected.of_task {u v : GameUnit F} (hbody : SameBody u v)
    (hspeed : v.speed = u.speed) (hpos : v.pos = u.pos) (hcd : v.attackCd = u.attackCd)
    (hmanual : v.attackTarget = 0 ∨ (cmd.type = CommandType.attack ∧
      v.attackTarget = cmd.targetEntity ∧ v.autoAggro = false))
    (hdropoff : v.dropoffId = 0 ∨
      (cmd.type = CommandType.store ∧ v.dropoffId = cmd.targetEntity))
    (htask : v.task ≠ WorkerTask.constructing) : Redirected q cmd u v :=
  ⟨hbody, hspeed, hpos, hcd, hmanual, hdropoff, fun h => absurd h htask⟩

/-- A command leaves a unit as it is, or redirects it. -/
theorem applyCommand_units (q : DungeonRoom F) (cmd : PendingCommand F) {j : Nat}
    {v : GameUnit F} (h : (q.applyCommand cmd).units.lookup j = some v) :
    q.units.lookup j = some v ∨
      exists u, q.units.lookup j = some u ∧ Ordered q cmd j u v := by
  have hidle : WorkerTask.none ≠ WorkerTask.constructing := by decide
  have hgathering : WorkerTask.gathering ≠ WorkerTask.constructing := by decide
  have hreturning : WorkerTask.returning ≠ WorkerTask.constructing := by decide
  have hpickup : WorkerTask.pickup ≠ WorkerTask.constructing := by decide
  cases htype : cmd.type with
  | move =>
      rw [applyCommand, htype] at h
      refine collected_units ?_ h
      intro index u
      exact Redirected.of_task ⟨rfl, rfl, rfl, rfl, rfl⟩ rfl rfl rfl (Or.inl rfl) (Or.inl rfl)
        hidle
  | stop =>
      rw [applyCommand, htype] at h
      refine eachOwned_units ?_ rfl h
      intro s id u
      dsimp only
      unfold dropCarried
      split
      · exact Or.inr ⟨stopOrder { u with carriedAmount := 0 }, rfl, Redirected.of_task
          ⟨rfl, rfl, rfl, rfl, rfl⟩ rfl rfl rfl (Or.inl rfl) (Or.inl rfl) hidle⟩
      · exact Or.inr ⟨stopOrder u, rfl, Redirected.of_task ⟨rfl, rfl, rfl, rfl, rfl⟩ rfl rfl
          rfl (Or.inl rfl) (Or.inl rfl) hidle⟩
  | attack =>
      rw [applyCommand, htype] at h
      refine eachOwned_units ?_ rfl h
      intro s id u
      split
      · exact Or.inl rfl
      · exact Or.inr ⟨attackOrder cmd.targetEntity u, rfl, Redirected.of_task
          ⟨rfl, rfl, rfl, rfl, rfl⟩ rfl rfl rfl (Or.inr ⟨htype, rfl, rfl⟩) (Or.inl rfl)
          hidle⟩
  | harvest =>
      rw [applyCommand, htype] at h
      dsimp only at h
      unfold applyHarvest at h
      split at h
      · exact Or.inl h
      · refine collected_units ?_ h
        intro index u
        exact Redirected.of_task ⟨rfl, rfl, rfl, rfl, rfl⟩ rfl rfl rfl (Or.inl rfl)
          (Or.inl rfl) hgathering
  | store =>
      rw [applyCommand, htype] at h
      refine collected_units ?_ h
      intro index u
      exact Redirected.of_task ⟨rfl, rfl, rfl, rfl, rfl⟩ rfl rfl rfl (Or.inl rfl)
        (Or.inr ⟨htype, rfl⟩) hreturning
  | pickup =>
      rw [applyCommand, htype] at h
      dsimp only at h
      unfold applyPickup at h
      split at h
      · exact Or.inl h
      · refine collected_units ?_ h
        intro index u
        exact Redirected.of_task ⟨rfl, rfl, rfl, rfl, rfl⟩ rfl rfl rfl (Or.inl rfl)
          (Or.inl rfl) hpickup
  | build =>
      rw [applyCommand_build q htype] at h
      rcases applyBuild_cases q cmd with ⟨res, hmay, heq⟩ | ⟨code, _, heq⟩
      · rw [heq] at h
        refine assignConstructors_units (SentTo.build htype rfl hmay) ?_ h
        rfl
      · rw [heq] at h
        exact Or.inl h
  | construct =>
      rw [applyCommand, htype] at h
      dsimp only at h
      unfold applyConstruct at h
      split at h
      · exact Or.inl h
      · rename_i b hb
        split at h
        · exact Or.inl h
        · rename_i hsite
          rw [Bool.not_eq_true, Bool.not_eq_false'] at hsite
          exact assignConstructors_units (SentTo.construct htype rfl hb hsite) rfl h
  | train =>
      rw [applyCommand_train q htype] at h
      rcases applyTrain_cases q cmd with ⟨b, res, _, heq⟩ | ⟨code, _, heq⟩
      · rw [heq] at h
        exact Or.inl h
      · rw [heq] at h
        exact Or.inl h

end Loops

/-!
### What commands leave alone
-/

/-- Buildings, ledgers, players and rejections are as before. -/
structure SameEstate (q s : DungeonRoom F) : Prop where
  buildings : s.buildings = q.buildings
  playerRes : s.playerRes = q.playerRes
  players : s.players = q.players
  rejected : s.rejected = q.rejected

omit [Scalar F] in
theorem SameEstate.refl (q : DungeonRoom F) : SameEstate q q := ⟨rfl, rfl, rfl, rfl⟩

omit [Scalar F] in
theorem SameEstate.trans {q p s : DungeonRoom F} (hqp : SameEstate q p)
    (hps : SameEstate p s) : SameEstate q s :=
  ⟨hps.buildings.trans hqp.buildings, hps.playerRes.trans hqp.playerRes,
    hps.players.trans hqp.players, hps.rejected.trans hqp.rejected⟩

omit [Scalar F] in
theorem orderSelected_estate (order : Nat -> GameUnit F -> GameUnit F) (index : Nat)
    (ids : List Nat) (s : DungeonRoom F) :
    SameEstate s (orderSelected order index ids s) := by
  induction ids generalizing index s with
  | nil =>
      exact SameEstate.refl s
  | cons id rest ih =>
      unfold orderSelected
      split
      · exact ih _ s
      · rename_i u hu
        have hfirst : SameEstate s ((s.putUnit id (order index u)).markDirty
            (order index u).id) := ⟨rfl, rfl, rfl, rfl⟩
        exact hfirst.trans (ih _ _)

omit [Scalar F] in
theorem orderEachOwned_estate {ownerUid : Nat}
    {order : DungeonRoom F -> Nat -> GameUnit F -> DungeonRoom F}
    (horder : forall s id u, SameEstate s (order s id u)) (ids : List Nat)
    (s : DungeonRoom F) : SameEstate s (orderEachOwned ownerUid order ids s) := by
  induction ids generalizing s with
  | nil =>
      exact SameEstate.refl s
  | cons id rest ih =>
      unfold orderEachOwned
      split
      · exact ih s
      · split
        · exact ih s
        · exact (horder s id _).trans (ih _)

theorem assignConstructors_estate (s : DungeonRoom F) (ownerUid : Nat)
    (unitIds : List Nat) (site : Nat) :
    SameEstate s (s.assignConstructors ownerUid unitIds site) := by
  unfold assignConstructors
  apply orderEachOwned_estate
  intro t id u
  exact ⟨rfl, rfl, rfl, rfl⟩

/-- Only Build and Train commands touch buildings, ledgers and rejections. -/
theorem applyCommand_estate (q : DungeonRoom F) {cmd : PendingCommand F}
    (hbuild : cmd.type ≠ CommandType.build) (htrain : cmd.type ≠ CommandType.train) :
    SameEstate q (q.applyCommand cmd) := by
  cases htype : cmd.type with
  | move =>
      rw [applyCommand, htype]
      exact orderSelected_estate _ _ _ q
  | stop =>
      rw [applyCommand, htype]
      apply orderEachOwned_estate
      intro s id u
      dsimp only
      unfold dropCarried
      split
      · exact ⟨rfl, rfl, rfl, rfl⟩
      · exact ⟨rfl, rfl, rfl, rfl⟩
  | attack =>
      rw [applyCommand, htype]
      apply orderEachOwned_estate
      intro s id u
      split
      · exact SameEstate.refl s
      · exact ⟨rfl, rfl, rfl, rfl⟩
  | harvest =>
      rw [applyCommand, htype]
      dsimp only
      unfold applyHarvest
      split
      · exact SameEstate.refl q
      · exact orderSelected_estate _ _ _ q
  | store =>
      rw [applyCommand, htype]
      exact orderSelected_estate _ _ _ q
  | pickup =>
      rw [applyCommand, htype]
      dsimp only
      unfold applyPickup
      split
      · exact SameEstate.refl q
      · exact orderSelected_estate _ _ _ q
  | build => exact absurd htype hbuild
  | construct =>
      rw [applyCommand, htype]
      dsimp only
      unfold applyConstruct
      split
      · exact SameEstate.refl q
      · split
        · exact SameEstate.refl q
        · exact assignConstructors_estate q _ _ _
  | train => exact absurd htype htrain

/-!
## Units
-/

/-- A blow that a unit lands in its turn on something at a place. -/
structure Blow (ω : IterOrder) (dt : F) (doAggro : Bool) (q : DungeonRoom F) (i : Nat)
    (a : GameUnit F) (team : Nat) (pos : Vec3f F) (range : F) : Prop where
  found : q.units.lookup i = some a
  alive : ¬ a.hp ≤ lit 0
  foe : team ≠ a.team
  near : ¬ planeDist a.pos pos > range
  ready : (coolDown dt a).attackCd ≤ lit 0
  recovers : exists v, (stepUnit ω dt doAggro q i).units.lookup i = some v ∧
    v.attackCd = kAttackCooldown

/-- How a unit has come to be as it is after a turn. -/
inductive UnitFate (q : DungeonRoom F) (j : Nat) (v : GameUnit F) (t : Turn F) : Prop where
  | kept : q.units.lookup j = some v -> UnitFate q j v t
  | spawned {ownerUid team unitType : Nat} {pos : Vec3f F} {hp speed yaw : F} {plain} :
      t = Turn.call (RoomCall.spawnUnit ownerUid team unitType pos hp speed yaw) plain ->
      q.units.lookup j = none -> j = q.nextEntityId ->
      v = newUnit j ownerUid team unitType pos hp speed yaw -> UnitFate q j v t
  | trained {dt : F} {id unitType : Nat} {b : Building F} : t = Turn.building dt id ->
      q.units.lookup j = none -> j = q.nextEntityId ->
      v = trainedUnit j b unitType -> UnitFate q j v t
  | ordered {cmd : PendingCommand F} {u : GameUnit F} : t = Turn.command cmd ->
      q.units.lookup j = some u -> Ordered q cmd j u v -> UnitFate q j v t
  | acted {ω : IterOrder} {dt : F} {doAggro : Bool} {u w : GameUnit F}
      {p : DungeonRoom F} : t = Turn.unit ω dt doAggro j ->
      Outing ω dt doAggro q j u p w -> Conduct p dt w v ->
      (v.attackCd = w.attackCd ∨ v.attackCd = kAttackCooldown) -> UnitFate q j v t
  | struck {ω : IterOrder} {dt : F} {doAggro : Bool} {i : Nat} {a u : GameUnit F} :
      t = Turn.unit ω dt doAggro i -> i ≠ j -> q.units.lookup j = some u ->
      ¬ u.hp ≤ lit 0 -> Blow ω dt doAggro q i a u.team u.pos kAttackRange ->
      v = hitUnit u -> UnitFate q j v t

section Stances

variable {dt : F} {u w : GameUnit F}

theorem Stance.body (h : Stance dt u w) : SameBody u w := by
  cases h with
  | inl hcooled =>
      rw [hcooled, coolDown_eq]
      exact ⟨rfl, rfl, rfl, rfl, rfl⟩
  | inr hengages => exact hengages.body

theorem Stance.pos (h : Stance dt u w) : w.pos = u.pos := by
  cases h with
  | inl hcooled => rw [hcooled, coolDown_eq]
  | inr hengages => exact hengages.pos

theorem Stance.speed (h : Stance dt u w) : w.speed = u.speed := by
  cases h with
  | inl hcooled => rw [hcooled, coolDown_eq]
  | inr hengages => exact hengages.speed

theorem Stance.attackCd (h : Stance dt u w) : w.attackCd = (coolDown dt u).attackCd := by
  cases h with
  | inl hcooled => rw [hcooled]
  | inr hengages => exact hengages.attackCd

/-- A unit that is sent to a site has not just engaged an enemy. -/
theorem Stance.site (h : Stance dt u w) (htask : w.task = WorkerTask.constructing) :
    u.task = WorkerTask.constructing ∧ w.buildTargetId = u.buildTargetId := by
  cases h with
  | inl hcooled =>
      rw [hcooled, coolDown_eq] at htask ⊢
      exact ⟨htask, rfl⟩
  | inr hengages =>
      rw [hengages.task] at htask
      cases htask

theorem Stance.dropoff (h : Stance dt u w) :
    w.dropoffId = u.dropoffId ∨ w.dropoffId = 0 := by
  cases h with
  | inl hcooled =>
      rw [hcooled, coolDown_eq]
      exact Or.inl rfl
  | inr hengages => exact hengages.dropoff

end Stances

section UnitTurns

variable {q : DungeonRoom F} {j : Nat} {v : GameUnit F}

/-- The unit whose turn it is, or another one that is left alone. -/
theorem Alone.fate {ω : IterOrder} {dt : F} {doAggro : Bool} {id : Nat}
    {u w x : GameUnit F} {p : DungeonRoom F} (hout : Outing ω dt doAggro q id u p w)
    (halone : Alone p (stepUnit ω dt doAggro q id) id x) (hconduct : Conduct p dt w x)
    (hcd : x.attackCd = w.attackCd ∨ x.attackCd = kAttackCooldown)
    (h : (stepUnit ω dt doAggro q id).units.lookup j = some v) :
    UnitFate q j v (Turn.unit ω dt doAggro id) := by
  by_cases hj : j = id
  · subst hj
    injection halone.own.symm.trans h with heq
    rw [← heq]
    exact UnitFate.acted rfl hout hconduct hcd
  · rw [halone.others j hj, hout.solo.others j hj] at h
    exact UnitFate.kept h

theorem stepUnit_fate {ω : IterOrder} {dt : F} {doAggro : Bool} {id : Nat}
    (h : (stepUnit ω dt doAggro q id).units.lookup j = some v) :
    UnitFate q j v (Turn.unit ω dt doAggro id) := by
  rcases stepUnit_cases ω dt doAggro q id with ⟨heq, _⟩ | ⟨u, p, w, hout, _, haction⟩
  · rw [heq] at h
    exact UnitFate.kept h
  · cases haction with
    | rests hsolo hconduct hcd => exact hsolo.toAlone.fate hout hconduct (Or.inl hcd) h
    | @strikesUnit x target targetId ht halive hfoe hnear hready halone _ _ hconduct hcd =>
        have hself : targetId ≠ id := by
          intro heq
          subst heq
          injection ht.symm.trans hout.solo.own with hsame
          exact hfoe (congrArg GameUnit.team hsame)
        by_cases hj : j = id
        · subst hj
          injection halone.own.symm.trans h with heq
          rw [← heq]
          exact UnitFate.acted rfl hout hconduct (Or.inr hcd)
        · rw [halone.others j hj] at h
          change (p.units.insert targetId (hitUnit target)).lookup j = some v at h
          rw [Table.lookup_insert_ite] at h
          split at h
          · rename_i htarget
            subst htarget
            rw [hout.solo.others j hj] at ht
            injection h with heq
            rw [hout.stance.body.team] at hfoe
            rw [hout.stance.pos] at hnear
            rw [hout.stance.attackCd] at hready
            exact UnitFate.struck rfl (Ne.symm hj) ht halive
              ⟨hout.found, hout.alive, hfoe, hnear, hready, x, halone.own, hcd⟩ heq.symm
          · rw [hout.solo.others j hj] at h
            exact UnitFate.kept h
    | strikesBuilding _ _ _ _ _ halone _ _ hconduct hcd =>
        exact halone.fate hout hconduct (Or.inr hcd) h
    | builds _ _ _ _ _ halone _ _ hconduct hcd =>
        exact halone.fate hout hconduct (Or.inl hcd) h
    | banks _ _ _ _ _ halone _ _ hconduct hcd =>
        exact halone.fate hout hconduct (Or.inl hcd) h

/-- The turn of a building: its queue advances, or a unit leaves it. -/
theorem stepBuilding_cases (dt : F) (q : DungeonRoom F) (id : Nat) :
    stepBuilding dt q id = q ∨
    exists b item rest, q.buildings.lookup id = some b ∧ b.trainQueue = item :: rest ∧
      b.underConstruction = false ∧
      ((item.remaining - dt ≤ lit 0 ∧
        stepBuilding dt q id = ((q.spawnTrained b item.unitType).putBuilding id
          { b with trainQueue := rest }).markBuilding b.id) ∨
      (¬ item.remaining - dt ≤ lit 0 ∧
        stepBuilding dt q id = (q.putBuilding id
          { b with trainQueue :=
            { item with remaining := item.remaining - dt } :: rest }).markBuilding b.id)) := by
  cases hb : q.buildings.lookup id with
  | none =>
      refine Or.inl ?_
      simp only [stepBuilding, hb]
  | some b =>
      cases hqueue : b.trainQueue with
      | nil =>
          refine Or.inl ?_
          simp only [stepBuilding, hb, hqueue]
      | cons item rest =>
          cases hsite : b.underConstruction with
          | true =>
              refine Or.inl ?_
              simp only [stepBuilding, hb, hqueue, hsite, if_true]
          | false =>
              refine Or.inr ⟨b, item, rest, rfl, hqueue, hsite, ?_⟩
              by_cases hready : item.remaining - dt ≤ lit 0
              · refine Or.inl ⟨hready, ?_⟩
                simp only [stepBuilding, hb, hqueue, hsite, Bool.false_eq_true, if_false,
                  if_pos hready]
              · refine Or.inr ⟨hready, ?_⟩
                simp only [stepBuilding, hb, hqueue, hsite, Bool.false_eq_true, if_false,
                  if_neg hready]

theorem stepBuilding_fate (hq : Keyed q) {dt : F} {id : Nat}
    (h : (stepBuilding dt q id).units.lookup j = some v) :
    UnitFate q j v (Turn.building dt id) := by
  rcases stepBuilding_cases dt q id with heq | ⟨b, item, rest, _, _, _, ⟨_, heq⟩ | ⟨_, heq⟩⟩
  · rw [heq] at h
    exact UnitFate.kept h
  · rw [heq] at h
    change (q.units.insert q.nextEntityId _).lookup j = some v at h
    rw [Table.lookup_insert_ite] at h
    split at h
    · rename_i hj
      subst hj
      injection h with hv
      exact UnitFate.trained rfl hq.units_fresh rfl hv.symm
    · exact UnitFate.kept h
  · rw [heq] at h
    exact UnitFate.kept h

/-- A call without loops adds a unit or a building, or leaves them all alone. -/
theorem plain_cases (q : DungeonRoom F) {c : RoomCall F} (plain : c.isPlain = true) :
    (exists ownerUid team unitType pos hp speed yaw,
      c = RoomCall.spawnUnit ownerUid team unitType pos hp speed yaw) ∨
    (exists ownerUid team buildingType pos yaw site,
      c = RoomCall.spawnBuilding ownerUid team buildingType pos yaw site) ∨
    ((q.call c).units = q.units ∧ (q.call c).buildings = q.buildings) := by
  cases c with
  | addPlayer uid =>
      refine Or.inr (Or.inr ?_)
      cases hadd : q.addPlayer uid with
      | none =>
          simp only [call, hadd]
          exact ⟨rfl, rfl⟩
      | some joined =>
          simp only [call, hadd]
          rcases addPlayer_cases hadd with ⟨heq, _⟩ | ⟨_, _, _, heq⟩
          · rw [Option.map_some, Option.getD_some, heq]
            exact ⟨rfl, rfl⟩
          · rw [Option.map_some, Option.getD_some, heq]
            exact ⟨rfl, rfl⟩
  | setReady uid ready =>
      refine Or.inr (Or.inr ?_)
      cases hready : q.setReady uid ready with
      | none =>
          simp only [call, hready]
          exact ⟨rfl, rfl⟩
      | some s =>
          simp only [call, hready]
          rcases setReady_cases hready with ⟨_, _, rfl⟩
          exact ⟨rfl, rfl⟩
  | spawnUnit ownerUid team unitType pos hp speed yaw =>
      exact Or.inl ⟨ownerUid, team, unitType, pos, hp, speed, yaw, rfl⟩
  | spawnBuilding ownerUid team buildingType pos yaw site =>
      exact Or.inr (Or.inl ⟨ownerUid, team, buildingType, pos, yaw, site, rfl⟩)
  | applyPending => cases plain
  | step ω dt => cases plain
  | _ => exact Or.inr (Or.inr ⟨rfl, rfl⟩)

theorem plain_fate (hq : Keyed q) {c : RoomCall F} (plain : c.isPlain = true)
    (h : (q.call c).units.lookup j = some v) : UnitFate q j v (Turn.call c plain) := by
  rcases plain_cases q plain with ⟨ownerUid, team, unitType, pos, hp, speed, yaw, rfl⟩ |
    ⟨_, _, _, _, _, _, rfl⟩ | ⟨hsame, _⟩
  · change (q.units.insert q.nextEntityId _).lookup j = some v at h
    rw [Table.lookup_insert_ite] at h
    split at h
    · rename_i hj
      subst hj
      injection h with hv
      exact UnitFate.spawned rfl hq.units_fresh rfl hv.symm
    · exact UnitFate.kept h
  · exact UnitFate.kept h
  · rw [hsame] at h
    exact UnitFate.kept h

theorem unit_fate (hq : Keyed q) {t : Turn F} (h : (q.turn t).units.lookup j = some v) :
    UnitFate q j v t := by
  cases t with
  | call c plain => exact plain_fate hq plain h
  | command cmd =>
      rcases applyCommand_units q cmd h with hsame | ⟨u, hu, hordered⟩
      · exact UnitFate.kept hsame
      · exact UnitFate.ordered rfl hu hordered
  | clearPending => exact UnitFate.kept h
  | scanTick => exact UnitFate.kept h
  | unit ω dt doAggro id => exact stepUnit_fate h
  | building dt id => exact stepBuilding_fate hq h
  | deadUnit id =>
      change (removeDeadUnit q id).units.lookup j = some v at h
      rcases removeDeadUnit_cases q id with heq | ⟨_, _, _, heq⟩
      · rw [heq] at h
        exact UnitFate.kept h
      · rw [heq, Table.lookup_erase_ite] at h
        split at h
        · cases h
        · exact UnitFate.kept h
  | deadBuilding id =>
      change (removeDeadBuilding q id).units.lookup j = some v at h
      rcases removeDeadBuilding_cases q id with heq | ⟨_, _, _, heq⟩
      · rw [heq] at h
        exact UnitFate.kept h
      · rw [heq] at h
        exact UnitFate.kept h

end UnitTurns

/-!
## Buildings
-/

/-- How a building has come to be as it is after a turn. -/
inductive BuildingFate (q : DungeonRoom F) (j : Nat) (v : Building F) (t : Turn F) :
    Prop where
  | kept : q.buildings.lookup j = some v -> BuildingFate q j v t
  | placed {ownerUid team buildingType : Nat} {pos : Vec3f F} {yaw : F} {site : Bool}
      {plain} : t = Turn.call
        (RoomCall.spawnBuilding ownerUid team buildingType pos yaw site) plain ->
      q.buildings.lookup j = none -> j = q.nextEntityId ->
      v = newBuilding j ownerUid team buildingType pos yaw site -> BuildingFate q j v t
  | founded {cmd : PendingCommand F} {res : PlayerRes} : t = Turn.command cmd ->
      cmd.type = CommandType.build -> MayBuild q cmd res ->
      q.buildings.lookup j = none -> j = q.nextEntityId ->
      v = newBuilding j cmd.ownerUid (q.teamOf cmd.ownerUid) cmd.auxType cmd.target
        cmd.yaw true -> BuildingFate q j v t
  | ordered {cmd : PendingCommand F} {res : PlayerRes} {b : Building F} :
      t = Turn.command cmd -> cmd.type = CommandType.train -> MayTrain q cmd b res ->
      j = cmd.targetEntity ->
      v = { b with trainQueue := b.trainQueue ++ [orderedItem cmd] } ->
      BuildingFate q j v t
  | training {dt : F} {b : Building F} {item : TrainItem F} {rest : List (TrainItem F)} :
      t = Turn.building dt j -> q.buildings.lookup j = some b ->
      b.trainQueue = item :: rest -> b.underConstruction = false ->
      ¬ item.remaining - dt ≤ lit 0 ->
      v = { b with
        trainQueue := { item with remaining := item.remaining - dt } :: rest } ->
      BuildingFate q j v t
  | released {dt : F} {b : Building F} {item : TrainItem F} {rest : List (TrainItem F)} :
      t = Turn.building dt j -> q.buildings.lookup j = some b ->
      b.trainQueue = item :: rest -> b.underConstruction = false ->
      item.remaining - dt ≤ lit 0 -> v = { b with trainQueue := rest } ->
      BuildingFate q j v t
  | struck {ω : IterOrder} {dt : F} {doAggro : Bool} {i : Nat} {a : GameUnit F}
      {b : Building F} : t = Turn.unit ω dt doAggro i ->
      q.buildings.lookup j = some b -> ¬ b.hp ≤ lit 0 ->
      Blow ω dt doAggro q i a b.team b.pos kBuildingAttackRange -> v = hitBuilding b ->
      BuildingFate q j v t
  | built {ω : IterOrder} {dt : F} {doAggro : Bool} {i : Nat} {u : GameUnit F}
      {b : Building F} : t = Turn.unit ω dt doAggro i ->
      q.units.lookup i = some u -> ¬ u.hp ≤ lit 0 ->
      u.task = WorkerTask.constructing -> u.buildTargetId = j ->
      worksAt ω dt doAggro q i = some j -> q.buildings.lookup j = some b ->
      b.underConstruction = true -> v = buildProgress b dt -> BuildingFate q j v t

section BuildingTurns

variable {q : DungeonRoom F} {j : Nat} {v : Building F}

/-- One building is overwritten, and no other. -/
theorem buildings_insert {q' : DungeonRoom F} {t : Turn F} {id : Nat} {b : Building F}
    (hbuildings : q'.buildings = q.buildings.insert id b)
    (h : q'.buildings.lookup j = some v)
    (hfate : id = j -> b = v -> BuildingFate q j v t) : BuildingFate q j v t := by
  rw [hbuildings, Table.lookup_insert_ite] at h
  split at h
  · rename_i hj
    injection h with hv
    exact hfate hj.symm hv
  · exact BuildingFate.kept h

theorem Outing.siteOf_eq {ω : IterOrder} {dt : F} {doAggro : Bool} {id : Nat}
    {u w : GameUnit F} {p : DungeonRoom F} {b : Building F}
    (hout : Outing ω dt doAggro q id u p w) (hattack : w.attackTarget = 0)
    (htask : w.task = WorkerTask.constructing)
    (hb : q.buildings.lookup w.buildTargetId = some b) (hsite : b.underConstruction = true)
    (hthere : (moveToward w b.pos kBuildRange dt).2 = true) :
    worksAt ω dt doAggro q id = some w.buildTargetId := by
  rw [hout.worksAt_eq]
  unfold siteOf
  rw [hb]
  dsimp only
  rw [if_pos ⟨hattack, htask, hsite, hthere⟩]

theorem stepUnit_buildingFate {ω : IterOrder} {dt : F} {doAggro : Bool} {id : Nat}
    (h : (stepUnit ω dt doAggro q id).buildings.lookup j = some v) :
    BuildingFate q j v (Turn.unit ω dt doAggro id) := by
  rcases stepUnit_cases ω dt doAggro q id with ⟨heq, _⟩ | ⟨u, p, w, hout, _, haction⟩
  · rw [heq] at h
    exact BuildingFate.kept h
  · have hsame := hout.solo.buildings
    cases haction with
    | rests hsolo _ _ =>
        rw [hsolo.buildings, hsame] at h
        exact BuildingFate.kept h
    | strikesUnit _ _ _ _ _ _ hbuildings _ _ _ =>
        rw [hbuildings, hsame] at h
        exact BuildingFate.kept h
    | @strikesBuilding x target targetId ht halive hfoe hnear hready halone hput _ _ hcd =>
        rw [hsame] at ht hput
        refine buildings_insert hput h ?_
        rintro rfl rfl
        rw [hout.stance.body.team] at hfoe
        rw [hout.stance.pos] at hnear
        rw [hout.stance.attackCd] at hready
        exact BuildingFate.struck rfl ht halive
          ⟨hout.found, hout.alive, hfoe, hnear, hready, x, halone.own, hcd⟩ rfl
    | @builds x b hattack htask hb hsite hthere halone hput _ _ hcd =>
        rw [hsame] at hb hput
        refine buildings_insert hput h ?_
        rintro rfl rfl
        rcases hout.stance.site htask with ⟨hutask, htarget⟩
        exact BuildingFate.built rfl hout.found hout.alive hutask htarget.symm
          (hout.siteOf_eq hattack htask hb hsite hthere) hb hsite rfl
    | banks _ _ _ _ _ _ hbuildings _ _ _ =>
        rw [hbuildings, hsame] at h
        exact BuildingFate.kept h

theorem stepBuilding_buildingFate {dt : F} {id : Nat}
    (h : (stepBuilding dt q id).buildings.lookup j = some v) :
    BuildingFate q j v (Turn.building dt id) := by
  rcases stepBuilding_cases dt q id with
    heq | ⟨b, item, rest, hb, hqueue, hsite, ⟨hready, heq⟩ | ⟨hready, heq⟩⟩
  · rw [heq] at h
    exact BuildingFate.kept h
  · rw [heq] at h
    refine buildings_insert rfl h ?_
    rintro rfl rfl
    exact BuildingFate.released rfl hb hqueue hsite hready rfl
  · rw [heq] at h
    refine buildings_insert rfl h ?_
    rintro rfl rfl
    exact BuildingFate.training rfl hb hqueue hsite hready rfl

theorem applyCommand_buildingFate (hq : Keyed q) {cmd : PendingCommand F}
    (h : (q.applyCommand cmd).buildings.lookup j = some v) :
    BuildingFate q j v (Turn.command cmd) := by
  by_cases hbuild : cmd.type = CommandType.build
  · rw [applyCommand_build q hbuild] at h
    rcases applyBuild_cases q cmd with ⟨res, hmay, heq⟩ | ⟨code, _, heq⟩
    · rw [heq, (assignConstructors_estate _ _ _ _).buildings] at h
      refine buildings_insert rfl h ?_
      rintro rfl rfl
      exact BuildingFate.founded rfl hbuild hmay hq.buildings_fresh rfl rfl
    · rw [heq] at h
      exact BuildingFate.kept h
  · by_cases htrain : cmd.type = CommandType.train
    · rw [applyCommand_train q htrain] at h
      rcases applyTrain_cases q cmd with ⟨b, res, hmay, heq⟩ | ⟨code, _, heq⟩
      · rw [heq] at h
        refine buildings_insert rfl h ?_
        rintro rfl rfl
        exact BuildingFate.ordered rfl htrain hmay rfl rfl
      · rw [heq] at h
        exact BuildingFate.kept h
    · rw [(applyCommand_estate q hbuild htrain).buildings] at h
      exact BuildingFate.kept h

theorem building_fate (hq : Keyed q) {t : Turn F}
    (h : (q.turn t).buildings.lookup j = some v) : BuildingFate q j v t := by
  cases t with
  | call c plain =>
      change (q.call c).buildings.lookup j = some v at h
      rcases plain_cases q plain with ⟨_, _, _, _, _, _, _, rfl⟩ |
        ⟨ownerUid, team, buildingType, pos, yaw, site, rfl⟩ | ⟨_, hsame⟩
      · exact BuildingFate.kept h
      · refine buildings_insert rfl h ?_
        rintro rfl rfl
        exact BuildingFate.placed rfl hq.buildings_fresh rfl rfl
      · rw [hsame] at h
        exact BuildingFate.kept h
  | command cmd => exact applyCommand_buildingFate hq h
  | clearPending => exact BuildingFate.kept h
  | scanTick => exact BuildingFate.kept h
  | unit ω dt doAggro id => exact stepUnit_buildingFate h
  | building dt id => exact stepBuilding_buildingFate h
  | deadUnit id =>
      change (removeDeadUnit q id).buildings.lookup j = some v at h
      rcases removeDeadUnit_cases q id with heq | ⟨_, _, _, heq⟩
      · rw [heq] at h
        exact BuildingFate.kept h
      · rw [heq] at h
        exact BuildingFate.kept h
  | deadBuilding id =>
      change (removeDeadBuilding q id).buildings.lookup j = some v at h
      rcases removeDeadBuilding_cases q id with heq | ⟨_, _, _, heq⟩
      · rw [heq] at h
        exact BuildingFate.kept h
      · rw [heq, Table.lookup_erase_ite] at h
        split at h
        · cases h
        · exact BuildingFate.kept h

/-- The same in fewer cases, for statements that the training queue does not matter to. -/
inductive SiteFate (q : DungeonRoom F) (j : Nat) (v : Building F) (t : Turn F) : Prop where
  | kept {b : Building F} (queue : List (TrainItem F)) : q.buildings.lookup j = some b ->
      v = { b with trainQueue := queue } -> SiteFate q j v t
  | new {ownerUid team buildingType : Nat} {pos : Vec3f F} {yaw : F} {site : Bool} :
      q.buildings.lookup j = none -> j = q.nextEntityId ->
      v = newBuilding j ownerUid team buildingType pos yaw site -> SiteFate q j v t
  | struck {ω : IterOrder} {dt : F} {doAggro : Bool} {i : Nat} {a : GameUnit F}
      {b : Building F} : t = Turn.unit ω dt doAggro i ->
      q.buildings.lookup j = some b -> ¬ b.hp ≤ lit 0 ->
      Blow ω dt doAggro q i a b.team b.pos kBuildingAttackRange -> v = hitBuilding b ->
      SiteFate q j v t
  | built {ω : IterOrder} {dt : F} {doAggro : Bool} {i : Nat} {u : GameUnit F}
      {b : Building F} : t = Turn.unit ω dt doAggro i ->
      q.units.lookup i = some u -> ¬ u.hp ≤ lit 0 ->
      u.task = WorkerTask.constructing -> u.buildTargetId = j ->
      worksAt ω dt doAggro q i = some j -> q.buildings.lookup j = some b ->
      b.underConstruction = true -> v = buildProgress b dt -> SiteFate q j v t

theorem site_fate (hq : Keyed q) {t : Turn F}
    (h : (q.turn t).buildings.lookup j = some v) : SiteFate q j v t := by
  cases building_fate hq h with
  | kept hb => exact SiteFate.kept v.trainQueue hb rfl
  | placed _ hnone hj heq => exact SiteFate.new hnone hj heq
  | founded _ _ _ hnone hj heq => exact SiteFate.new hnone hj heq
  | ordered _ _ hmay hj heq => exact SiteFate.kept _ (hj ▸ hmay.producer) heq
  | training _ hb _ _ _ heq => exact SiteFate.kept _ hb heq
  | released _ hb _ _ _ heq => exact SiteFate.kept _ hb heq
  | struck ht hb halive hblow heq => exact SiteFate.struck ht hb halive hblow heq
  | built ht hu halive htask hid hworks hb hsite heq =>
      exact SiteFate.built ht hu halive htask hid hworks hb hsite heq

end BuildingTurns

/-!
## Identity of entities
-/

/-- A call keeps the entities keyed and does not lower the counter. -/
theorem Keyed.call {q : DungeonRoom F} (hq : Keyed q) {c : RoomCall F}
    (plain : c.isPlain = true) :
    Keyed (q.call c) ∧ q.nextEntityId ≤ (q.call c).nextEntityId := by
  have hsame : forall s : DungeonRoom F, s.units = q.units -> s.buildings = q.buildings ->
      s.fields = q.fields -> s.drops = q.drops -> s.nextEntityId = q.nextEntityId ->
      Keyed s ∧ q.nextEntityId ≤ s.nextEntityId := by
    intro s hunits hbuildings hfields hdrops hnext
    exact ⟨hq.congr hunits hbuildings hfields hdrops hnext, Nat.le_of_eq hnext.symm⟩
  have hfresh := Nat.le_succ q.nextEntityId
  cases c with
  | addPlayer uid =>
      cases hadd : q.addPlayer uid with
      | none =>
          simp only [DungeonRoom.call, hadd]
          exact hsame q rfl rfl rfl rfl rfl
      | some joined =>
          simp only [DungeonRoom.call, hadd]
          rcases addPlayer_cases hadd with ⟨heq, _⟩ | ⟨_, _, _, heq⟩
          · rw [Option.map_some, Option.getD_some, heq]
            exact hsame q rfl rfl rfl rfl rfl
          · rw [Option.map_some, Option.getD_some, heq]
            exact hsame _ rfl rfl rfl rfl rfl
  | setReady uid ready =>
      cases hready : q.setReady uid ready with
      | none =>
          simp only [DungeonRoom.call, hready]
          exact hsame q rfl rfl rfl rfl rfl
      | some s =>
          simp only [DungeonRoom.call, hready]
          rcases setReady_cases hready with ⟨_, _, rfl⟩
          exact hsame _ rfl rfl rfl rfl rfl
  | spawnUnit ownerUid team unitType pos hp speed yaw =>
      exact ⟨hq.spawnUnit ownerUid team unitType pos hp speed yaw, hfresh⟩
  | spawnBuilding ownerUid team buildingType pos yaw site =>
      exact ⟨hq.spawnBuilding ownerUid team buildingType pos yaw site, hfresh⟩
  | spawnResourceField raw pos amount =>
      exact ⟨hq.spawnResourceField raw pos amount, hfresh⟩
  | spawnResourceDrop raw pos amount =>
      exact ⟨hq.spawnResourceDrop raw pos amount, hfresh⟩
  | applyPending => cases plain
  | step ω dt => cases plain
  | _ => exact hsame _ rfl rfl rfl rfl rfl

/-- Every other turn is a sequence of effects. -/
theorem turn_effects {q : DungeonRoom F} (hq : Keyed q) {t : Turn F}
    (ht : forall c plain, t ≠ Turn.call c plain) :
    exists out, Effects AnyOrder q out (q.turn t) := by
  cases t with
  | call c plain => exact absurd rfl (ht c plain)
  | command cmd =>
      rcases applyCommand_effects hq (justified_any q cmd) with ⟨out, heff, _⟩
      exact ⟨out, heff⟩
  | clearPending => exact ⟨[], Moves.single Effect.forgetPending⟩
  | scanTick => exact ⟨[], Moves.single (Effect.scanTick q.nextScanTick)⟩
  | unit ω dt doAggro id => exact ⟨[], (stepUnit_effects ω dt doAggro q id).any⟩
  | building dt id => exact ⟨[], (stepBuilding_effects q dt id).any⟩
  | deadUnit id =>
      rcases removeDeadUnit_effects AnyOrder q id with ⟨out, heff, _⟩
      exact ⟨out, heff⟩
  | deadBuilding id => exact ⟨[], removeDeadBuilding_effects AnyOrder q id⟩

/-- Every turn keeps the entities keyed and does not lower the counter. -/
theorem turn_keyed {q : DungeonRoom F} (hq : Keyed q) (t : Turn F) :
    Keyed (q.turn t) ∧ q.nextEntityId ≤ (q.turn t).nextEntityId := by
  by_cases hcall : exists c plain, t = Turn.call c plain
  · rcases hcall with ⟨c, plain, rfl⟩
    exact hq.call plain
  · have ht : forall c plain, t ≠ Turn.call c plain := by
      intro c plain heq
      exact hcall ⟨c, plain, heq⟩
    rcases turn_effects hq ht with ⟨out, heff⟩
    refine ⟨Effects.keyed hq heff, ?_⟩
    apply heff.preserves (fun s => q.nextEntityId ≤ s.nextEntityId) _ (Nat.le_refl _)
    intro s _ s' hs hmove
    exact hs.trans hmove.depleted.next

theorem Keyed.turns {q : DungeonRoom F} (hq : Keyed q) (ts : List (Turn F)) :
    Keyed (ts.foldl turn q) ∧ q.nextEntityId ≤ (ts.foldl turn q).nextEntityId := by
  induction ts generalizing q with
  | nil =>
      exact ⟨hq, Nat.le_refl _⟩
  | cons t rest ih =>
      rcases turn_keyed hq t with ⟨hkeyed, hnext⟩
      rcases ih hkeyed with ⟨hlater, hle⟩
      exact ⟨hlater, hnext.trans hle⟩

/-- What the turns keep in keyed rooms holds after any number of them. -/
theorem Keyed.invariant {q : DungeonRoom F} (hq : Keyed q) (inv : DungeonRoom F -> Prop)
    {good : Turn F -> Prop}
    (hturn : forall p t, Keyed p -> inv p -> good t -> inv (p.turn t)) (h : inv q)
    {ts : List (Turn F)} (hts : forall t, t ∈ ts -> good t) : inv (ts.foldl turn q) := by
  have hgood : Throughout turn (fun _ t => good t) q ts := throughout_of_mem hts
  have hboth := hgood.invariant (fun p => Keyed p ∧ inv p)
    (fun p t hp ht => ⟨(turn_keyed hp.left t).left, hturn p t hp.left hp.right ht⟩) ⟨hq, h⟩
  exact hboth.right

/-- In the course of a step an entity stays, or it is on the despawn list. -/
theorem turns_account {q : DungeonRoom F} (hq : Keyed q) (ts : List (Turn F))
    (hts : forall t, t ∈ ts -> forall c plain, t ≠ Turn.call c plain) {k : EntityKind}
    {id : Nat} (h : id ∈ q.entityKeys k ∨ id ∈ q.despawnList k) :
    id ∈ (ts.foldl turn q).entityKeys k ∨ id ∈ (ts.foldl turn q).despawnList k := by
  refine hq.invariant (fun p => id ∈ p.entityKeys k ∨ id ∈ p.despawnList k) ?_ h hts
  intro p t hp hid ht
  rcases turn_effects hp ht with ⟨out, heff⟩
  have hboth : Keyed (p.turn t) ∧
      (id ∈ (p.turn t).entityKeys k ∨ id ∈ (p.turn t).despawnList k) := by
    apply heff.preserves
      (fun s => Keyed s ∧ (id ∈ s.entityKeys k ∨ id ∈ s.despawnList k)) _ ⟨hp, hid⟩
    rintro s _ s' ⟨hs, hkept⟩ hmove
    exact ⟨hmove.keyed hs, (hmove.change hs).accounts hkept⟩
  exact hboth.right

theorem stepTurns_not_call {ω : IterOrder} {dt : F} {r : DungeonRoom F} {t : Turn F}
    (h : t ∈ stepTurns ω dt r) (c : RoomCall F) (plain : c.isPlain = true) :
    t ≠ Turn.call c plain := by
  rcases mem_stepTurns_cases h with rfl | ⟨_, rfl⟩ | ⟨_, rfl⟩ | ⟨_, rfl⟩ | ⟨_, rfl⟩
  all_goals
    intro heq
    cases heq

end DungeonRoom

end RtsGame
