import RtsGame.Room.Fates

/-!
# What is destroyed stays destroyed, except for building sites

Units act one after the other, and the dead are removed at the end of the step.
A unit without hit points is not healed by anyone.  A site without hit points is:
construction looks at its progress only, so a worker whose turn comes later in
the same step brings it back.
-/

namespace RtsGame

open Scalar

namespace DungeonRoom

variable {F : Type} [Scalar F]

/-- What has no hit points left at some moment of a step is gone at its end. -/
structure DestroyedStays (r : DungeonRoom F) (ω : IterOrder) (dt : F) : Prop where
  units : forall front mid back, stepTurns ω dt r = front ++ mid ++ back ->
    forall j u v, (front.foldl turn r).units.lookup j = some u -> u.hp ≤ lit 0 ->
      ((front ++ mid).foldl turn r).units.lookup j = some v -> v.hp ≤ lit 0
  buildings : forall front mid back, stepTurns ω dt r = front ++ mid ++ back ->
    forall j b c, (front.foldl turn r).buildings.lookup j = some b -> b.hp ≤ lit 0 ->
      ((front ++ mid).foldl turn r).buildings.lookup j = some c -> c.hp ≤ lit 0
  unitsGone : forall front back, stepTurns ω dt r = front ++ back ->
    forall j u, (front.foldl turn r).units.lookup j = some u -> u.hp ≤ lit 0 ->
      (r.step ω dt).units.lookup j = none ∧ j ∈ (r.step ω dt).despawned
  buildingsGone : forall front back, stepTurns ω dt r = front ++ back ->
    forall j b, (front.foldl turn r).buildings.lookup j = some b -> b.hp ≤ lit 0 ->
      (r.step ω dt).buildings.lookup j = none ∧ j ∈ (r.step ω dt).buildingDespawned

/-- The progress of a site after one worker's work for `dt` seconds. -/
def progressAfter (b : Building F) (dt : F) : F :=
  b.constructedPercent + kConstructPercentPerSec * dt

/--
Would the work for `dt` seconds give the building hit points: is it finished by
it, or is the share of its hit points above what it has and above zero?
-/
def Uplifts (b : Building F) (dt : F) : Prop :=
  progressAfter b dt ≥ lit 100 ∨
    (b.hp < b.maxHp * progressAfter b dt / lit 100 ∧
      ¬ b.maxHp * progressAfter b dt / lit 100 ≤ lit 0)

/-- A worker stands at its site, which has no hit points, and its work gives it some. -/
def Revives (q : DungeonRoom F) (t : Turn F) : Prop :=
  exists ω dt doAggro i j b, t = Turn.unit ω dt doAggro i ∧
    worksAt ω dt doAggro q i = some j ∧ q.buildings.lookup j = some b ∧
    b.hp ≤ lit 0 ∧ Uplifts b dt

/-!
## Full hit points
-/

/-- The entities are keyed, and full hit points are those of the building's type. -/
structure WellBuilt (q : DungeonRoom F) : Prop where
  keyed : Keyed q
  maxHp : forall j b, q.buildings.lookup j = some b ->
    b.maxHp = buildingMaxHp b.buildingType

theorem buildingMaxHp_pos (buildingType : Nat) :
    ¬ (buildingMaxHp buildingType : F) ≤ lit 0 := by
  unfold buildingMaxHp
  repeat' split
  all_goals exact not_lit_le_zero (by decide) (by decide)

theorem WellBuilt.turn {q : DungeonRoom F} (hq : WellBuilt q) (t : Turn F) :
    WellBuilt (q.turn t) := by
  refine ⟨(turn_keyed hq.keyed t).left, ?_⟩
  intro j v hv
  cases site_fate hq.keyed hv with
  | @kept b _ hb heq =>
      rw [heq]
      exact hq.maxHp j b hb
  | new _ _ heq =>
      rw [heq]
      rfl
  | @struck _ _ _ _ _ b _ hb _ _ heq =>
      rw [heq]
      exact hq.maxHp j b hb
  | @built _ dt _ _ _ b _ _ _ _ _ _ hb _ heq =>
      have hmax := hq.maxHp j b hb
      rw [heq]
      unfold buildProgress
      dsimp only
      split
      · exact hmax
      · exact hmax

theorem WellBuilt.turns {q : DungeonRoom F} (hq : WellBuilt q) (ts : List (Turn F)) :
    WellBuilt (ts.foldl DungeonRoom.turn q) := by
  refine List.foldlRecOn ts DungeonRoom.turn hq ?_
  intro p hp t _
  exact hp.turn t

theorem create_wellBuilt (roomId : Nat) (roomName : String) (maxPlayers : Nat) :
    WellBuilt (create roomId roomName maxPlayers : DungeonRoom F) := by
  refine ⟨keyed_create roomId roomName maxPlayers, ?_⟩
  intro j b hb
  cases hb

/-!
## One turn
-/

/-- A unit that is there has no hit points, and no new one can have its id. -/
def UnitDown (j : Nat) (q : DungeonRoom F) : Prop :=
  j < q.nextEntityId ∧ forall u, q.units.lookup j = some u -> u.hp ≤ lit 0

/-- The same for a building. -/
def BuildingDown (j : Nat) (q : DungeonRoom F) : Prop :=
  j < q.nextEntityId ∧ forall b, q.buildings.lookup j = some b -> b.hp ≤ lit 0

section Turns

variable {q : DungeonRoom F} {j : Nat}

theorem unitDown_of_lookup (hq : Keyed q) {u : GameUnit F}
    (hu : q.units.lookup j = some u) (hzero : u.hp ≤ lit 0) : UnitDown j q := by
  refine ⟨hq.unit_lt hu, ?_⟩
  intro w hw
  injection hu.symm.trans hw with hsame
  rw [← hsame]
  exact hzero

theorem buildingDown_of_lookup (hq : Keyed q) {b : Building F}
    (hb : q.buildings.lookup j = some b) (hzero : b.hp ≤ lit 0) : BuildingDown j q := by
  refine ⟨(hq.buildings j b hb).right, ?_⟩
  intro c hc
  injection hb.symm.trans hc with hsame
  rw [← hsame]
  exact hzero

theorem UnitDown.turn (hq : Keyed q) (h : UnitDown j q) (t : Turn F) :
    UnitDown j (q.turn t) := by
  refine ⟨Nat.lt_of_lt_of_le h.left (turn_keyed hq t).right, ?_⟩
  have hbound := h.left
  intro v hv
  cases unit_fate hq hv with
  | kept hu => exact h.right v hu
  | spawned _ _ hnew _ => lia
  | trained _ _ hnew _ => lia
  | ordered _ hu hordered =>
      rw [hordered.body.hp]
      exact h.right _ hu
  | acted _ hout _ _ => exact absurd (h.right _ hout.found) hout.alive
  | struck _ _ hu halive _ _ => exact absurd (h.right _ hu) halive

/-- Only a worker at the site can give a building hit points again. -/
theorem BuildingDown.turn (hq : WellBuilt q) (h : BuildingDown j q) {t : Turn F}
    (ht : ¬ Revives q t) : BuildingDown j (q.turn t) := by
  refine ⟨Nat.lt_of_lt_of_le h.left (turn_keyed hq.keyed t).right, ?_⟩
  have hbound := h.left
  intro v hv
  cases site_fate hq.keyed hv with
  | @kept b _ hb heq =>
      rw [heq]
      exact h.right b hb
  | new _ hnew _ => lia
  | struck _ hb halive _ _ => exact absurd (h.right _ hb) halive
  | @built ω dt doAggro i u b hturn _ _ _ _ hworks hb _ heq =>
      have hzero := h.right b hb
      have hnot : ¬ Uplifts b dt := by
        intro hup
        exact ht ⟨ω, dt, doAggro, i, j, b, hturn, hworks, hb, hzero, hup⟩
      unfold Uplifts progressAfter at hnot
      rw [not_or, not_and, not_not] at hnot
      rw [heq]
      unfold buildProgress
      dsimp only
      rw [if_neg hnot.left]
      change max b.hp (b.maxHp * (b.constructedPercent + kConstructPercentPerSec * dt) /
        lit 100) ≤ lit 0
      unfold Scalar.max
      split
      · rename_i hless
        exact hnot.right hless
      · exact hzero

/-- A turn that revives a site gives it hit points. -/
theorem Revives.hp (hq : WellBuilt q) {t : Turn F} (h : Revives q t) :
    exists j b c, q.buildings.lookup j = some b ∧ b.hp ≤ lit 0 ∧
      (q.turn t).buildings.lookup j = some c ∧ ¬ c.hp ≤ lit 0 := by
  rcases h with ⟨ω, dt, doAggro, i, j, b, rfl, hworks, hb, hzero, hup⟩
  rcases worksAt_spec hworks with ⟨other, hother, _, hput⟩
  injection hb.symm.trans hother with hsame
  subst hsame
  refine ⟨j, b, buildProgress b dt, hb, hzero, ?_, ?_⟩
  · change (stepUnit ω dt doAggro q i).buildings.lookup j = _
    rw [hput, AList.lookup_insert]
  · unfold buildProgress
    unfold Uplifts progressAfter at hup
    dsimp only
    split
    · change ¬ b.maxHp ≤ lit 0
      rw [hq.maxHp j b hb]
      exact buildingMaxHp_pos b.buildingType
    · rename_i hpart
      rcases hup with hdone | ⟨hless, hpos⟩
      · exact absurd hdone hpart
      · change ¬ max b.hp _ ≤ lit 0
        unfold Scalar.max
        rw [if_pos hless]
        exact hpos

end Turns

/-!
## A whole step
-/

theorem UnitDown.turns {q : DungeonRoom F} {j : Nat} (hq : Keyed q) (h : UnitDown j q)
    (ts : List (Turn F)) : UnitDown j (ts.foldl DungeonRoom.turn q) := by
  have hts : forall t : Turn F, t ∈ ts -> True := fun _ _ => trivial
  exact hq.invariant (UnitDown j) (fun _ t hp hdown _ => hdown.turn hp t) h hts

theorem BuildingDown.turns {q : DungeonRoom F} {j : Nat} (hq : WellBuilt q)
    (h : BuildingDown j q) {ts : List (Turn F)}
    (hts : Throughout DungeonRoom.turn (fun p t => ¬ Revives p t) q ts) :
    BuildingDown j (ts.foldl DungeonRoom.turn q) := by
  have hboth := hts.invariant (fun p => WellBuilt p ∧ BuildingDown j p)
    (fun p t hp ht => ⟨hp.left.turn t, hp.right.turn hp.left ht⟩) ⟨hq, h⟩
  exact hboth.right

/-- Whatever is left after a step has hit points. -/
theorem step_survivors (ω : IterOrder) (dt : F) (r : DungeonRoom F) (j : Nat) :
    (forall u, (r.step ω dt).units.lookup j = some u -> ¬ u.hp ≤ lit 0) ∧
      forall b, (r.step ω dt).buildings.lookup j = some b -> ¬ b.hp ≤ lit 0 := by
  unfold step
  rw [removeDead_eq]
  dsimp only
  rw [IterOrder.prune_visit_lookup, IterOrder.prune_visit_lookup]
  constructor
  · intro u hu
    have hfilter := Option.filter_eq_some_iff.mp hu
    simpa [unitDead] using hfilter.right
  · intro b hb
    have hfilter := Option.filter_eq_some_iff.mp hb
    simpa [buildingDead] using hfilter.right

section Steps

variable {r : DungeonRoom F} {ω : IterOrder} {dt : F} {front back : List (Turn F)} {j : Nat}

/-- What is there at a moment of the step and not at its end is on the despawn list. -/
theorem step_account (hr : Keyed r) (heq : stepTurns ω dt r = front ++ back)
    {k : EntityKind} (h : j ∈ (front.foldl turn r).entityKeys k)
    (hgone : j ∉ (r.step ω dt).entityKeys k) : j ∈ (r.step ω dt).despawnList k := by
  have hend : back.foldl turn (front.foldl turn r) = r.step ω dt := by
    rw [← List.foldl_append, ← heq, stepTurns_foldl]
  have haccount := turns_account (hr.turns front).left back (fun t ht =>
    stepTurns_not_call (heq ▸ List.mem_append_right front ht)) (Or.inl h)
  rw [hend] at haccount
  exact haccount.resolve_left hgone

/-- A unit without hit points is buried at the end of the step. -/
theorem unit_buried (hr : Keyed r) (heq : stepTurns ω dt r = front ++ back)
    {u : GameUnit F} (hu : (front.foldl turn r).units.lookup j = some u)
    (hzero : u.hp ≤ lit 0) :
    (r.step ω dt).units.lookup j = none ∧ j ∈ (r.step ω dt).despawned := by
  have hkeyed := (hr.turns front).left
  have hend := (unitDown_of_lookup hkeyed hu hzero).turns hkeyed back
  rw [← List.foldl_append, ← heq, stepTurns_foldl] at hend
  have hnone : (r.step ω dt).units.lookup j = none := by
    cases hv : (r.step ω dt).units.lookup j with
    | none => rfl
    | some v => exact absurd (hend.right v hv) ((step_survivors ω dt r j).left v hv)
  refine ⟨hnone, ?_⟩
  exact step_account (k := EntityKind.unit) hr heq (Table.mem_of_lookup hu)
    (AList.lookup_eq_none.mp hnone)

theorem building_buried (hr : WellBuilt r) (heq : stepTurns ω dt r = front ++ back)
    (hquiet : Throughout turn (fun p t => ¬ Revives p t) (front.foldl turn r) back)
    {b : Building F} (hb : (front.foldl turn r).buildings.lookup j = some b)
    (hzero : b.hp ≤ lit 0) :
    (r.step ω dt).buildings.lookup j = none ∧ j ∈ (r.step ω dt).buildingDespawned := by
  have hbuilt := hr.turns front
  have hend := (buildingDown_of_lookup hbuilt.keyed hb hzero).turns hbuilt hquiet
  rw [← List.foldl_append, ← heq, stepTurns_foldl] at hend
  have hnone : (r.step ω dt).buildings.lookup j = none := by
    cases hc : (r.step ω dt).buildings.lookup j with
    | none => rfl
    | some c => exact absurd (hend.right c hc) ((step_survivors ω dt r j).right c hc)
  refine ⟨hnone, ?_⟩
  exact step_account (k := EntityKind.building) hr.keyed heq (Table.mem_of_lookup hb)
    (AList.lookup_eq_none.mp hnone)

end Steps

theorem destroyedStays_iff {r : DungeonRoom F} (hr : WellBuilt r) (ω : IterOrder) (dt : F) :
    DestroyedStays r ω dt <->
      Throughout turn (fun q t => ¬ Revives q t) r (stepTurns ω dt r) := by
  constructor
  · intro h front t back heq hrevives
    rcases hrevives.hp (hr.turns front) with ⟨j, b, c, hb, hzero, hc, hpos⟩
    refine hpos (h.buildings front [t] back ?_ j b c hb hzero ?_)
    · rw [heq, List.append_assoc]
      rfl
    · rw [List.foldl_append]
      exact hc
  · intro h
    constructor
    · intro front mid back heq j u v hu hzero hv
      have hkeyed := (hr.keyed.turns front).left
      rw [List.foldl_append] at hv
      exact ((unitDown_of_lookup hkeyed hu hzero).turns hkeyed mid).right v hv
    · intro front mid back heq j b c hb hzero hc
      have hbuilt := hr.turns front
      have hdown := buildingDown_of_lookup hbuilt.keyed hb hzero
      rw [heq, throughout_append, throughout_append] at h
      rw [List.foldl_append] at hc
      exact (hdown.turns hbuilt h.left.right).right c hc
    · intro front back heq j u hu hzero
      exact unit_buried hr.keyed heq hu hzero
    · intro front back heq j b hb hzero
      rw [heq, throughout_append] at h
      exact building_buried hr heq h.right hb hzero

/--
In every reachable room and every order of iteration: what is destroyed during a
step stays destroyed and is gone at its end, if and only if no worker comes to
its turn at a site without hit points which its work would give some.
-/
theorem destroyed_stays_iff (roomId : Nat) (roomName : String) (maxPlayers : Nat)
    (calls : List (RoomCall F)) (ω : IterOrder) (dt : F) :
    DestroyedStays (calls.foldl call (create roomId roomName maxPlayers)) ω dt <->
      Throughout turn (fun q t => ¬ Revives q t)
        (calls.foldl call (create roomId roomName maxPlayers))
        (stepTurns ω dt (calls.foldl call (create roomId roomName maxPlayers))) := by
  rw [← scriptOf_foldl]
  exact destroyedStays_iff ((create_wellBuilt roomId roomName maxPlayers).turns _) ω dt

/-- A villager builds a camp, and one of another team stands next to it. -/
def siege : DungeonRoom Rat :=
  [RoomCall.spawnBuilding 1 0 kBuildingResourceCamp ⟨0, 0, 0⟩ 0 true,
    RoomCall.spawnUnit 1 0 kUnitVillager ⟨0, 0, 0⟩ 100 6 0,
    RoomCall.spawnUnit 2 1 kUnitVillager ⟨1, 0, 0⟩ 100 6 0,
    RoomCall.enqueueCommand
      ⟨CommandType.construct, 1, 0, [2], ⟨0, 0, 0⟩, [], 1, 0, 0⟩,
    RoomCall.enqueueCommand
      ⟨CommandType.attack, 2, 0, [3], ⟨0, 0, 0⟩, [], 1, 0, 0⟩,
    RoomCall.applyPending].foldl call (create 1 "siege" 2)

/-- The attacker takes the last hit point of the site, and the villager builds on. -/
theorem destroyedSite_stands : ¬ DestroyedStays siege IterOrder.stored (1 / 10) := by
  intro h
  have hturns : exists back, stepTurns IterOrder.stored (1 / 10) siege =
      [Turn.scanTick, Turn.unit IterOrder.stored (1 / 10) false 3] ++ back := by
    have hvisit : IterOrder.stored.visit siege.units = [3, 2] := by decide +kernel
    have hscans : siege.scans = false := by decide +kernel
    unfold stepTurns
    rw [hvisit, hscans]
    exact ⟨_, rfl⟩
  rcases hturns with ⟨back, hback⟩
  have hzero : exists b, ([Turn.scanTick,
      Turn.unit IterOrder.stored (1 / 10) false 3].foldl turn siege).buildings.lookup 1 =
        some b ∧ b.hp ≤ lit 0 := by
    have hhp : (([Turn.scanTick, Turn.unit IterOrder.stored (1 / 10) false 3].foldl turn
        siege).buildings.lookup 1).map Building.hp = some 0 := by decide +kernel
    rcases Option.map_eq_some_iff.mp hhp with ⟨b, hb, heq⟩
    exact ⟨b, hb, le_of_eq heq⟩
  rcases hzero with ⟨b, hb, hhp⟩
  have hgone := (h.buildingsGone _ back hback 1 b hb hhp).left
  have hthere : ((siege.step IterOrder.stored (1 / 10)).buildings.lookup 1).isSome = true := by
    decide +kernel
  rw [hgone] at hthere
  cases hthere

end DungeonRoom

end RtsGame
