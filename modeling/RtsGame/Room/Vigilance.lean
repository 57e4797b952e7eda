import RtsGame.Library.Nearest
import RtsGame.Room.Combat

/-!
# Units on guard

A unit without an opponent that is not on a march looks around from time to time: an idle one
far, a worker near.  If it sees an enemy then, it leaves everything and takes on the nearest.
-/

namespace RtsGame

open Scalar
open Exact (toReal)

namespace DungeonRoom

variable {F : Type} [Scalar F]

/-- The square of the distance on the ground. -/
def squareDist (u x : GameUnit F) : F :=
  (x.pos.x - u.pos.x) * (x.pos.x - u.pos.x) + (x.pos.z - u.pos.z) * (x.pos.z - u.pos.z)

/-- How far a unit looks. -/
def watchRange (u : GameUnit F) : F :=
  if u.task = WorkerTask.none then kAggroRange else kDefendRange

/-- A unit has no opponent and is not on a march. -/
structure OnGuard (u : GameUnit F) : Prop where
  free : u.attackTarget = 0
  halts : u.task = WorkerTask.none -> u.hasTarget = false

/-- An enemy within the range, and none is nearer. -/
structure NearestFoe (q : DungeonRoom F) (u : GameUnit F) (range : F) (e : Nat)
    (x : GameUnit F) : Prop where
  found : q.units.lookup e = some x
  hostile : Hostile u x
  near : squareDist u x < range * range
  least : forall j y, q.units.lookup j = some y -> Hostile u y ->
    squareDist u x ≤ squareDist u y

/-- A unit on guard that looks around engages the nearest enemy that it sees. -/
def Alert (q : DungeonRoom F) (t : Turn F) : Prop :=
  forall ω dt i u, t = Turn.unit ω dt true i -> q.units.lookup i = some u ->
    ¬ u.hp ≤ lit 0 -> OnGuard u ->
    (exists j x, q.units.lookup j = some x ∧ Hostile u x ∧
      squareDist u x < watchRange u * watchRange u) ->
    exists e x v, NearestFoe q u (watchRange u) e x ∧
      (q.turn t).units.lookup i = some v ∧ v.attackTarget = e ∧ v.autoAggro = true ∧
      v.task = WorkerTask.none

/-!
## The search
-/

/-- The distance at which a unit sees another one, if it is an enemy. -/
def sight (q : DungeonRoom F) (u : GameUnit F) (id : Nat) : Option F :=
  match q.units.lookup id with
  | none => none
  | some other =>
      if other.team = u.team ∨ other.hp ≤ lit 0 then none else some (squareDist u other)

section Search

variable {q : DungeonRoom F} {u : GameUnit F}

theorem sight_of_hostile {j : Nat} {x : GameUnit F} (hx : q.units.lookup j = some x)
    (h : Hostile u x) : sight q u j = some (squareDist u x) := by
  unfold sight
  rw [hx]
  exact if_neg (not_or.mpr ⟨h.team, h.alive⟩)

theorem hostile_of_sight {j : Nat} {d : F} (h : sight q u j = some d) :
    exists x, q.units.lookup j = some x ∧ Hostile u x ∧ d = squareDist u x := by
  unfold sight at h
  cases hx : q.units.lookup j with
  | none =>
      rw [hx] at h
      cases h
  | some x =>
      rw [hx] at h
      dsimp only at h
      split at h
      · cases h
      · rename_i hfoe
        rw [not_or] at hfoe
        injection h with heq
        exact ⟨x, rfl, ⟨hfoe.left, hfoe.right⟩, heq.symm⟩

theorem nearestEnemy_eq (ω : IterOrder) (q : DungeonRoom F) (u : GameUnit F) (range : F) :
    q.nearestEnemy ω u range =
      ((ω.visit q.units).foldl (nearer (sight q u)) (range * range, 0)).2 := by
  unfold nearestEnemy
  congr 2
  funext best id
  unfold nearer sight
  cases q.units.lookup id with
  | none => rfl
  | some other =>
      dsimp only
      split
      · rfl
      · rfl

variable [Exact F]

/-- The search finds the nearest enemy, or there is none within the range. -/
theorem nearestEnemy_spec (ω : IterOrder) (hzero : q.units.lookup 0 = none) {range : F}
    {j : Nat} {y : GameUnit F} (hy : q.units.lookup j = some y) (hfoe : Hostile u y)
    (hnear : squareDist u y < range * range) :
    q.nearestEnemy ω u range ≠ 0 ∧
      exists x, NearestFoe q u range (q.nearestEnemy ω u range) x := by
  have hclosest : Closest toReal (sight q u) (ω.visit q.units) (range * range, 0)
      ((ω.visit q.units).foldl (nearer (sight q u)) (range * range, 0)) :=
    foldl_nearer Exact.lt_iff (ω.visit q.units) (range * range, 0)
  rw [nearestEnemy_eq]
  generalize (ω.visit q.units).foldl (nearer (sight q u)) (range * range, 0) = best at hclosest ⊢
  have hleast : forall k z, q.units.lookup k = some z -> Hostile u z ->
      toReal best.1 ≤ toReal (squareDist u z) := by
    intro k z hz hhostile
    exact hclosest.least k (IterOrder.mem_visit.mpr (Table.mem_of_lookup hz)) _
      (sight_of_hostile hz hhostile)
  rcases hclosest.found with hstart | ⟨_, hsight, hless⟩
  · have hover := hleast j y hy hfoe
    rw [hstart] at hover
    rw [Exact.lt_iff] at hnear
    exact absurd hnear (not_lt.mpr hover)
  · rcases hostile_of_sight hsight with ⟨x, hx, hhostile, hdist⟩
    rw [hdist] at hless hleast
    refine ⟨?_, x, hx, hhostile, (Exact.lt_iff _ _).mpr hless, ?_⟩
    · intro heq
      rw [heq, hzero] at hx
      cases hx
    · intro k z hz hother
      exact (Exact.le_iff _ _).mpr (hleast k z hz hother)

end Search

/-!
## One turn
-/

section Turns

variable {q p : DungeonRoom F} {ω : IterOrder} {dt : F} {i : Nat} {u w x : GameUnit F}

/-- What a unit that has cooled down sees is what it saw before. -/
theorem NearestFoe.warm (hu : q.units.lookup i = some u) {range : F} {e : Nat}
    (h : NearestFoe (q.putUnit i (coolDown dt u)) (coolDown dt u) range e x) :
    NearestFoe q u range e x ∧ e ≠ i := by
  have hcool := coolDown_eq dt u
  generalize (coolDown dt u).attackCd = cd at hcool
  rw [hcool] at h
  have hsame : forall j y, j ≠ i ->
      (q.putUnit i { u with attackCd := cd }).units.lookup j = some y ->
        q.units.lookup j = some y := by
    intro j y hj hy
    exact (AList.lookup_insert_ne hj).symm.trans hy
  have hother : e ≠ i := by
    rintro rfl
    have hx := (AList.lookup_insert _).symm.trans h.found
    injection hx with heq
    exact h.hostile.team (by rw [← heq])
  refine ⟨⟨hsame e x hother h.found, ⟨h.hostile.team, h.hostile.alive⟩, h.near, ?_⟩, hother⟩
  intro j y hy hfoe
  have hj : j ≠ i := by
    rintro rfl
    rw [hu] at hy
    injection hy with heq
    exact hfoe.team (by rw [heq])
  exact h.least j y ((AList.lookup_insert_ne hj).trans hy) ⟨hfoe.team, hfoe.alive⟩

/-- Whoever is on guard and sees an enemy turns to it. -/
theorem scanAggro_target (hguard : OnGuard u)
    (hfoe : q.nearestEnemy ω (coolDown dt u) (watchRange u) ≠ 0)
    (hw : (scanAggro ω q i (coolDown dt u)).units.lookup i = some w) :
    w.attackTarget = q.nearestEnemy ω (coolDown dt u) (watchRange u) := by
  have hcool := coolDown_eq dt u
  generalize (coolDown dt u).attackCd = cd at hcool
  rw [hcool] at hfoe hw ⊢
  unfold scanAggro at hw
  rw [if_neg (not_not.mpr hguard.free)] at hw
  by_cases htask : u.task = WorkerTask.none
  · have hrange : watchRange u = kAggroRange := if_pos htask
    rw [hrange] at hfoe ⊢
    rw [if_pos htask, if_pos (by rw [hguard.halts htask]; rfl)] at hw
    unfold acquireAutoTarget at hw
    dsimp only at hw
    rw [if_pos hfoe] at hw
    injection (AList.lookup_insert _).symm.trans hw with heq
    rw [← heq]
  · have hrange : watchRange u = kDefendRange := if_neg htask
    rw [hrange] at hfoe ⊢
    rw [if_neg htask] at hw
    dsimp only at hw
    rw [if_pos hfoe] at hw
    injection (AList.lookup_insert _).symm.trans hw with heq
    rw [← heq]

variable [Exact F]

theorem beyondLeash_start (h : u.aggroOrigin = u.pos) : beyondLeash u = false := by
  unfold beyondLeash
  rw [h]
  apply decide_eq_false
  change ¬ kAggroLeash * kAggroLeash < _
  rw [Exact.not_lt_iff]
  simp only [Exact.add_eq, Exact.mul_eq, Exact.sub_eq, kAggroLeash, Exact.lit_eq]
  norm_num

/-- The turn of a unit on guard when it looks around. -/
theorem alert (hzero : q.units.lookup 0 = none) (t : Turn F) : Alert q t := by
  rintro ω dt i u rfl hu halive hguard ⟨j, y, hy, hfoe, hnear⟩
  rcases stepUnit_cases ω dt true q i with ⟨_, hdead⟩ | ⟨u', p, w, hout, hact, _⟩
  · exact absurd (hdead u hu) halive
  · injection hu.symm.trans hout.found with hsame
    subst hsame
    have hcooled : (q.putUnit i (coolDown dt u)).units.lookup i = some (coolDown dt u) :=
      AList.lookup_insert _
    have hscan : p = scanAggro ω (q.putUnit i (coolDown dt u)) i (coolDown dt u) := by
      rw [hout.start]
      unfold readied withUnit
      rw [if_pos rfl, hcooled]
    -- Cooling down changes neither who is there nor what the unit sees.
    have hnull : (q.putUnit i (coolDown dt u)).units.lookup 0 = none := by
      refine (AList.lookup_insert_ne ?_).trans hzero
      rintro rfl
      rw [hzero] at hu
      cases hu
    have hy' : (q.putUnit i (coolDown dt u)).units.lookup j = some y := by
      refine (AList.lookup_insert_ne ?_).trans hy
      rintro rfl
      rw [hu] at hy
      injection hy with heq
      exact hfoe.team (by rw [heq])
    have hfoe' : Hostile (coolDown dt u) y := by
      rw [coolDown_eq]
      exact ⟨hfoe.team, hfoe.alive⟩
    have hnear' : squareDist (coolDown dt u) y < watchRange u * watchRange u := by
      rw [coolDown_eq]
      exact hnear
    rcases nearestEnemy_spec ω hnull hy' hfoe' hnear' with ⟨hfound, x, hnearest⟩
    rcases hnearest.warm hu with ⟨hfirst, hother⟩
    have htarget := scanAggro_target hguard hfound (hscan ▸ hout.solo.own)
    rcases hout.stance with hcool | hengages
    · have hidle : w.attackTarget = 0 := by
        rw [hcool, coolDown_eq]
        exact hguard.free
      exact absurd (htarget.symm.trans hidle) hfound
    · have hx : p.units.lookup w.attackTarget = some x := by
        rw [htarget, hout.solo.others _ hother]
        exact hfirst.found
      have hhostile : Hostile w x := by
        refine ⟨?_, hfirst.hostile.alive⟩
        rw [hengages.body.team]
        exact hfirst.hostile.team
      have hstart := beyondLeash_start (hengages.aggroOrigin.trans hengages.pos.symm)
      have hstays : ¬ (w.autoAggro = true ∧ beyondLeash w = true) := by
        rintro ⟨_, hbeyond⟩
        rw [hstart] at hbeyond
        cases hbeyond
      rcases stepCombat_fights hstays hx hhostile with ⟨v, hv, hsame, haggro, htask⟩
      refine ⟨_, x, v, hfirst, ?_, hsame.trans htarget, haggro.trans hengages.autoAggro,
        htask.trans hengages.task⟩
      change (stepUnit ω dt true q i).units.lookup i = some v
      rw [hact]
      unfold act
      rw [if_pos hengages.attackTarget]
      exact hv

end Turns

/-!
## Runs
-/

/-- Entities are counted from one on. -/
structure Counted (q : DungeonRoom F) : Prop where
  keyed : Keyed q
  started : 0 < q.nextEntityId
  zero : q.units.lookup 0 = none

theorem Counted.turn {q : DungeonRoom F} (h : Counted q) (t : Turn F) : Counted (q.turn t) := by
  rcases turn_keyed h.keyed t with ⟨hkeyed, hnext⟩
  refine ⟨hkeyed, h.started.trans_le hnext, ?_⟩
  have hnobody : forall u, q.units.lookup 0 ≠ some u := by
    intro u hu
    cases h.zero.symm.trans hu
  have hborn : 0 ≠ q.nextEntityId := Nat.ne_of_lt h.started
  cases hv : (q.turn t).units.lookup 0 with
  | none => rfl
  | some v =>
      cases unit_fate h.keyed hv with
      | kept hold => exact absurd hold (hnobody _)
      | spawned _ _ hid _ => exact absurd hid hborn
      | trained _ _ hid _ => exact absurd hid hborn
      | ordered _ hold _ => exact absurd hold (hnobody _)
      | acted _ hout _ _ => exact absurd hout.found (hnobody _)
      | struck _ _ hold _ _ _ => exact absurd hold (hnobody _)

omit [Scalar F] in
theorem counted_create (roomId : Nat) (roomName : String) (maxPlayers : Nat) :
    Counted (create roomId roomName maxPlayers : DungeonRoom F) :=
  ⟨keyed_create roomId roomName maxPlayers, Nat.one_pos, rfl⟩

/--
In every run, whatever is commanded and in whatever order the units have their turns: a living
unit that has no opponent and is not on a march, and that sees an enemy when it looks around,
leaves its work and has the nearest enemy as its opponent after its turn.
-/
theorem units_alert [Exact F] (roomId : Nat) (roomName : String) (maxPlayers : Nat)
    (calls : List (RoomCall F)) :
    Throughout turn Alert (create roomId roomName maxPlayers)
      (scriptOf (create roomId roomName maxPlayers) calls) := by
  intro front t back _
  have hcounted : Counted (front.foldl turn (create roomId roomName maxPlayers : DungeonRoom F)) :=
    List.foldlRecOn front turn (counted_create roomId roomName maxPlayers)
      fun q hq t _ => hq.turn t
  exact alert hcounted.zero t

/-- Two enemies come into sight of a unit, the farther one first. -/
def sighting : List (RoomCall Rat) :=
  [RoomCall.spawnUnit 1 0 kUnitVillager ⟨0, 0, 0⟩ 100 6 0,
    RoomCall.spawnUnit 2 1 kUnitVillager ⟨7, 0, 0⟩ 100 6 0,
    RoomCall.spawnUnit 2 1 kUnitVillager ⟨0, 0, 4⟩ 100 6 0] ++
  List.replicate 4 (RoomCall.step IterOrder.stored (1 / 10))

/-- The room in the next step, in which all look around, before the turn of the first. -/
def lookout : DungeonRoom Rat :=
  [Turn.scanTick, Turn.unit IterOrder.stored (1 / 10) true 3,
    Turn.unit IterOrder.stored (1 / 10) true 2].foldl turn
      (sighting.foldl call (create 1 "lookout" 2))

/-- The unit sees both, and engages the nearer one. -/
theorem nearer_of_two_engaged :
    exists u x y v, lookout.units.lookup 1 = some u ∧ lookout.units.lookup 2 = some y ∧
      Hostile u y ∧ squareDist u y < watchRange u * watchRange u ∧
      NearestFoe lookout u (watchRange u) 3 x ∧
      (lookout.turn (Turn.unit IterOrder.stored (1 / 10) true 1)).units.lookup 1 = some v ∧
      v.attackTarget = 3 ∧ v.autoAggro = true := by
  have hstep := throughout_step (units_alert 1 "lookout" 2
    (sighting ++ [RoomCall.step IterOrder.stored (1 / 10)]))
  have hscans : (sighting.foldl call (create 1 "lookout" 2)).scans = true := by decide +kernel
  have hvisit : IterOrder.stored.visit (sighting.foldl call (create 1 "lookout" 2)).units =
      [3, 2, 1] := by decide +kernel
  rw [stepTurns, hvisit, hscans] at hstep
  have halert : Alert lookout (Turn.unit IterOrder.stored (1 / 10) true 1) :=
    hstep [_, _, _] _ _ rfl
  let u := (lookout.units.lookup 1).get (by decide +kernel)
  let y := (lookout.units.lookup 2).get (by decide +kernel)
  have hu : lookout.units.lookup 1 = some u := (Option.some_get _).symm
  have hy : lookout.units.lookup 2 = some y := (Option.some_get _).symm
  have hguard : OnGuard u := ⟨by decide +kernel, by decide +kernel⟩
  have hfoe : Hostile u y := ⟨by decide +kernel, by decide +kernel⟩
  have hnear : squareDist u y < watchRange u * watchRange u := by decide +kernel
  rcases halert _ _ 1 u rfl hu (by decide +kernel) hguard ⟨2, y, hy, hfoe, hnear⟩ with
    ⟨e, x, v, hnearest, hv, htarget, hauto, _⟩
  have hchosen : ((lookout.turn (Turn.unit IterOrder.stored (1 / 10) true 1)).units.lookup
      1).map GameUnit.attackTarget = some 3 := by decide +kernel
  rw [hv, Option.map_some, htarget] at hchosen
  injection hchosen with he
  subst he
  exact ⟨u, x, y, v, hu, hy, hfoe, hnear, hnearest, hv, htarget, hauto⟩

end DungeonRoom

end RtsGame
