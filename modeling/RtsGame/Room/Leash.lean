import RtsGame.Reals
import RtsGame.Room.Combat

/-!
# The leash of automatic engagements

A unit that engages an enemy by itself remembers where it stood, and gives up the
chase when it has come too far from there.  The mark of such an engagement and the
remembered place are not cleared by other orders, but nobody looks at them until
the unit engages again, and then both are overwritten.
-/

namespace RtsGame

open Scalar
open Exact (toReal)

namespace DungeonRoom

variable {F : Type} [Scalar F]

/-- The unit chases an enemy that it has engaged by itself. -/
def SelfEngaged (u : GameUnit F) : Prop := u.attackTarget ≠ 0 ∧ u.autoAggro = true

/--
After these turns the unit is in an engagement that it began in one of them, where
it then stood, and has kept up ever since.
-/
inductive EngagedSince (r : DungeonRoom F) (turns : List (Turn F)) (j : Nat)
    (u : GameUnit F) : Prop where
  | intro {front back : List (Turn F)} {ω : IterOrder} {dt : F} {doAggro : Bool}
      {v : GameUnit F} : turns = front ++ Turn.unit ω dt doAggro j :: back ->
      (front.foldl turn r).units.lookup j = some v -> v.attackTarget = 0 ->
      u.aggroOrigin = v.pos ->
      (forall mid, mid <+: back -> exists w,
        ((front ++ Turn.unit ω dt doAggro j :: mid).foldl turn r).units.lookup j = some w ∧
          SelfEngaged w ∧ w.attackTarget = u.attackTarget ∧
          w.aggroOrigin = u.aggroOrigin) ->
      EngagedSince r turns j u

/-- The unit is no farther from its origin than the leash and one step. -/
structure Leashed (dt : F) (u : GameUnit F) : Prop where
  reach : planeDist u.aggroOrigin u.pos ≤ kAggroLeash + max (lit 0) (u.speed * dt)
  stride : lit 0 ≤ u.speed * dt ->
    planeDist u.aggroOrigin u.pos ≤ kAggroLeash + u.speed * dt

/-- The unit has an enemy at every moment of the turns. -/
def KeepsFighting (r : DungeonRoom F) (j : Nat) (turns : List (Turn F)) : Prop :=
  forall front, front <+: turns -> exists w,
    (front.foldl turn r).units.lookup j = some w ∧ w.attackTarget ≠ 0

/-!
## One turn
-/

section Turns

variable {r q : DungeonRoom F} {t : Turn F} {j : Nat} {v : GameUnit F}

/-- A unit that is engaged by itself after a turn has kept still, or has chased in it. -/
theorem selfEngaged_fate (hq : Keyed q) (hv : (q.turn t).units.lookup j = some v)
    (hself : SelfEngaged v) :
    (exists u, q.units.lookup j = some u ∧ SelfEngaged u ∧
      v.attackTarget = u.attackTarget ∧ v.aggroOrigin = u.aggroOrigin ∧ v.pos = u.pos ∧
      v.speed = u.speed) ∨
    exists ω dt doAggro u p w, t = Turn.unit ω dt doAggro j ∧
      Outing ω dt doAggro q j u p w ∧ Chasing dt w v ∧ v.speed = w.speed := by
  rcases hself with ⟨htarget, hauto⟩
  cases unit_fate hq hv with
  | kept hu => exact Or.inl ⟨v, hu, ⟨htarget, hauto⟩, rfl, rfl, rfl, rfl⟩
  | spawned _ _ _ heq =>
      rw [heq] at htarget
      exact absurd rfl htarget
  | trained _ _ _ heq =>
      rw [heq] at htarget
      exact absurd rfl htarget
  | ordered _ _ hordered =>
      rcases hordered.manual with hnone | ⟨_, _, hmanual⟩
      · exact absurd hnone htarget
      · rw [hmanual] at hauto
        cases hauto
  | acted ht hout hconduct _ =>
      exact Or.inr ⟨_, _, _, _, _, _, ht, hout, hconduct.chase htarget hauto,
        hconduct.speed⟩
  | struck _ _ hu _ _ heq =>
      rw [heq] at htarget hauto ⊢
      exact Or.inl ⟨_, hu, ⟨htarget, hauto⟩, rfl, rfl, rfl, rfl⟩

/-- It was engaged before, or it has engaged in its turn. -/
theorem selfEngaged_cases (hq : Keyed q) (hv : (q.turn t).units.lookup j = some v)
    (hself : SelfEngaged v) :
    (exists u, q.units.lookup j = some u ∧ SelfEngaged u ∧
      v.attackTarget = u.attackTarget ∧ v.aggroOrigin = u.aggroOrigin) ∨
    exists ω dt doAggro u, t = Turn.unit ω dt doAggro j ∧ q.units.lookup j = some u ∧
      u.attackTarget = 0 ∧ v.aggroOrigin = u.pos := by
  rcases selfEngaged_fate hq hv hself with
    ⟨u, hu, hbefore, htarget, horigin, _, _⟩ |
    ⟨ω, dt, doAggro, u, p, w, ht, hout, hchase, _⟩
  · exact Or.inl ⟨u, hu, hbefore, htarget, horigin⟩
  · rcases hout.stance with hcooled | hengages
    · have hsame : w.attackTarget = u.attackTarget ∧ w.autoAggro = u.autoAggro ∧
          w.aggroOrigin = u.aggroOrigin := by
        rw [hcooled, coolDown_eq]
        exact ⟨rfl, rfl, rfl⟩
      rcases hsame with ⟨hsameTarget, hsameAuto, hsameOrigin⟩
      have htarget := hchase.attackTarget.trans hsameTarget
      exact Or.inl ⟨u, hout.found,
        ⟨htarget ▸ hself.left, hsameAuto.symm.trans hchase.autoAggro⟩, htarget,
        hchase.aggroOrigin.trans hsameOrigin⟩
    · exact Or.inr ⟨ω, dt, doAggro, u, ht, hout.found, hengages.free,
        hchase.aggroOrigin.trans hengages.aggroOrigin⟩

/-- An engagement goes on in the next turn. -/
theorem EngagedSince.next {turns : List (Turn F)} {u : GameUnit F}
    (h : EngagedSince r turns j u)
    (hv : ((turns ++ [t]).foldl turn r).units.lookup j = some v) (hself : SelfEngaged v)
    (htarget : v.attackTarget = u.attackTarget) (horigin : v.aggroOrigin = u.aggroOrigin) :
    EngagedSince r (turns ++ [t]) j v := by
  rcases h with @⟨front, back, ω, dt, doAggro, began, heq, hbegan, hfree, hplace, hback⟩
  have hturns : turns ++ [t] = front ++ Turn.unit ω dt doAggro j :: (back ++ [t]) := by
    rw [heq, List.append_assoc]
    rfl
  refine EngagedSince.intro hturns hbegan hfree (horigin.trans hplace) ?_
  intro mid hmid
  rcases List.prefix_concat_iff.mp hmid with rfl | hearlier
  · rw [hturns] at hv
    exact ⟨v, hv, hself, rfl, rfl⟩
  · rcases hback mid hearlier with ⟨w, hw, hfights, hsame, hplaced⟩
    exact ⟨w, hw, hfights, hsame.trans htarget.symm, hplaced.trans horigin.symm⟩

/-- The manual engagement of a unit does not become one by itself. -/
theorem manual_turn (hq : Keyed q) {u : GameUnit F} (hu : q.units.lookup j = some u)
    (hfights : u.attackTarget ≠ 0) (hmanual : u.autoAggro = false)
    (hv : (q.turn t).units.lookup j = some v) (htarget : v.attackTarget ≠ 0) :
    v.autoAggro = false := by
  by_contra hauto
  rw [Bool.not_eq_false] at hauto
  rcases selfEngaged_cases hq hv ⟨htarget, hauto⟩ with
    ⟨w, hw, hself, _, _⟩ | ⟨_, _, _, w, _, hw, hfree, _⟩
  · injection hu.symm.trans hw with hsame
    rw [hsame, hself.right] at hmanual
    cases hmanual
  · injection hu.symm.trans hw with hsame
    rw [hsame] at hfights
    exact hfights hfree

end Turns

/-!
## The command
-/

section Command

variable {target : Nat}

theorem attackOrder_twice (u : GameUnit F) :
    attackOrder target (attackOrder target u) = attackOrder target u := rfl

/-- An Attack command reaches every unit that it lists and that may carry it out. -/
theorem attackEach_lookup {ownerUid j : Nat} (hself : j ≠ target) (ids : List Nat)
    (s : DungeonRoom F) {u : GameUnit F} (hu : s.units.lookup j = some u)
    (howner : u.ownerUid = ownerUid) :
    (s.applyAttack ownerUid ids target).units.lookup j =
      some (if j ∈ ids then attackOrder target u else u) := by
  unfold applyAttack
  induction ids generalizing s u with
  | nil => exact hu
  | cons id rest ih =>
      unfold orderEachOwned
      by_cases hid : id = j
      · subst hid
        have hput : ((s.putUnit id (attackOrder target u)).markDirty id).units.lookup id =
            some (attackOrder target u) := AList.lookup_insert _
        rw [hu]
        dsimp only
        rw [if_neg (not_not.mpr howner), if_neg hself, ih _ hput howner,
          if_pos List.mem_cons_self]
        split
        · rw [attackOrder_twice]
        · rfl
      · have hmem : j ∈ id :: rest <-> j ∈ rest := by
          rw [List.mem_cons]
          exact or_iff_right (Ne.symm hid)
        simp only [hmem]
        split
        · exact ih s hu howner
        · split
          · exact ih s hu howner
          · refine ih _ ?_ howner
            split
            · exact hu
            · exact (AList.lookup_insert_ne (Ne.symm hid)).trans hu

end Command

/-!
## Distances
-/

section Distances

variable [ExactRoot F]

theorem planeDist_real (a b : Vec3f F) :
    toReal (planeDist a b) =
      √((toReal b.x - toReal a.x) ^ 2 + (toReal b.z - toReal a.z) ^ 2) := by
  simp [planeDist, pow_two]

/-- What the code compares with the square of the leash. -/
theorem within_leash {u : GameUnit F} (h : beyondLeash u = false) :
    √((toReal u.pos.x - toReal u.aggroOrigin.x) ^ 2 +
      (toReal u.pos.z - toReal u.aggroOrigin.z) ^ 2) ≤ 14 := by
  unfold beyondLeash at h
  have hnot := of_decide_eq_false h
  change ¬ kAggroLeash * kAggroLeash < _ at hnot
  rw [Exact.not_lt_iff] at hnot
  simp only [Exact.add_eq, Exact.mul_eq, Exact.sub_eq, kAggroLeash, Exact.lit_eq] at hnot
  push_cast at hnot
  rw [Real.sqrt_le_left (by norm_num)]
  linarith

/-- One step of the chase leads no farther away than it is long. -/
theorem chaseToward_reach {u : GameUnit F} (h : beyondLeash u = false) (tpos : Vec3f F)
    (dt range : F) :
    toReal (planeDist u.aggroOrigin (chaseToward u tpos dt range).1.pos) ≤
      14 + Max.max 0 (toReal u.speed * toReal dt) := by
  have hnear := within_leash h
  have hstay : toReal (planeDist u.aggroOrigin u.pos) ≤
      14 + Max.max 0 (toReal u.speed * toReal dt) := by
    rw [planeDist_real]
    linarith [le_max_left 0 (toReal u.speed * toReal dt)]
  unfold chaseToward
  dsimp only
  split
  · split
    · rename_i hstride
      change lit 0 < _ at hstride
      rw [Exact.pos_iff, Exact.mul_eq] at hstride
      rw [planeDist_real, max_eq_right hstride.le]
      simp only [Exact.add_eq, Exact.sub_eq, Exact.mul_eq, Exact.div_eq,
        ExactRoot.sqrt_eq, ← pow_two, add_sub_right_comm]
      refine (plane_triangle _ _ _ _).trans (add_le_add hnear ?_)
      exact plane_stride _ _ hstride.le
    · split
      · exact hstay
      · exact hstay
  · split
    · exact hstay
    · exact hstay

theorem leashed_of_reach {dt : F} {u : GameUnit F}
    (h : toReal (planeDist u.aggroOrigin u.pos) ≤
      14 + Max.max 0 (toReal u.speed * toReal dt)) : Leashed dt u := by
  have hleash : toReal (kAggroLeash : F) = 14 := by simp [kAggroLeash]
  constructor
  · rw [Exact.le_iff, Exact.add_eq, hleash, Exact.max_eq, Exact.zero_eq,
      Exact.mul_eq]
    exact h
  · intro hstride
    rw [Exact.nonneg_iff, Exact.mul_eq] at hstride
    rw [max_eq_right hstride] at h
    rw [Exact.le_iff, Exact.add_eq, hleash, Exact.mul_eq]
    exact h

/-- Every unit that is engaged by itself is leashed. -/
def AllLeashed (dt : F) (q : DungeonRoom F) : Prop :=
  forall j u, q.units.lookup j = some u -> SelfEngaged u -> Leashed dt u

theorem AllLeashed.turn {dt : F} {q : DungeonRoom F} (hq : Keyed q)
    (h : AllLeashed dt q) {t : Turn F} (ht : Timed dt t) : AllLeashed dt (q.turn t) := by
  intro j v hv hself
  rcases selfEngaged_fate hq hv hself with
    ⟨u, hu, hbefore, _, horigin, hpos, hspeed⟩ |
    ⟨ω, dt', doAggro, u, p, w, hturn, _, hchase, hspeed⟩
  · have hleashed := h j u hu hbefore
    constructor
    · rw [horigin, hpos, hspeed]
      exact hleashed.reach
    · rw [horigin, hpos, hspeed]
      exact hleashed.stride
  · rcases hchase.pos with ⟨tpos, range, hpos⟩
    rw [ht ω dt' doAggro j hturn] at hpos
    apply leashed_of_reach
    rw [hpos, hchase.aggroOrigin, hspeed]
    exact chaseToward_reach hchase.leash tpos dt range

theorem AllLeashed.turns {dt : F} {q : DungeonRoom F} (hq : Keyed q)
    (h : AllLeashed dt q) {ts : List (Turn F)} (hts : forall t, t ∈ ts -> Timed dt t) :
    AllLeashed dt (ts.foldl DungeonRoom.turn q) :=
  hq.invariant (AllLeashed dt) (fun _ _ hp hall ht => hall.turn hp ht) h hts

end Distances

/-!
## Runs
-/

section Runs

variable {r : DungeonRoom F} {j : Nat} {u : GameUnit F}

/-- A room without units, in which nobody is engaged. -/
theorem engagedSince_of_selfEngaged (hr : Keyed r)
    (hnone : forall u, r.units.lookup j = some u -> u.attackTarget = 0)
    (turns : List (Turn F)) (hu : (turns.foldl turn r).units.lookup j = some u)
    (hself : SelfEngaged u) : EngagedSince r turns j u := by
  induction turns using List.reverseRecOn generalizing u with
  | nil => exact absurd (hnone u hu) hself.left
  | append_singleton front t ih =>
      have hkeyed := (hr.turns front).left
      have hlast := hu
      rw [List.foldl_append] at hlast
      rcases selfEngaged_cases hkeyed hlast hself with
        ⟨v, hv, hbefore, htarget, horigin⟩ | ⟨ω, dt, doAggro, v, rfl, hv, hfree, hplace⟩
      · exact (ih hv hbefore).next hu hself htarget horigin
      · refine EngagedSince.intro rfl hv hfree hplace ?_
        intro mid hmid
        rw [List.prefix_nil] at hmid
        rw [hmid]
        exact ⟨u, hu, hself, rfl, rfl⟩

/-- A unit that fights on its player's command is not chasing by itself. -/
theorem manual_turns (hr : Keyed r) (turns : List (Turn F))
    (hfights : KeepsFighting r j turns)
    (hmanual : forall u, r.units.lookup j = some u -> u.autoAggro = false)
    (hu : (turns.foldl turn r).units.lookup j = some u) : u.autoAggro = false := by
  induction turns using List.reverseRecOn generalizing u with
  | nil => exact hmanual u hu
  | append_singleton front t ih =>
      have hkeyed := (hr.turns front).left
      have hearlier : KeepsFighting r j front := fun mid hmid =>
        hfights mid (hmid.trans (List.prefix_append front [t]))
      rcases hearlier front (List.prefix_refl front) with ⟨v, hv, htarget⟩
      rcases hfights (front ++ [t]) (List.prefix_refl _) with ⟨w, hw, hlast⟩
      injection hu.symm.trans hw with hsame
      rw [List.foldl_append] at hu
      exact manual_turn hkeyed hv htarget (ih hearlier hv) hu (hsame ▸ hlast)

/--
In every run whose steps all have the same length, at every moment: a unit that is
engaged by itself is within the leash and one step of its origin, which is where it
stood when it engaged.  A unit that an Attack command has engaged does not get the
mark of such an engagement as long as it fights on.
-/
theorem leash_holds [ExactRoot F] (roomId : Nat) (roomName : String) (maxPlayers : Nat)
    (calls : List (RoomCall F)) (dt : F)
    (hsteps : forall ω dt', RoomCall.step ω dt' ∈ calls -> dt' = dt) :
    (forall front back,
      scriptOf (create roomId roomName maxPlayers) calls = front ++ back -> forall j u,
        (front.foldl turn (create roomId roomName maxPlayers)).units.lookup j = some u ->
        u.attackTarget ≠ 0 -> u.autoAggro = true ->
        Leashed dt u ∧ EngagedSince (create roomId roomName maxPlayers) front j u) ∧
    forall front cmd mid back,
      scriptOf (create roomId roomName maxPlayers) calls =
        front ++ Turn.command cmd :: (mid ++ back) ->
      cmd.type = CommandType.attack -> forall j u,
        (front.foldl turn (create roomId roomName maxPlayers)).units.lookup j = some u ->
        u.ownerUid = cmd.ownerUid -> j ∈ cmd.unitIds -> j ≠ cmd.targetEntity ->
        KeepsFighting ((front.foldl turn (create roomId roomName maxPlayers)).turn
          (Turn.command cmd)) j mid -> forall v,
        ((front ++ Turn.command cmd :: mid).foldl turn
          (create roomId roomName maxPlayers)).units.lookup j = some v ->
        v.autoAggro = false := by
  have hstart : Keyed (create roomId roomName maxPlayers : DungeonRoom F) :=
    keyed_create roomId roomName maxPlayers
  constructor
  · intro front back heq j u hu htarget hauto
    have htimed : forall t, t ∈ front -> Timed dt t := by
      intro t ht
      apply timed_scriptOf hsteps
      rw [heq]
      exact List.mem_append_left back ht
    have hleashed : AllLeashed dt (create roomId roomName maxPlayers : DungeonRoom F) := by
      intro i w hw
      cases hw
    refine ⟨hleashed.turns hstart htimed j u hu ⟨htarget, hauto⟩, ?_⟩
    refine engagedSince_of_selfEngaged hstart ?_ front hu ⟨htarget, hauto⟩
    intro w hw
    cases hw
  · intro front cmd mid back heq htype j u hu howner hlisted hother hfights v hv
    have hkeyed := (hstart.turns front).left
    have hafter := (turn_keyed hkeyed (Turn.command cmd)).left
    rw [List.foldl_append] at hv
    refine manual_turns hafter mid hfights ?_ hv
    intro w hw
    change ((front.foldl turn _).applyCommand cmd).units.lookup j = some w at hw
    rw [applyCommand, htype] at hw
    dsimp only at hw
    rw [attackEach_lookup hother cmd.unitIds _ hu howner, if_pos hlisted] at hw
    injection hw with hsame
    rw [← hsame]
    rfl

end Runs

/-- The first villager is told to attack the second. -/
def challenge : PendingCommand F :=
  ⟨CommandType.attack, 1, 0, [1], ⟨lit 0, lit 0, lit 0⟩, [], 2, 0, lit 0⟩

/-- Two villagers of different teams meet. -/
def meeting : List (RoomCall F) :=
  [RoomCall.spawnUnit 1 0 kUnitVillager ⟨lit 0, lit 0, lit 0⟩ (lit 100) (lit 6) (lit 0),
    RoomCall.spawnUnit 2 1 kUnitVillager ⟨lit 7, lit 0, lit 0⟩ (lit 100) (lit 6) (lit 0),
    RoomCall.enqueueCommand challenge]

/-- They fight for five steps. -/
def encounter : List (RoomCall F) :=
  meeting ++ RoomCall.applyPending ::
    List.replicate 5 (RoomCall.step IterOrder.stored (lit 0.1))

/-- The second has noticed the first in the end and chases it by itself. -/
example : ((encounter.foldl call (create 1 "encounter" 2 : DungeonRoom Rat)).units.lookup
    2).map (fun u => (u.attackTarget, u.autoAggro)) = some (1, true) := by
  decide +kernel

/-- The first has its turn in the step after the command. -/
def afterChallenge : List (Turn F) :=
  [Turn.clearPending, Turn.scanTick, Turn.unit IterOrder.stored (lit 0.1) false 1]

/-- If it has a living enemy then, it has the same one all the time. -/
theorem afterChallenge_fights {q : DungeonRoom F} {u x : GameUnit F}
    (hu : q.units.lookup 1 = some u) (halive : ¬ u.hp ≤ lit 0) (hmanual : u.autoAggro = false)
    (htarget : u.attackTarget = 2) (hx : q.units.lookup 2 = some x) (hfoe : Hostile u x) :
    forall front, front <+: (afterChallenge : List (Turn F)) -> exists v,
      (front.foldl turn q).units.lookup 1 = some v ∧ v.attackTarget = 2 := by
  intro front hfront
  change front <+: [Turn.clearPending, Turn.scanTick] ++
    [Turn.unit IterOrder.stored (lit 0.1) false 1] at hfront
  rcases List.prefix_concat_iff.mp hfront with rfl | hearlier
  · have hfights := commanded_fights
      (q := [Turn.clearPending, Turn.scanTick].foldl turn q) hu halive hmanual
      (by rw [htarget]; decide) (by rw [htarget]; decide) (by rw [htarget]; exact hx) hfoe
      IterOrder.stored (lit 0.1) false
    rw [htarget] at hfights
    exact hfights
  · refine ⟨u, ?_, htarget⟩
    rw [← List.mem_inits] at hearlier
    simp only [List.inits, List.map_cons, List.map_nil, List.mem_cons, List.not_mem_nil,
      or_false] at hearlier
    rcases hearlier with rfl | rfl | rfl
    all_goals exact hu

/-- It fights on, and without the mark of a fight that it has picked itself. -/
theorem commanded_unmarked :
    exists v : GameUnit RealScalar,
      ((scriptOf (create 1 "encounter" 2) meeting ++ Turn.command challenge ::
        afterChallenge).foldl turn (create 1 "encounter" 2)).units.lookup 1 = some v ∧
        v.attackTarget = 2 ∧ v.autoAggro = false := by
  have hsteps : forall ω dt', RoomCall.step ω dt' ∈ encounter ->
      dt' = (lit 0.1 : RealScalar) := by
    intro ω dt' h
    simp only [encounter, meeting, List.mem_append, List.mem_cons, List.not_mem_nil,
      reduceCtorEq, false_or, or_false, List.mem_replicate, RoomCall.step.injEq] at h
    exact h.right.right
  have hstate : (scriptOf (create 1 "encounter" 2) meeting).foldl turn
      (create 1 "encounter" 2 : DungeonRoom RealScalar) =
        meeting.foldl call (create 1 "encounter" 2) := scriptOf_foldl _ _
  have hpending : (meeting.foldl call
      (create 1 "encounter" 2 : DungeonRoom RealScalar)).pending = [challenge] := rfl
  have hscript : exists back,
      scriptOf (create 1 "encounter" 2 : DungeonRoom RealScalar) encounter =
        scriptOf (create 1 "encounter" 2) meeting ++
          Turn.command challenge :: (afterChallenge ++ back) := by
    rw [encounter, scriptOf, script_append, script, turns, hpending, List.map_cons,
      List.map_nil, List.cons_append, List.cons_append, List.append_assoc]
    exact ⟨_, rfl⟩
  have hbefore : exists u : GameUnit RealScalar,
      (meeting.foldl call (create 1 "encounter" 2)).units.lookup 1 = some u ∧
        u.ownerUid = 1 := ⟨_, rfl, rfl⟩
  have hafter : exists u x : GameUnit RealScalar,
      ((meeting.foldl call (create 1 "encounter" 2)).applyCommand challenge).units.lookup 1 =
        some u ∧
      ((meeting.foldl call (create 1 "encounter" 2)).applyCommand challenge).units.lookup 2 =
        some x ∧
      u.hp = lit 100 ∧ u.team = 0 ∧ u.autoAggro = false ∧ u.attackTarget = 2 ∧
      x.hp = lit 100 ∧ x.team = 1 := ⟨_, _, rfl, rfl, rfl, rfl, rfl, rfl, rfl, rfl⟩
  rcases hscript with ⟨back, hscript⟩
  rcases hbefore with ⟨u, hu, howner⟩
  rcases hafter with ⟨w, x, hw, hx, hwhp, hwteam, hmanual, htarget, hxhp, hxteam⟩
  have halive : ¬ (lit 100 : RealScalar) ≤ lit 0 := by
    rw [Exact.not_le_iff, Exact.lit_eq, Exact.lit_eq]
    norm_num
  have hfoe : Hostile w x := ⟨by rw [hxteam, hwteam]; decide, by rw [hxhp]; exact halive⟩
  have hfights := afterChallenge_fights hw (by rw [hwhp]; exact halive) hmanual htarget hx hfoe
  generalize hroom : (meeting.foldl call
    (create 1 "encounter" 2) : DungeonRoom RealScalar) = room at hstate hu hfights
  rcases hfights afterChallenge (List.prefix_refl _) with ⟨v, hv, hkept⟩
  have hlast : ((scriptOf (create 1 "encounter" 2) meeting ++ Turn.command challenge ::
      afterChallenge).foldl turn (create 1 "encounter" 2)).units.lookup 1 = some v := by
    rw [List.foldl_append, hstate]
    exact hv
  refine ⟨v, hlast, hkept, ?_⟩
  rw [← hstate] at hu
  refine (leash_holds 1 "encounter" 2 encounter (lit 0.1) hsteps).right _ challenge
    afterChallenge back hscript rfl 1 u hu howner List.mem_cons_self (by decide) ?_ v hlast
  intro mid hmid
  rcases hfights mid hmid with ⟨y, hy, hsame⟩
  rw [hstate]
  exact ⟨y, hy, by rw [hsame]; decide⟩

end DungeonRoom

end RtsGame
