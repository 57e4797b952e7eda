import Mathlib.Algebra.Order.Archimedean.Real.Basic
import RtsGame.Library.Pace
import RtsGame.Room.Construction

/-!
# The law of combat

Hit points are lost in one way only: a living unit of another team, close enough,
takes its turn and hits.  After a hit the attacker has to let its cooldown run
out, which no command shortens, and the cooldown shrinks once in a step.
-/

namespace RtsGame

open Scalar
open Exact (toReal)

namespace DungeonRoom

variable {F : Type} [Scalar F]

/-- The hit points of a unit or a building. -/
def hpOf (q : DungeonRoom F) (k : EntityKind) (id : Nat) : Option F :=
  match k with
  | EntityKind.unit => (q.units.lookup id).map GameUnit.hp
  | EntityKind.building => (q.buildings.lookup id).map Building.hp
  | _ => none

/-- The entity has fewer hit points after the turn than before. -/
def Lowers (q : DungeonRoom F) (t : Turn F) (k : EntityKind) (j : Nat) : Prop :=
  exists hp hp', q.hpOf k j = some hp ∧ (q.turn t).hpOf k j = some hp' ∧ hp' < hp

/-- A living unit of another team. -/
structure Hostile (u x : GameUnit F) : Prop where
  team : x.team ≠ u.team
  alive : ¬ x.hp ≤ lit 0

/-- A living unit of another team takes its turn within range, and costs some hit points. -/
inductive Strike (dt : F) (q : DungeonRoom F) (t : Turn F) (team : Nat) (pos : Vec3f F)
    (range lost : F) : Prop where
  | intro {ω : IterOrder} {doAggro : Bool} {i : Nat} {a : GameUnit F} :
      t = Turn.unit ω dt doAggro i -> q.units.lookup i = some a -> lit 0 < a.hp ->
      a.team ≠ team -> planeDist a.pos pos ≤ range -> lost ≤ kAttackDamage ->
      Strike dt q t team pos range lost

/-- What a turn may do to hit points. -/
structure CombatLaw (dt : F) (q : DungeonRoom F) (t : Turn F) : Prop where
  noHealing : forall j u v, q.units.lookup j = some u ->
    (q.turn t).units.lookup j = some v -> v.hp ≤ u.hp
  units : forall j u v, q.units.lookup j = some u ->
    (q.turn t).units.lookup j = some v -> v.hp < u.hp ->
    Strike dt q t u.team u.pos kAttackRange (u.hp - v.hp)
  buildings : forall j b c, q.buildings.lookup j = some b ->
    (q.turn t).buildings.lookup j = some c -> c.hp < b.hp ->
    Strike dt q t b.team b.pos kBuildingAttackRange (b.hp - c.hp)
  single : forall k j k' j', Lowers q t k j -> Lowers q t k' j' -> k = k' ∧ j = j'

/-- In its turn the unit lowers the hit points of something. -/
def Hits (q : DungeonRoom F) (t : Turn F) (i : Nat) : Prop :=
  (exists ω dt doAggro, t = Turn.unit ω dt doAggro i) ∧ exists k j, Lowers q t k j

/-- A unit has its turn in a step of the given length. -/
def Timed (dt : F) (t : Turn F) : Prop :=
  forall ω dt' doAggro i, t = Turn.unit ω dt' doAggro i -> dt' = dt

/-!
## The clock
-/

def Turn.isScanTick : Turn F -> Bool
  | Turn.scanTick => true
  | _ => false

def Turn.isUnit (i : Nat) : Turn F -> Bool
  | Turn.unit _ _ _ id => id = i
  | _ => false

/-- Every step ticks once; the turns of one unit are the beats. -/
def unitMetre (i : Nat) : Metre (Turn F) := ⟨Turn.isScanTick, Turn.isUnit i⟩

/-- How many steps begin among the turns. -/
def stepsBegun (ts : List (Turn F)) : Nat := ts.countP Turn.isScanTick

omit [Scalar F] in
/-- The loop over the units visits every unit once. -/
theorem paced_units (ω : IterOrder) (dt : F) (doAggro : Bool) (i : Nat) {ids : List Nat}
    (hids : ids.Nodup) :
    (unitMetre i).Paced true (ids.map (Turn.unit ω dt doAggro)) := by
  induction ids with
  | nil =>
      trivial
  | cons id rest ih =>
      rw [List.nodup_cons] at hids
      refine ⟨fun _ => rfl, ?_⟩
      by_cases hid : id = i
      · apply Metre.paced_of_quiet
        intro t ht
        rcases List.mem_map.mp ht with ⟨other, hother, rfl⟩
        have hne : other ≠ i := by
          rintro rfl
          exact hids.left (hid ▸ hother)
        exact decide_eq_false hne
      · have hafter : (unitMetre i).after true (Turn.unit ω dt doAggro id) = true := by
          simp [Metre.after, unitMetre, Turn.isScanTick, Turn.isUnit, hid]
        rw [hafter]
        exact ih hids.right

/-- Every step begins with a tick, so a unit has at most one turn for each. -/
theorem turns_paced (r : DungeonRoom F) (c : RoomCall F) (i : Nat) (fresh : Bool) :
    (unitMetre i).Paced fresh (r.turns c) := by
  by_cases hstep : exists ω dt, c = RoomCall.step ω dt
  · rcases hstep with ⟨ω, dt, rfl⟩
    change (unitMetre i).Paced fresh (stepTurns ω dt r)
    unfold stepTurns
    refine ⟨nofun, ?_⟩
    rw [List.append_assoc, List.append_assoc, Metre.paced_append]
    refine ⟨paced_units ω dt _ i (ω.visit_nodup r.units), ?_⟩
    apply Metre.paced_of_quiet
    intro t ht
    simp only [List.mem_append, List.mem_map] at ht
    rcases ht with ⟨_, _, rfl⟩ | ⟨_, _, rfl⟩ | ⟨_, _, rfl⟩
    all_goals rfl
  · apply Metre.paced_of_quiet
    intro t ht
    cases t with
    | unit ω dt doAggro id => exact absurd ⟨ω, dt, unit_mem_turns ht⟩ hstep
    | _ => rfl

theorem scriptOf_paced (r : DungeonRoom F) (calls : List (RoomCall F)) (i : Nat)
    (fresh : Bool) : (unitMetre i).Paced fresh (r.scriptOf calls) :=
  Metre.paced_script (fun s c fresh => turns_paced s c i fresh) r calls fresh

/-!
## One turn
-/

section Turns

variable {q : DungeonRoom F} {t : Turn F} {j : Nat}

/-- A unit keeps its hit points, or it is hit by an enemy. -/
theorem unit_hp_cases (hq : Keyed q) {u v : GameUnit F} (hu : q.units.lookup j = some u)
    (hv : (q.turn t).units.lookup j = some v) :
    v.hp = u.hp ∨ exists ω dt doAggro i a, t = Turn.unit ω dt doAggro i ∧
      Blow ω dt doAggro q i a u.team u.pos kAttackRange ∧ ¬ u.hp ≤ lit 0 ∧
      v = hitUnit u := by
  have hsame : forall w, q.units.lookup j = some w -> w = u := by
    intro w hw
    injection hw.symm.trans hu
  cases unit_fate hq hv with
  | kept hw => exact Or.inl (congrArg GameUnit.hp (hsame v hw))
  | spawned _ hnone _ _ => cases hnone.symm.trans hu
  | trained _ hnone _ _ => cases hnone.symm.trans hu
  | ordered _ hw hordered =>
      rw [hordered.body.hp, hsame _ hw]
      exact Or.inl rfl
  | acted _ hout hconduct _ =>
      rw [hconduct.body.hp, hout.stance.body.hp, hsame _ hout.found]
      exact Or.inl rfl
  | struck hturn _ hw hpos hblow heq =>
      have hwu := hsame _ hw
      subst hwu
      exact Or.inr ⟨_, _, _, _, _, hturn, hblow, hpos, heq⟩

/-- A building keeps its hit points, is hit by an enemy, or is worked on. -/
theorem building_hp_cases (hq : Keyed q) {b c : Building F}
    (hb : q.buildings.lookup j = some b)
    (hc : (q.turn t).buildings.lookup j = some c) :
    c.hp = b.hp ∨
    (exists ω dt doAggro i a, t = Turn.unit ω dt doAggro i ∧
      Blow ω dt doAggro q i a b.team b.pos kBuildingAttackRange ∧ ¬ b.hp ≤ lit 0 ∧
      c = hitBuilding b) ∨
    exists dt, c = buildProgress b dt := by
  have hsame : forall d, q.buildings.lookup j = some d -> d = b := by
    intro d hd
    injection hd.symm.trans hb
  cases site_fate hq hc with
  | @kept d _ hd heq =>
      rw [heq, hsame d hd]
      exact Or.inl rfl
  | new hnone _ _ => cases hnone.symm.trans hb
  | struck hturn hd hpos hblow heq =>
      have hdb := hsame _ hd
      subst hdb
      exact Or.inr (Or.inl ⟨_, _, _, _, _, hturn, hblow, hpos, heq⟩)
  | built _ _ _ _ _ _ hd _ heq =>
      rw [hsame _ hd] at heq
      exact Or.inr (Or.inr ⟨_, heq⟩)

section Bystanders

variable {ω : IterOrder} {dt : F} {doAggro : Bool} {i : Nat} {u w v : GameUnit F}
  {p q' : DungeonRoom F}

/-- The unit whose turn it is keeps its hit points, and so do the others that it leaves alone. -/
theorem Outing.unit_hp (hout : Outing ω dt doAggro q i u p w) (hconduct : Conduct p dt w v)
    {s : DungeonRoom F} (halone : Alone s q' i v)
    (hsame : j ≠ i -> s.units.lookup j = p.units.lookup j) :
    q'.hpOf EntityKind.unit j = q.hpOf EntityKind.unit j := by
  unfold hpOf
  by_cases hj : j = i
  · subst hj
    rw [halone.own, hout.found, Option.map_some, Option.map_some, hconduct.body.hp,
      hout.stance.body.hp]
  · rw [halone.others j hj, hsame hj, hout.solo.others j hj]

/-- Everything keeps its hit points, except for a building that is not as before. -/
theorem Outing.hpOf_eq (hout : Outing ω dt doAggro q i u p w) (hconduct : Conduct p dt w v)
    (halone : Alone p q' i v) {k : EntityKind}
    (hbuilding : k = EntityKind.building ->
      q'.buildings.lookup j = p.buildings.lookup j) : q'.hpOf k j = q.hpOf k j := by
  cases k with
  | unit => exact hout.unit_hp hconduct halone fun _ => rfl
  | building =>
      unfold hpOf
      rw [hbuilding rfl, hout.solo.buildings]
  | field => rfl
  | drop => rfl

end Bystanders

/-- In its turn a unit changes the hit points of at most one thing. -/
theorem stepUnit_target (ω : IterOrder) (dt : F) (doAggro : Bool) (q : DungeonRoom F)
    (i : Nat) :
    exists k₀ j₀, forall k j, ¬ (k = k₀ ∧ j = j₀) ->
      (stepUnit ω dt doAggro q i).hpOf k j = q.hpOf k j := by
  rcases stepUnit_cases ω dt doAggro q i with ⟨heq, _⟩ | ⟨u, p, w, hout, _, haction⟩
  · refine ⟨EntityKind.unit, i, ?_⟩
    intro k j _
    rw [heq]
  · have hother : forall v target b, Conduct p dt w v ->
        Alone p (stepUnit ω dt doAggro q i) i v ->
        (stepUnit ω dt doAggro q i).buildings = p.buildings.insert target b ->
        forall k j, ¬ (k = EntityKind.building ∧ j = target) ->
        (stepUnit ω dt doAggro q i).hpOf k j = q.hpOf k j := by
      intro v target b hconduct halone hput k j hne
      refine hout.hpOf_eq hconduct halone ?_
      intro hk
      rw [hput, AList.lookup_insert_ne fun hj => hne ⟨hk, hj⟩]
    cases haction with
    | rests hsolo hconduct _ =>
        refine ⟨EntityKind.unit, i, ?_⟩
        intro k j _
        exact hout.hpOf_eq hconduct hsolo.toAlone fun _ => by rw [hsolo.buildings]
    | @strikesUnit v target targetId _ _ _ _ _ halone hbuildings _ hconduct _ =>
        refine ⟨EntityKind.unit, targetId, ?_⟩
        intro k j hne
        cases k with
        | unit =>
            refine hout.unit_hp hconduct halone fun _ => ?_
            exact AList.lookup_insert_ne fun hj => hne ⟨rfl, hj⟩
        | building =>
            unfold hpOf
            rw [hbuildings, hout.solo.buildings]
        | field => rfl
        | drop => rfl
    | strikesBuilding _ _ _ _ _ halone hput _ hconduct _ =>
        exact ⟨_, _, hother _ _ _ hconduct halone hput⟩
    | builds _ _ _ _ _ halone hput _ hconduct _ =>
        exact ⟨_, _, hother _ _ _ hconduct halone hput⟩
    | banks _ _ _ _ _ halone hbuildings _ hconduct _ =>
        refine ⟨EntityKind.unit, i, ?_⟩
        intro k j _
        exact hout.hpOf_eq hconduct halone fun _ => by rw [hbuildings]

/-- A unit that fights an enemy, and is not beyond its leash, goes on with it. -/
theorem stepCombat_fights {p : DungeonRoom F} {i : Nat} {w x : GameUnit F} {dt : F}
    (hstays : ¬ (w.autoAggro = true ∧ beyondLeash w = true))
    (hx : p.units.lookup w.attackTarget = some x) (hfoe : Hostile w x) :
    exists v, (p.stepCombat i w dt).units.lookup i = some v ∧
      v.attackTarget = w.attackTarget ∧ v.autoAggro = w.autoAggro ∧ v.task = w.task := by
  unfold stepCombat
  rw [if_neg hstays, hx]
  dsimp only
  unfold attackUnit
  rw [if_neg (not_or.mpr ⟨hfoe.alive, hfoe.team⟩)]
  have hchase : exists pos yaw,
      (chaseToward { w with state := UnitState.attacking } x.pos dt kAttackRange).1 =
        { w with state := UnitState.attacking, pos := pos, yaw := yaw } := chaseToward_eq _ _ _
  rcases hchase with ⟨pos, yaw, heq⟩
  dsimp only
  split
  · refine ⟨_, AList.lookup_insert _, ?_⟩
    rw [heq]
    exact ⟨rfl, rfl, rfl⟩
  · refine ⟨_, AList.lookup_insert _, ?_⟩
    rw [heq]
    exact ⟨rfl, rfl, rfl⟩

/-- A living unit that was told to attack an enemy still attacks it after its turn. -/
theorem commanded_fights {i : Nat} {u x : GameUnit F} (hu : q.units.lookup i = some u)
    (halive : ¬ u.hp ≤ lit 0) (hmanual : u.autoAggro = false) (htarget : u.attackTarget ≠ 0)
    (hother : u.attackTarget ≠ i) (hx : q.units.lookup u.attackTarget = some x)
    (hfoe : Hostile u x) (ω : IterOrder) (dt : F) (doAggro : Bool) :
    exists v, (stepUnit ω dt doAggro q i).units.lookup i = some v ∧
      v.attackTarget = u.attackTarget := by
  rcases stepUnit_cases ω dt doAggro q i with ⟨_, hdead⟩ | ⟨u', p, w, hout, hact, _⟩
  · exact absurd (hdead u hu) halive
  · injection hu.symm.trans hout.found with hsame
    subst hsame
    rcases hout.stance with hcool | hengages
    · rw [coolDown_eq] at hcool
      have hstays : ¬ (w.autoAggro = true ∧ beyondLeash w = true) := by
        rintro ⟨hauto, _⟩
        rw [hcool, hmanual] at hauto
        cases hauto
      have hfound : p.units.lookup w.attackTarget = some x := by
        rw [hcool]
        exact (hout.solo.others _ hother).trans hx
      have hhostile : Hostile w x := by
        rw [hcool]
        exact ⟨hfoe.team, hfoe.alive⟩
      rcases stepCombat_fights hstays hfound hhostile with ⟨v, hv, hkept, _⟩
      refine ⟨v, ?_, ?_⟩
      · rw [hact]
        unfold act
        rw [if_pos (by rw [hcool]; exact htarget)]
        exact hv
      · rw [hkept, hcool]
    · exact absurd hengages.free htarget

variable [Exact F]

theorem hitUnit_hp (u : GameUnit F) :
    toReal (hitUnit u).hp = Max.max 0 (toReal u.hp - 20) := by
  simp [hitUnit, kAttackDamage]

theorem buildProgress_hp_ge {b : Building F} (hb : Consistent b) (dt : F) :
    toReal b.hp ≤ toReal (buildProgress b dt).hp := by
  have hfull := hb.full
  rw [Exact.le_iff] at hfull
  unfold buildProgress
  dsimp only
  split
  · exact hfull
  · rw [Exact.max_eq]
    exact le_max_left _ _

/-- A blow within range, and what it costs. -/
theorem Blow.strike {ω : IterOrder} {dt : F} {doAggro : Bool} {i : Nat} {a : GameUnit F}
    {team : Nat} {pos : Vec3f F} {range lost : F}
    (h : Blow ω dt doAggro q i a team pos range) (hlost : toReal lost ≤ 20) :
    Strike dt q (Turn.unit ω dt doAggro i) team pos range lost := by
  have halive := h.alive
  have hnear := h.near
  rw [Exact.not_le_iff] at halive
  change ¬ range < _ at hnear
  rw [Exact.not_lt_iff] at hnear
  refine Strike.intro rfl h.found ?_ h.foe.symm ?_ ?_
  · rw [Exact.lt_iff]
    exact halive
  · rw [Exact.le_iff]
    exact hnear
  · rw [Exact.le_iff, kAttackDamage, Exact.lit_eq]
    exact hlost

/-- Whatever loses hit points is hit by the unit whose turn it is. -/
theorem Lowers.blow (hq : Upright q) {k : EntityKind} (h : Lowers q t k j) :
    exists ω dt doAggro i a team pos range, t = Turn.unit ω dt doAggro i ∧
      Blow ω dt doAggro q i a team pos range := by
  rcases h with ⟨hp, hp', hbefore, hafter, hless⟩
  rw [Exact.lt_iff] at hless
  cases k with
  | unit =>
      rcases Option.map_eq_some_iff.mp hbefore with ⟨u, hu, rfl⟩
      rcases Option.map_eq_some_iff.mp hafter with ⟨v, hv, rfl⟩
      rcases unit_hp_cases hq.keyed hu hv with hsame | ⟨ω, dt, doAggro, i, a, ht, hblow, _⟩
      · rw [hsame] at hless
        exact absurd hless (lt_irrefl _)
      · exact ⟨ω, dt, doAggro, i, a, _, _, _, ht, hblow⟩
  | building =>
      rcases Option.map_eq_some_iff.mp hbefore with ⟨b, hb, rfl⟩
      rcases Option.map_eq_some_iff.mp hafter with ⟨c, hc, rfl⟩
      rcases building_hp_cases hq.keyed hb hc with
        hsame | ⟨ω, dt, doAggro, i, a, ht, hblow, _⟩ | ⟨dt, hbuilt⟩
      · rw [hsame] at hless
        exact absurd hless (lt_irrefl _)
      · exact ⟨ω, dt, doAggro, i, a, _, _, _, ht, hblow⟩
      · have hge := buildProgress_hp_ge (hq.consistent j b hb) dt
        rw [← hbuilt] at hge
        exact absurd hless (not_lt.mpr hge)
  | field => cases hbefore
  | drop => cases hbefore

theorem Upright.combatLaw (hq : Upright q) {dt : F} (ht : Timed dt t) :
    CombatLaw dt q t := by
  constructor
  · intro j u v hu hv
    rw [Exact.le_iff]
    rcases unit_hp_cases hq.keyed hu hv with hsame | ⟨_, _, _, _, _, _, _, hpos, hhit⟩
    · rw [hsame]
    · rw [Exact.not_le_zero_iff] at hpos
      rw [hhit, hitUnit_hp]
      exact max_le hpos.le (by linarith)
  · intro j u v hu hv hless
    rcases unit_hp_cases hq.keyed hu hv with
      hsame | ⟨ω, dt', doAggro, i, a, rfl, hblow, _, hhit⟩
    · rw [Exact.lt_iff, hsame] at hless
      exact absurd hless (lt_irrefl _)
    · rw [ht ω dt' doAggro i rfl] at hblow ⊢
      apply hblow.strike
      rw [hhit, Exact.sub_eq, hitUnit_hp]
      linarith [le_max_right 0 (toReal u.hp - 20)]
  · intro j b c hb hc hless
    rw [Exact.lt_iff] at hless
    rcases building_hp_cases hq.keyed hb hc with
      hsame | ⟨ω, dt', doAggro, i, a, rfl, hblow, _, hhit⟩ | ⟨dt', hbuilt⟩
    · rw [hsame] at hless
      exact absurd hless (lt_irrefl _)
    · rw [ht ω dt' doAggro i rfl] at hblow ⊢
      apply hblow.strike
      rw [hhit, Exact.sub_eq, hitBuilding_hp]
      linarith [le_max_right 0 (toReal b.hp - 20)]
    · have hge := buildProgress_hp_ge (hq.consistent j b hb) dt'
      rw [← hbuilt] at hge
      exact absurd hless (not_lt.mpr hge)
  · intro k j k' j' h h'
    rcases h.blow hq with ⟨ω, dt', doAggro, i, _, _, _, _, rfl, _⟩
    rcases stepUnit_target ω dt' doAggro q i with ⟨k₀, j₀, htarget⟩
    have hall : forall k j, Lowers q (Turn.unit ω dt' doAggro i) k j -> k = k₀ ∧ j = j₀ := by
      rintro k j ⟨hp, hp', hbefore, hafter, hless⟩
      by_contra hother
      have hsame := htarget k j hother
      change (stepUnit ω dt' doAggro q i).hpOf k j = some hp' at hafter
      rw [hsame, hbefore] at hafter
      injection hafter with heq
      rw [Exact.lt_iff, heq] at hless
      exact lt_irrefl _ hless
    rcases hall k j h with ⟨hk, hj⟩
    rcases hall k' j' h' with ⟨hk', hj'⟩
    exact ⟨hk.trans hk'.symm, hj.trans hj'.symm⟩

end Turns

/-!
## The cooldown
-/

variable [Exact F]

/--
The unit has hit `n` steps ago, the last of which it has or has not had its turn
in: at most so much of its cooldown is gone.
-/
def Cooling (dt : F) (i n : Nat) (fresh : Bool) (q : DungeonRoom F) : Prop :=
  Keyed q ∧ i < q.nextEntityId ∧ forall a, q.units.lookup i = some a ->
    1 - (n - if fresh then 1 else 0) * toReal dt ≤ toReal a.attackCd

section Cooldown

variable {dt : F} {i n : Nat} {fresh : Bool} {q : DungeonRoom F} {t : Turn F}

theorem coolDown_attackCd_ge (hdt : lit 0 ≤ dt) (u : GameUnit F) :
    toReal u.attackCd - toReal dt ≤ toReal (coolDown dt u).attackCd := by
  rw [Exact.nonneg_iff] at hdt
  unfold coolDown
  dsimp only
  split
  · change toReal u.attackCd - toReal dt ≤
      toReal (if u.attackCd - dt < lit 0 then lit 0 else u.attackCd - dt)
    split
    · rename_i hless
      rw [Exact.lt_iff, Exact.sub_eq] at hless
      exact hless.le
    · rw [Exact.sub_eq]
  · linarith

omit [Exact F] in
/-- Only the unit's own turn changes its cooldown. -/
theorem attackCd_cases (hq : Keyed q) (hi : i < q.nextEntityId) {v : GameUnit F}
    (hv : (q.turn t).units.lookup i = some v) :
    exists u, q.units.lookup i = some u ∧ (v.attackCd = u.attackCd ∨
      exists ω dt' doAggro, t = Turn.unit ω dt' doAggro i ∧
        (v.attackCd = (coolDown dt' u).attackCd ∨ v.attackCd = kAttackCooldown)) := by
  cases unit_fate hq hv with
  | kept hu => exact ⟨v, hu, Or.inl rfl⟩
  | spawned _ _ hnew _ => lia
  | trained _ _ hnew _ => lia
  | ordered _ hu hordered => exact ⟨_, hu, Or.inl hordered.attackCd⟩
  | acted ht hout _ hcd =>
      refine ⟨_, hout.found, Or.inr ⟨_, _, _, ht, ?_⟩⟩
      rw [← hout.stance.attackCd]
      exact hcd
  | struck _ _ hu _ _ heq =>
      rw [heq]
      exact ⟨_, hu, Or.inl rfl⟩

/-- A turn takes no more of the cooldown than is due. -/
theorem Cooling.turn (hdt : lit 0 ≤ dt) (h : Cooling dt i n fresh q) (ht : Timed dt t)
    (hfresh : Turn.isUnit i t = true -> fresh = true) :
    Cooling dt i (n + if Turn.isScanTick t then 1 else 0) ((unitMetre i).after fresh t)
      (q.turn t) := by
  rcases h with ⟨hq, hi, hcd⟩
  rcases turn_keyed hq t with ⟨hkeyed, hnext⟩
  refine ⟨hkeyed, Nat.lt_of_lt_of_le hi hnext, ?_⟩
  intro v hv
  rcases attackCd_cases hq hi hv with ⟨u, hu, hsame | ⟨ω, dt', doAggro, rfl, hown⟩⟩
  · have hbefore := hcd u hu
    rw [hsame]
    refine le_trans ?_ hbefore
    have hpos := hdt
    rw [Exact.nonneg_iff] at hpos
    have hdue : ((n : ℝ) - if fresh = true then 1 else 0) ≤
        ((n + if Turn.isScanTick t then 1 else 0 : Nat) : ℝ) -
          if (unitMetre i).after fresh t = true then 1 else 0 := by
      unfold Metre.after
      change _ ≤ _ - if (if Turn.isScanTick t = true then true
        else if Turn.isUnit i t = true then false else fresh) = true then (1 : ℝ) else 0
      cases Turn.isScanTick t <;> cases Turn.isUnit i t <;> cases fresh <;> simp
    have hscaled := mul_le_mul_of_nonneg_right hdue hpos
    linarith
  · have hbefore := hcd u hu
    have hready : fresh = true := hfresh (decide_eq_true rfl)
    rw [ht ω dt' doAggro i rfl] at hown
    have hpos := hdt
    rw [Exact.nonneg_iff] at hpos
    have hafter : (unitMetre i).after fresh (Turn.unit ω dt' doAggro i) = false := by
      simp [Metre.after, unitMetre, Turn.isScanTick, Turn.isUnit]
    rw [hready] at hbefore
    rw [hafter]
    change 1 - (((n + 0 : Nat) : ℝ) - 0) * toReal dt ≤ toReal v.attackCd
    rw [Nat.add_zero, sub_zero]
    rcases hown with hcooled | hhit
    · rw [hcooled]
      refine le_trans ?_ (coolDown_attackCd_ge hdt u)
      have hone : ((n : ℝ) - 1) * toReal dt = n * toReal dt - toReal dt := by
        rw [sub_mul, one_mul]
      rw [if_pos rfl, hone] at hbefore
      linarith
    · rw [hhit, kAttackCooldown, Exact.lit_eq, Rat.cast_one]
      have hgone : 0 ≤ (n : ℝ) * toReal dt := mul_nonneg (Nat.cast_nonneg n) hpos
      linarith

theorem Cooling.turns (hdt : lit 0 ≤ dt) (h : Cooling dt i n fresh q) {ts : List (Turn F)}
    (hts : forall x, x ∈ ts -> Timed dt x) (hpaced : (unitMetre i).Paced fresh ts) :
    Cooling dt i (n + stepsBegun ts) (ts.foldl (unitMetre i).after fresh)
      (ts.foldl DungeonRoom.turn q) := by
  have hturn : forall n fresh p x, Cooling dt i n fresh p -> Timed dt x ->
      ((unitMetre i).beat x = true -> fresh = true) ->
      Cooling dt i (n + if (unitMetre i).tick x then 1 else 0)
        ((unitMetre i).after fresh x) (p.turn x) :=
    fun _ _ _ _ hp hx hfresh => hp.turn hdt hx hfresh
  have hend := hpaced.invariant (Cooling dt i) hturn h hts
  exact hend

/-- The attacker has to wait after a hit. -/
theorem Hits.cooling (hq : Upright q) (h : Hits q t i) : Cooling dt i 0 false (q.turn t) := by
  rcases h with ⟨⟨ω, dt', doAggro, rfl⟩, k, j, hlowers⟩
  rcases hlowers.blow hq with ⟨_, _, _, _, _, _, _, _, heq, hblow⟩
  cases heq
  rcases hblow.recovers with ⟨v, hv, hcd⟩
  rcases turn_keyed hq.keyed (Turn.unit ω dt' doAggro i) with ⟨hkeyed, hnext⟩
  refine ⟨hkeyed, Nat.lt_of_lt_of_le (hq.keyed.unit_lt hblow.found) hnext, ?_⟩
  intro w hw
  injection hv.symm.trans hw with hsame
  rw [← hsame, hcd, kAttackCooldown, Exact.lit_eq]
  simp

/-- It hits again when enough steps have passed. -/
theorem Cooling.hit (hq : Upright q) (hdt : lit 0 < dt) (hcool : Cooling dt i n true q)
    (ht : Timed dt t) (h : Hits q t i) :
    toReal (kAttackCooldown : F) / toReal dt ≤ n := by
  rcases h with ⟨⟨ω, dt', doAggro, rfl⟩, k, j, hlowers⟩
  rcases hlowers.blow hq with ⟨_, _, _, _, a, _, _, _, heq, hblow⟩
  cases heq
  have hready := hblow.ready
  rw [ht ω dt' doAggro i rfl] at hready
  have hdt0 : lit 0 ≤ dt := Exact.le_of_lt hdt
  rw [Exact.pos_iff] at hdt
  rw [Exact.le_iff, Exact.zero_eq] at hready
  have hcd := hcool.right.right a hblow.found
  have hstep := coolDown_attackCd_ge hdt0 a
  rw [if_pos rfl, sub_mul, one_mul] at hcd
  rw [div_le_iff₀ hdt, kAttackCooldown, Exact.lit_eq, Rat.cast_one]
  linarith

end Cooldown

/-!
## Runs
-/

section Runs

variable {r : DungeonRoom F} {dt : F} {calls : List (RoomCall F)}

omit [Exact F] in
/-- The turns of calls of which every step has the same length. -/
theorem timed_scriptOf (hsteps : forall ω dt', RoomCall.step ω dt' ∈ calls -> dt' = dt)
    {t : Turn F} (ht : t ∈ r.scriptOf calls) : Timed dt t := by
  rintro ω dt' doAggro i rfl
  exact hsteps ω dt' (unit_mem_scriptOf ht)

omit [Exact F] in
theorem Timed.forward (hdt : lit 0 ≤ dt) {t : Turn F} (ht : Timed dt t) : Forward t := by
  rintro ω dt' doAggro i rfl
  rw [ht ω dt' doAggro i rfl]
  exact hdt

omit [Exact F] in
theorem Hits.isUnit {q : DungeonRoom F} {t : Turn F} {i : Nat} (h : Hits q t i) :
    Turn.isUnit i t = true := by
  rcases h.left with ⟨ω, dt', doAggro, rfl⟩
  exact decide_eq_true rfl

omit [Exact F] in
theorem Hits.spends {q : DungeonRoom F} {t : Turn F} {i : Nat} (h : Hits q t i)
    {fresh : Bool} : (unitMetre i).after fresh t = false := by
  rcases h.left with ⟨ω, dt', doAggro, rfl⟩
  simp [Metre.after, unitMetre, Turn.isScanTick, Turn.isUnit]

/-- Two hits of the same unit are at least a cooldown apart. -/
theorem hits_apart (hr : Upright r) (hdt : lit 0 < dt)
    (hsteps : forall ω dt', RoomCall.step ω dt' ∈ calls -> dt' = dt)
    {front mid back : List (Turn F)} {t t' : Turn F} {i : Nat}
    (heq : r.scriptOf calls = front ++ t :: (mid ++ t' :: back))
    (hfirst : Hits (front.foldl turn r) t i)
    (hsecond : Hits ((front ++ t :: mid).foldl turn r) t' i) :
    toReal (kAttackCooldown : F) / toReal dt ≤ stepsBegun mid := by
  have hdt0 : lit 0 ≤ dt := Exact.le_of_lt hdt
  have htimed : forall x, x ∈ front ++ t :: (mid ++ t' :: back) -> Timed dt x := by
    intro x hx
    rw [← heq] at hx
    exact timed_scriptOf hsteps hx
  have hmidTimed : forall x, x ∈ mid -> Timed dt x := fun x hx => htimed x (by simp [hx])
  have hfront : Upright (front.foldl turn r) :=
    hr.turns fun x hx => (htimed x (List.mem_append_left _ hx)).forward hdt0
  have hmid : Upright ((front ++ t :: mid).foldl turn r) := by
    apply hr.turns
    intro x hx
    apply Timed.forward hdt0
    apply htimed
    rw [← List.cons_append, ← List.append_assoc]
    exact List.mem_append_left _ hx
  -- The first hit uses up the tick of its step, so another one comes before the second.
  have hpaced := scriptOf_paced r calls i true
  rw [heq, Metre.paced_append] at hpaced
  have hlater := hpaced.right.right
  rw [hfirst.spends, Metre.paced_append] at hlater
  have hready : mid.foldl (unitMetre i).after false = true :=
    hlater.right.left hsecond.isUnit
  have hwaits : Cooling dt i 0 false ((front.foldl turn r).turn t) := hfirst.cooling hfront
  have hcool := hwaits.turns hdt0 hmidTimed hlater.left
  rw [hready, Nat.zero_add] at hcool
  rw [List.foldl_append] at hsecond hmid
  exact hcool.hit hmid hdt (htimed t' (by simp)) hsecond

/-- A unit with negative hit points is one that was put into the room with them. -/
def NoneBelow (calls : List (RoomCall F)) (q : DungeonRoom F) : Prop :=
  forall j u, q.units.lookup j = some u -> u.hp < lit 0 ->
    exists ownerUid team unitType pos speed yaw,
      RoomCall.spawnUnit ownerUid team unitType pos u.hp speed yaw ∈ calls

theorem NoneBelow.turn {q : DungeonRoom F} (hq : Keyed q) (h : NoneBelow calls q)
    {t : Turn F} (ht : forall c plain, t = Turn.call c plain -> c ∈ calls) :
    NoneBelow calls (q.turn t) := by
  intro j v hv hneg
  cases unit_fate hq hv with
  | kept hu => exact h j v hu hneg
  | spawned hturn _ _ heq =>
      rw [heq]
      exact ⟨_, _, _, _, _, _, ht _ _ hturn⟩
  | trained _ _ _ heq =>
      rw [heq, Exact.lt_iff] at hneg
      simp [trainedUnit, newUnit] at hneg
      linarith
  | ordered _ hu hordered =>
      rw [hordered.body.hp] at hneg ⊢
      exact h j _ hu hneg
  | acted _ hout hconduct _ =>
      rw [hconduct.body.hp, hout.stance.body.hp] at hneg ⊢
      exact h j _ hout.found hneg
  | struck _ _ _ _ _ heq =>
      rw [heq, Exact.lt_iff, hitUnit_hp, Exact.zero_eq] at hneg
      exact absurd (le_max_left _ _) (not_le.mpr hneg)

theorem NoneBelow.turns {q : DungeonRoom F} (hq : Keyed q) (h : NoneBelow calls q)
    {ts : List (Turn F)}
    (hts : forall t, t ∈ ts -> forall c plain, t = Turn.call c plain -> c ∈ calls) :
    NoneBelow calls (ts.foldl DungeonRoom.turn q) :=
  hq.invariant (NoneBelow calls) (fun _ _ hp hnone ht => hnone.turn hp ht) h hts

/--
In every run whose steps all have the same positive length, whatever is commanded:
hit points are lost by strikes of living enemies within range only, one at a time
and not more than the damage of an attack; no unit is healed; two hits of the same
unit are at least as many steps apart as the cooldown takes; and no unit gets below
zero.
-/
theorem combat_lawful (roomId : Nat) (roomName : String) (maxPlayers : Nat)
    (calls : List (RoomCall F)) (dt : F) (hdt : lit 0 < dt)
    (hsteps : forall ω dt', RoomCall.step ω dt' ∈ calls -> dt' = dt) :
    Throughout turn (CombatLaw dt) (create roomId roomName maxPlayers)
      (scriptOf (create roomId roomName maxPlayers) calls) ∧
    (forall front t mid t' back i,
      scriptOf (create roomId roomName maxPlayers) calls =
        front ++ t :: (mid ++ t' :: back) ->
      Hits (front.foldl turn (create roomId roomName maxPlayers)) t i ->
      Hits ((front ++ t :: mid).foldl turn (create roomId roomName maxPlayers)) t' i ->
      ⌈toReal (kAttackCooldown : F) / toReal dt⌉₊ ≤ stepsBegun mid) ∧
    forall front back,
      scriptOf (create roomId roomName maxPlayers) calls = front ++ back ->
      forall j u, (front.foldl turn (create roomId roomName maxPlayers)).units.lookup j =
        some u -> u.hp < lit 0 -> exists ownerUid team unitType pos speed yaw,
          RoomCall.spawnUnit ownerUid team unitType pos u.hp speed yaw ∈ calls := by
  have hstart := create_upright (F := F) roomId roomName maxPlayers
  have hdt0 : lit 0 ≤ dt := Exact.le_of_lt hdt
  refine ⟨?_, ?_, ?_⟩
  · intro front t back heq
    have htimed : forall x, x ∈ front ++ t :: back -> Timed dt x := by
      intro x hx
      rw [← heq] at hx
      exact timed_scriptOf hsteps hx
    have hfront := hstart.turns fun x hx =>
      (htimed x (List.mem_append_left _ hx)).forward hdt0
    exact hfront.combatLaw (htimed t (by simp))
  · intro front t mid t' back i heq hfirst hsecond
    exact Nat.ceil_le.mpr (hits_apart hstart hdt hsteps heq hfirst hsecond)
  · intro front back heq j u hu
    have hnone : NoneBelow calls (create roomId roomName maxPlayers : DungeonRoom F) := by
      intro i w hw
      cases hw
    refine hnone.turns hstart.keyed ?_ j u hu
    rintro t ht c plain rfl
    apply call_mem_scriptOf
    rw [heq]
    exact List.mem_append_left back ht

end Runs

/-- A villager attacks another for two steps of half a second. -/
def skirmish : List (RoomCall Rat) :=
  [RoomCall.spawnUnit 1 0 kUnitVillager ⟨0, 0, 0⟩ 100 6 0,
    RoomCall.spawnUnit 2 1 kUnitVillager ⟨1, 0, 0⟩ 100 6 0,
    RoomCall.enqueueCommand
      ⟨CommandType.attack, 1, 0, [1], ⟨0, 0, 0⟩, [], 2, 0, 0⟩,
    RoomCall.applyPending,
    RoomCall.step IterOrder.stored (1 / 2),
    RoomCall.step IterOrder.stored (1 / 2)]

/-- It hits once, since its cooldown takes two steps. -/
theorem attack_combat_lawful :
    ((skirmish.foldl call (create 1 "skirmish" 2)).units.lookup 2).map GameUnit.hp =
      some 80 ∧
    Throughout turn (CombatLaw (1 / 2)) (create 1 "skirmish" 2)
      (scriptOf (create 1 "skirmish" 2) skirmish) := by
  have hdt : (lit 0 : Rat) < 1 / 2 := by decide +kernel
  have hsteps : forall ω dt', RoomCall.step ω dt' ∈ skirmish -> dt' = 1 / 2 := by
    intro ω dt' h
    simp only [skirmish, List.mem_cons, List.not_mem_nil, reduceCtorEq, false_or, or_false,
      RoomCall.step.injEq] at h
    rcases h with h | h
    · exact h.right
    · exact h.right
  refine ⟨by decide +kernel, ?_⟩
  exact (combat_lawful 1 "skirmish" 2 skirmish (1 / 2) hdt hsteps).left

end DungeonRoom

end RtsGame
