import RtsGame.Exact
import RtsGame.Room.Destruction

/-!
# Buildings and building sites

Hit points, progress, the mark of a building site and the training queue are
written in different places: by workers, by attackers, by orders and by the
training itself.  The bounds that tie them together hold at every moment of a
run, whoever comes first, as long as time does not run backwards.
-/

namespace RtsGame

open Scalar
open Exact (toReal)

namespace DungeonRoom

variable {F : Type} [Scalar F]

/-- What holds of a building at every moment. -/
structure Consistent (b : Building F) : Prop where
  hp : lit 0 ≤ b.hp
  full : b.hp ≤ b.maxHp
  begun : lit 0 ≤ b.constructedPercent
  done : b.constructedPercent ≤ lit 100
  site : b.underConstruction = true <-> b.constructedPercent < lit 100
  queue : b.underConstruction = true -> b.trainQueue = []

/-- What has become of a building is no step back, and no repair. -/
structure Progress (b c : Building F) : Prop where
  percent : b.constructedPercent ≤ c.constructedPercent
  finished : b.underConstruction = false -> c.underConstruction = false ∧ c.hp ≤ b.hp

/-- A unit that has a turn has it in a step that does not go back in time. -/
def Forward (t : Turn F) : Prop :=
  forall ω dt doAggro i, t = Turn.unit ω dt doAggro i -> lit 0 ≤ dt

variable [Exact F]

/-!
## One building
-/

theorem buildingMaxHp_ge (buildingType : Nat) :
    200 ≤ toReal (buildingMaxHp buildingType : F) := by
  unfold buildingMaxHp
  repeat' split
  all_goals
    rw [Exact.lit_eq]
    norm_num

section Buildings

variable {b c d : Building F} {dt : F}

theorem Progress.refl (b : Building F) : Progress b b := by
  constructor
  · rw [Exact.le_iff]
  · intro hdone
    refine ⟨hdone, ?_⟩
    rw [Exact.le_iff]

theorem Progress.trans (hbc : Progress b c) (hcd : Progress c d) : Progress b d := by
  constructor
  · rw [Exact.le_iff]
    exact ((Exact.le_iff _ _).mp hbc.percent).trans ((Exact.le_iff _ _).mp hcd.percent)
  · intro hdone
    rcases hbc.finished hdone with ⟨hmid, hfirst⟩
    rcases hcd.finished hmid with ⟨hend, hsecond⟩
    refine ⟨hend, ?_⟩
    rw [Exact.le_iff]
    exact ((Exact.le_iff _ _).mp hsecond).trans ((Exact.le_iff _ _).mp hfirst)

/-- The training queue does not count. -/
theorem Progress.requeue (b : Building F) (queue : List (TrainItem F)) :
    Progress b { b with trainQueue := queue } :=
  ⟨(Progress.refl b).percent, (Progress.refl b).finished⟩

/-- A blow takes at most as many hit points as there are. -/
theorem hitBuilding_hp (b : Building F) :
    toReal (hitBuilding b).hp = Max.max 0 (toReal b.hp - 20) := by
  simp [hitBuilding, kAttackDamage]

theorem Progress.hit (hpos : ¬ b.hp ≤ lit 0) : Progress b (hitBuilding b) := by
  rw [Exact.not_le_zero_iff] at hpos
  refine ⟨(Progress.refl b).percent, ?_⟩
  intro hdone
  refine ⟨hdone, ?_⟩
  rw [Exact.le_iff, hitBuilding_hp]
  exact max_le hpos.le (by linarith)

theorem Progress.build (hb : Consistent b) (hdt : lit 0 ≤ dt)
    (hsite : b.underConstruction = true) : Progress b (buildProgress b dt) := by
  constructor
  · have hdone := hb.done
    unfold buildProgress
    dsimp only
    split
    · exact hdone
    · rw [Exact.nonneg_iff] at hdt
      rw [Exact.le_iff, Exact.add_eq, Exact.mul_eq, kConstructPercentPerSec, Exact.lit_eq,
        Rat.cast_ofNat]
      linarith
  · intro hfinished
    rw [hsite] at hfinished
    cases hfinished

theorem Consistent.new (id ownerUid team buildingType : Nat) (pos : Vec3f F) (yaw : F)
    (site : Bool) :
    Consistent (newBuilding id ownerUid team buildingType pos yaw site) := by
  have hmax := buildingMaxHp_ge (F := F) buildingType
  cases site with
  | true =>
      constructor
      all_goals simp [newBuilding, Exact.le_iff, Exact.lt_iff]
      refine ⟨by linarith, ?_⟩
      linarith
  | false =>
      constructor
      all_goals simp [newBuilding, Exact.le_iff, Exact.lt_iff]
      linarith

omit [Exact F] in
theorem Consistent.requeue (hb : Consistent b) (hdone : b.underConstruction = false)
    (queue : List (TrainItem F)) : Consistent { b with trainQueue := queue } := by
  refine ⟨hb.hp, hb.full, hb.begun, hb.done, hb.site, ?_⟩
  intro hsite
  rw [hdone] at hsite
  cases hsite

theorem Consistent.hit (hb : Consistent b) : Consistent (hitBuilding b) := by
  have hhp := hb.hp
  have hfull := hb.full
  rw [Exact.nonneg_iff] at hhp
  rw [Exact.le_iff] at hfull
  refine ⟨?_, ?_, hb.begun, hb.done, hb.site, hb.queue⟩
  · rw [Exact.nonneg_iff, hitBuilding_hp]
    exact le_max_left 0 _
  · rw [Exact.le_iff, hitBuilding_hp]
    change Max.max 0 (toReal b.hp - 20) ≤ toReal b.maxHp
    exact max_le (by linarith) (by linarith)

theorem Consistent.build (hb : Consistent b) (hmax : 200 ≤ toReal b.maxHp)
    (hdt : lit 0 ≤ dt) (hsite : b.underConstruction = true) :
    Consistent (buildProgress b dt) := by
  have hhp := hb.hp
  have hfull := hb.full
  have hbegun := hb.begun
  have hqueue := hb.queue hsite
  rw [Exact.nonneg_iff] at hhp hbegun hdt
  rw [Exact.le_iff] at hfull
  unfold buildProgress
  dsimp only
  split
  · constructor
    · rw [Exact.nonneg_iff]
      linarith
    · rw [Exact.le_iff]
    · simp [Exact.le_iff]
    · rw [Exact.le_iff]
    · simp [Exact.lt_iff]
    · nofun
  · rename_i hpart
    change ¬ lit 100 ≤ _ at hpart
    rw [Exact.not_le_iff] at hpart
    have hpercent : toReal (b.constructedPercent + kConstructPercentPerSec * dt) =
        toReal b.constructedPercent + 25 * toReal dt := by
      simp [kConstructPercentPerSec]
    have hless := hpart
    rw [hpercent, Exact.lit_eq, Rat.cast_ofNat] at hless
    have hshare : toReal b.maxHp * (toReal b.constructedPercent + 25 * toReal dt) / 100 ≤
        toReal b.maxHp := by
      have hscaled : toReal b.maxHp * (toReal b.constructedPercent + 25 * toReal dt) ≤
          toReal b.maxHp * 100 := mul_le_mul_of_nonneg_left hless.le (by linarith)
      linarith
    constructor
    · rw [Exact.nonneg_iff, Exact.max_eq]
      exact hhp.trans (le_max_left _ _)
    · rw [Exact.le_iff, Exact.max_eq, Exact.div_eq, Exact.mul_eq, hpercent, Exact.lit_eq,
        Rat.cast_ofNat]
      exact max_le hfull hshare
    · rw [Exact.nonneg_iff, hpercent]
      linarith
    · rw [Exact.le_iff]
      exact hpart.le
    · rw [Exact.lt_iff]
      exact ⟨fun _ => hpart, fun _ => hsite⟩
    · exact fun _ => hqueue

end Buildings

/-!
## One turn
-/

/-- Every building is consistent, and its full hit points are those of its type. -/
structure Upright (q : DungeonRoom F) : Prop extends WellBuilt q where
  consistent : forall j b, q.buildings.lookup j = some b -> Consistent b

section Turns

variable {q : DungeonRoom F} {j : Nat}

theorem WellBuilt.maxHp_ge (hq : WellBuilt q) {b : Building F}
    (hb : q.buildings.lookup j = some b) : 200 ≤ toReal b.maxHp := by
  rw [hq.maxHp j b hb]
  exact buildingMaxHp_ge b.buildingType

theorem Upright.turn (hq : Upright q) {t : Turn F} (ht : Forward t) :
    Upright (q.turn t) := by
  refine ⟨hq.toWellBuilt.turn t, ?_⟩
  intro j v hv
  cases building_fate hq.keyed hv with
  | kept hb => exact hq.consistent j v hb
  | placed _ _ _ heq =>
      rw [heq]
      exact Consistent.new _ _ _ _ _ _ _
  | founded _ _ _ _ _ heq =>
      rw [heq]
      exact Consistent.new _ _ _ _ _ _ _
  | ordered _ _ hmay _ heq =>
      rw [heq]
      exact (hq.consistent _ _ hmay.producer).requeue hmay.finished _
  | training _ hb _ hdone _ heq =>
      rw [heq]
      exact (hq.consistent j _ hb).requeue hdone _
  | released _ hb _ hdone _ heq =>
      rw [heq]
      exact (hq.consistent j _ hb).requeue hdone _
  | struck _ hb _ _ heq =>
      rw [heq]
      exact (hq.consistent j _ hb).hit
  | built hturn _ _ _ _ _ hb hsite heq =>
      rw [heq]
      exact (hq.consistent j _ hb).build (hq.maxHp_ge hb) (ht _ _ _ _ hturn) hsite

/-- What stands there now, if anything, is what has become of the building. -/
def Became (j : Nat) (b : Building F) (q : DungeonRoom F) : Prop :=
  j < q.nextEntityId ∧ forall c, q.buildings.lookup j = some c -> Progress b c

theorem Became.turn (hq : Upright q) {b : Building F} (h : Became j b q) {t : Turn F}
    (ht : Forward t) : Became j b (q.turn t) := by
  refine ⟨Nat.lt_of_lt_of_le h.left (turn_keyed hq.keyed t).right, ?_⟩
  have hbound := h.left
  intro v hv
  cases site_fate hq.keyed hv with
  | @kept c queue hc heq =>
      rw [heq]
      exact (h.right c hc).trans (Progress.requeue c queue)
  | new _ hnew _ => lia
  | struck _ hc hpos _ heq =>
      rw [heq]
      exact (h.right _ hc).trans (Progress.hit hpos)
  | built hturn _ _ _ _ _ hc hsite heq =>
      rw [heq]
      exact (h.right _ hc).trans
        (Progress.build (hq.consistent j _ hc) (ht _ _ _ _ hturn) hsite)

/-- Every building has hit points. -/
def Undestroyed (q : DungeonRoom F) : Prop :=
  forall j b, q.buildings.lookup j = some b -> lit 0 < b.hp

/-- Only a unit can take a building's hit points. -/
theorem Undestroyed.turn (hq : Keyed q) (hstanding : Undestroyed q) {t : Turn F}
    (ht : forall ω dt doAggro i, t ≠ Turn.unit ω dt doAggro i) : Undestroyed (q.turn t) := by
  intro j v hv
  cases site_fate hq hv with
  | @kept b _ hb heq =>
      rw [heq]
      exact hstanding j b hb
  | @new _ _ buildingType _ _ site _ _ heq =>
      have hmax := buildingMaxHp_ge (F := F) buildingType
      rw [heq, Exact.pos_iff]
      cases site with
      | true =>
          change 0 < toReal (max (lit 1) (buildingMaxHp buildingType * lit 0.05) : F)
          rw [Exact.max_eq, Exact.lit_eq, Rat.cast_one]
          exact lt_of_lt_of_le one_pos (le_max_left _ _)
      | false =>
          change 0 < toReal (buildingMaxHp buildingType : F)
          linarith
  | struck hturn _ _ _ _ => exact absurd hturn (ht _ _ _ _)
  | built hturn _ _ _ _ _ _ _ _ => exact absurd hturn (ht _ _ _ _)

end Turns

/-!
## Runs
-/

omit [Exact F] in
theorem create_upright (roomId : Nat) (roomName : String) (maxPlayers : Nat) :
    Upright (create roomId roomName maxPlayers : DungeonRoom F) := by
  refine ⟨create_wellBuilt roomId roomName maxPlayers, ?_⟩
  intro j b hb
  cases hb

theorem Upright.turns {q : DungeonRoom F} (hq : Upright q) {ts : List (Turn F)}
    (hts : forall t, t ∈ ts -> Forward t) : Upright (ts.foldl DungeonRoom.turn q) := by
  refine List.foldlRecOn ts DungeonRoom.turn hq ?_
  intro p hp t ht
  exact hp.turn (hts t ht)

theorem Became.turns {q : DungeonRoom F} (hq : Upright q) {j : Nat} {b : Building F}
    (h : Became j b q) {ts : List (Turn F)} (hts : forall t, t ∈ ts -> Forward t) :
    Became j b (ts.foldl DungeonRoom.turn q) := by
  have hforward : Throughout DungeonRoom.turn (fun _ t => Forward t) q ts :=
    throughout_of_mem hts
  have hboth := hforward.invariant (fun p => Upright p ∧ Became j b p)
    (fun p t hp ht => ⟨hp.left.turn ht, hp.right.turn hp.left ht⟩) ⟨hq, h⟩
  exact hboth.right

omit [Exact F] in
/-- The turns of calls of which no step goes back in time. -/
theorem forward_scriptOf {r : DungeonRoom F} {calls : List (RoomCall F)}
    (hdt : forall ω dt, RoomCall.step ω dt ∈ calls -> lit 0 ≤ dt) {t : Turn F}
    (ht : t ∈ r.scriptOf calls) : Forward t := by
  rintro ω dt doAggro i rfl
  exact hdt ω dt (unit_mem_scriptOf ht)

/-- Between two calls every building has hit points. -/
theorem Undestroyed.call {q : DungeonRoom F} (hq : Keyed q) (hstanding : Undestroyed q)
    (c : RoomCall F) : Undestroyed (q.call c) := by
  by_cases hstep : exists ω dt, c = RoomCall.step ω dt
  · rcases hstep with ⟨ω, dt, rfl⟩
    intro j v hv
    have hsurvived := (step_survivors ω dt q j).right v hv
    rw [Exact.not_le_zero_iff] at hsurvived
    rw [Exact.pos_iff]
    exact hsurvived
  · rw [← turns_foldl]
    refine hq.invariant Undestroyed (fun _ _ hp hbefore ht => Undestroyed.turn hp hbefore ht)
      hstanding ?_
    rintro t ht ω dt doAggro i rfl
    exact hstep ⟨ω, dt, unit_mem_turns ht⟩

theorem Undestroyed.calls {r : DungeonRoom F} (hr : Keyed r) (hstanding : Undestroyed r)
    (calls : List (RoomCall F)) : Undestroyed (calls.foldl DungeonRoom.call r) := by
  induction calls generalizing r with
  | nil =>
      exact hstanding
  | cons c rest ih =>
      have hkeyed := (hr.turns (r.turns c)).left
      rw [turns_foldl] at hkeyed
      exact ih hkeyed (hstanding.call hr c)

/--
In every reachable room, if no step goes back in time: every building has hit
points, no more than its type allows; it is a site as long as its progress is
below a hundred, and then its queue is empty.  Between any two moments its
progress does not decrease, and a finished building stays finished and gets no
hit points back.
-/
theorem buildings_in_order (roomId : Nat) (roomName : String) (maxPlayers : Nat)
    (calls : List (RoomCall F))
    (hdt : forall ω dt, RoomCall.step ω dt ∈ calls -> lit 0 ≤ dt) :
    (forall j b, (calls.foldl call (create roomId roomName maxPlayers)).buildings.lookup j =
      some b -> lit 0 < b.hp ∧ Consistent b) ∧
    forall front mid back,
      scriptOf (create roomId roomName maxPlayers) calls = front ++ mid ++ back ->
      forall j b c,
        (front.foldl turn (create roomId roomName maxPlayers)).buildings.lookup j = some b ->
        ((front ++ mid).foldl turn (create roomId roomName maxPlayers)).buildings.lookup j =
          some c -> Progress b c := by
  have hstart := create_upright (F := F) roomId roomName maxPlayers
  constructor
  · intro j b hb
    have hstanding : Undestroyed (create roomId roomName maxPlayers : DungeonRoom F) := by
      intro i c hc
      cases hc
    refine ⟨hstanding.calls hstart.keyed calls j b hb, ?_⟩
    rw [← scriptOf_foldl] at hb
    have hforward : forall t, t ∈ scriptOf (create roomId roomName maxPlayers) calls ->
        Forward t := fun t ht => forward_scriptOf hdt ht
    exact (hstart.turns hforward).consistent j b hb
  · intro front mid back heq j b c hb hc
    have hforward : forall t, t ∈ front ++ mid -> Forward t := by
      intro t ht
      apply forward_scriptOf hdt
      rw [heq]
      exact List.mem_append_left back ht
    have hfront := hstart.turns fun t ht => hforward t (List.mem_append_left mid ht)
    have hbecame : Became j b (front.foldl turn (create roomId roomName maxPlayers)) := by
      refine ⟨(hfront.keyed.buildings j b hb).right, ?_⟩
      intro d hd
      injection hb.symm.trans hd with hsame
      rw [← hsame]
      exact Progress.refl b
    rw [List.foldl_append] at hc
    exact (hbecame.turns hfront fun t ht =>
      hforward t (List.mem_append_right front ht)).right c hc

/-- A villager works on a camp for a while. -/
def groundwork : List (RoomCall Rat) :=
  [RoomCall.spawnBuilding 1 0 kBuildingResourceCamp ⟨0, 0, 0⟩ 0 true,
    RoomCall.spawnUnit 1 0 kUnitVillager ⟨0, 0, 0⟩ 100 6 0,
    RoomCall.enqueueCommand
      ⟨CommandType.construct, 1, 0, [2], ⟨0, 0, 0⟩, [], 1, 0, 0⟩,
    RoomCall.applyPending,
    RoomCall.step IterOrder.stored 1]

/-- The camp is a quarter built then, and in order. -/
theorem quarterBuilt_in_order :
    exists b, (groundwork.foldl call (create 1 "camp" 2)).buildings.lookup 1 = some b ∧
      b.constructedPercent = 25 ∧ lit 0 < b.hp ∧ Consistent b := by
  have hdt : forall ω dt, RoomCall.step ω dt ∈ groundwork -> (lit 0 : Rat) ≤ dt := by
    intro ω dt h
    simp only [groundwork, List.mem_cons, List.not_mem_nil, reduceCtorEq, false_or, or_false,
      RoomCall.step.injEq] at h
    rw [h.right]
    decide
  have hquarter : ((groundwork.foldl call (create 1 "camp" 2)).buildings.lookup 1).map
      Building.constructedPercent = some 25 := by decide +kernel
  rcases Option.map_eq_some_iff.mp hquarter with ⟨b, hb, hpercent⟩
  exact ⟨b, hb, hpercent, (buildings_in_order 1 "camp" 2 groundwork hdt).left 1 b hb⟩

end DungeonRoom

end RtsGame
