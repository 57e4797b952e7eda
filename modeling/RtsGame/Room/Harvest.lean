import RtsGame.Library.Tally
import RtsGame.Room.Combat
import RtsGame.Room.Deeds

/-!
# How fast fields are harvested

A worker takes one unit from a field for every second that it has stood beside it.  Its
work clock is the potential: what the clock shows has been earned and not yet spent.  No
command adds to the clock, so that nothing is gained by giving orders.
-/

namespace RtsGame

open Scalar
open Exact (toReal)

namespace DungeonRoom

variable {F : Type}

/-- What is left in all fields. -/
def fieldsLeft (q : DungeonRoom F) : Nat :=
  q.fields.total fun f => f.amountLeft.toNat

/-!
## Fields
-/

theorem settleField_left {q : DungeonRoom F} {fieldId : Nat} {field : ResourceFieldEntity F}
    {left : UInt32} (hfield : q.fields.lookup fieldId = some field)
    (hless : left.toNat ≤ field.amountLeft.toNat) :
    q.fieldsLeft = (q.settleField fieldId field left).fieldsLeft +
      (field.amountLeft.toNat - left.toNat) := by
  unfold settleField
  split
  · rename_i hzero
    subst hzero
    have htotal := Table.total_erase
      (f := fun f : ResourceFieldEntity F => f.amountLeft.toNat) hfield
    change Table.total _ q.fields = Table.total _ (q.fields.erase fieldId) +
      (field.amountLeft.toNat - 0)
    lia
  · have htotal := Table.total_insert_old
      (f := fun f : ResourceFieldEntity F => f.amountLeft.toNat)
      { field with amountLeft := left } hfield
    change Table.total _ q.fields = Table.total _ (q.fields.insert fieldId _) +
      (field.amountLeft.toNat - left.toNat)
    dsimp only at htotal
    lia

theorem fieldsLeft_congr {q p : DungeonRoom F} (h : p.fields = q.fields) :
    p.fieldsLeft = q.fieldsLeft := by
  unfold fieldsLeft
  rw [h]

variable [Scalar F]

/-- What a unit takes from the fields in its turn. -/
def takenBy (i : Nat) (q : DungeonRoom F) (t : Turn F) : Nat :=
  if Turn.isUnit i t then q.fieldsLeft - (q.turn t).fieldsLeft else 0

/-- What a unit takes from the fields in all its turns. -/
def takings (i : Nat) (q : DungeonRoom F) (ts : List (Turn F)) : ℝ :=
  tally turn (fun q t => (takenBy i q t : ℝ)) q ts

/-!
## The work clock
-/

section Clock

variable [Exact F]

/-- What the work clock of a gathering unit shows. -/
noncomputable def credit (u : GameUnit F) : ℝ :=
  if u.task = WorkerTask.gathering then toReal u.workCd else 0

/-- The clock of a gathering unit has not reached the next unit of the resource. -/
structure Rested (u : GameUnit F) : Prop where
  gathering : u.task = WorkerTask.gathering ->
    0 ≤ toReal u.workCd ∧ toReal u.workCd < toReal (kHarvestInterval : F)
  returning : u.task = WorkerTask.returning -> u.workCd = lit 0

theorem Rested.credit_nonneg {u : GameUnit F} (h : Rested u) : 0 ≤ credit u := by
  unfold credit
  split
  · rename_i htask
    exact (h.gathering htask).left
  · exact le_refl 0

theorem interval_eq : toReal (kHarvestInterval : F) = 1 := by
  rw [kHarvestInterval, Exact.lit_eq, Rat.cast_one]

theorem Rested.credit_lt {u : GameUnit F} (h : Rested u) :
    credit u < toReal (kHarvestInterval : F) := by
  unfold credit
  split
  · rename_i htask
    exact (h.gathering htask).right
  · rw [interval_eq]
    exact one_pos

/-- A unit whose clock stands at zero is rested, whatever it does. -/
theorem rested_of_zero {u : GameUnit F} (h : u.workCd = lit 0) :
    Rested u ∧ credit u = 0 := by
  have hzero : toReal u.workCd = 0 := by rw [h, Exact.zero_eq]
  refine ⟨⟨fun _ => ⟨hzero.ge, ?_⟩, fun _ => h⟩, ?_⟩
  · rw [hzero, interval_eq]
    exact one_pos
  · unfold credit
    rw [hzero, ite_self]

theorem Rested.congr {u v : GameUnit F} (h : Rested u) (htask : v.task = u.task)
    (hclock : v.workCd = u.workCd) : Rested v ∧ credit v = credit u := by
  refine ⟨⟨?_, ?_⟩, ?_⟩
  · rw [htask, hclock]
    exact h.gathering
  · rw [htask, hclock]
    exact h.returning
  · unfold credit
    rw [htask, hclock]

/-- The harvesting loop spends an interval of the clock on everything that it takes. -/
theorem harvestLoop_pays (fuel : Nat) (u : GameUnit F) (left : UInt32) (wrapped : Bool)
    (hclock : 0 ≤ toReal u.workCd) (hfuel : 10 ≤ fuel + u.carriedAmount.toNat) :
    exists n : Nat,
      left.toNat = (harvestLoop fuel u left wrapped).2.1.toNat + n ∧
      (harvestLoop fuel u left wrapped).1.carriedAmount.toNat = u.carriedAmount.toNat + n ∧
      toReal (harvestLoop fuel u left wrapped).1.workCd + n = toReal u.workCd ∧
      0 ≤ toReal (harvestLoop fuel u left wrapped).1.workCd ∧
      (toReal (harvestLoop fuel u left wrapped).1.workCd < toReal (kHarvestInterval : F) ∨
        10 ≤ (harvestLoop fuel u left wrapped).1.carriedAmount.toNat ∨
        (harvestLoop fuel u left wrapped).2.1 = 0) := by
  induction fuel generalizing u left wrapped with
  | zero =>
      refine ⟨0, rfl, rfl, ?_, hclock, Or.inr (Or.inl ?_)⟩
      · rw [Nat.cast_zero, add_zero]
        rfl
      · change 10 ≤ u.carriedAmount.toNat
        lia
  | succ fuel ih =>
      unfold harvestLoop
      split
      · rename_i hguard
        rcases hguard with ⟨hdue, hcarried, hleft⟩
        dsimp only
        rw [harvestTake_eq_one hcarried hleft]
        have hc : u.carriedAmount.toNat < 10 := hcarried
        have hl : 1 ≤ left.toNat := hleft
        have hadd : (u.carriedAmount + 1).toNat = u.carriedAmount.toNat + 1 :=
          toNat_add_of_lt (b := 1) (by
            change u.carriedAmount.toNat + 1 < 2 ^ 32
            lia)
        have hsub : (left - 1).toNat = left.toNat - 1 :=
          toNat_sub_of_toNat_le (b := 1) hl
        have hrest : toReal (u.workCd - kHarvestInterval) + 1 = toReal u.workCd := by
          rw [Exact.sub_eq, interval_eq]
          ring
        have hstill : 0 ≤ toReal (u.workCd - kHarvestInterval) := by
          rw [Exact.sub_eq, sub_nonneg, ← Exact.le_iff]
          exact hdue
        rcases ih
            { u with
              carriedAmount := u.carriedAmount + 1
              workCd := u.workCd - kHarvestInterval } (left - 1) _ hstill (by
              change 10 ≤ fuel + (u.carriedAmount + 1).toNat
              lia) with
          ⟨n, hfield, hload, hpaid, hnonneg, hend⟩
        refine ⟨n + 1, ?_, ?_, ?_, hnonneg, hend⟩
        · lia
        · rw [hload]
          change (u.carriedAmount + 1).toNat + n = _
          lia
        · rw [Nat.cast_add, Nat.cast_one, ← add_assoc, hpaid]
          exact hrest
      · rename_i hguard
        refine ⟨0, rfl, rfl, ?_, hclock, ?_⟩
        · rw [Nat.cast_zero, add_zero]
        · rw [not_and_or, not_and_or] at hguard
          rcases hguard with hearly | hfull | hempty
          · left
            rw [ge_iff_le, Exact.le_iff, not_le] at hearly
            exact hearly
          · right
            left
            exact Nat.le_of_not_lt hfull
          · right
            right
            exact UInt32.toNat_inj.mp (Nat.eq_zero_of_not_pos hempty)

omit [Exact F] in
theorem followPath_clock (waypoints : List (Vec3f F)) (u : GameUnit F) (remaining : F) :
    (followPath waypoints u remaining).task = u.task ∧
      (followPath waypoints u remaining).workCd = u.workCd := by
  induction waypoints generalizing u remaining with
  | nil =>
      unfold followPath
      dsimp only
      repeat' split
      all_goals exact ⟨rfl, rfl⟩
  | cons waypoint rest ih =>
      unfold followPath
      dsimp only
      split
      · split
        · split
          · exact ⟨rfl, rfl⟩
          · exact ih _ _
        · exact ⟨rfl, rfl⟩
      · exact ⟨rfl, rfl⟩

section Deeds

variable {dt : F} {q q' : DungeonRoom F} {w v : GameUnit F}

/-- What a harvest takes has been worked for. -/
theorem Harvest.pays {ready : GameUnit F} {field : ResourceFieldEntity F} {left : UInt32}
    (h : Harvest dt w ready) (hdt : 0 ≤ toReal dt) (htask : w.task = WorkerTask.gathering)
    (hw : Rested w) (hfield : q.fields.lookup w.gatherFieldId = some field)
    (hleft : field.amountLeft ≠ 0) (hloop : (harvested ready field).2.1 = left)
    (hfields : q'.fields = (q.settleField w.gatherFieldId field left).fields)
    (hend : v.task = WorkerTask.preparingReturn ∨
      (v = (harvested ready field).1 ∧ ¬ (left = 0 ∧ v.carriedAmount > 0) ∧
        ¬ v.carriedAmount ≥ kVillagerCarryCapacity)) :
    Rested v ∧ ((q.fieldsLeft - q'.fieldsLeft : Nat) : ℝ) + credit v ≤
      credit w + toReal dt := by
  have hready : toReal ready.workCd = credit w + toReal dt := by
    rw [h.workCd, Exact.add_eq, credit, if_pos htask]
  have hclock : 0 ≤ toReal ready.workCd := by
    rw [hready]
    exact add_nonneg hw.credit_nonneg hdt
  rcases harvestLoop_pays kVillagerCarryCapacity.toNat ready field.amountLeft false hclock
    (Nat.le_add_right 10 _) with ⟨n, htaken, hload, hspent, hrest, hstop⟩
  change field.amountLeft.toNat = (harvested ready field).2.1.toNat + n at htaken
  rw [hloop] at htaken
  have htotal : q.fieldsLeft - q'.fieldsLeft = n := by
    have hless : left.toNat ≤ field.amountLeft.toNat := by lia
    have hsettled := settleField_left hfield hless
    rw [fieldsLeft_congr hfields]
    lia
  rw [htotal, ← hready, ← hspent]
  rcases hend with hback | ⟨rfl, hnotEmpty, hnotFull⟩
  · refine ⟨⟨fun hv => ?_, fun hv => ?_⟩, ?_⟩
    · cases hback.symm.trans hv
    · cases hback.symm.trans hv
    · rw [credit, if_neg (fun hv => by cases hback.symm.trans hv), add_zero]
      exact le_add_of_nonneg_left hrest
  · rcases harvestLoop_keeps kVillagerCarryCapacity.toNat ready field.amountLeft false with
      ⟨_, _, hsame⟩
    have hgathers : (harvested ready field).1.task = WorkerTask.gathering := by
      unfold harvested
      rw [hsame]
      exact h.task.trans htask
    refine ⟨⟨fun _ => ⟨hrest, ?_⟩, fun hv => ?_⟩, ?_⟩
    · rcases hstop with hearly | hfull | hempty
      · exact hearly
      · exact absurd hfull hnotFull
      · -- An empty field means that something was taken.
        refine absurd ⟨hloop.symm.trans hempty, ?_⟩ hnotEmpty
        have hpos : 0 < field.amountLeft.toNat :=
          Nat.pos_of_ne_zero fun hzero => hleft (UInt32.toNat_inj.mp hzero)
        have hzero : left.toNat = 0 := by rw [hloop.symm.trans hempty]; rfl
        change 0 < (harvested ready field).1.carriedAmount.toNat
        unfold harvested
        lia
    · cases hgathers.symm.trans hv
    · rw [credit, if_pos hgathers]
      exact (add_comm _ _).le

/-- What a deed takes from the fields has been worked for. -/
theorem Doing.pays (h : Doing dt q w v q') (hdt : 0 ≤ toReal dt) (hw : Rested w) :
    Rested v ∧ ((q.fieldsLeft - q'.fieldsLeft : Nat) : ℝ) + credit v ≤
      credit w + toReal dt := by
  have hquiet : q'.fields = q.fields -> Rested v -> credit v ≤ credit w ->
      Rested v ∧ ((q.fieldsLeft - q'.fieldsLeft : Nat) : ℝ) + credit v ≤
        credit w + toReal dt := by
    intro hfields hv hless
    rw [fieldsLeft_congr hfields, Nat.sub_self, Nat.cast_zero, zero_add]
    exact ⟨hv, hless.trans (le_add_of_nonneg_right hdt)⟩
  cases h with
  | goes _ htask hclock hfields =>
      rcases hw.congr htask hclock with ⟨hv, heq⟩
      exact hquiet hfields hv heq.le
  | travels htask _ heq hfields =>
      rcases followPath_clock (w.path.drop w.pathIndex) w (w.speed * dt) with
        ⟨hkept, hclock⟩
      rw [← heq] at hkept hclock
      rcases hw.congr hkept hclock with ⟨hv, hsame⟩
      exact hquiet hfields hv hsame.le
  | harvests htask hfield hleft hready hloop hfields _ hend =>
      exact hready.pays hdt htask hw hfield hleft hloop hfields hend
  | leaves _ htask hclock hfields =>
      refine hquiet hfields ⟨fun hv => absurd hv htask, hclock⟩ ?_
      rw [credit, if_neg htask]
      exact hw.credit_nonneg
  | resumes htask _ _ hclock hfields =>
      rcases rested_of_zero (hclock.trans (hw.returning htask)) with ⟨hv, hzero⟩
      refine hquiet hfields hv ?_
      rw [hzero]
      exact hw.credit_nonneg

end Deeds

end Clock

/-!
## Commands
-/

section Commands

variable {P : GameUnit F -> Prop} {s : DungeonRoom F} {j : Nat} {v : GameUnit F}

omit [Scalar F] in
/-- A unit after the group loop is as before, or as the order leaves a unit. -/
theorem orderSelected_marks {order : Nat -> GameUnit F -> GameUnit F}
    (horder : forall index u, P (order index u)) (ids : List Nat) (index : Nat)
    (h : (orderSelected order index ids s).units.lookup j = some v) :
    s.units.lookup j = some v ∨ P v := by
  induction ids generalizing index s with
  | nil =>
      exact Or.inl h
  | cons id rest ih =>
      unfold orderSelected at h
      split at h
      · exact ih _ h
      · rename_i w _
        rcases ih _ h with hput | hmarked
        · change (s.units.insert id (order index w)).lookup j = some v at hput
          rw [Table.lookup_insert_ite] at hput
          split at hput
          · injection hput with heq
            rw [← heq]
            exact Or.inr (horder index w)
          · exact Or.inl hput
        · exact Or.inr hmarked

omit [Scalar F] in
theorem orderEachOwned_marks {ownerUid : Nat}
    {order : DungeonRoom F -> Nat -> GameUnit F -> DungeonRoom F}
    (horder : forall r id u, (order r id u).units = r.units ∨
      exists x, (order r id u).units = r.units.insert id x ∧ P x) (ids : List Nat)
    (h : (orderEachOwned ownerUid order ids s).units.lookup j = some v) :
    s.units.lookup j = some v ∨ P v := by
  induction ids generalizing s with
  | nil =>
      exact Or.inl h
  | cons id rest ih =>
      unfold orderEachOwned at h
      split at h
      · exact ih h
      · rename_i w _
        split at h
        · exact ih h
        · rcases ih h with hput | hmarked
          · rcases horder s id w with hsame | ⟨x, hx, hmark⟩
            · rw [hsame] at hput
              exact Or.inl hput
            · rw [hx, Table.lookup_insert_ite] at hput
              split at hput
              · injection hput with heq
                rw [← heq]
                exact Or.inr hmark
              · exact Or.inl hput
          · exact Or.inr hmarked

/-- Units that are sent to a site start with their clock at zero. -/
theorem assignConstructors_clock {r : DungeonRoom F} {ownerUid site : Nat}
    {ids : List Nat} (hr : r.units = s.units)
    (h : (r.assignConstructors ownerUid ids site).units.lookup j = some v) :
    s.units.lookup j = some v ∨ v.workCd = lit 0 := by
  rw [← hr]
  exact orderEachOwned_marks (P := fun x => x.workCd = lit 0)
    (fun _ _ u => Or.inr ⟨constructOrder site u, rfl, rfl⟩) ids h

/-- A command sets the work clock of a unit to zero, or does not touch the unit. -/
theorem applyCommand_clock (q : DungeonRoom F) (cmd : PendingCommand F)
    (h : (q.applyCommand cmd).units.lookup j = some v) :
    q.units.lookup j = some v ∨ v.workCd = lit 0 := by
  cases htype : cmd.type with
  | move =>
      rw [applyCommand, htype] at h
      exact orderSelected_marks (P := fun x => x.workCd = lit 0) (fun _ _ => rfl) _ _ h
  | stop =>
      rw [applyCommand, htype] at h
      refine orderEachOwned_marks (P := fun x => x.workCd = lit 0) ?_ _ h
      intro r id u
      dsimp only
      unfold dropCarried
      split
      · exact Or.inr ⟨_, rfl, rfl⟩
      · exact Or.inr ⟨_, rfl, rfl⟩
  | attack =>
      rw [applyCommand, htype] at h
      refine orderEachOwned_marks (P := fun x => x.workCd = lit 0) ?_ _ h
      intro r id u
      split
      · exact Or.inl rfl
      · exact Or.inr ⟨_, rfl, rfl⟩
  | harvest =>
      rw [applyCommand, htype] at h
      dsimp only at h
      unfold applyHarvest at h
      split at h
      · exact Or.inl h
      · exact orderSelected_marks (P := fun x => x.workCd = lit 0) (fun _ _ => rfl) _ _ h
  | store =>
      rw [applyCommand, htype] at h
      exact orderSelected_marks (P := fun x => x.workCd = lit 0) (fun _ _ => rfl) _ _ h
  | pickup =>
      rw [applyCommand, htype] at h
      dsimp only at h
      unfold applyPickup at h
      split at h
      · exact Or.inl h
      · exact orderSelected_marks (P := fun x => x.workCd = lit 0) (fun _ _ => rfl) _ _ h
  | build =>
      rw [applyCommand_build q htype] at h
      rcases applyBuild_cases q cmd with ⟨res, _, heq⟩ | ⟨code, _, heq⟩
      · rw [heq] at h
        refine assignConstructors_clock ?_ h
        rfl
      · rw [heq] at h
        exact Or.inl h
  | construct =>
      rw [applyCommand, htype] at h
      dsimp only at h
      unfold applyConstruct at h
      split at h
      · exact Or.inl h
      · split at h
        · exact Or.inl h
        · exact assignConstructors_clock rfl h
  | train =>
      rw [applyCommand_train q htype] at h
      rcases applyTrain_cases q cmd with ⟨b, res, _, heq⟩ | ⟨code, _, heq⟩
      · rw [heq] at h
        exact Or.inl h
      · rw [heq] at h
        exact Or.inl h

end Commands

/-!
## Turns
-/

variable [Exact F]

/-- What the clock of a unit shows, which may have left the room. -/
noncomputable def clocked (i : Nat) (q : DungeonRoom F) : ℝ :=
  match q.units.lookup i with
  | none => 0
  | some u => credit u

/-- The unit has nothing on its clock that it could take at once. -/
structure AtRest (i : Nat) (q : DungeonRoom F) : Prop where
  keyed : Keyed q
  rested : forall u, q.units.lookup i = some u -> Rested u

section Turns

variable {dt : F} {i : Nat} {q : DungeonRoom F} {t : Turn F}

theorem clocked_eq {u : GameUnit F} (hu : q.units.lookup i = some u) :
    clocked i q = credit u := by
  unfold clocked
  rw [hu]

theorem AtRest.clocked_nonneg (h : AtRest i q) : 0 ≤ clocked i q := by
  cases hu : q.units.lookup i with
  | none =>
      unfold clocked
      rw [hu]
  | some u =>
      rw [clocked_eq hu]
      exact (h.rested u hu).credit_nonneg

theorem AtRest.clocked_lt (h : AtRest i q) : clocked i q < toReal (kHarvestInterval : F) := by
  cases hu : q.units.lookup i with
  | none =>
      unfold clocked
      rw [hu, interval_eq]
      exact one_pos
  | some u =>
      rw [clocked_eq hu]
      exact (h.rested u hu).credit_lt

/-- The unit has not gained anything if it is as before, or its clock stands at zero. -/
theorem AtRest.of_unit (h : AtRest i q) {q' : DungeonRoom F} (hq' : Keyed q')
    (hunit : forall v, q'.units.lookup i = some v ->
      q.units.lookup i = some v ∨ v.workCd = lit 0 ∨
        exists u, q.units.lookup i = some u ∧ v.task = u.task ∧ v.workCd = u.workCd) :
    AtRest i q' ∧ clocked i q' ≤ clocked i q := by
  have hcases : forall v, q'.units.lookup i = some v ->
      Rested v ∧ credit v ≤ clocked i q := by
    intro v hv
    rcases hunit v hv with hsame | hzero | ⟨u, hu, htask, hclock⟩
    · exact ⟨h.rested v hsame, (clocked_eq hsame).ge⟩
    · rcases rested_of_zero hzero with ⟨hrested, heq⟩
      rw [heq]
      exact ⟨hrested, h.clocked_nonneg⟩
    · rcases (h.rested u hu).congr htask hclock with ⟨hrested, heq⟩
      rw [heq]
      exact ⟨hrested, (clocked_eq hu).ge⟩
  refine ⟨⟨hq', fun v hv => (hcases v hv).left⟩, ?_⟩
  cases hv : q'.units.lookup i with
  | none =>
      unfold clocked
      rw [hv]
      exact h.clocked_nonneg
  | some v =>
      rw [clocked_eq hv]
      exact (hcases v hv).right

/-- No turn but its own gives the unit anything. -/
theorem AtRest.other (h : AtRest i q) (hother : Turn.isUnit i t = false) :
    AtRest i (q.turn t) ∧ clocked i (q.turn t) ≤ clocked i q := by
  refine h.of_unit (turn_keyed h.keyed t).left ?_
  intro v hv
  cases unit_fate h.keyed hv with
  | kept hu => exact Or.inl hu
  | spawned _ _ _ heq =>
      rw [heq]
      exact Or.inr (Or.inl rfl)
  | trained _ _ _ heq =>
      rw [heq]
      exact Or.inr (Or.inl rfl)
  | ordered hturn _ _ =>
      rw [hturn] at hv
      rcases applyCommand_clock q _ hv with hsame | hzero
      · exact Or.inl hsame
      · exact Or.inr (Or.inl hzero)
  | acted hturn _ _ _ =>
      rw [hturn] at hother
      exact absurd rfl (of_decide_eq_false hother)
  | struck _ _ hu _ _ heq =>
      rw [heq]
      exact Or.inr (Or.inr ⟨_, hu, rfl, rfl⟩)

/-- A unit begins its action with no more on its clock than before. -/
theorem Outing.credit {ω : IterOrder} {doAggro : Bool} {u w : GameUnit F}
    {p : DungeonRoom F} (hout : Outing ω dt doAggro q i u p w) (hu : Rested u) :
    Rested w ∧ DungeonRoom.credit w ≤ DungeonRoom.credit u := by
  rcases hout.stance with hcooled | hengages
  · have hcool := coolDown_eq dt u
    rw [← hcooled] at hcool
    have hsame : w.task = u.task ∧ w.workCd = u.workCd := by rw [hcool]; exact ⟨rfl, rfl⟩
    rcases hu.congr hsame.left hsame.right with ⟨hw, heq⟩
    exact ⟨hw, heq.le⟩
  · have hfree : forall task, w.task = task -> task = WorkerTask.none := fun task h =>
      h.symm.trans hengages.task
    refine ⟨⟨fun h => ?_, fun h => ?_⟩, ?_⟩
    · cases hfree _ h
    · cases hfree _ h
    · rw [DungeonRoom.credit, if_neg (fun h => by cases hfree _ h)]
      exact hu.credit_nonneg

/-- In its own turn the unit takes what it has worked for. -/
theorem AtRest.own (h : AtRest i q) (hdt : 0 ≤ toReal dt) (ω : IterOrder)
    (doAggro : Bool) :
    AtRest i (stepUnit ω dt doAggro q i) ∧
      ((q.fieldsLeft - (stepUnit ω dt doAggro q i).fieldsLeft : Nat) : ℝ) +
          clocked i (stepUnit ω dt doAggro q i) ≤ clocked i q + toReal dt := by
  have hkeyed := (turn_keyed h.keyed (Turn.unit ω dt doAggro i)).left
  rcases stepUnit_cases ω dt doAggro q i with ⟨heq, _⟩ | ⟨u, p, w, hout, hact, _⟩
  · rw [heq, Nat.sub_self, Nat.cast_zero, zero_add]
    exact ⟨h, le_add_of_nonneg_right hdt⟩
  · rcases act_did ω dt hout.solo.own with ⟨v, hv, hdeed⟩
    rw [← hact] at hv hdeed
    rcases hout.credit (h.rested u hout.found) with ⟨hw, hless⟩
    rcases hdeed.pays hdt hw with ⟨hrested, hpaid⟩
    have hfields : p.fieldsLeft = q.fieldsLeft := by
      rcases hout.goods with ⟨hgoods, _⟩ | ⟨hlays, _⟩
      · exact fieldsLeft_congr hgoods.fields
      · exact fieldsLeft_congr hlays.fields
    refine ⟨⟨hkeyed, fun x hx => ?_⟩, ?_⟩
    · injection hv.symm.trans hx with hsame
      rw [← hsame]
      exact hrested
    · rw [clocked_eq hv, clocked_eq hout.found, ← hfields]
      exact hpaid.trans (add_le_add_left hless _)

theorem AtRest.turn (h : AtRest i q) (hdt : 0 ≤ toReal dt) (ht : Timed dt t) :
    AtRest i (q.turn t) ∧ (takenBy i q t : ℝ) + clocked i (q.turn t) ≤
      clocked i q + if Turn.isUnit i t then toReal dt else 0 := by
  cases hown : Turn.isUnit i t with
  | false =>
      rcases h.other hown with ⟨hrest, hless⟩
      refine ⟨hrest, ?_⟩
      unfold takenBy
      rw [hown]
      simpa using hless
  | true =>
      cases t with
      | unit ω dt' doAggro id =>
          have hid : id = i := of_decide_eq_true hown
          subst hid
          rw [ht ω dt' doAggro id rfl] at hown ⊢
          unfold takenBy
          rw [hown, if_pos rfl, if_pos rfl]
          exact h.own hdt ω doAggro
      | _ => cases hown

end Turns

/-!
## Runs
-/

section Runs

variable {dt : F} {i : Nat} {q : DungeonRoom F} {calls : List (RoomCall F)}

/-- Whatever happens, a unit takes no more than its clock and the steps allow. -/
theorem AtRest.takings (h : AtRest i q) (hdt : 0 ≤ toReal dt)
    (hsteps : forall ω dt', RoomCall.step ω dt' ∈ calls -> dt' = dt) :
    AtRest i (calls.foldl call q) ∧
      DungeonRoom.takings i q (q.scriptOf calls) + clocked i (calls.foldl call q) ≤
        clocked i q + stepsBegun (q.scriptOf calls) * toReal dt := by
  have htimed : forall t, t ∈ q.scriptOf calls -> Timed dt t := fun t ht =>
    timed_scriptOf hsteps ht
  have hpaid : DungeonRoom.takings i q (q.scriptOf calls) +
      clocked i ((q.scriptOf calls).foldl DungeonRoom.turn q) ≤
        clocked i q + (q.scriptOf calls).countP (Turn.isUnit i) • toReal dt :=
    tally_add_potential_le (AtRest i) (clocked i) (Turn.isUnit i) (toReal dt)
      (fun p t hp ht => hp.turn hdt ht) h htimed
  have hbeats := (scriptOf_paced q calls i false).beats_le
  have hrest : AtRest i ((q.scriptOf calls).foldl DungeonRoom.turn q) := by
    refine List.foldlRecOn _ _ h ?_
    intro p hp t ht
    exact (hp.turn hdt (htimed t ht)).left
  rw [scriptOf_foldl] at hpaid hrest
  refine ⟨hrest, hpaid.trans ?_⟩
  rw [nsmul_eq_mul]
  have hcount : ((q.scriptOf calls).countP (Turn.isUnit i) : ℝ) ≤
      stepsBegun (q.scriptOf calls) := Nat.cast_le.mpr hbeats
  exact add_le_add_right (mul_le_mul_of_nonneg_right hcount hdt) _

/--
In every run whose steps have the same length, whatever is commanded, a unit has taken
from the fields at most what it takes to harvest for the length of the run; and over any
window of the run it takes less than one unit more than the length of the window allows.
-/
theorem harvest_lawful (roomId : Nat) (roomName : String) (maxPlayers : Nat)
    (before window : List (RoomCall F)) (dt : F) (hdt : lit 0 ≤ dt)
    (hsteps : forall ω dt', RoomCall.step ω dt' ∈ before ++ window -> dt' = dt) (i : Nat) :
    takings i (create roomId roomName maxPlayers)
        (scriptOf (create roomId roomName maxPlayers) before) *
        toReal (kHarvestInterval : F) ≤
      stepsBegun (scriptOf (create roomId roomName maxPlayers) before) * toReal dt ∧
    takings i (before.foldl call (create roomId roomName maxPlayers))
        (scriptOf (before.foldl call (create roomId roomName maxPlayers)) window) *
        toReal (kHarvestInterval : F) <
      stepsBegun (scriptOf (before.foldl call (create roomId roomName maxPlayers)) window) *
        toReal dt + toReal (kHarvestInterval : F) := by
  rw [Exact.nonneg_iff] at hdt
  have hstart : AtRest i (create roomId roomName maxPlayers : DungeonRoom F) := by
    refine ⟨(create_upright roomId roomName maxPlayers).keyed, ?_⟩
    intro u hu
    cases hu
  have hnone : clocked i (create roomId roomName maxPlayers : DungeonRoom F) = 0 := rfl
  have hfirst : forall ω dt', RoomCall.step ω dt' ∈ before -> dt' = dt := fun ω dt' h =>
    hsteps ω dt' (List.mem_append_left window h)
  have hlater : forall ω dt', RoomCall.step ω dt' ∈ window -> dt' = dt := fun ω dt' h =>
    hsteps ω dt' (List.mem_append_right before h)
  rcases hstart.takings hdt hfirst with ⟨hrest, hbefore⟩
  rcases hrest.takings hdt hlater with ⟨hend, hwindow⟩
  rw [interval_eq, mul_one, mul_one]
  constructor
  · have hnonneg := hrest.clocked_nonneg
    rw [hnone] at hbefore
    linarith
  · have hnonneg := hend.clocked_nonneg
    have hless := hrest.clocked_lt
    rw [interval_eq] at hless
    linarith

end Runs

/-- A villager beside a field harvests for three steps of half a second. -/
def gleaning : List (RoomCall Rat) :=
  [RoomCall.spawnUnit 1 0 kUnitVillager ⟨9 / 5, 0, 0⟩ 100 6 0,
    RoomCall.spawnResourceField 0 ⟨0, 0, 0⟩ 20,
    RoomCall.enqueueCommand ⟨CommandType.harvest, 1, 0, [1], ⟨0, 0, 0⟩, [], 2, 0, 0⟩,
    RoomCall.applyPending]

def gleaningSteps : List (RoomCall Rat) :=
  [RoomCall.step IterOrder.stored (1 / 2), RoomCall.step IterOrder.stored (1 / 2),
    RoomCall.step IterOrder.stored (1 / 2)]

/-- It has taken one unit, and not two. -/
theorem besideField_harvest_lawful :
    fieldsLeft ((gleaning ++ gleaningSteps).foldl call (create 1 "gleaning" 2)) = 19 ∧
    takings 1 (gleaning.foldl call (create 1 "gleaning" 2))
        (scriptOf (gleaning.foldl call (create 1 "gleaning" 2)) gleaningSteps) *
        toReal (kHarvestInterval : Rat) <
      stepsBegun (scriptOf (gleaning.foldl call (create 1 "gleaning" 2)) gleaningSteps) *
        toReal (1 / 2 : Rat) + toReal (kHarvestInterval : Rat) := by
  have hdt : (lit 0 : Rat) ≤ 1 / 2 := by decide +kernel
  have hsteps : forall ω dt', RoomCall.step ω dt' ∈ gleaning ++ gleaningSteps ->
      dt' = 1 / 2 := by
    intro ω dt' h
    simp only [gleaning, gleaningSteps, List.cons_append, List.nil_append, List.mem_cons,
      List.not_mem_nil, reduceCtorEq, false_or, or_false, RoomCall.step.injEq] at h
    rcases h with h | h | h
    · exact h.right
    · exact h.right
    · exact h.right
  refine ⟨by decide +kernel, ?_⟩
  exact (harvest_lawful 1 "gleaning" 2 gleaning gleaningSteps (1 / 2) hdt hsteps 1).right

end DungeonRoom

end RtsGame
