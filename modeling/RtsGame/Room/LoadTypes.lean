import RtsGame.Room.Origins

/-!
# Types of loads

A backpack has one type for its whole content, and harvesting or picking up
writes the type of the field or drop.  As long as every worker that is about to
do so carries nothing, or a load of the same type, the stock of no resource
type ever grows.
-/

namespace RtsGame

open Scalar

namespace DungeonRoom

variable {F : Type} [Scalar F]

/-!
## Known drops

A pickup job names a drop that has existed, so that no later drop can take its
place.
-/

/-- The drop of a pickup job has been spawned already. -/
def Aimed (r : DungeonRoom F) : Prop :=
  r.units.AllAt fun _ u =>
    u.task = WorkerTask.pickup -> u.pickupDropId < r.nextEntityId

/-- A new pickup job names a drop that has been spawned already. -/
def Known (r : DungeonRoom F) (u v : GameUnit F) : Prop :=
  v.task = WorkerTask.pickup ->
    (u.task = WorkerTask.pickup ∧ v.pickupDropId = u.pickupDropId) ∨
      v.pickupDropId < r.nextEntityId

/-- What the orders of commands obey: the load's type is not touched. -/
structure OrderOnly (r : DungeonRoom F) (u v : GameUnit F) : Prop where
  raw : v.carriedRaw = u.carriedRaw
  known : Known r u v

omit [Scalar F] in
theorem routine_known {r : DungeonRoom F} {u v : GameUnit F}
    (h : Routine r u v) : Known r u v := by
  intro hv
  exact Or.inl (h.pickup hv)

theorem justified_orderOnly {r : DungeonRoom F} (hr : Keyed r)
    (cmd : PendingCommand F) : Justified OrderOnly r cmd := by
  constructor
  · intro s u v hraw _ hnot
    exact ⟨hraw, fun hv => absurd hv hnot⟩
  · intro _ s field id count index u _ _ _ _ _
    refine ⟨rfl, ?_⟩
    intro hv
    cases hv
  · intro _ s drop id count index u hs hdrop _ _ _
    refine ⟨rfl, ?_⟩
    intro _
    have hlt := (hr.drops cmd.targetEntity drop hdrop).right
    rw [← hs.nextEntityId] at hlt
    exact Or.inr hlt

theorem allJustified_orderOnly (cmds : List (PendingCommand F))
    {r : DungeonRoom F} (hr : Keyed r) : AllJustified OrderOnly r cmds := by
  induction cmds generalizing r with
  | nil =>
      exact trivial
  | cons cmd rest ih =>
      have hcmd := justified_orderOnly hr cmd
      rcases applyCommand_effects hr hcmd with ⟨_, heff, _⟩
      exact ⟨hcmd, ih (Effects.keyed hr heff)⟩

/-- Effects whose pickup jobs are known keep all pickup jobs known. -/
theorem Effect.aimed
    {keep : DungeonRoom F -> GameUnit F -> GameUnit F -> Prop}
    (hkeep : forall r u v, keep r u v -> Known r u v) {r s : DungeonRoom F}
    {out : List Nat} (hr : Aimed r) (heff : Effect keep r out s) : Aimed s := by
  have hnext := heff.depleted.next
  have hmove : forall {j : Nat} {u w : GameUnit F},
      r.units.lookup j = some u -> keep r u w ->
      w.task = WorkerTask.pickup -> w.pickupDropId < s.nextEntityId := by
    intro j u w hu hk htask
    rcases hkeep r u w hk htask with ⟨hpick, hid⟩ | hlt
    · have hold := hr j u hu hpick
      rw [hid]
      lia
    · lia
  intro j w hw htask
  cases heff.unit_origin hw with
  | same hu _ _ _ hjob =>
      have hold := hr j _ hu (hjob.task.symm.trans htask)
      rw [hjob.pickupDropId]
      lia
  | steered hu _ _ hk => exact hmove hu hk htask
  | emptied hu _ hk _ => exact hmove hu hk htask
  | filled hu _ hk _ _ _ => exact hmove hu hk htask
  | loaded hu _ hk _ _ _ => exact hmove hu hk htask
  | trained _ _ hnew =>
      rw [hnew] at htask
      cases htask

/-!
## Matching loads
-/

/--
Every worker on its way to a field or a drop carries nothing, or a load of the
same resource type; on its way to a field it may also carry a full load, which
it takes home first.
-/
structure LoadsMatch (r : DungeonRoom F) : Prop where
  gathering : forall id u field, r.units.lookup id = some u ->
    u.task = WorkerTask.gathering ->
    r.fields.lookup u.gatherFieldId = some field ->
    u.carriedAmount = 0 ∨ kVillagerCarryCapacity ≤ u.carriedAmount ∨
      rawToResourceType u.carriedRaw = rawToResourceType field.raw
  pickup : forall id u drop, r.units.lookup id = some u ->
    u.task = WorkerTask.pickup ->
    r.drops.lookup u.pickupDropId = some drop ->
    u.carriedAmount = 0 ∨
      rawToResourceType u.carriedRaw = rawToResourceType drop.raw

omit [Scalar F] in
theorem loadsMatch_iff {r : DungeonRoom F} :
    LoadsMatch r <->
      r.units.AllAt fun _ u =>
        (u.task = WorkerTask.gathering ->
          forall field, field ∈ r.fields.lookup u.gatherFieldId ->
            u.carriedAmount = 0 ∨ kVillagerCarryCapacity ≤ u.carriedAmount ∨
              rawToResourceType u.carriedRaw = rawToResourceType field.raw) ∧
        (u.task = WorkerTask.pickup ->
          forall drop, drop ∈ r.drops.lookup u.pickupDropId ->
            u.carriedAmount = 0 ∨
              rawToResourceType u.carriedRaw = rawToResourceType drop.raw) := by
  constructor
  · intro h id u hu
    exact ⟨fun htask field hf => h.gathering id u field hu htask hf,
      fun htask drop hd => h.pickup id u drop hu htask hd⟩
  · intro h
    exact ⟨fun id u field hu htask hf => (h id u hu).1 htask field hf,
      fun id u drop hu htask hd => (h id u hu).2 htask drop hd⟩

instance LoadsMatch.decidable (r : DungeonRoom F) : Decidable (LoadsMatch r) :=
  decidable_of_iff _ loadsMatch_iff.symm

omit [Scalar F] in
theorem LoadsMatch.matched {r : DungeonRoom F} (h : LoadsMatch r)
    (counts : Nat -> Bool)
    (keep : DungeonRoom F -> GameUnit F -> GameUnit F -> Prop) :
    Matched counts keep r := by
  constructor
  · intro id u v field hu htask hspace hf _ _
    rcases h.gathering id u field hu htask hf with hzero | hfull | htype
    · exact Or.inl (by rw [hzero]; rfl)
    · have hlt : u.carriedAmount.toNat < kVillagerCarryCapacity.toNat := hspace
      have hge : kVillagerCarryCapacity.toNat ≤ u.carriedAmount.toNat := hfull
      lia
    · exact Or.inr (by rw [htype])
  · intro id u v drop hu htask hd _ _
    rcases h.pickup id u drop hu htask hd with hzero | htype
    · exact Or.inl (by rw [hzero]; rfl)
    · exact Or.inr (by rw [htype])

omit [Scalar F] in
/-- Orders do not mix loads with anything of another raw material. -/
theorem orderOnly_matched (counts : Nat -> Bool) (r : DungeonRoom F) :
    Matched counts OrderOnly r := by
  constructor
  · intro id u v field _ _ _ _ hk hraw
    exact Or.inr (by rw [← hk.raw, hraw])
  · intro id u v drop _ _ _ hk hraw
    exact Or.inr (by rw [← hk.raw, hraw])

/-- The simulation never makes a worker mix its load with another type. -/
theorem Effect.loadsMatch {r s : DungeonRoom F} {out : List Nat}
    (hr : LoadsMatch r) (haimed : Aimed r) (heff : Effect Routine r out s) :
    LoadsMatch s := by
  have hdepleted := heff.depleted
  have hgather : forall {j : Nat} {u w : GameUnit F} {field},
      r.units.lookup j = some u -> SameLoad u w ->
      u.task = WorkerTask.gathering -> w.gatherFieldId = u.gatherFieldId ->
      s.fields.lookup w.gatherFieldId = some field ->
      w.carriedAmount = 0 ∨ kVillagerCarryCapacity ≤ w.carriedAmount ∨
        rawToResourceType w.carriedRaw = rawToResourceType field.raw := by
    intro j u w field hu hload htask hid hf
    rw [hid] at hf
    rcases hdepleted.fields _ _ hf with ⟨old, hold, hraw⟩
    rw [hload.amount, hload.raw, ← hraw]
    exact hr.gathering j u old hu htask hold
  have hpick : forall {j : Nat} {u w : GameUnit F} {drop},
      r.units.lookup j = some u -> SameLoad u w ->
      u.task = WorkerTask.pickup -> w.pickupDropId = u.pickupDropId ->
      s.drops.lookup w.pickupDropId = some drop ->
      w.carriedAmount = 0 ∨
        rawToResourceType w.carriedRaw = rawToResourceType drop.raw := by
    intro j u w drop hu hload htask hid hd
    rw [hid] at hd
    rcases hdepleted.drops _ _ (haimed j u hu htask) hd with ⟨old, hold, hraw⟩
    rw [hload.amount, hload.raw, ← hraw]
    exact hr.pickup j u old hu htask hold
  constructor
  · intro j w field hw htask hf
    cases heff.unit_origin hw with
    | same hu _ _ hload hjob =>
        exact hgather hu hload (hjob.task.symm.trans htask) hjob.gatherFieldId hf
    | steered hu _ hload hk =>
        rcases hk.gathering htask with hzero | ⟨hold, hid⟩
        · exact Or.inl hzero
        · exact hgather hu hload hold hid hf
    | emptied _ _ _ hzero => exact Or.inl hzero
    | filled hu _ hk hold hfield hraw =>
        rcases hk.gathering htask with hzero | ⟨_, hid⟩
        · exact Or.inl hzero
        · rw [hid] at hf
          rcases hdepleted.fields _ _ hf with ⟨before, hbefore, hsame⟩
          rw [hfield] at hbefore
          injection hbefore with heq
          rw [hraw, ← hsame, heq]
          exact Or.inr (Or.inr rfl)
    | loaded hu _ hk hold _ _ =>
        rcases hk.gathering htask with hzero | ⟨hgathering, _⟩
        · exact Or.inl hzero
        · rw [hold] at hgathering
          cases hgathering
    | trained _ _ hnew =>
        rw [hnew] at htask
        cases htask
  · intro j w drop hw htask hd
    cases heff.unit_origin hw with
    | same hu _ _ hload hjob =>
        exact hpick hu hload (hjob.task.symm.trans htask) hjob.pickupDropId hd
    | steered hu _ hload hk =>
        rcases hk.pickup htask with ⟨hold, hid⟩
        exact hpick hu hload hold hid hd
    | emptied _ _ _ hzero => exact Or.inl hzero
    | filled hu _ hk hold _ _ =>
        rcases hk.pickup htask with ⟨hpickup, _⟩
        rw [hold] at hpickup
        cases hpickup
    | loaded hu _ hk hold hdrop hraw =>
        rcases hk.pickup htask with ⟨_, hid⟩
        rw [hid] at hd
        rcases hdepleted.drops _ _ (haimed j _ hu hold) hd with
          ⟨before, hbefore, hsame⟩
        rw [hdrop] at hbefore
        injection hbefore with heq
        rw [hraw, ← hsame, heq]
        exact Or.inr rfl
    | trained _ _ hnew =>
        rw [hnew] at htask
        cases htask

/-!
## The stock of a type does not grow
-/

/-- Orders take nothing from one type to another. -/
theorem Effects.orders_stock_le (counts : Nat -> Bool) {r s : DungeonRoom F}
    {out : List Nat} (hr : Stocked r) (heff : Effects OrderOnly r out s) :
    stock counts s ≤ stock counts r := by
  induction heff with
  | nil r =>
      exact Nat.le_refl _
  | cons hmove _ ih =>
      rcases hmove.balance hr (orderOnly_matched counts _) with ⟨spent, hsum, _⟩
      have hrest := ih (hmove.stocked hr)
      lia

/-- Neither does the simulation, when the loads match. -/
theorem Effects.routine_stock_le (counts : Nat -> Bool) {r s : DungeonRoom F}
    {out : List Nat} (hr : Stocked r) (haimed : Aimed r) (hmatch : LoadsMatch r)
    (heff : Effects Routine r out s) : stock counts s ≤ stock counts r := by
  induction heff with
  | nil r =>
      exact Nat.le_refl _
  | cons hmove _ ih =>
      rcases hmove.balance hr (hmatch.matched counts Routine) with
        ⟨spent, hsum, _⟩
      have hrest := ih (hmove.stocked hr)
        (hmove.aimed (fun _ _ _ hk => routine_known hk) haimed)
        (hmove.loadsMatch hmatch haimed)
      lia

theorem Effects.aimed
    {keep : DungeonRoom F -> GameUnit F -> GameUnit F -> Prop}
    (hkeep : forall r u v, keep r u v -> Known r u v) {r s : DungeonRoom F}
    {out : List Nat} (hr : Aimed r) (heff : Effects keep r out s) : Aimed s :=
  heff.preserves Aimed (fun _ _ _ hr hmove => hmove.aimed hkeep hr) hr

theorem applyPending_aimed {r : DungeonRoom F} (hr : Keyed r)
    (haimed : Aimed r) : Aimed r.applyPending := by
  rcases applyPending_effects hr (allJustified_orderOnly r.pending hr) with
    ⟨_, heff, _⟩
  exact Effects.aimed (fun _ _ _ hk => hk.known) haimed heff

theorem step_aimed {r : DungeonRoom F} (haimed : Aimed r) (ω : IterOrder)
    (dt : F) : Aimed (r.step ω dt) := by
  rcases step_effects ω dt r with ⟨_, heff, _⟩
  exact Effects.aimed (fun _ _ _ hk => routine_known hk) haimed heff

theorem applyPending_stock_le (counts : Nat -> Bool) {r : DungeonRoom F}
    (hr : Stocked r) : stock counts r.applyPending ≤ stock counts r := by
  rcases applyPending_effects hr.keyed
      (allJustified_orderOnly r.pending hr.keyed) with ⟨_, heff, _⟩
  exact Effects.orders_stock_le counts hr heff

theorem step_stock_le (counts : Nat -> Bool) {r : DungeonRoom F}
    (hr : Stocked r) (haimed : Aimed r) (hmatch : LoadsMatch r)
    (ω : IterOrder) (dt : F) :
    stock counts (r.step ω dt) ≤ stock counts r := by
  rcases step_effects ω dt r with ⟨_, heff, _⟩
  exact Effects.routine_stock_le counts hr haimed hmatch heff

end DungeonRoom

end RtsGame
