import RtsGame.Room.Purchases
import RtsGame.Room.Refinement

/-!
# Commands perform effects

The nine commands are sequences of effects as well.  What leaves the room is
the price of an accepted Build or Train command.  The restriction on redirected
units is left open except for the two commands that start a gathering or a
pickup job, which have to justify it themselves.
-/

namespace RtsGame

open Scalar

namespace DungeonRoom

variable {F : Type} [Scalar F]

/-!
## Prices of accepted commands
-/

/-- The price of a command. -/
def commandCost (cmd : PendingCommand F) : Nat :=
  match cmd.type with
  | CommandType.build => costTotal (buildingCost cmd.auxType)
  | CommandType.train => costTotal (unitCost cmd.auxType)
  | _ => 0

/-- Is the command applied without a rejection? -/
def accepts (r : DungeonRoom F) (cmd : PendingCommand F) : Bool :=
  (r.applyCommand cmd).rejected = r.rejected

/-- The price of a command if it is accepted. -/
def acceptedCost (r : DungeonRoom F) (cmd : PendingCommand F) : Nat :=
  if r.accepts cmd then commandCost cmd else 0

/-- The prices of the commands that are accepted when they are applied in turn. -/
def acceptedCosts : DungeonRoom F -> List (PendingCommand F) -> Nat
  | _, [] => 0
  | r, cmd :: rest => r.acceptedCost cmd + acceptedCosts (r.applyCommand cmd) rest

/-!
## The two loops over the selected units
-/

/-- A later room with the same fields, drops and loads. -/
structure SameStock (r s : DungeonRoom F) : Prop where
  fields : s.fields = r.fields
  drops : s.drops = r.drops
  nextEntityId : s.nextEntityId = r.nextEntityId
  units : forall id u, s.units.lookup id = some u ->
    exists u₀, r.units.lookup id = some u₀ ∧ SameBody u₀ u ∧ SameLoad u₀ u

omit [Scalar F] in
theorem SameStock.refl (r : DungeonRoom F) : SameStock r r :=
  ⟨rfl, rfl, rfl, fun _ u hu => ⟨u, hu, SameBody.refl u, SameLoad.refl u⟩⟩

omit [Scalar F] in
theorem SameStock.commit {r s : DungeonRoom F} (h : SameStock r s) {id : Nat}
    {u v : GameUnit F} (hu : s.units.lookup id = some u)
    (hbody : SameBody u v) (hload : SameLoad u v) :
    SameStock r (s.commit id v) := by
  refine ⟨h.fields, h.drops, h.nextEntityId, ?_⟩
  intro j w hw
  change (s.units.insert id v).lookup j = some w at hw
  rw [Table.lookup_insert_ite] at hw
  split at hw
  · rename_i hj
    injection hw with hvw
    subst hj
    subst hvw
    rcases h.units j u hu with ⟨u₀, hu₀, hbody₀, hload₀⟩
    exact ⟨u₀, hu₀, hbody₀.trans hbody, hload₀.trans hload⟩
  · exact h.units j w hw

/-- The group loop redirects the listed units one after another. -/
theorem orderSelected_effects
    {keep : DungeonRoom F -> GameUnit F -> GameUnit F -> Prop}
    {order : Nat -> GameUnit F -> GameUnit F} {r : DungeonRoom F}
    (hbody : forall index u, SameBody u (order index u))
    (hload : forall index u, SameLoad u (order index u)) (ids : List Nat)
    (hkeep : forall s id index u, SameStock r s -> id ∈ ids ->
      s.units.lookup id = some u -> keep s u (order index u))
    (index : Nat) (s : DungeonRoom F) (hs : SameStock r s) :
    Effects keep s [] (orderSelected order index ids s) := by
  induction ids generalizing index s with
  | nil =>
      exact Moves.nil s
  | cons id rest ih =>
      have hrest : forall s id index u, SameStock r s -> id ∈ rest ->
          s.units.lookup id = some u -> keep s u (order index u) := by
        intro s id index u hs hid hu
        exact hkeep s id index u hs (List.mem_cons_of_mem _ hid) hu
      unfold orderSelected
      split
      · exact ih hrest (index + 1) s hs
      · rename_i u hu
        have hk := hkeep s id index u hs (List.mem_cons_self) hu
        have hfirst : Effect keep s [] (s.commit id (order index u)) :=
          Effect.redirect hu (hbody index u) (hload index u) hk
        have hnext := hs.commit hu (hbody index u) (hload index u)
        exact Moves.cons hfirst (ih hrest (index + 1) _ hnext)

/-- The other loop performs the order of every listed unit of the owner. -/
theorem orderEachOwned_effects
    {keep : DungeonRoom F -> GameUnit F -> GameUnit F -> Prop}
    {ownerUid : Nat} {order : DungeonRoom F -> Nat -> GameUnit F -> DungeonRoom F}
    (horder : forall s id u, Keyed s -> s.units.lookup id = some u ->
      u.ownerUid = ownerUid -> Effects keep s [] (order s id u))
    (ids : List Nat) (s : DungeonRoom F) (hs : Keyed s) :
    Effects keep s [] (orderEachOwned ownerUid order ids s) := by
  induction ids generalizing s with
  | nil =>
      exact Moves.nil s
  | cons id rest ih =>
      unfold orderEachOwned
      split
      · exact ih s hs
      · rename_i u hu
        split
        · exact ih s hs
        · rename_i howner
          have hfirst := horder s id u hs hu (not_not.mp howner)
          exact hfirst.append (ih _ (Effects.keyed hs hfirst))

omit [Scalar F] in
theorem mem_collectOwnedUnits {r : DungeonRoom F} {ownerUid id : Nat}
    {unitIds : List Nat} (h : id ∈ r.collectOwnedUnits ownerUid unitIds) :
    id ∈ unitIds ∧ exists u, r.units.lookup id = some u ∧ u.ownerUid = ownerUid := by
  unfold collectOwnedUnits at h
  rw [List.mem_insertionSort, List.mem_filter] at h
  rcases h with ⟨hmem, howns⟩
  refine ⟨hmem, ?_⟩
  unfold ownsUnit at howns
  split at howns
  · cases howns
  · rename_i u hu
    exact ⟨u, hu, of_decide_eq_true howns⟩

/-!
## The commands

An order that assigns neither a gathering nor a pickup job is always allowed.
-/

section Allowed

variable {keep : DungeonRoom F -> GameUnit F -> GameUnit F -> Prop}

/-- Orders that start neither gathering nor a pickup are not restricted. -/
def AllowsOther
    (keep : DungeonRoom F -> GameUnit F -> GameUnit F -> Prop) : Prop :=
  forall s u v, v.carriedRaw = u.carriedRaw ->
    v.task ≠ WorkerTask.gathering -> v.task ≠ WorkerTask.pickup -> keep s u v

omit [Scalar F] in
theorem AllowsOther.idle (hallow : AllowsOther keep) {s : DungeonRoom F}
    {u v : GameUnit F} (hraw : v.carriedRaw = u.carriedRaw)
    (hv : v.task = WorkerTask.none) : keep s u v := by
  apply hallow s u v hraw
  · rw [hv]
    intro h
    cases h
  · rw [hv]
    intro h
    cases h

theorem applyMove_effects (hallow : AllowsOther keep) (r : DungeonRoom F)
    (ownerUid : Nat) (unitIds : List Nat) (target : Vec3f F)
    (path : List (Vec3f F)) :
    Effects keep r [] (r.applyMove ownerUid unitIds target path) := by
  unfold applyMove
  refine orderSelected_effects (r := r) ?_ ?_ _ ?_ 0 r (SameStock.refl r)
  · intro _ _
    exact ⟨rfl, rfl, rfl, rfl, rfl⟩
  · intro _ _
    exact ⟨rfl, rfl⟩
  · intro _ _ _ _ _ _ _
    exact hallow.idle rfl rfl

theorem applyStore_effects (hallow : AllowsOther keep) (r : DungeonRoom F)
    (ownerUid : Nat) (unitIds : List Nat) (campId : Nat) :
    Effects keep r [] (r.applyStore ownerUid unitIds campId) := by
  unfold applyStore
  refine orderSelected_effects (r := r) ?_ ?_ _ ?_ 0 r (SameStock.refl r)
  · intro _ _
    exact ⟨rfl, rfl, rfl, rfl, rfl⟩
  · intro _ _
    exact ⟨rfl, rfl⟩
  · intro s _ _ u _ _ _
    apply hallow
    · rfl
    · intro h
      cases h
    · intro h
      cases h

omit [Scalar F] in
/-- An order written under the key of the unit is written under its id. -/
theorem put_mark_eq_commit {s : DungeonRoom F} (hs : Keyed s) {id : Nat}
    {u : GameUnit F} (hu : s.units.lookup id = some u) (t : DungeonRoom F)
    (v : GameUnit F) (hv : v.id = u.id) :
    (t.putUnit id v).markDirty id = t.commit id v := by
  unfold commit
  rw [hv, hs.unit_id hu]

theorem applyStop_effects (hallow : AllowsOther keep) {r : DungeonRoom F}
    (hr : Keyed r) (ownerUid : Nat) (unitIds : List Nat) :
    Effects keep r [] (r.applyStop ownerUid unitIds) := by
  unfold applyStop
  apply orderEachOwned_effects _ unitIds r hr
  intro s id u hs hu _
  dsimp only
  unfold dropCarried
  split
  · rename_i hload
    rw [put_mark_eq_commit hs hu _ _ (by rfl)]
    exact Moves.single (Effect.dropLoad hu ⟨rfl, rfl, rfl, rfl, rfl⟩
      (hallow.idle rfl rfl) hload rfl rfl)
  · rw [put_mark_eq_commit hs hu _ _ (by rfl)]
    exact Moves.single (Effect.redirect hu ⟨rfl, rfl, rfl, rfl, rfl⟩ ⟨rfl, rfl⟩
      (hallow.idle rfl rfl))

theorem applyAttack_effects (hallow : AllowsOther keep) {r : DungeonRoom F}
    (hr : Keyed r) (ownerUid : Nat) (unitIds : List Nat) (targetEntity : Nat) :
    Effects keep r [] (r.applyAttack ownerUid unitIds targetEntity) := by
  unfold applyAttack
  apply orderEachOwned_effects _ unitIds r hr
  intro s id u hs hu _
  split
  · exact Moves.nil s
  · rw [put_mark_eq_commit hs hu _ _ (by rfl)]
    exact Moves.single (Effect.redirect hu ⟨rfl, rfl, rfl, rfl, rfl⟩ ⟨rfl, rfl⟩
      (hallow.idle rfl rfl))

theorem assignConstructors_effects (hallow : AllowsOther keep)
    {r : DungeonRoom F} (hr : Keyed r) (ownerUid : Nat) (unitIds : List Nat)
    (buildingId : Nat) :
    Effects keep r [] (r.assignConstructors ownerUid unitIds buildingId) := by
  unfold assignConstructors
  apply orderEachOwned_effects _ unitIds r hr
  intro s id u hs hu _
  rw [put_mark_eq_commit hs hu _ _ (by rfl)]
  refine Moves.single (Effect.redirect hu ⟨rfl, rfl, rfl, rfl, rfl⟩ ⟨rfl, rfl⟩ ?_)
  apply hallow
  · rfl
  · intro h
    cases h
  · intro h
    cases h

theorem applyConstruct_effects (hallow : AllowsOther keep)
    {r : DungeonRoom F} (hr : Keyed r) (ownerUid : Nat) (unitIds : List Nat)
    (buildingId : Nat) :
    Effects keep r [] (r.applyConstruct ownerUid unitIds buildingId) := by
  unfold applyConstruct
  split
  · exact Moves.nil r
  · split
    · exact Moves.nil r
    · exact assignConstructors_effects hallow hr ownerUid unitIds buildingId

theorem applyHarvest_effects {r : DungeonRoom F} (ownerUid : Nat)
    (unitIds : List Nat) (fieldId : Nat)
    (hkeep : forall s field id count index u, SameStock r s ->
      r.fields.lookup fieldId = some field -> id ∈ unitIds ->
      s.units.lookup id = some u -> u.ownerUid = ownerUid ->
      keep s u (harvestOrder count fieldId field.pos index u)) :
    Effects keep r [] (r.applyHarvest ownerUid unitIds fieldId) := by
  unfold applyHarvest
  split
  · exact Moves.nil r
  · rename_i field hfield
    refine orderSelected_effects (r := r) ?_ ?_ _ ?_ 0 r (SameStock.refl r)
    · intro _ _
      exact ⟨rfl, rfl, rfl, rfl, rfl⟩
    · intro _ _
      exact ⟨rfl, rfl⟩
    · intro s id index u hs hid hu
      rcases mem_collectOwnedUnits hid with ⟨hmem, w, hw, howner⟩
      rcases hs.units id u hu with ⟨u₀, hu₀, hbody, _⟩
      rw [hw] at hu₀
      injection hu₀ with hwu
      subst hwu
      exact hkeep s field id _ index u hs hfield hmem hu
        (hbody.ownerUid.trans howner)

theorem applyPickup_effects {r : DungeonRoom F} (ownerUid : Nat)
    (unitIds : List Nat) (dropId : Nat)
    (hkeep : forall s drop id count index u, SameStock r s ->
      r.drops.lookup dropId = some drop -> id ∈ unitIds ->
      s.units.lookup id = some u -> u.ownerUid = ownerUid ->
      keep s u (pickupOrder count dropId index u)) :
    Effects keep r [] (r.applyPickup ownerUid unitIds dropId) := by
  unfold applyPickup
  split
  · exact Moves.nil r
  · rename_i drop hdrop
    refine orderSelected_effects (r := r) ?_ ?_ _ ?_ 0 r (SameStock.refl r)
    · intro _ _
      exact ⟨rfl, rfl, rfl, rfl, rfl⟩
    · intro _ _
      exact ⟨rfl, rfl⟩
    · intro s id index u hs hid hu
      rcases mem_collectOwnedUnits hid with ⟨hmem, w, hw, howner⟩
      rcases hs.units id u hu with ⟨u₀, hu₀, hbody, _⟩
      rw [hw] at hu₀
      injection hu₀ with hwu
      subst hwu
      exact hkeep s drop id _ index u hs hdrop hmem hu
        (hbody.ownerUid.trans howner)

end Allowed

/-!
## Rejections

No order touches the list of rejected commands, so that a command is accepted
exactly when it does not end in `reject`.
-/

omit [Scalar F] in
theorem orderEachOwned_rejected {ownerUid : Nat}
    {order : DungeonRoom F -> Nat -> GameUnit F -> DungeonRoom F}
    (horder : forall s id u, (order s id u).rejected = s.rejected)
    (ids : List Nat) (s : DungeonRoom F) :
    (orderEachOwned ownerUid order ids s).rejected = s.rejected := by
  induction ids generalizing s with
  | nil =>
      rfl
  | cons id rest ih =>
      unfold orderEachOwned
      split
      · exact ih s
      · split
        · exact ih s
        · rw [ih, horder]

theorem assignConstructors_rejected (r : DungeonRoom F) (ownerUid : Nat)
    (unitIds : List Nat) (buildingId : Nat) :
    (r.assignConstructors ownerUid unitIds buildingId).rejected = r.rejected := by
  unfold assignConstructors
  apply orderEachOwned_rejected
  intro _ _ _
  rfl

omit [Scalar F] in
theorem reject_rejected_ne (r : DungeonRoom F) (cmd : PendingCommand F)
    (code : RejectCode) : (r.reject cmd code).rejected ≠ r.rejected := by
  intro h
  have hlen := congrArg List.length h
  simp [reject] at hlen

/-- A rejected command costs nothing. -/
theorem refused_cost {r : DungeonRoom F} {cmd : PendingCommand F}
    {code : RejectCode} (h : r.applyCommand cmd = r.reject cmd code) :
    r.acceptedCost cmd = 0 := by
  unfold acceptedCost accepts
  rw [h]
  simp [reject_rejected_ne]

/-- A command that leaves the rejections alone costs its price. -/
theorem accepted_cost {r : DungeonRoom F} {cmd : PendingCommand F}
    (h : (r.applyCommand cmd).rejected = r.rejected) :
    r.acceptedCost cmd = commandCost cmd := by
  unfold acceptedCost accepts
  rw [h]
  simp

theorem acceptedCost_free (r : DungeonRoom F) {cmd : PendingCommand F}
    (h : commandCost cmd = 0) : r.acceptedCost cmd = 0 := by
  unfold acceptedCost
  rw [h]
  simp

/-!
## Purchases
-/

section Purchases

variable {keep : DungeonRoom F -> GameUnit F -> GameUnit F -> Prop}

theorem refused_effects {r : DungeonRoom F} {cmd : PendingCommand F}
    {c : RejectCode} (h : r.applyCommand cmd = r.reject cmd c) :
    exists out, Effects keep r out (r.applyCommand cmd) ∧
      out.sum = r.acceptedCost cmd := by
  refine ⟨[], ?_, (refused_cost h).symm⟩
  rw [h]
  exact Moves.single (Effect.refuse cmd c)

theorem applyBuild_effects (hallow : AllowsOther keep) {r : DungeonRoom F}
    (hr : Keyed r) {cmd : PendingCommand F} (htype : cmd.type = CommandType.build) :
    exists out, Effects keep r out (r.applyCommand cmd) ∧
      out.sum = r.acceptedCost cmd := by
  have happly := applyCommand_build r htype
  rcases applyBuild_cases r cmd with ⟨res, hmay, hbuild⟩ | ⟨code, _, hrefused⟩
  · have hbuy : Effect keep r _ _ := Effect.buyBuilding cmd.auxType
      cmd.target cmd.yaw hmay.ledger hmay.allowed hmay.affordable
    have hassign := assignConstructors_effects hallow (hbuy.keyed hr)
      cmd.ownerUid cmd.unitIds r.nextEntityId
    refine ⟨[costTotal (buildingCost cmd.auxType)] ++ [], ?_, ?_⟩
    · rw [happly, hbuild]
      exact Moves.cons hbuy hassign
    · rw [accepted_cost (by
        rw [happly, hbuild, assignConstructors_rejected]
        rfl)]
      simp [commandCost, htype]
  · exact refused_effects (happly.trans hrefused)

theorem applyTrain_effects {r : DungeonRoom F} {cmd : PendingCommand F}
    (htype : cmd.type = CommandType.train) :
    exists out, Effects keep r out (r.applyCommand cmd) ∧
      out.sum = r.acceptedCost cmd := by
  have happly := applyCommand_train r htype
  rcases applyTrain_cases r cmd with ⟨b, res, hmay, htrain⟩ | ⟨code, _, hrefused⟩
  · have hbuy : Effect keep r _ _ := Effect.buyTraining (unitCost cmd.auxType)
      (b.trainQueue ++ [orderedItem cmd]) hmay.ledger hmay.producer hmay.affordable
    refine ⟨[costTotal (unitCost cmd.auxType)], ?_, ?_⟩
    · rw [happly, htrain]
      exact Moves.single hbuy
    · rw [accepted_cost (by
        rw [happly, htrain]
        rfl)]
      simp [commandCost, htype]
  · exact refused_effects (happly.trans hrefused)

end Purchases

/-!
## All commands
-/

/-- A command that starts a gathering or a pickup job justifies it. -/
structure Justified
    (keep : DungeonRoom F -> GameUnit F -> GameUnit F -> Prop)
    (r : DungeonRoom F) (cmd : PendingCommand F) : Prop where
  other : AllowsOther keep
  harvest : cmd.type = CommandType.harvest ->
    forall s field id count index u, SameStock r s ->
      r.fields.lookup cmd.targetEntity = some field -> id ∈ cmd.unitIds ->
      s.units.lookup id = some u -> u.ownerUid = cmd.ownerUid ->
      keep s u (harvestOrder count cmd.targetEntity field.pos index u)
  pickup : cmd.type = CommandType.pickup ->
    forall s drop id count index u, SameStock r s ->
      r.drops.lookup cmd.targetEntity = some drop -> id ∈ cmd.unitIds ->
      s.units.lookup id = some u -> u.ownerUid = cmd.ownerUid ->
      keep s u (pickupOrder count cmd.targetEntity index u)

theorem justified_any (r : DungeonRoom F) (cmd : PendingCommand F) :
    Justified AnyOrder r cmd := by
  constructor
  · intro _ _ _ _ _ _
    exact trivial
  · intro _ _ _ _ _ _ _ _ _ _ _ _
    exact trivial
  · intro _ _ _ _ _ _ _ _ _ _ _ _
    exact trivial

/-- One command is a sequence of effects that pays exactly its price. -/
theorem applyCommand_effects
    {keep : DungeonRoom F -> GameUnit F -> GameUnit F -> Prop}
    {r : DungeonRoom F} (hr : Keyed r) {cmd : PendingCommand F}
    (hcmd : Justified keep r cmd) :
    exists out, Effects keep r out (r.applyCommand cmd) ∧
      out.sum = r.acceptedCost cmd := by
  have hfree : forall s, Effects keep r [] s -> r.applyCommand cmd = s ->
      commandCost cmd = 0 ->
      exists out, Effects keep r out (r.applyCommand cmd) ∧
        out.sum = r.acceptedCost cmd := by
    intro s heff happly hcost
    refine ⟨[], ?_, (acceptedCost_free r hcost).symm⟩
    rw [happly]
    exact heff
  cases htype : cmd.type with
  | move =>
      apply hfree _ (applyMove_effects hcmd.other r cmd.ownerUid cmd.unitIds
        cmd.target cmd.path)
      · simp [applyCommand, htype]
      · simp [commandCost, htype]
  | stop =>
      apply hfree _ (applyStop_effects hcmd.other hr cmd.ownerUid cmd.unitIds)
      · simp [applyCommand, htype]
      · simp [commandCost, htype]
  | attack =>
      apply hfree _ (applyAttack_effects hcmd.other hr cmd.ownerUid cmd.unitIds
        cmd.targetEntity)
      · simp [applyCommand, htype]
      · simp [commandCost, htype]
  | harvest =>
      apply hfree _ (applyHarvest_effects cmd.ownerUid cmd.unitIds
        cmd.targetEntity (hcmd.harvest htype))
      · simp [applyCommand, htype]
      · simp [commandCost, htype]
  | store =>
      apply hfree _ (applyStore_effects hcmd.other r cmd.ownerUid cmd.unitIds
        cmd.targetEntity)
      · simp [applyCommand, htype]
      · simp [commandCost, htype]
  | pickup =>
      apply hfree _ (applyPickup_effects cmd.ownerUid cmd.unitIds
        cmd.targetEntity (hcmd.pickup htype))
      · simp [applyCommand, htype]
      · simp [commandCost, htype]
  | build => exact applyBuild_effects hcmd.other hr htype
  | construct =>
      apply hfree _ (applyConstruct_effects hcmd.other hr cmd.ownerUid
        cmd.unitIds cmd.targetEntity)
      · simp [applyCommand, htype]
      · simp [commandCost, htype]
  | train => exact applyTrain_effects htype

/-- Every command of a list justifies its orders when its turn comes. -/
def AllJustified (keep : DungeonRoom F -> GameUnit F -> GameUnit F -> Prop) :
    DungeonRoom F -> List (PendingCommand F) -> Prop
  | _, [] => True
  | r, cmd :: rest =>
      Justified keep r cmd ∧ AllJustified keep (r.applyCommand cmd) rest

theorem allJustified_any (r : DungeonRoom F) (cmds : List (PendingCommand F)) :
    AllJustified AnyOrder r cmds := by
  induction cmds generalizing r with
  | nil =>
      exact trivial
  | cons cmd rest ih =>
      exact ⟨justified_any r cmd, ih (r.applyCommand cmd)⟩

/-- A list of commands pays the prices of the accepted ones. -/
theorem applyCommands_effects
    {keep : DungeonRoom F -> GameUnit F -> GameUnit F -> Prop}
    (cmds : List (PendingCommand F)) {r : DungeonRoom F} (hr : Keyed r)
    (hcmds : AllJustified keep r cmds) :
    exists out, Effects keep r out (r.applyCommands cmds) ∧
      out.sum = acceptedCosts r cmds := by
  induction cmds generalizing r with
  | nil =>
      exact ⟨[], Moves.nil r, rfl⟩
  | cons cmd rest ih =>
      rcases hcmds with ⟨hcmd, hrest⟩
      rcases applyCommand_effects hr hcmd with ⟨out, heff, hsum⟩
      rcases ih (Effects.keyed hr heff) hrest with ⟨later, hlater, hsum'⟩
      refine ⟨out ++ later, heff.append hlater, ?_⟩
      rw [List.sum_append, hsum, hsum']
      rfl

theorem applyPending_effects
    {keep : DungeonRoom F -> GameUnit F -> GameUnit F -> Prop}
    {r : DungeonRoom F} (hr : Keyed r)
    (hcmds : AllJustified keep r r.pending) :
    exists out, Effects keep r out r.applyPending ∧
      out.sum = acceptedCosts r r.pending := by
  rcases applyCommands_effects r.pending hr hcmds with ⟨out, heff, hsum⟩
  refine ⟨out ++ [], heff.append (Moves.single Effect.forgetPending), ?_⟩
  rw [List.append_nil]
  exact hsum

end DungeonRoom

end RtsGame
