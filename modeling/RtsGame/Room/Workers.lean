import Mathlib
import RtsGame.Room.Trade

/-!
# Where workers store and whom they build for

A worker carries its load to a building that it was given by name or that it has
looked for, and it works on the site that it was sent to.  What the search finds is
checked by the code; what a player names is not checked in full.
-/

namespace RtsGame

open Scalar

namespace DungeonRoom

variable {F : Type} [Scalar F]

/-- A building keeps its team and its type for as long as it stands. -/
theorem building_lineage {q : DungeonRoom F} (hq : Keyed q) {t : Turn F} {j : Nat}
    {v : Building F} (hv : (q.turn t).buildings.lookup j = some v) :
    q.nextEntityId ≤ j ∨
      exists b, q.buildings.lookup j = some b ∧ v.team = b.team ∧
        v.buildingType = b.buildingType := by
  cases site_fate hq hv with
  | @kept b _ hb heq =>
      rw [heq]
      exact Or.inr ⟨b, hb, rfl, rfl⟩
  | new _ hj _ => exact Or.inl (Nat.le_of_eq hj.symm)
  | @struck _ _ _ _ _ b _ hb _ _ heq =>
      rw [heq]
      exact Or.inr ⟨b, hb, rfl, rfl⟩
  | @built _ dt _ _ _ b _ _ _ _ _ _ hb _ heq =>
      have hframe := buildProgress_frame b dt
      rw [heq]
      exact Or.inr ⟨b, hb, hframe.right.left, hframe.right.right⟩

/-!
## Conditions on commands

They can be decided, so that a run can be checked before it is played.
-/

instance decidableOfCommand (p : PendingCommand F -> Prop) [DecidablePred p] :
    forall t : Turn F, Decidable (forall cmd, t = Turn.command cmd -> p cmd)
  | Turn.command cmd => decidable_of_iff (p cmd)
      ⟨fun h _ heq => Turn.command.inj heq ▸ h, fun h => h cmd rfl⟩
  | Turn.call _ _ => isTrue fun _ h => nomatch h
  | Turn.clearPending => isTrue fun _ h => nomatch h
  | Turn.scanTick => isTrue fun _ h => nomatch h
  | Turn.unit _ _ _ _ => isTrue fun _ h => nomatch h
  | Turn.building _ _ => isTrue fun _ h => nomatch h
  | Turn.deadUnit _ => isTrue fun _ h => nomatch h
  | Turn.deadBuilding _ => isTrue fun _ h => nomatch h

instance (b : Building F) : Decidable (IsDropoff b) :=
  inferInstanceAs (Decidable (_ ∨ _))

instance (q : DungeonRoom F) (cmd : PendingCommand F) :
    Decidable (exists res, MayBuild q cmd res) :=
  decidable_of_iff (cmd.auxType ≠ kBuildingCrystal ∧
      exists res, res ∈ q.playerRes.lookup cmd.ownerUid ∧
        res.canAfford (buildingCost cmd.auxType) = true)
    ⟨fun ⟨hallowed, res, hledger, hafford⟩ => ⟨res, hledger, hallowed, hafford⟩,
      fun ⟨res, hmay⟩ => ⟨hmay.allowed, res, hmay.ledger, hmay.affordable⟩⟩

/-!
## Drop-offs
-/

/--
A name for a drop-off: none at all, or an entity of the room that is no building
or else a camp or a crystal.
-/
def NamesDropoff (q : DungeonRoom F) (d : Nat) : Prop :=
  d = 0 ∨ (d < q.nextEntityId ∧ forall b, q.buildings.lookup d = some b -> IsDropoff b)

/-- A Store command names a drop-off. -/
def StoresWell (q : DungeonRoom F) (t : Turn F) : Prop :=
  forall cmd, t = Turn.command cmd -> cmd.type = CommandType.store ->
    q.NamesDropoff cmd.targetEntity

instance (q : DungeonRoom F) (d : Nat) : Decidable (q.NamesDropoff d) :=
  inferInstanceAs (Decidable (_ ∨ _))

instance (q : DungeonRoom F) (t : Turn F) : Decidable (StoresWell q t) :=
  decidableOfCommand _ t

/-- A ledger changes in the turn of a unit. -/
def Credits (ω : IterOrder) (dt : F) (doAggro : Bool) (q : DungeonRoom F) (i : Nat) :
    Prop :=
  exists uid, (stepUnit ω dt doAggro q i).playerRes.lookup uid ≠ q.playerRes.lookup uid

/--
A worker that changes a ledger has arrived at the building of its choice, and that
is a finished camp or crystal of its team.
-/
def StoresAtDropoff (q : DungeonRoom F) (t : Turn F) : Prop :=
  forall ω dt doAggro i, t = Turn.unit ω dt doAggro i -> Credits ω dt doAggro q i ->
    exists u p w camp, Outing ω dt doAggro q i u p w ∧
      w.task = WorkerTask.returning ∧ p.chosenDropoff ω w = some camp ∧
      atDropoff w camp dt = true ∧ IsDropoff camp ∧ camp.team = w.team ∧
      camp.underConstruction = false

/-- What the workers were given as drop-offs are drop-offs. -/
structure Directed (q : DungeonRoom F) : Prop where
  keyed : Keyed q
  dropoff : forall i u, q.units.lookup i = some u -> q.NamesDropoff u.dropoffId

section Dropoffs

variable {q : DungeonRoom F}

theorem NamesDropoff.turn (hq : Keyed q) {d : Nat} (h : q.NamesDropoff d) (t : Turn F) :
    (q.turn t).NamesDropoff d := by
  cases h with
  | inl hzero => exact Or.inl hzero
  | inr hnamed =>
      refine Or.inr ⟨Nat.lt_of_lt_of_le hnamed.left (turn_keyed hq t).right, ?_⟩
      intro v hv
      rcases building_lineage hq hv with hnew | ⟨b, hb, _, htype⟩
      · exact absurd hnamed.left (Nat.not_lt.mpr hnew)
      · have hreal := hnamed.right b hb
        unfold IsDropoff at hreal ⊢
        rw [htype]
        exact hreal

omit [Scalar F] in
/-- A drop-off that the search has found. -/
theorem namesDropoff_found (hq : Keyed q) {key : Nat} {camp : Building F}
    (hcamp : q.buildings.lookup key = some camp) (hreal : IsDropoff camp) :
    q.NamesDropoff camp.id := by
  have hkey := hq.buildings key camp hcamp
  rw [hkey.left]
  refine Or.inr ⟨hkey.right, ?_⟩
  intro b hb
  injection hcamp.symm.trans hb with heq
  rw [← heq]
  exact hreal

/-- A unit's drop-off when its action begins. -/
theorem Directed.stanceDropoff (hq : Directed q) {ω : IterOrder} {dt : F} {doAggro : Bool}
    {i : Nat} {u w : GameUnit F} {p : DungeonRoom F}
    (hout : Outing ω dt doAggro q i u p w) : q.NamesDropoff w.dropoffId := by
  rcases hout.stance.dropoff with hsame | hzero
  · rw [hsame]
    exact hq.dropoff i u hout.found
  · exact Or.inl hzero

/-- A unit's drop-off after its turn. -/
theorem Directed.actedDropoff (hq : Directed q) {ω : IterOrder} {dt : F} {doAggro : Bool}
    {i : Nat} {u w v : GameUnit F} {p : DungeonRoom F}
    (hout : Outing ω dt doAggro q i u p w) (hconduct : Conduct p dt w v) :
    q.NamesDropoff v.dropoffId := by
  rcases hconduct.dropoff with hsame | hzero | ⟨key, camp, hcamp, hid, hreal⟩
  · rw [hsame]
    exact hq.stanceDropoff hout
  · exact Or.inl hzero
  · rw [hid]
    rw [hout.solo.buildings] at hcamp
    exact namesDropoff_found hq.keyed hcamp hreal

theorem Directed.turn (hq : Directed q) {t : Turn F} (ht : StoresWell q t) :
    Directed (q.turn t) := by
  refine ⟨(turn_keyed hq.keyed t).left, ?_⟩
  intro i v hv
  apply NamesDropoff.turn hq.keyed
  cases unit_fate hq.keyed hv with
  | kept hu => exact hq.dropoff i v hu
  | spawned _ _ _ heq =>
      rw [heq]
      exact Or.inl rfl
  | trained _ _ _ heq =>
      rw [heq]
      exact Or.inl rfl
  | ordered hcmd _ hordered =>
      rcases hordered.dropoff with hzero | ⟨htype, hstore⟩
      · exact Or.inl hzero
      · rw [hstore]
        exact ht _ hcmd htype
  | acted _ hout hconduct _ => exact hq.actedDropoff hout hconduct
  | @struck _ _ _ _ _ u _ _ hu _ _ heq =>
      rw [heq]
      exact hq.dropoff i u hu

/-- A building that is chosen can be used, if the one that is named is a drop-off. -/
theorem chosenDropoff_spec {ω : IterOrder} {w : GameUnit F} {camp : Building F}
    (hw : w.dropoffId = 0 ∨
      forall b, q.buildings.lookup w.dropoffId = some b -> IsDropoff b)
    (h : q.chosenDropoff ω w = some camp) :
    IsDropoff camp ∧ camp.team = w.team ∧ camp.underConstruction = false := by
  unfold chosenDropoff at h
  split at h
  · rename_i named hnamed
    injection h with heq
    subst heq
    unfold namedDropoff at hnamed
    split at hnamed
    · rename_i hne
      split at hnamed
      · cases hnamed
      · rename_i b hb
        split at hnamed
        · cases hnamed
        · rename_i hfit
          injection hnamed with heq
          subst heq
          rw [not_or, not_not, Bool.not_eq_true] at hfit
          rcases hw with hzero | hreal
          · exact absurd hzero hne
          · exact ⟨hreal b hb, hfit.right, hfit.left⟩
    · cases hnamed
  · rcases findNearestDropoff_spec h with ⟨_, _, hteam, hfinished, hreal⟩
    exact ⟨hreal, hteam, hfinished⟩

theorem Directed.stores (hq : Directed q) (t : Turn F) : StoresAtDropoff q t := by
  rintro ω dt doAggro i rfl ⟨uid, hchanged⟩
  rcases stepUnit_cases ω dt doAggro q i with ⟨heq, _⟩ | ⟨u, p, w, hout, _, haction⟩
  · rw [heq] at hchanged
    exact absurd rfl hchanged
  · have hsame := hout.solo.playerRes
    cases haction with
    | rests hsolo _ _ =>
        rw [hsolo.playerRes, hsame] at hchanged
        exact absurd rfl hchanged
    | strikesUnit _ _ _ _ _ _ _ hres _ _ =>
        rw [hres, hsame] at hchanged
        exact absurd rfl hchanged
    | strikesBuilding _ _ _ _ _ _ _ hres _ _ =>
        rw [hres, hsame] at hchanged
        exact absurd rfl hchanged
    | builds _ _ _ _ _ _ _ hres _ _ =>
        rw [hres, hsame] at hchanged
        exact absurd rfl hchanged
    | @banks _ camp _ _ htask hcamp hthere _ _ _ _ _ _ =>
        have hw : w.dropoffId = 0 ∨
            forall b, p.buildings.lookup w.dropoffId = some b -> IsDropoff b := by
          rw [hout.solo.buildings]
          rcases hq.stanceDropoff hout with hzero | ⟨_, hreal⟩
          · exact Or.inl hzero
          · exact Or.inr hreal
        rcases chosenDropoff_spec hw hcamp with ⟨hreal, hteam, hfinished⟩
        exact ⟨u, p, w, camp, hout, htask, hcamp, hthere, hreal, hteam, hfinished⟩

end Dropoffs

omit [Scalar F] in
theorem create_directed (roomId : Nat) (roomName : String) (maxPlayers : Nat) :
    Directed (create roomId roomName maxPlayers : DungeonRoom F) := by
  refine ⟨keyed_create roomId roomName maxPlayers, ?_⟩
  intro i u hu
  cases hu

/--
In a run in which every Store command that is applied names a drop-off, ledgers
are credited only at finished camps and crystals of the worker's team.
-/
theorem stores_at_dropoffs (roomId : Nat) (roomName : String) (maxPlayers : Nat)
    (calls : List (RoomCall F))
    (hstores : Throughout turn StoresWell (create roomId roomName maxPlayers)
      (scriptOf (create roomId roomName maxPlayers) calls)) :
    Throughout turn StoresAtDropoff (create roomId roomName maxPlayers)
      (scriptOf (create roomId roomName maxPlayers) calls) :=
  hstores.derive (fun _ t hq ht => ⟨Directed.turn hq ht, Directed.stores hq t⟩)
    (create_directed roomId roomName maxPlayers)

/-- A villager picks up what lies next to a building, and is told to store it there. -/
def delivery (buildingType : Nat) : List (RoomCall Rat) :=
  [RoomCall.addPlayer 1,
    RoomCall.spawnBuilding 1 0 buildingType ⟨0, 0, 0⟩ 0 false,
    RoomCall.spawnUnit 1 0 kUnitVillager ⟨18 / 10, 0, 0⟩ 100 6 0,
    RoomCall.spawnResourceDrop kRawWood ⟨0, 0, 0⟩ 5,
    RoomCall.enqueueCommand
      ⟨CommandType.pickup, 1, 0, [2], ⟨0, 0, 0⟩, [], 3, 0, 0⟩,
    RoomCall.applyPending,
    RoomCall.step IterOrder.stored (1 / 10),
    RoomCall.enqueueCommand
      ⟨CommandType.store, 1, 1, [2], ⟨0, 0, 0⟩, [], 1, 0, 0⟩,
    RoomCall.applyPending]

/-- The room before the step in which the load is stored in barracks. -/
def depot : DungeonRoom Rat := (delivery kBuildingBarracks).foldl call (create 1 "depot" 2)

/-- The load is credited at the barracks. -/
theorem barracks_credit_load :
    ¬ Throughout turn StoresAtDropoff (create 1 "depot" 2)
      (scriptOf (create 1 "depot" 2)
        (delivery kBuildingBarracks ++ [RoomCall.step IterOrder.stored (1 / 10)])) := by
  intro h
  have hstep := throughout_step h
  change Throughout turn StoresAtDropoff depot
    (stepTurns IterOrder.stored (1 / 10) depot) at hstep
  have hvisit : IterOrder.stored.visit depot.units = [2] := by decide +kernel
  have hscans : depot.scans = false := by decide +kernel
  have hchanged : (stepUnit IterOrder.stored (1 / 10) false (depot.turn Turn.scanTick)
      2).playerRes.lookup 1 ≠ (depot.turn Turn.scanTick).playerRes.lookup 1 := by
    decide +kernel
  rw [stepTurns, throughout_cons, hvisit, hscans] at hstep
  rcases hstep.right [] _ _ rfl IterOrder.stored (1 / 10) false 2 rfl ⟨1, hchanged⟩ with
    ⟨u, p, w, camp, hout, _, hcamp, _, hreal, _, _⟩
  have hkind : ((depot.turn Turn.scanTick).units.lookup 2).map (fun u =>
      (readied IterOrder.stored (1 / 10) false (depot.turn Turn.scanTick) 2 u).units.lookup
        2 |>.map fun w => ((readied IterOrder.stored (1 / 10) false
          (depot.turn Turn.scanTick) 2 u).chosenDropoff IterOrder.stored w).map
            Building.buildingType) = some (some (some kBuildingBarracks)) := by
    decide +kernel
  have hfound : (depot.turn Turn.scanTick).units.lookup 2 = some u := hout.found
  have hstart : p = readied IterOrder.stored (1 / 10) false (depot.turn Turn.scanTick) 2 u :=
    hout.start
  rw [hfound, Option.map_some, ← hstart, hout.solo.own, Option.map_some, hcamp,
    Option.map_some] at hkind
  have htype : camp.buildingType = kBuildingBarracks := by
    injection hkind with hkind
    injection hkind with hkind
    injection hkind
  unfold IsDropoff at hreal
  rw [htype] at hreal
  exact absurd hreal (by decide)

/-- Told to store it in a camp, it does so in the next step, and the ledger is credited. -/
theorem camp_credits_load :
    let stored := delivery kBuildingResourceCamp ++ [RoomCall.step IterOrder.stored (1 / 10)]
    (((delivery kBuildingResourceCamp).foldl call (create 1 "depot" 2)).playerRes.lookup
        1).map PlayerRes.wood = some 0 ∧
      ((stored.foldl call (create 1 "depot" 2)).playerRes.lookup 1).map PlayerRes.wood =
        some 5 ∧
      Throughout turn StoresAtDropoff (create 1 "depot" 2)
        (scriptOf (create 1 "depot" 2) stored) := by
  intro stored
  refine ⟨by decide +kernel, by decide +kernel, ?_⟩
  exact stores_at_dropoffs 1 "depot" 2 stored (by decide +kernel)

/-!
## Sites
-/

/-- Facts about comparison and subtraction that rounded and exact arithmetic share. -/
structure HitsLower (F : Type) [Scalar F] : Prop where
  irrefl : forall x : F, ¬ x < x
  hit : forall x : F, ¬ x ≤ lit 0 -> ¬ x < max (lit 0) (x - kAttackDamage)

/--
Every unit that a Construct command sends is on the team of the site, and every
unit that an accepted Build command sends is on the team of the new site.
-/
def SendsOwn (q : DungeonRoom F) (t : Turn F) : Prop :=
  forall cmd, t = Turn.command cmd -> forall j, j ∈ cmd.unitIds ->
    forall u, q.units.lookup j = some u -> u.ownerUid = cmd.ownerUid ->
      (cmd.type = CommandType.construct ->
        forall b, q.buildings.lookup cmd.targetEntity = some b ->
          b.underConstruction = true -> u.team = b.team) ∧
      (cmd.type = CommandType.build -> (exists res, MayBuild q cmd res) ->
        u.team = q.teamOf cmd.ownerUid)

instance (q : DungeonRoom F) (t : Turn F) : Decidable (SendsOwn q t) :=
  decidableOfCommand _ t

/-- A building gains progress or hit points in the turn of a living unit of its team only. -/
def BuiltByOwn (q : DungeonRoom F) (t : Turn F) : Prop :=
  forall j b v, q.buildings.lookup j = some b ->
    (q.turn t).buildings.lookup j = some v ->
    (b.constructedPercent < v.constructedPercent ∨ b.hp < v.hp) ->
    exists ω dt doAggro i u, t = Turn.unit ω dt doAggro i ∧
      q.units.lookup i = some u ∧ ¬ u.hp ≤ lit 0 ∧ u.team = b.team

/-- Whoever works on a site is on its team. -/
def OwnSite (q : DungeonRoom F) (u : GameUnit F) : Prop :=
  u.task = WorkerTask.constructing -> u.buildTargetId < q.nextEntityId ∧
    forall b, q.buildings.lookup u.buildTargetId = some b -> b.team = u.team

structure Manned (q : DungeonRoom F) : Prop where
  keyed : Keyed q
  sites : forall i u, q.units.lookup i = some u -> OwnSite q u

section Sites

variable {q : DungeonRoom F}

theorem OwnSite.turn (hq : Keyed q) {u : GameUnit F} (h : OwnSite q u) (t : Turn F) :
    OwnSite (q.turn t) u := by
  intro htask
  rcases h htask with ⟨hlt, hteam⟩
  refine ⟨Nat.lt_of_lt_of_le hlt (turn_keyed hq t).right, ?_⟩
  intro v hv
  rcases building_lineage hq hv with hnew | ⟨b, hb, hsame, _⟩
  · exact absurd hlt (Nat.not_lt.mpr hnew)
  · rw [hsame]
    exact hteam b hb

/-- The site of a unit that was ordered about, in the room after the command. -/
theorem ordered_site (hq : Keyed q) {cmd : PendingCommand F} {i : Nat} {u v : GameUnit F}
    (hu : q.units.lookup i = some u) (hordered : Ordered q cmd i u v)
    (hown : SendsOwn q (Turn.command cmd)) : OwnSite (q.turn (Turn.command cmd)) v := by
  intro htask
  rcases hown cmd rfl i hordered.listed u hu hordered.owner with ⟨hconstruct, hbuild⟩
  rw [hordered.body.team]
  cases hordered.site htask with
  | @construct b htype hid hb hsite =>
      have hteam : u.team = b.team := hconstruct htype b (hid ▸ hb) hsite
      have hbound := (hq.buildings _ b hb).right
      refine ⟨Nat.lt_of_lt_of_le hbound (turn_keyed hq (Turn.command cmd)).right, ?_⟩
      intro c hc
      rcases building_lineage hq hc with hnew | ⟨b', hb', hsame, _⟩
      · exact absurd hbound (Nat.not_lt.mpr hnew)
      · injection hb.symm.trans hb' with heq
        rw [hsame, ← heq, hteam]
  | @build res htype hid hmay =>
      rcases (allOrNothing q cmd).build htype with ⟨_, hfounds⟩ | ⟨hnot, _⟩
      · rcases hfounds.site with ⟨b, _, _, hteam, _, _, hlook⟩
        have hnew : (q.turn (Turn.command cmd)).buildings.lookup v.buildTargetId = some b := by
          rw [hid]
          exact (hlook q.nextEntityId).trans (if_pos rfl)
        refine ⟨((turn_keyed hq (Turn.command cmd)).left.buildings _ b hnew).right, ?_⟩
        intro c hc
        injection hnew.symm.trans hc with heq
        rw [← heq, hteam, hbuild htype ⟨res, hmay⟩]
      · exact absurd ⟨res, hmay⟩ hnot

theorem Manned.turn (hq : Manned q) {t : Turn F} (ht : SendsOwn q t) :
    Manned (q.turn t) := by
  refine ⟨(turn_keyed hq.keyed t).left, ?_⟩
  intro i v hv
  cases unit_fate hq.keyed hv with
  | kept hu => exact (hq.sites i v hu).turn hq.keyed t
  | spawned _ _ _ heq =>
      rw [heq]
      intro htask
      cases htask
  | trained _ _ _ heq =>
      rw [heq]
      intro htask
      cases htask
  | ordered hcmd hu hordered =>
      subst hcmd
      exact ordered_site hq.keyed hu hordered ht
  | @acted ω dt doAggro u w p _ hout hconduct _ =>
      refine OwnSite.turn hq.keyed ?_ t
      intro htask
      rcases hconduct.site htask with ⟨hwtask, hwsite⟩
      rcases hout.stance.site hwtask with ⟨hutask, husite⟩
      have hteam := hconduct.body.team.trans hout.stance.body.team
      rw [hwsite, husite, hteam]
      exact hq.sites i u hout.found hutask
  | @struck _ _ _ _ _ u _ _ hu _ _ heq =>
      rw [heq]
      exact (hq.sites i u hu).turn hq.keyed t

theorem Manned.builds (hlower : HitsLower F) (hq : Manned q) (t : Turn F) :
    BuiltByOwn q t := by
  intro j b v hb hv hgain
  have hsame : forall c, q.buildings.lookup j = some c -> c = b := by
    intro c hc
    injection hc.symm.trans hb
  cases site_fate hq.keyed hv with
  | kept _ hc heq =>
      rw [heq, hsame _ hc] at hgain
      rcases hgain with hgain | hgain
      · exact absurd hgain (hlower.irrefl _)
      · exact absurd hgain (hlower.irrefl _)
  | new hnone _ _ => cases hnone.symm.trans hb
  | struck _ hc halive _ heq =>
      rw [hsame _ hc] at halive heq
      rw [heq] at hgain
      rcases hgain with hgain | hgain
      · exact absurd hgain (hlower.irrefl _)
      · exact absurd hgain (hlower.hit _ halive)
  | @built ω dt doAggro i u _ ht hu halive htask hid _ hc _ _ =>
      rw [hsame _ hc] at hc
      refine ⟨ω, dt, doAggro, i, u, ht, hu, halive, ?_⟩
      exact ((hq.sites i u hu htask).right b (hid ▸ hb)).symm

end Sites

omit [Scalar F] in
theorem create_manned (roomId : Nat) (roomName : String) (maxPlayers : Nat) :
    Manned (create roomId roomName maxPlayers : DungeonRoom F) := by
  refine ⟨keyed_create roomId roomName maxPlayers, ?_⟩
  intro i u hu
  cases hu

/--
In a run in which every unit that is sent to a site is on its team, only living
units of its team advance a building.
-/
theorem built_by_own (hlower : HitsLower F) (roomId : Nat) (roomName : String)
    (maxPlayers : Nat) (calls : List (RoomCall F))
    (hsends : Throughout turn SendsOwn (create roomId roomName maxPlayers)
      (scriptOf (create roomId roomName maxPlayers) calls)) :
    Throughout turn BuiltByOwn (create roomId roomName maxPlayers)
      (scriptOf (create roomId roomName maxPlayers) calls) :=
  hsends.derive (fun _ t hq ht => ⟨Manned.turn hq ht, Manned.builds hlower hq t⟩)
    (create_manned roomId roomName maxPlayers)

/-- A villager is sent to a site of the other team. -/
def meddling : List (RoomCall Rat) :=
  [RoomCall.spawnBuilding 1 0 kBuildingResourceCamp ⟨0, 0, 0⟩ 0 true,
    RoomCall.spawnUnit 2 1 kUnitVillager ⟨0, 0, 0⟩ 100 6 0,
    RoomCall.enqueueCommand
      ⟨CommandType.construct, 2, 0, [2], ⟨0, 0, 0⟩, [], 1, 0, 0⟩,
    RoomCall.applyPending]

/-- The room before the step in which it builds there. -/
def outpost : DungeonRoom Rat := meddling.foldl call (create 1 "outpost" 2)

/-- It builds there. -/
theorem other_team_builds :
    ¬ Throughout turn BuiltByOwn (create 1 "outpost" 2)
      (scriptOf (create 1 "outpost" 2)
        (meddling ++ [RoomCall.step IterOrder.stored (1 / 10)])) := by
  intro h
  have hstep := throughout_step h
  change Throughout turn BuiltByOwn outpost
    (stepTurns IterOrder.stored (1 / 10) outpost) at hstep
  have hvisit : IterOrder.stored.visit outpost.units = [2] := by decide +kernel
  have hscans : outpost.scans = false := by decide +kernel
  have hbefore : ((outpost.turn Turn.scanTick).buildings.lookup 1).map
      (fun b => (b.constructedPercent, b.team)) = some (0, 0) := by decide +kernel
  have hafter : ((stepUnit IterOrder.stored (1 / 10) false (outpost.turn Turn.scanTick)
      2).buildings.lookup 1).map Building.constructedPercent = some (5 / 2) := by
    decide +kernel
  have hunit : ((outpost.turn Turn.scanTick).units.lookup 2).map GameUnit.team = some 1 := by
    decide +kernel
  rcases Option.map_eq_some_iff.mp hbefore with ⟨b, hb, hbeq⟩
  rcases Option.map_eq_some_iff.mp hafter with ⟨v, hv, hveq⟩
  rcases Option.map_eq_some_iff.mp hunit with ⟨u, hu, hteam⟩
  injection hbeq with hpercent hbteam
  rw [stepTurns, throughout_cons, hvisit, hscans] at hstep
  have hgain : b.constructedPercent < v.constructedPercent := by
    rw [hpercent, hveq]
    decide +kernel
  rcases hstep.right [] _ _ rfl 1 b v hb hv (Or.inl hgain) with
    ⟨_, _, _, i, u', hturn, hu', _, hsame⟩
  injection hturn with _ _ _ hi
  rw [← hi] at hu'
  injection hu.symm.trans hu' with heq
  rw [← heq, hteam, hbteam] at hsame
  cases hsame

theorem hitsLower_rat : HitsLower Rat := by
  refine ⟨fun x => lt_irrefl x, ?_⟩
  intro x hx hless
  have hpos : (0 : Rat) < x := not_le.mp hx
  unfold Scalar.max at hless
  split at hless
  · exact absurd hless (not_lt.mpr (sub_le_self x (by decide)))
  · exact absurd hless (not_lt.mpr hpos.le)

/-- A villager is sent to a site of its own team. -/
def construction : List (RoomCall Rat) :=
  [RoomCall.spawnBuilding 1 0 kBuildingResourceCamp ⟨0, 0, 0⟩ 0 true,
    RoomCall.spawnUnit 1 0 kUnitVillager ⟨0, 0, 0⟩ 100 6 0,
    RoomCall.enqueueCommand
      ⟨CommandType.construct, 1, 0, [2], ⟨0, 0, 0⟩, [], 1, 0, 0⟩,
    RoomCall.applyPending]

/-- In the next step it builds there. -/
theorem own_team_builds :
    let built := construction ++ [RoomCall.step IterOrder.stored (1 / 10)]
    ((construction.foldl call (create 1 "site" 2)).buildings.lookup 1).map
        Building.constructedPercent = some 0 ∧
      ((built.foldl call (create 1 "site" 2)).buildings.lookup 1).map
        Building.constructedPercent = some (5 / 2) ∧
      Throughout turn BuiltByOwn (create 1 "site" 2)
        (scriptOf (create 1 "site" 2) built) := by
  intro built
  refine ⟨by decide +kernel, by decide +kernel, ?_⟩
  exact built_by_own hitsLower_rat 1 "site" 2 built (by decide +kernel)

end DungeonRoom

end RtsGame
