import RtsGame.Room.Battle
import RtsGame.Room.LoadTypes
import RtsGame.Shard.Moves

/-!
# The start of a game

The loop that sets up the bases works on an empty world.  Its invariant lists
the players whose bases are done and adds up the resources in the fields; at
the end it is turned into the invariants of a game in progress.
-/

namespace RtsGame

open Scalar

namespace DungeonRoom

variable {F : Type}

/-- A room in which nothing has been spawned. -/
structure Lobby (r : DungeonRoom F) : Prop where
  units : r.units = ∅
  buildings : r.buildings = ∅
  fields : r.fields = ∅
  drops : r.drops = ∅
  unwrapped : r.wrapped = false

variable [Scalar F]

/-- A room in which the bases of some players have been set up. -/
structure Prepared (done : List RoomPlayerState) (amount : Nat)
    (r : DungeonRoom F) : Prop where
  keyed : Keyed r
  units : r.units.AllAt fun _ u => u.carriedAmount = 0 ∧
    u.task = WorkerTask.none ∧
    exists p, p ∈ done ∧ u.ownerUid = p.uid ∧ u.team = p.team
  buildings : r.buildings.AllAt fun _ b => b.buildingType = kBuildingCrystal ∧
    b.underConstruction = false ∧ b.hp = crystalHp ∧
    exists p, p ∈ done ∧ b.ownerUid = p.uid ∧ b.team = p.team
  crystals : forall p, p ∈ done -> exists id b,
    r.buildings.lookup id = some b ∧ b.ownerUid = p.uid ∧ b.team = p.team
  fields : r.fields.AllAt fun _ f => 0 < f.amountLeft.toNat ∧ Real f.raw
  fieldTotal : r.fields.total (fun f => f.amountLeft.toNat) = amount
  drops : r.drops = ∅
  unwrapped : r.wrapped = false

namespace Prepared

variable {done : List RoomPlayerState} {amount : Nat} {r : DungeonRoom F}

theorem spawnCrystal (h : Prepared done amount r) (p : RoomPlayerState)
    (pos : Vec3f F) (yaw : F) :
    Prepared (p :: done) amount
      (r.spawnBuilding p.uid p.team kBuildingCrystal pos yaw false) := by
  have hmore : forall {uid team : Nat},
      (exists q, q ∈ done ∧ uid = q.uid ∧ team = q.team) ->
        exists q, q ∈ p :: done ∧ uid = q.uid ∧ team = q.team := by
    rintro uid team ⟨q, hq, huid, hteam⟩
    exact ⟨q, List.mem_cons_of_mem p hq, huid, hteam⟩
  refine ⟨h.keyed.spawnBuilding _ _ _ _ _ _, ?_, ?_, ?_, h.fields, h.fieldTotal,
    h.drops, h.unwrapped⟩
  · exact h.units.mono fun _ u hu => ⟨hu.1, hu.2.1, hmore hu.2.2⟩
  · have hold : r.buildings.AllAt fun _ b =>
        b.buildingType = kBuildingCrystal ∧ b.underConstruction = false ∧
          b.hp = crystalHp ∧
          exists q, q ∈ p :: done ∧ b.ownerUid = q.uid ∧ b.team = q.team :=
      h.buildings.mono fun _ b hb => ⟨hb.1, hb.2.1, hb.2.2.1, hmore hb.2.2.2⟩
    exact hold.insert ⟨rfl, rfl, rfl, p, List.mem_cons_self, rfl, rfl⟩
  · intro q hq
    change exists id b, (r.buildings.insert r.nextEntityId _).lookup id =
      some b ∧ _
    rcases List.mem_cons.mp hq with rfl | hq
    · exact ⟨r.nextEntityId, _, AList.lookup_insert r.buildings, rfl, rfl⟩
    · rcases h.crystals q hq with ⟨id, b, hb, howner, hteam⟩
      have hlt := (h.keyed.buildings id b hb).right
      refine ⟨id, b, ?_, howner, hteam⟩
      rw [AList.lookup_insert_ne (by lia)]
      exact hb

theorem spawnStartUnit (h : Prepared done amount r)
    (layout : InitialTeamLayout F) {p : RoomPlayerState} (hp : p ∈ done)
    (i : Nat) : Prepared done amount (RtsGame.spawnStartUnit layout p r i) := by
  refine ⟨h.keyed.spawnUnit _ _ _ _ _ _ _, ?_, h.buildings, h.crystals, h.fields,
    h.fieldTotal, h.drops, h.unwrapped⟩
  exact h.units.insert ⟨rfl, rfl, p, hp, rfl, rfl⟩

theorem spawnStartField (h : Prepared done amount r)
    (layout : InitialTeamLayout F) (entry : Nat × Rat × Rat × UInt32)
    (hpos : 0 < entry.2.2.2.toNat) (hreal : Real entry.1) :
    Prepared done (amount + entry.2.2.2.toNat)
      (RtsGame.spawnStartField layout r entry) := by
  refine ⟨h.keyed.spawnResourceField _ _ _, h.units, h.buildings, h.crystals, ?_,
    ?_, h.drops, h.unwrapped⟩
  · exact h.fields.insert ⟨hpos, hreal⟩
  · change Table.total _ (r.fields.insert r.nextEntityId _) = _
    rw [Table.total_insert_new _ (h.keyed.fields_fresh (Nat.le_refl _)),
      h.fieldTotal]
    exact Nat.add_comm _ _

/-- The loop over the start units. -/
theorem startUnits (layout : InitialTeamLayout F) {p : RoomPlayerState}
    (hp : p ∈ done) (indices : List Nat) {r : DungeonRoom F}
    (h : Prepared done amount r) :
    Prepared done amount
      (indices.foldl (RtsGame.spawnStartUnit layout p) r) := by
  induction indices generalizing r with
  | nil =>
      exact h
  | cons i rest ih =>
      exact ih (h.spawnStartUnit layout hp i)

/-- The loop over the start fields. -/
theorem startFields (layout : InitialTeamLayout F)
    (entries : List (Nat × Rat × Rat × UInt32))
    (hentries : forall e, e ∈ entries -> 0 < e.2.2.2.toNat ∧ Real e.1)
    {r : DungeonRoom F} {amount : Nat} (h : Prepared done amount r) :
    Prepared done (amount + (entries.map fun e => e.2.2.2.toNat).sum)
      (entries.foldl (RtsGame.spawnStartField layout) r) := by
  induction entries generalizing r amount with
  | nil =>
      exact h
  | cons e rest ih =>
      rcases hentries e List.mem_cons_self with ⟨hpos, hreal⟩
      have hrest := ih (fun e' he' => hentries e' (List.mem_cons_of_mem e he'))
        (h.spawnStartField layout e hpos hreal)
      rw [List.map_cons, List.sum_cons, ← Nat.add_assoc]
      exact hrest

end Prepared

/-- The resources in the fields of one base. -/
def baseFields : Nat := 3950

theorem startFields_real :
    forall e, e ∈ startFields -> 0 < e.2.2.2.toNat ∧ Real e.1 := by
  unfold startFields Real
  decide

theorem startFields_sum :
    (startFields.map fun e => e.2.2.2.toNat).sum = baseFields := by
  decide

theorem Prepared.spawnBase {done : List RoomPlayerState} {amount : Nat}
    {r : DungeonRoom F} (h : Prepared done amount r) (p : RoomPlayerState) :
    Prepared (p :: done) (amount + baseFields) (RtsGame.spawnBase r p) := by
  unfold RtsGame.spawnBase
  dsimp only
  have hcrystal := h.spawnCrystal p
    (initialLayoutForTeam p.team : InitialTeamLayout F).barracks
    (directionYaw (initialLayoutForTeam p.team : InitialTeamLayout F).forward)
  have hunits := Prepared.startUnits
    (initialLayoutForTeam p.team : InitialTeamLayout F)
    (List.mem_cons_self (a := p) (l := done)) (List.range kStartUnitsPerPlayer)
    hcrystal
  have hfields := Prepared.startFields
    (initialLayoutForTeam p.team : InitialTeamLayout F) RtsGame.startFields
    startFields_real hunits
  rw [startFields_sum] at hfields
  exact hfields

/-- The loop over the players. -/
theorem Prepared.spawnBases (players : List RoomPlayerState)
    {done : List RoomPlayerState} {amount : Nat} {r : DungeonRoom F}
    (h : Prepared done amount r) :
    Prepared (players.reverse ++ done) (amount + players.length * baseFields)
      (players.foldl RtsGame.spawnBase r) := by
  induction players generalizing r done amount with
  | nil =>
      simpa using h
  | cons p rest ih =>
      have hrest := ih (h.spawnBase p)
      simpa [Nat.add_mul, Nat.add_assoc, Nat.add_comm, Nat.add_left_comm] using hrest

theorem Lobby.prepared {r : DungeonRoom F} (h : Lobby r)
    (hr : Keyed r) : Prepared [] 0 r := by
  refine ⟨hr, ?_, ?_, ?_, ?_, ?_, h.drops, h.unwrapped⟩
  · rw [h.units]
    exact Table.allAt_empty _
  · rw [h.buildings]
    exact Table.allAt_empty _
  · intro p hp
    cases hp
  · rw [h.fields]
    exact Table.allAt_empty _
  · rw [h.fields]
    rfl

/-!
## The first moment of a game
-/

omit [Scalar F] in
theorem all_eq_of_dedup {teams : List Nat} (h : teams.dedup.length < 2)
    {s t : Nat} (hs : s ∈ teams) (ht : t ∈ teams) : s = t := by
  rw [← List.mem_dedup] at hs ht
  match hd : teams.dedup with
  | [] =>
      rw [hd] at hs
      cases hs
  | [x] =>
      rw [hd, List.mem_singleton] at hs ht
      rw [hs, ht]
  | x :: y :: rest =>
      rw [hd] at h
      simp only [List.length_cons] at h
      lia

omit [Scalar F] in
theorem dedup_of_all_eq {teams : List Nat}
    (h : forall s t, s ∈ teams -> t ∈ teams -> s = t) :
    teams.dedup.length < 2 := by
  by_contra hmany
  have hlong : 2 ≤ teams.dedup.length := Nat.le_of_not_lt hmany
  rcases exists_other (List.nodup_dedup teams) hlong 0 with ⟨s, hs, _⟩
  rcases exists_other (List.nodup_dedup teams) hlong s with ⟨t, ht, hne⟩
  exact hne (h t s (List.mem_dedup.mp ht) (List.mem_dedup.mp hs))

/-- What the start of a game leads to. -/
structure Started (r : DungeonRoom F) : Prop where
  stocked : Stocked r
  aimed : Aimed r
  running : Running r

section Begin

variable {r : DungeonRoom F} {done : List RoomPlayerState}

/-- Everybody's base is set up, and everybody has a ledger. -/
structure Ready (done : List RoomPlayerState) (r : DungeonRoom F) : Prop where
  prepared : Prepared done (done.length * baseFields) r
  few : done.length ≤ 4
  players : forall uid p, r.players.lookup uid = some p -> p ∈ done
  listed : forall p, p ∈ done -> r.players.lookup p.uid = some p
  own : r.players.AllAt fun uid p => p.uid = uid
  ledgers : forall uid, uid ∈ r.playerRes <-> uid ∈ r.players
  size : r.playerRes.size ≤ 4

namespace Ready

theorem represented (h : Ready done r) {p : RoomPlayerState} (hp : p ∈ done) :
    r.beginBattle.clearFrameChanges.Represented p.team :=
  ⟨p.uid, p, h.listed p hp, rfl⟩

theorem has_ledger (h : Ready done r) {p : RoomPlayerState} (hp : p ∈ done) :
    p.uid ∈ r.beginBattle.playerRes := by
  rw [mem_beginBattle_playerRes, h.ledgers]
  exact Table.mem_of_lookup (h.listed p hp)

/-- Every ledger holds the same few resources. -/
theorem ledger_total (h : Ready done r) :
    r.beginBattle.playerRes.total
      (fun p => p.food.toNat + p.wood.toNat + p.gold.toNat) ≤ 4 * 500 := by
  have hsize : r.beginBattle.playerRes.size = r.playerRes.size :=
    Table.size_congr fun uid => mem_beginBattle_playerRes r uid
  have htotal := Table.total_le_size_mul
    (f := fun p : PlayerRes => p.food.toNat + p.wood.toNat + p.gold.toNat)
    (c := 500) (m := r.beginBattle.playerRes) (by
      intro uid p hp
      rw [beginBattle_lookup] at hp
      split at hp
      · injection hp with hpair
        rw [← hpair]
        decide
      · cases hp)
  have hfew := h.size
  rw [hsize] at htotal
  calc
    _ ≤ r.playerRes.size * 500 := htotal
    _ ≤ 4 * 500 := Nat.mul_le_mul_right 500 hfew

theorem load_total (h : Ready done r) :
    r.units.total (fun u => u.carriedAmount.toNat) = 0 := by
  have htotal := Table.total_le_size_mul
    (f := fun u : GameUnit F => u.carriedAmount.toNat) (c := 0) (m := r.units) (by
      intro id u hu
      rw [(h.prepared.units id u hu).1]
      exact Nat.le_refl 0)
  lia

theorem stocked (h : Ready done r) :
    Stocked r.beginBattle.clearFrameChanges := by
  have hprep := h.prepared
  refine ⟨hprep.keyed.congr rfl rfl rfl rfl rfl, ?_, hprep.fields, ?_,
    hprep.unwrapped, ?_⟩
  · intro id u hu
    rw [(hprep.units id u hu).1]
    exact ⟨Nat.zero_le 10, Or.inl rfl⟩
  · change r.drops.AllAt _
    rw [hprep.drops]
    exact Table.allAt_empty _
  · have hledgers := h.ledger_total
    have hloads := h.load_total
    have hfew := Nat.mul_le_mul_right baseFields h.few
    have hdrops : r.drops.total (fun d => d.amount.toNat) = 0 := by
      rw [hprep.drops]
      rfl
    have hsum : stock every r.beginBattle.clearFrameChanges =
        r.fields.total (fun f => f.amountLeft.toNat) +
          r.drops.total (fun d => d.amount.toNat) +
          r.units.total (fun u => u.carriedAmount.toNat) +
          r.beginBattle.playerRes.total
            (fun p => p.food.toNat + p.wood.toNat + p.gold.toNat) := rfl
    rw [hsum, hprep.fieldTotal, hdrops, hloads]
    unfold baseFields at hfew ⊢
    lia

theorem aimed (h : Ready done r) : Aimed r.beginBattle.clearFrameChanges := by
  intro id u hu htask
  rw [(h.prepared.units id u hu).2.1] at htask
  cases htask

theorem owned (h : Ready done r) : Owned r.beginBattle.clearFrameChanges := by
  constructor
  · intro id u hu
    rcases (h.prepared.units id u hu).2.2 with ⟨p, hp, howner, _⟩
    rw [howner]
    exact h.has_ledger hp
  · intro id b hb
    rcases (h.prepared.buildings id b hb).2.2.2 with ⟨p, hp, howner, _⟩
    rw [howner]
    exact h.has_ledger hp

theorem battle (h : Ready done r) :
    Battle r.beginBattle.clearFrameChanges := by
  constructor
  · intro id u hu
    rcases (h.prepared.units id u hu).2.2 with ⟨p, hp, _, hteam⟩
    rw [hteam]
    exact h.represented hp
  · intro id b hb
    rcases (h.prepared.buildings id b hb).2.2.2 with ⟨p, hp, _, hteam⟩
    rw [hteam]
    exact h.represented hp
  · intro id b hb _
    rcases h.prepared.buildings id b hb with ⟨_, hdone, _, p, hp, howner, hteam⟩
    refine ⟨hdone, p, ?_, hteam.symm⟩
    rw [howner]
    exact h.listed p hp
  · intro uid huid
    exact (h.ledgers uid).mp ((mem_beginBattle_playerRes r uid).mp huid)

/-- All crystals stand. -/
theorem aliveCrystalTeams (h : Ready done r) :
    r.beginBattle.clearFrameChanges.aliveCrystalTeams =
      ((r.buildings.entries.filter fun e =>
        e.2.buildingType = kBuildingCrystal).map fun e => e.2.team).dedup := by
  have hfilter : r.buildings.entries.filter (fun e =>
        decide (e.2.buildingType = kBuildingCrystal ∧ e.2.hp > lit 0)) =
      r.buildings.entries.filter (fun e =>
        decide (e.2.buildingType = kBuildingCrystal)) := by
    apply List.filter_congr
    intro e he
    have hhp := (h.prepared.buildings e.1 e.2
      (Table.lookup_of_mem_entries he)).2.2.1
    rw [hhp]
    simp [crystalHp_pos]
  unfold DungeonRoom.aliveCrystalTeams
  change ((r.buildings.entries.filter _).map _).dedup = _
  rw [hfilter]

theorem sides (h : Ready done r) : Sides r.beginBattle.clearFrameChanges := by
  have halive := h.aliveCrystalTeams
  have hcount : r.beginBattle.clearFrameChanges.initialCrystalTeamCount =
      r.beginBattle.clearFrameChanges.aliveCrystalTeams.length := by
    rw [halive]
    rfl
  by_cases hmany : 2 ≤ r.beginBattle.clearFrameChanges.aliveCrystalTeams.length
  · exact Sides.contest (by lia)
  · have hfew : r.beginBattle.clearFrameChanges.aliveCrystalTeams.length < 2 :=
      Nat.lt_of_not_le hmany
    have hteams : forall p q, p ∈ done -> q ∈ done -> p.team = q.team := by
      rw [halive] at hfew
      have hmem : forall p, p ∈ done ->
          p.team ∈ (r.buildings.entries.filter fun e =>
            e.2.buildingType = kBuildingCrystal).map fun e => e.2.team := by
        intro p hp
        rcases h.prepared.crystals p hp with ⟨id, b, hb, _, hteam⟩
        rw [List.mem_map]
        refine ⟨⟨id, b⟩, ?_, hteam⟩
        rw [List.mem_filter, decide_eq_true_eq]
        exact ⟨Table.mem_entries_of_lookup hb,
          (h.prepared.buildings id b hb).1⟩
      intro p q hp hq
      exact all_eq_of_dedup hfew (hmem p hp) (hmem q hq)
    refine Sides.peace (by lia) ?_ ⟨?_, ?_⟩
    · apply dedup_of_all_eq
      intro s t hs ht
      rcases List.mem_map.mp hs with ⟨e, he, rfl⟩
      rcases List.mem_map.mp ht with ⟨e', he', rfl⟩
      rcases (h.prepared.units e.1 e.2 (Table.lookup_of_mem_entries he)).2.2 with
        ⟨p, hp, _, hpteam⟩
      rcases (h.prepared.units e'.1 e'.2 (Table.lookup_of_mem_entries he')).2.2 with
        ⟨q, hq, _, hqteam⟩
      rw [hpteam, hqteam]
      exact hteams p q hp hq
    · intro u v p q hp hq
      exact hteams p q (h.players u p hp) (h.players v q hq)
    · intro uid p hp
      rcases h.prepared.crystals p (h.players uid p hp) with
        ⟨id, b, hb, howner, _⟩
      rcases h.prepared.buildings id b hb with ⟨hcrystal, _, hhp, _⟩
      exact ⟨id, b, hb, hcrystal, howner.trans (h.own uid p hp), hhp⟩

theorem started (h : Ready done r) :
    Started r.beginBattle.clearFrameChanges := by
  have hfought : Fought r.beginBattle.clearFrameChanges :=
    ⟨rfl, h.owned, h.battle, h.sides⟩
  refine ⟨h.stocked, h.aimed, hfought, ?_⟩
  intro hmany
  rw [h.aliveCrystalTeams]
  exact hmany

end Ready

end Begin

/-- The game that is started in a lobby. -/
theorem startGame_started (routes : Routes) (ω : RoomOrders)
    {r : DungeonRoom F} (hshape : RoomShape r) (h : Lobby r) :
    Started (LogicShard.startGame routes ω r).1 := by
  have hkeyed : Keyed (r.setStarted true) :=
    hshape.keyed.congr rfl rfl rfl rfl rfl
  have hlobby : Lobby (r.setStarted true) :=
    ⟨h.units, h.buildings, h.fields, h.drops, h.unwrapped⟩
  have hsame := (spawnInitialUnits_setup ω hkeyed).1
  have hprepared := (hlobby.prepared hkeyed).spawnBases
    ((r.setStarted true).playerList ω.players)
  rw [List.append_nil, Nat.zero_add, ← List.length_reverse] at hprepared
  have hmem : forall p,
      p ∈ ((r.setStarted true).playerList ω.players).reverse <->
        exists uid, r.players.lookup uid = some p := by
    intro p
    rw [List.mem_reverse]
    exact IterOrder.mem_values
  have hlength : ((r.setStarted true).playerList ω.players).reverse.length ≤
      r.players.size := by
    rw [List.length_reverse]
    exact ω.players.length_values_le r.players
  have hfits := hshape.fits
  have hmax := hshape.maxLe
  have hres : r.playerRes.size = r.players.size := Table.size_congr hshape.ledgers
  have hsize : (spawnInitialUnits ω (r.setStarted true)).playerRes.size =
      r.playerRes.size := Table.size_congr hsame.ledgers
  have hplayers : (spawnInitialUnits ω (r.setStarted true)).players = r.players :=
    hsame.players
  have hready : Ready ((r.setStarted true).playerList ω.players).reverse
      (spawnInitialUnits ω (r.setStarted true)) := by
    refine ⟨hprepared, by lia, ?_, ?_, ?_, ?_, by lia⟩
    · intro uid p hp
      rw [hplayers] at hp
      exact (hmem p).mpr ⟨uid, hp⟩
    · intro p hp
      rcases (hmem p).mp hp with ⟨uid, huid⟩
      rw [hplayers, hshape.uids uid p huid]
      exact huid
    · rw [hplayers]
      exact hshape.uids
    · intro uid
      rw [hplayers]
      exact (hsame.ledgers uid).trans (hshape.ledgers uid)
  exact hready.started

end DungeonRoom

end RtsGame
