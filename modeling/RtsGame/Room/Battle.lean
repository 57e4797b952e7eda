import Mathlib.Data.List.Dedup
import RtsGame.Room.Setup

/-!
# Battles

A battle is fought between the teams of the players.  Crystals belong to
players and are not building sites, and every unit and building is on the team
of a player.  If there are two teams or more, at least two of them have a
standing crystal as long as the game goes on; if there is only one, nobody is
there to damage a crystal.
-/

namespace RtsGame

open Scalar

namespace DungeonRoom

variable {F : Type}

/-- Some player is on the team. -/
def Represented (r : DungeonRoom F) (team : Nat) : Prop :=
  exists uid p, r.players.lookup uid = some p ∧ p.team = team

/-- All players are on one team. -/
def OneTeam (r : DungeonRoom F) : Prop :=
  forall u v p q, r.players.lookup u = some p -> r.players.lookup v = some q ->
    p.team = q.team

/-- Whose units, buildings and crystals there are. -/
structure Battle (r : DungeonRoom F) : Prop where
  units : r.units.AllAt fun _ u => r.Represented u.team
  buildings : r.buildings.AllAt fun _ b => r.Represented b.team
  crystals : r.buildings.AllAt fun _ b => b.buildingType = kBuildingCrystal ->
    b.underConstruction = false ∧
      exists p, r.players.lookup b.ownerUid = some p ∧ p.team = b.team
  ledgers : forall uid, uid ∈ r.playerRes -> uid ∈ r.players

theorem Battle.teams_eq {r : DungeonRoom F} (hone : OneTeam r) {s t : Nat}
    (hs : r.Represented s) (ht : r.Represented t) : s = t := by
  rcases hs with ⟨u, p, hp, rfl⟩
  rcases ht with ⟨v, q, hq, rfl⟩
  exact hone u v p q hp hq

variable [Scalar F]

/-- The hit points of a crystal that was never hit. -/
def crystalHp : F := lit 300

theorem crystalHp_pos : (lit 0 : F) < crystalHp := by
  have h := lit_pos (F := F) (n := 300) (by decide) (by decide)
  simpa [crystalHp] using h

theorem crystalHp_alive : ¬ (crystalHp : F) ≤ lit 0 := by
  have h := not_lit_le_zero (F := F) (n := 300) (by decide) (by decide)
  simpa [crystalHp] using h

/-- One team alone, every player of which has an undamaged crystal. -/
structure Peace (r : DungeonRoom F) : Prop where
  oneTeam : OneTeam r
  crystals : forall uid p, r.players.lookup uid = some p ->
    exists id b, r.buildings.lookup id = some b ∧
      b.buildingType = kBuildingCrystal ∧ b.ownerUid = uid ∧ b.hp = crystalHp

/-!
## Effects
-/

section Effects

variable {keep : DungeonRoom F -> GameUnit F -> GameUnit F -> Prop}
variable {r s : DungeonRoom F} {out : List Nat}

omit [Scalar F] in
theorem teamOf_represented {uid : Nat} (h : uid ∈ r.players) :
    r.Represented (r.teamOf uid) := by
  rcases Table.mem_iff_lookup.mp h with ⟨p, hp⟩
  refine ⟨uid, p, hp, ?_⟩
  unfold teamOf
  rw [hp]

theorem Effect.battle (h : Battle r) (heff : Effect keep r out s) :
    Battle s := by
  have hsetup := heff.setup
  have hteam : forall {t : Nat}, r.Represented t -> s.Represented t := by
    intro t ht
    unfold Represented
    rw [hsetup.players]
    exact ht
  constructor
  · intro j w hw
    apply hteam
    cases heff.unit_origin hw with
    | same hu _ hsame _ _ =>
        rw [hsame]
        exact h.units j _ hu
    | steered hu hbody _ _ =>
        rw [hbody.team]
        exact h.units j _ hu
    | emptied hu hbody _ _ =>
        rw [hbody.team]
        exact h.units j _ hu
    | filled hu hbody _ _ _ _ =>
        rw [hbody.team]
        exact h.units j _ hu
    | loaded hu hbody _ _ _ _ =>
        rw [hbody.team]
        exact h.units j _ hu
    | @trained id unitType b hb _ hnew =>
        rw [hnew]
        exact h.buildings id b hb
  · intro j c hc
    apply hteam
    cases heff.building_origin hc with
    | kept hb _ hsame _ _ =>
        rw [hsame]
        exact h.buildings j _ hb
    | bought hres _ hnew =>
        rw [hnew]
        exact teamOf_represented (h.ledgers _ hres)
  · intro j c hc hcrystal
    rw [hsetup.players]
    cases heff.building_origin hc with
    | kept hb howner hsame htype hdone =>
        rw [htype] at hcrystal
        rcases h.crystals j _ hb hcrystal with ⟨hsite, p, hp, hpteam⟩
        rw [howner, hsame]
        exact ⟨hdone hsite, p, hp, hpteam⟩
    | bought _ htype hnew =>
        rw [hnew] at hcrystal
        exact absurd hcrystal htype
  · intro uid huid
    rw [hsetup.players]
    exact h.ledgers uid ((hsetup.ledgers uid).mp huid)

theorem Effect.peace (hr : Keyed r) (hbattle : Battle r) (h : Peace r)
    (heff : Effect keep r out s) : Peace s := by
  have hsetup := heff.setup
  constructor
  · unfold OneTeam
    rw [hsetup.players]
    exact h.oneTeam
  · intro uid p hp
    rw [hsetup.players] at hp
    rcases h.crystals uid p hp with ⟨id, b, hb, hcrystal, howner, hhp⟩
    have hdone := (hbattle.crystals id b hb hcrystal).left
    have halive : ¬ b.hp ≤ lit 0 := by
      rw [hhp]
      exact crystalHp_alive
    have hpeace : forall j u, r.units.lookup j = some u -> u.team = b.team := by
      intro j u hu
      exact Battle.teams_eq h.oneTeam (hbattle.units j u hu)
        (hbattle.buildings id b hb)
    rcases heff.intact hr hb hdone halive hpeace with
      ⟨c, hc, hcowner, hctype, hchp⟩
    exact ⟨id, c, hc, hctype.trans hcrystal, hcowner.trans howner,
      hchp.trans hhp⟩

theorem Effects.battle (h : Battle r) (heff : Effects keep r out s) :
    Battle s :=
  heff.preserves Battle (fun _ _ _ hr hmove => hmove.battle hr) h

theorem Effects.peace (hr : Keyed r) (hbattle : Battle r) (h : Peace r)
    (heff : Effects keep r out s) : Peace s := by
  have hall := heff.preserves (fun q => Keyed q ∧ Battle q ∧ Peace q)
    (fun _ _ _ hq hmove =>
      ⟨hmove.keyed hq.1, hmove.battle hq.2.1, hmove.peace hq.1 hq.2.1 hq.2.2⟩)
    ⟨hr, hbattle, h⟩
  exact hall.2.2

end Effects

/-!
## Standing crystals
-/

theorem mem_aliveCrystalTeams {r : DungeonRoom F} {team : Nat} :
    team ∈ r.aliveCrystalTeams <->
      exists id b, r.buildings.lookup id = some b ∧
        b.buildingType = kBuildingCrystal ∧ lit 0 < b.hp ∧ b.team = team := by
  unfold aliveCrystalTeams
  rw [List.mem_dedup, List.mem_map]
  constructor
  · rintro ⟨e, he, hteam⟩
    rw [List.mem_filter] at he
    rcases he with ⟨hmem, hcrystal⟩
    rw [decide_eq_true_eq] at hcrystal
    exact ⟨e.1, e.2, Table.lookup_of_mem_entries hmem, hcrystal.1, hcrystal.2,
      hteam⟩
  · rintro ⟨id, b, hb, htype, hhp, hteam⟩
    refine ⟨⟨id, b⟩, ?_, hteam⟩
    rw [List.mem_filter, decide_eq_true_eq]
    exact ⟨Table.mem_entries_of_lookup hb, htype, hhp⟩

/-- A player of the room whose crystal stands. -/
structure Standing (r : DungeonRoom F) (uid : Nat) (p : RoomPlayerState) :
    Prop where
  player : r.players.lookup uid = some p
  crystal : exists id b, r.buildings.lookup id = some b ∧
    b.buildingType = kBuildingCrystal ∧ b.ownerUid = uid ∧ lit 0 < b.hp

/--
The game is decided: the players of the room whose crystals stand are on one
team, which is the winner, and there is no winner if there are no such players.
-/
structure Decided (r : DungeonRoom F) (team : Nat) : Prop where
  oneTeam : forall u v p q, Standing r u p -> Standing r v q -> p.team = q.team
  winner : forall u p, Standing r u p -> team = p.team
  nobody : (forall u p, ¬ Standing r u p) -> team = noTeam

theorem Standing.mem_alive {r : DungeonRoom F} (hbattle : Battle r) {uid : Nat}
    {p : RoomPlayerState} (h : Standing r uid p) :
    p.team ∈ r.aliveCrystalTeams := by
  rcases h.crystal with ⟨id, b, hb, htype, howner, hhp⟩
  rcases (hbattle.crystals id b hb htype).right with ⟨q, hq, hteam⟩
  rw [howner, h.player] at hq
  injection hq with hpq
  rw [mem_aliveCrystalTeams, hpq]
  exact ⟨id, b, hb, htype, hhp, hteam.symm⟩

/-- A standing crystal belongs to a player of its team. -/
theorem standing_of_alive {r : DungeonRoom F} (hbattle : Battle r) {team : Nat}
    (h : team ∈ r.aliveCrystalTeams) :
    exists uid p, Standing r uid p ∧ p.team = team := by
  rcases mem_aliveCrystalTeams.mp h with ⟨id, b, hb, htype, hhp, hteam⟩
  rcases (hbattle.crystals id b hb htype).right with ⟨p, hp, hpteam⟩
  exact ⟨b.ownerUid, p, ⟨hp, id, b, hb, htype, rfl, hhp⟩, hpteam.trans hteam⟩

omit [Scalar F] in
theorem lastTeam_eq_some {teams : List Nat} {winner : Nat}
    (h : lastTeam teams = some winner) :
    (teams = [] ∧ winner = noTeam) ∨ teams = [winner] := by
  unfold lastTeam at h
  split at h
  · injection h with hwinner
    exact Or.inl ⟨rfl, hwinner.symm⟩
  · injection h with hwinner
    rw [hwinner]
    exact Or.inr rfl
  · cases h

omit [Scalar F] in
theorem lastTeam_eq_none {teams : List Nat} (h : lastTeam teams = none) :
    2 ≤ teams.length := by
  unfold lastTeam at h
  split at h
  · cases h
  · cases h
  · rename_i hnil hone
    match teams with
    | [] => exact absurd rfl hnil
    | [team] => exact absurd rfl (hone team)
    | _ :: _ :: rest =>
        simp only [List.length_cons]
        lia

/-- What the crystals decide. -/
theorem decided_of_lastTeam {r : DungeonRoom F} (hbattle : Battle r)
    {winner : Nat} (h : lastTeam r.aliveCrystalTeams = some winner) :
    Decided r winner := by
  rcases lastTeam_eq_some h with ⟨hnil, hwinner⟩ | hone
  · have hnobody : forall u p, ¬ Standing r u p := by
      intro u p hstanding
      have hmem := hstanding.mem_alive hbattle
      rw [hnil] at hmem
      cases hmem
    exact ⟨fun u _ p _ hu _ => absurd hu (hnobody u p),
      fun u p hu => absurd hu (hnobody u p), fun _ => hwinner⟩
  · have hteam : forall u p, Standing r u p -> p.team = winner := by
      intro u p hstanding
      have hmem := hstanding.mem_alive hbattle
      rw [hone, List.mem_singleton] at hmem
      exact hmem
    refine ⟨?_, ?_, ?_⟩
    · intro u v p q hu hv
      rw [hteam u p hu, hteam v q hv]
    · intro u p hu
      exact (hteam u p hu).symm
    · intro hnobody
      have hmem : winner ∈ r.aliveCrystalTeams := by
        rw [hone]
        exact List.mem_singleton.mpr rfl
      rcases standing_of_alive hbattle hmem with ⟨u, p, hstanding, _⟩
      exact absurd hstanding (hnobody u p)

/-- The flag that ends a game has nothing to do with who stands. -/
theorem Decided.setGameOver {r : DungeonRoom F} {winner : Nat}
    (h : Decided r winner) : Decided (r.setGameOver true) winner := by
  have hback : forall {u : Nat} {p : RoomPlayerState},
      Standing (r.setGameOver true) u p -> Standing r u p := by
    intro u p hu
    exact ⟨hu.player, hu.crystal⟩
  refine ⟨?_, ?_, ?_⟩
  · intro u v p q hu hv
    exact h.oneTeam u v p q (hback hu) (hback hv)
  · intro u p hu
    exact h.winner u p (hback hu)
  · intro hnobody
    apply h.nobody
    intro u p hu
    exact hnobody u p ⟨hu.player, hu.crystal⟩

/-!
## Games that go on
-/

/-- Two teams or more fight, or there is only one. -/
inductive Sides (r : DungeonRoom F) : Prop where
  | contest : 2 ≤ r.initialCrystalTeamCount -> Sides r
  | peace : r.initialCrystalTeamCount < 2 -> r.initialTeamCount < 2 ->
      Peace r -> Sides r

/-- A battle that has begun. -/
structure Fought (r : DungeonRoom F) : Prop where
  begun : r.battleBegun = true
  owned : Owned r
  battle : Battle r
  sides : Sides r

/-- A battle in which, if there are several teams, at least two stand. -/
structure Running (r : DungeonRoom F) : Prop extends Fought r where
  undecided : 2 ≤ r.initialCrystalTeamCount -> 2 ≤ r.aliveCrystalTeams.length

/-- The players of both rooms are the same, on the same teams. -/
structure SameRoster (r s : DungeonRoom F) : Prop where
  forth : forall uid p, r.players.lookup uid = some p ->
    exists q, s.players.lookup uid = some q ∧ q.team = p.team
  back : forall uid p, s.players.lookup uid = some p ->
    exists q, r.players.lookup uid = some q ∧ q.team = p.team

omit [Scalar F] in
theorem SameRoster.of_eq {r s : DungeonRoom F} (h : s.players = r.players) :
    SameRoster r s := by
  constructor
  · intro uid p hp
    rw [h]
    exact ⟨p, hp, rfl⟩
  · intro uid p hp
    rw [h] at hp
    exact ⟨p, hp, rfl⟩

/-- Rooms with the same world and the same roster. -/
structure SameWorld (r s : DungeonRoom F) : Prop where
  roster : SameRoster r s
  units : s.units = r.units
  buildings : s.buildings = r.buildings
  playerRes : s.playerRes = r.playerRes
  battleBegun : s.battleBegun = r.battleBegun
  initialTeamCount : s.initialTeamCount = r.initialTeamCount
  initialCrystalTeamCount :
    s.initialCrystalTeamCount = r.initialCrystalTeamCount

omit [Scalar F] in
theorem Battle.congr {r s : DungeonRoom F} (h : Battle r)
    (hsame : SameWorld r s) : Battle s := by
  have hrep : forall t, r.Represented t -> s.Represented t := by
    rintro t ⟨uid, p, hp, rfl⟩
    rcases hsame.roster.forth uid p hp with ⟨q, hq, hteam⟩
    exact ⟨uid, q, hq, hteam⟩
  constructor
  · rw [hsame.units]
    exact h.units.mono fun _ u hu => hrep u.team hu
  · rw [hsame.buildings]
    exact h.buildings.mono fun _ b hb => hrep b.team hb
  · rw [hsame.buildings]
    intro id b hb hcrystal
    rcases h.crystals id b hb hcrystal with ⟨hdone, p, hp, hteam⟩
    rcases hsame.roster.forth b.ownerUid p hp with ⟨q, hq, hqteam⟩
    exact ⟨hdone, q, hq, hqteam.trans hteam⟩
  · intro uid huid
    rw [hsame.playerRes] at huid
    rcases Table.mem_iff_lookup.mp (h.ledgers uid huid) with ⟨p, hp⟩
    rcases hsame.roster.forth uid p hp with ⟨q, hq, _⟩
    exact Table.mem_of_lookup hq

theorem Peace.congr {r s : DungeonRoom F} (h : Peace r)
    (hsame : SameWorld r s) : Peace s := by
  constructor
  · intro u v p q hp hq
    rcases hsame.roster.back u p hp with ⟨p', hp', hpteam⟩
    rcases hsame.roster.back v q hq with ⟨q', hq', hqteam⟩
    rw [← hpteam, ← hqteam]
    exact h.oneTeam u v p' q' hp' hq'
  · intro uid p hp
    rcases hsame.roster.back uid p hp with ⟨p', hp', _⟩
    rw [hsame.buildings]
    exact h.crystals uid p' hp'

theorem Fought.congr {r s : DungeonRoom F} (h : Fought r)
    (hsame : SameWorld r s) : Fought s := by
  refine ⟨hsame.battleBegun.trans h.begun, ?_, h.battle.congr hsame, ?_⟩
  · refine h.owned.congr hsame.units hsame.buildings ?_
    intro uid huid
    rw [hsame.playerRes]
    exact huid
  · cases h.sides with
    | contest hinit =>
        apply Sides.contest
        rw [hsame.initialCrystalTeamCount]
        exact hinit
    | peace hinit hfew hpeace =>
        apply Sides.peace
        · rw [hsame.initialCrystalTeamCount]
          exact hinit
        · rw [hsame.initialTeamCount]
          exact hfew
        · exact hpeace.congr hsame

theorem Running.congr {r s : DungeonRoom F} (h : Running r)
    (hsame : SameWorld r s) : Running s := by
  refine ⟨h.toFought.congr hsame, ?_⟩
  unfold aliveCrystalTeams
  rw [hsame.initialCrystalTeamCount, hsame.buildings]
  exact h.undecided

theorem Fought.effects
    {keep : DungeonRoom F -> GameUnit F -> GameUnit F -> Prop}
    {r s : DungeonRoom F} {out : List Nat} (h : Fought r) (hr : Keyed r)
    (heff : Effects keep r out s) : Fought s := by
  have hsetup := Effects.setup heff
  refine ⟨hsetup.battleBegun.trans h.begun, Effects.owned h.owned heff,
    Effects.battle h.battle heff, ?_⟩
  cases h.sides with
  | contest hinit =>
      apply Sides.contest
      rw [hsetup.initialCrystalTeamCount]
      exact hinit
  | peace hinit hfew hpeace =>
      apply Sides.peace
      · rw [hsetup.initialCrystalTeamCount]
        exact hinit
      · rw [hsetup.initialTeamCount]
        exact hfew
      · exact Effects.peace hr h.battle hpeace heff

/-- A fought battle goes on, or the crystals have decided it. -/
theorem Fought.check {r : DungeonRoom F} (h : Fought r) :
    (r.checkGameOver = none ∧ Running r) ∨
      exists winner, r.checkGameOver = some winner ∧ Decided r winner := by
  cases h.sides with
  | contest hinit =>
      have hcheck : r.checkGameOver = lastTeam r.aliveCrystalTeams := by
        unfold checkGameOver
        rw [h.begun, if_pos hinit]
        rfl
      cases hover : lastTeam r.aliveCrystalTeams with
      | none =>
          exact Or.inl ⟨hcheck.trans hover, h, fun _ => lastTeam_eq_none hover⟩
      | some winner =>
          exact Or.inr ⟨winner, hcheck.trans hover,
            decided_of_lastTeam h.battle hover⟩
  | peace hinit hfew _ =>
      have hcheck : r.checkGameOver = none := by
        unfold checkGameOver
        rw [h.begun, if_neg (Nat.not_le.mpr hinit), if_pos hfew]
        rfl
      exact Or.inl ⟨hcheck, h, fun hmany => absurd hmany (Nat.not_le.mpr hinit)⟩

/-!
## Departures
-/

/-- Apart from the given player, all players are on one team. -/
def OneTeamWithout (uid : Nat) (r : DungeonRoom F) : Prop :=
  forall u v p q, u ≠ uid -> v ≠ uid -> r.players.lookup u = some p ->
    r.players.lookup v = some q -> p.team = q.team

omit [Scalar F] in
theorem oneTeamWithout_iff {uid : Nat} {r : DungeonRoom F} :
    OneTeamWithout uid r <->
      r.players.AllAt fun u p => u ≠ uid ->
        r.players.AllAt fun v q => v ≠ uid -> p.team = q.team := by
  constructor
  · intro h u p hp hu v q hq hv
    exact h u v p q hu hv hp hq
  · intro h u v p q hu hv hp hq
    exact h u p hp hu v q hq hv

instance OneTeamWithout.decidable (uid : Nat) (r : DungeonRoom F) :
    Decidable (OneTeamWithout uid r) :=
  decidable_of_iff _ oneTeamWithout_iff.symm

omit [Scalar F] in
theorem exists_other {teams : List Nat} (hnodup : teams.Nodup)
    (h : 2 ≤ teams.length) (t : Nat) : exists u, u ∈ teams ∧ u ≠ t := by
  match teams with
  | [] => simp at h
  | [_] => simp at h
  | a :: b :: rest =>
      by_cases ha : a = t
      · refine ⟨b, by simp, ?_⟩
        intro hb
        rw [ha, hb] at hnodup
        simp at hnodup
      · exact ⟨a, by simp, ha⟩

omit [Scalar F] in
theorem removePlayer_lookup (r : DungeonRoom F) (uid other : Nat) :
    (r.removePlayer uid).1.players.lookup other =
      if other = uid then none else r.players.lookup other :=
  Table.lookup_erase_ite r.players uid other

/-- A player who stays and whose crystal stands. -/
theorem Running.somebody_stands {r : DungeonRoom F} (h : Running r) {uid : Nat}
    (huid : uid ∈ r.players) (hothers : exists v, v ≠ uid ∧ v ∈ r.players) :
    exists v p, v ≠ uid ∧ Standing r v p := by
  rcases Table.mem_iff_lookup.mp huid with ⟨leaver, hleaver⟩
  cases h.sides with
  | contest hinit =>
      rcases exists_other (List.nodup_dedup _) (h.undecided hinit) leaver.team with
        ⟨team, hmem, hne⟩
      rcases standing_of_alive h.battle hmem with ⟨v, p, hstanding, hteam⟩
      refine ⟨v, p, ?_, hstanding⟩
      intro hv
      have hp := hstanding.player
      rw [hv, hleaver] at hp
      injection hp with hsame
      rw [hsame] at hne
      exact hne hteam.symm
  | peace _ _ hpeace =>
      rcases hothers with ⟨v, hne, hv⟩
      rcases Table.mem_iff_lookup.mp hv with ⟨p, hp⟩
      rcases hpeace.crystals v p hp with ⟨id, b, hb, htype, howner, hhp⟩
      refine ⟨v, p, hne, hp, id, b, hb, htype, howner, ?_⟩
      rw [hhp]
      exact crystalHp_pos

/-- If those who stay are on one team, the game is decided for that team. -/
theorem Running.departure {r : DungeonRoom F} (h : Running r) {uid : Nat}
    (huid : uid ∈ r.players) (hone : OneTeamWithout uid r) {v : Nat}
    {first : RoomPlayerState}
    (hfirst : (r.removePlayer uid).1.players.lookup v = some first) :
    Decided (r.removePlayer uid).1 first.team := by
  have hstay : forall {u : Nat} {p : RoomPlayerState},
      (r.removePlayer uid).1.players.lookup u = some p ->
        u ≠ uid ∧ r.players.lookup u = some p := by
    intro u p hp
    rw [removePlayer_lookup] at hp
    split at hp
    · cases hp
    · rename_i hne
      exact ⟨hne, hp⟩
  rcases hstay hfirst with ⟨hv, hfirst'⟩
  refine ⟨?_, ?_, ?_⟩
  · intro u w p q hu hw
    rcases hstay hu.player with ⟨hune, hp⟩
    rcases hstay hw.player with ⟨hwne, hq⟩
    exact hone u w p q hune hwne hp hq
  · intro u p hu
    rcases hstay hu.player with ⟨hune, hp⟩
    exact hone v u first p hv hune hfirst' hp
  · intro hnobody
    rcases h.somebody_stands huid ⟨v, hv, Table.mem_of_lookup hfirst'⟩ with
      ⟨w, p, hw, hstanding⟩
    have hp : (r.removePlayer uid).1.players.lookup w = some p := by
      rw [removePlayer_lookup, if_neg hw]
      exact hstanding.player
    exact absurd ⟨hp, hstanding.crystal⟩ (hnobody w p)

end DungeonRoom

end RtsGame
