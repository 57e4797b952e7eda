import RtsGame.Library.Countdown
import RtsGame.Room.Combat

/-!
# How much work a building takes

Every turn of a worker at a site is one piece of work.  With steps of one length a site is
finished by exactly so many of them, no matter how many workers share them, when they come
and go, and what the site suffers in between.
-/

namespace RtsGame

open Scalar
open Exact (toReal)

namespace DungeonRoom

variable {F : Type} [Scalar F]

/-- The unit that works on a site in a turn. -/
def workers (j : Nat) (q : DungeonRoom F) : Turn F -> List Nat
  | Turn.unit ω dt doAggro i => if worksAt ω dt doAggro q i = some j then [i] else []
  | _ => []

/-- A unit works on the site in its turn. -/
def Serves (j : Nat) (q : DungeonRoom F) (t : Turn F) (i : Nat) : Prop :=
  exists ω dt doAggro, t = Turn.unit ω dt doAggro i ∧ worksAt ω dt doAggro q i = some j

section Turns

variable {q : DungeonRoom F} {j : Nat} {t : Turn F}

theorem workers_served {i : Nat} (h : Serves j q t i) : workers j q t = [i] := by
  rcases h with ⟨ω, dt, doAggro, rfl, hworks⟩
  exact if_pos hworks

theorem workers_none (h : forall i, ¬ Serves j q t i) : workers j q t = [] := by
  cases t with
  | unit ω dt doAggro i => exact if_neg fun hworks => h i ⟨ω, dt, doAggro, rfl, hworks⟩
  | _ => rfl

end Turns

variable [Exact F]

/-- The part of a building that a turn of a worker adds. -/
noncomputable def percentPerTurn (dt : F) : ℝ := toReal (kConstructPercentPerSec * dt : F)

/-- The turns of workers that it takes to finish a building. -/
noncomputable def turnsToBuild (dt : F) : Nat := stridesOf 100 (percentPerTurn dt)

/-- What so many turns of workers have made of a site. -/
structure Raised (dt : F) (b : Building F) (n : Nat) : Prop where
  percent : toReal b.constructedPercent = min 100 (n * percentPerTurn dt)
  site : b.underConstruction = true <-> n < turnsToBuild dt

/-!
## One building
-/

section Buildings

variable {dt : F} {b c : Building F} {n : Nat}

theorem percentPerTurn_pos (hdt : lit 0 < dt) : 0 < percentPerTurn dt := by
  rw [Exact.pos_iff] at hdt
  rw [percentPerTurn, Exact.mul_eq, kConstructPercentPerSec, Exact.lit_eq]
  exact mul_pos (by norm_num) hdt

/-- A site is finished when its parts are a hundred percent. -/
theorem turnsToBuild_le (hdt : lit 0 < dt) (n : Nat) :
    turnsToBuild dt ≤ n <-> 100 ≤ n * percentPerTurn dt := by
  rw [turnsToBuild, ← countdown_over (percentPerTurn_pos hdt), sub_nonpos]

theorem turnsToBuild_pos (hdt : lit 0 < dt) : 0 < turnsToBuild dt :=
  stridesOf_pos (by norm_num) (percentPerTurn_pos hdt)

/-- Nothing but work counts. -/
theorem Raised.same (h : Raised dt b n) (hpercent : c.constructedPercent = b.constructedPercent)
    (hsite : c.underConstruction = b.underConstruction) : Raised dt c n := by
  refine ⟨?_, ?_⟩
  · rw [hpercent]
    exact h.percent
  · rw [hsite]
    exact h.site

theorem Raised.new (hdt : lit 0 < dt) (id ownerUid team buildingType : Nat) (pos : Vec3f F)
    (yaw : F) : Raised dt (newBuilding id ownerUid team buildingType pos yaw true) 0 := by
  constructor
  · change toReal (lit 0 : F) = _
    rw [Exact.zero_eq, Nat.cast_zero, zero_mul]
    exact (min_eq_right (by norm_num)).symm
  · exact ⟨fun _ => turnsToBuild_pos hdt, fun _ => rfl⟩

/-- One more turn of a worker. -/
theorem Raised.build (h : Raised dt b n) (hdt : lit 0 < dt) (hsite : b.underConstruction = true) :
    Raised dt (buildProgress b dt) (n + 1) := by
  have hless : n < turnsToBuild dt := h.site.mp hsite
  have hbelow : n * percentPerTurn dt < 100 := by
    by_contra hreached
    exact absurd ((turnsToBuild_le hdt n).mpr (not_lt.mp hreached)) (Nat.not_le_of_lt hless)
  have hpercent : toReal (b.constructedPercent + kConstructPercentPerSec * dt) =
      (n + 1 : Nat) * percentPerTurn dt := by
    rw [Exact.add_eq, h.percent, min_eq_right hbelow.le, Nat.cast_add_one, percentPerTurn]
    ring
  have hreaches : b.constructedPercent + kConstructPercentPerSec * dt ≥ lit 100 <->
      turnsToBuild dt ≤ n + 1 := by
    rw [turnsToBuild_le hdt, ge_iff_le, Exact.le_iff, hpercent, Exact.lit_eq, Rat.cast_ofNat]
  unfold buildProgress
  dsimp only
  split
  · rename_i hdone
    have hall := hreaches.mp hdone
    constructor
    · change toReal (lit 100 : F) = _
      rw [Exact.lit_eq, Rat.cast_ofNat]
      exact (min_eq_left ((turnsToBuild_le hdt (n + 1)).mp hall)).symm
    · constructor
      · intro hopen
        cases hopen
      · intro hfew
        exact absurd hfew (Nat.not_lt_of_le hall)
  · rename_i hpart
    have hmore : n + 1 < turnsToBuild dt := by
      by_contra hall
      exact hpart (hreaches.mpr (not_lt.mp hall))
    constructor
    · change toReal (b.constructedPercent + kConstructPercentPerSec * dt) = _
      rw [hpercent]
      refine (min_eq_right ?_).symm
      by_contra hover
      exact absurd ((turnsToBuild_le hdt (n + 1)).mpr (not_le.mp hover).le)
        (Nat.not_le_of_lt hmore)
    · exact ⟨fun _ => hmore, fun _ => hsite⟩

end Buildings

/-!
## One turn
-/

/-- A building was put up finished, or it is as high as the work on it has raised it. -/
structure Paced (dt : F) (j : Nat) (q : DungeonRoom F) (worked : List Nat) : Prop where
  keyed : Keyed q
  standing : forall b, q.buildings.lookup j = some b ->
    b.underConstruction = false ∧ worked = [] ∨ Raised dt b worked.length
  most : worked.length ≤ turnsToBuild dt
  unborn : q.nextEntityId ≤ j -> worked = []

section Turns

variable {dt : F} {j : Nat} {q : DungeonRoom F} {worked : List Nat} {t : Turn F}

/-- A worker raises the building. -/
theorem Paced.served (h : Paced dt j q worked) (hdt : lit 0 < dt) (ht : Timed dt t) {i : Nat}
    (hserves : Serves j q t i) : Paced dt j (q.turn t) (worked ++ workers j q t) := by
  rcases turn_keyed h.keyed t with ⟨hkeyed, hnext⟩
  rw [workers_served hserves]
  rcases hserves with ⟨ω, dt', doAggro, rfl, hworks⟩
  rw [ht ω dt' doAggro i rfl] at hworks hkeyed hnext ⊢
  rcases worksAt_spec hworks with ⟨b, hb, hsite, hput⟩
  have hraised : Raised dt b worked.length := by
    rcases h.standing b hb with ⟨hdone, _⟩ | hraised
    · rw [hsite] at hdone
      cases hdone
    · exact hraised
  refine ⟨hkeyed, ?_, ?_, ?_⟩
  · intro v hv
    change (stepUnit ω dt doAggro q i).buildings.lookup j = some v at hv
    rw [hput, AList.lookup_insert] at hv
    injection hv with hv
    rw [← hv, List.length_append]
    exact Or.inr (hraised.build hdt hsite)
  · rw [List.length_append]
    exact hraised.site.mp hsite
  · intro hj
    have hborn := (h.keyed.buildings j b hb).right
    lia

/-- In all other turns nothing counts. -/
theorem Paced.other (h : Paced dt j q worked) (hdt : lit 0 < dt)
    (hnone : forall i, ¬ Serves j q t i) : Paced dt j (q.turn t) (worked ++ workers j q t) := by
  rcases turn_keyed h.keyed t with ⟨hkeyed, hnext⟩
  rw [workers_none hnone, List.append_nil]
  refine ⟨hkeyed, ?_, h.most, fun hj => h.unborn (hnext.trans hj)⟩
  have hsame : forall {b v : Building F}, q.buildings.lookup j = some b ->
      v.constructedPercent = b.constructedPercent ->
      v.underConstruction = b.underConstruction ->
      v.underConstruction = false ∧ worked = [] ∨ Raised dt v worked.length := by
    intro b v hb hpercent hsite
    rcases h.standing b hb with ⟨hdone, hidle⟩ | hraised
    · exact Or.inl ⟨hsite.trans hdone, hidle⟩
    · exact Or.inr (hraised.same hpercent hsite)
  intro v hv
  cases building_fate h.keyed hv with
  | kept hb => exact hsame hb rfl rfl
  | @placed _ _ _ _ _ site _ _ _ hj heq =>
      rw [heq, h.unborn hj.ge]
      cases site with
      | true => exact Or.inr (Raised.new hdt _ _ _ _ _ _)
      | false => exact Or.inl ⟨rfl, rfl⟩
  | founded _ _ _ _ hj heq =>
      rw [heq, h.unborn hj.ge]
      exact Or.inr (Raised.new hdt _ _ _ _ _ _)
  | ordered _ _ hmay hj heq =>
      subst hj
      rw [heq]
      exact hsame hmay.producer rfl rfl
  | training _ hb _ _ _ heq =>
      rw [heq]
      exact hsame hb rfl rfl
  | released _ hb _ _ _ heq =>
      rw [heq]
      exact hsame hb rfl rfl
  | struck _ hb _ _ heq =>
      rw [heq]
      exact hsame hb rfl rfl
  | @built ω dt' doAggro i _ _ ht _ _ _ _ hworks _ _ _ =>
      exact absurd ⟨ω, dt', doAggro, ht, hworks⟩ (hnone i)

theorem Paced.turn (h : Paced dt j q worked) (hdt : lit 0 < dt) (ht : Timed dt t) :
    Paced dt j (q.turn t) (worked ++ workers j q t) := by
  by_cases hserves : exists i, Serves j q t i
  · rcases hserves with ⟨i, hi⟩
    exact h.served hdt ht hi
  · exact h.other hdt fun i hi => hserves ⟨i, hi⟩

end Turns

/-!
## Runs
-/

theorem paced_create (dt : F) (roomId : Nat) (roomName : String) (maxPlayers j : Nat) :
    Paced dt j (create roomId roomName maxPlayers : DungeonRoom F) [] := by
  refine ⟨keyed_create roomId roomName maxPlayers, ?_, Nat.zero_le _, fun _ => rfl⟩
  intro b hb
  cases hb

/--
In every run whose steps have the same length, whoever works on a building and whatever
happens to it: workers spend no more turns on it than it takes to finish it.  A building that
is a site, or has been worked on, is as high as these turns have raised it, and it is finished
exactly when all of them have been spent.
-/
theorem construction_takes_work (roomId : Nat) (roomName : String) (maxPlayers : Nat)
    (calls : List (RoomCall F)) (dt : F) (hdt : lit 0 < dt)
    (hsteps : forall ω dt', RoomCall.step ω dt' ∈ calls -> dt' = dt) (j : Nat) :
    let worked := chronicle turn (workers j) (create roomId roomName maxPlayers)
      (scriptOf (create roomId roomName maxPlayers) calls)
    worked.length ≤ turnsToBuild dt ∧
      forall b, (calls.foldl call (create roomId roomName maxPlayers)).buildings.lookup j =
        some b -> b.underConstruction = true ∨ worked ≠ [] -> Raised dt b worked.length := by
  intro worked
  have htimed : forall t, t ∈ scriptOf (create roomId roomName maxPlayers) calls ->
      Timed dt t := fun t ht => timed_scriptOf hsteps ht
  have hend := chronicle_invariant_of (Paced dt j)
    (fun _ t _ h (ht : Timed dt t) => h.turn hdt ht)
    (paced_create dt roomId roomName maxPlayers j) htimed
  rw [List.nil_append, scriptOf_foldl] at hend
  refine ⟨hend.most, ?_⟩
  intro b hb hsite
  rcases hend.standing b hb with ⟨hdone, hidle⟩ | hraised
  · rcases hsite with hsite | hworked
    · rw [hsite] at hdone
      cases hdone
    · exact absurd hidle hworked
  · exact hraised

/-- The villager goes on for three steps, and for a fourth that is not needed. -/
def completion : List (RoomCall Rat) :=
  groundwork ++ List.replicate 4 (RoomCall.step IterOrder.stored 1)

/-- The camp is finished with its fourth turn. -/
theorem camp_takes_work :
    let worked := chronicle turn (workers 1) (create 1 "camp" 2)
      (scriptOf (create 1 "camp" 2) completion)
    worked = [2, 2, 2, 2] ∧
      exists b, (completion.foldl call (create 1 "camp" 2)).buildings.lookup 1 = some b ∧
        b.underConstruction = false ∧ Raised 1 b worked.length := by
  intro worked
  have hdt : (lit 0 : Rat) < 1 := by decide +kernel
  have hsteps : forall ω dt', RoomCall.step ω dt' ∈ completion -> dt' = 1 := by
    intro ω dt' h
    simp only [completion, groundwork, List.replicate, List.cons_append, List.nil_append,
      List.mem_cons, List.not_mem_nil, reduceCtorEq, false_or, or_false,
      RoomCall.step.injEq] at h
    rcases h with h | h | h | h | h
    all_goals exact h.right
  have hworked : worked = [2, 2, 2, 2] := by decide +kernel
  have hfinished : ((completion.foldl call (create 1 "camp" 2)).buildings.lookup 1).map
      Building.underConstruction = some false := by decide +kernel
  rcases Option.map_eq_some_iff.mp hfinished with ⟨b, hb, hdone⟩
  have hlabour : worked ≠ [] := by
    rw [hworked]
    exact List.cons_ne_nil 2 [2, 2, 2]
  exact ⟨hworked, b, hb, hdone,
    (construction_takes_work 1 "camp" 2 completion 1 hdt hsteps 1).right b hb (Or.inr hlabour)⟩

end DungeonRoom

end RtsGame
