import RtsGame.Library.Countdown
import RtsGame.Room.Combat
import RtsGame.Room.Training

/-!
# How long training takes

A building trains one unit at a time, in the steps in which it stands finished with a unit to
train.  With steps of one length it releases a unit at the end of exactly every so many of
them, no matter what is ordered in between, how long its queue is and how long it has been
idle.
-/

namespace RtsGame

open Scalar
open Exact (toReal)

namespace DungeonRoom

variable {F : Type} [Scalar F]

/--
The turns in which a building works, each with whether a unit leaves the building in it.
-/
def shifts (j : Nat) (q : DungeonRoom F) : Turn F -> List Bool
  | Turn.building dt id =>
      if id = j then
        match q.buildings.lookup j with
        | none => []
        | some b =>
            if b.trainQueue.isEmpty || b.underConstruction then []
            else [((stepBuilding dt q j).units.lookup q.nextEntityId).isSome]
      else []
  | _ => []

/-- A building has its turn in a step of the given length. -/
def Clocked (dt : F) (t : Turn F) : Prop :=
  forall dt' id, t = Turn.building dt' id -> dt' = dt

/-!
## One turn
-/

section Turns

variable {q : DungeonRoom F} {j : Nat}

/-- A building is idle in its turn, or it works, and then it releases a unit or does not. -/
theorem shift_cases (hq : Keyed q) (dt : F) :
    shifts j q (Turn.building dt j) = [] ∧ stepBuilding dt q j = q ∨
      exists b item rest, q.buildings.lookup j = some b ∧ b.trainQueue = item :: rest ∧
        (item.remaining - dt ≤ lit 0 ∧ shifts j q (Turn.building dt j) = [true] ∧
            (stepBuilding dt q j).buildings =
              q.buildings.insert j { b with trainQueue := rest } ∨
          ¬ item.remaining - dt ≤ lit 0 ∧ shifts j q (Turn.building dt j) = [false] ∧
            (stepBuilding dt q j).buildings =
              q.buildings.insert j
                { b with
                  trainQueue := { item with remaining := item.remaining - dt } :: rest }) := by
  cases hb : q.buildings.lookup j with
  | none =>
      left
      constructor
      · simp [shifts, hb]
      · simp [stepBuilding, hb]
  | some b =>
      cases hqueue : b.trainQueue with
      | nil =>
          left
          constructor
          · simp [shifts, hb, hqueue]
          · simp [stepBuilding, hb, hqueue]
      | cons item rest =>
          cases hsite : b.underConstruction with
          | true =>
              left
              constructor
              · simp [shifts, hb, hsite]
              · simp [stepBuilding, hb, hqueue, hsite]
          | false =>
              right
              refine ⟨b, item, rest, rfl, hqueue, ?_⟩
              have hworks : shifts j q (Turn.building dt j) =
                  [((stepBuilding dt q j).units.lookup q.nextEntityId).isSome] := by
                simp [shifts, hb, hqueue, hsite]
              rw [hworks]
              by_cases hready : item.remaining - dt ≤ lit 0
              · left
                have hstep : stepBuilding dt q j = ((q.spawnTrained b item.unitType).putBuilding j
                    { b with trainQueue := rest }).markBuilding b.id := by
                  simp [stepBuilding, hb, hqueue, hsite, hready]
                have hnew : (stepBuilding dt q j).units.lookup q.nextEntityId =
                    some (trainedUnit q.nextEntityId b item.unitType) := by
                  rw [hstep]
                  exact AList.lookup_insert _
                rw [hnew, hstep]
                exact ⟨hready, rfl, rfl⟩
              · right
                have hstep : stepBuilding dt q j = (q.putBuilding j
                    { b with
                      trainQueue :=
                        { item with remaining := item.remaining - dt } :: rest }).markBuilding
                      b.id := by
                  simp [stepBuilding, hb, hqueue, hsite, hready]
                have hnone : (stepBuilding dt q j).units.lookup q.nextEntityId = none := by
                  rw [hstep]
                  exact hq.units_fresh
                rw [hnone, hstep]
                exact ⟨hready, rfl, rfl⟩

/-- What happens to a building in all other turns: an order at the end, or nothing. -/
theorem queue_cases (hq : Keyed q) {t : Turn F} (hother : forall dt, t ≠ Turn.building dt j)
    {v : Building F} (hv : (q.turn t).buildings.lookup j = some v) :
    (exists b, q.buildings.lookup j = some b ∧
      (v.trainQueue = b.trainQueue ∨
        exists unitType, v.trainQueue = b.trainQueue ++ [⟨unitType, unitTrainTime unitType⟩])) ∨
      q.nextEntityId ≤ j ∧ v.trainQueue = [] := by
  cases building_fate hq hv with
  | kept hb => exact Or.inl ⟨v, hb, Or.inl rfl⟩
  | placed _ _ hj heq =>
      rw [heq]
      exact Or.inr ⟨hj.ge, rfl⟩
  | founded _ _ _ _ hj heq =>
      rw [heq]
      exact Or.inr ⟨hj.ge, rfl⟩
  | @ordered cmd res b ht _ hmay hj heq =>
      subst hj
      rw [heq]
      exact Or.inl ⟨b, hmay.producer, Or.inr ⟨cmd.auxType, rfl⟩⟩
  | training ht _ _ _ _ _ => exact absurd ht (hother _)
  | released ht _ _ _ _ _ => exact absurd ht (hother _)
  | struck _ hb _ _ heq =>
      rw [heq]
      exact Or.inl ⟨_, hb, Or.inl rfl⟩
  | built _ _ _ _ _ _ hb _ heq =>
      refine Or.inl ⟨_, hb, Or.inl ?_⟩
      rw [heq]
      unfold buildProgress
      dsimp only
      split
      · rfl
      · rfl

theorem shifts_other {t : Turn F} (hother : forall dt, t ≠ Turn.building dt j) :
    shifts j q t = [] := by
  cases t with
  | building dt id =>
      apply if_neg
      rintro rfl
      exact hother dt rfl
  | _ => rfl

end Turns

/-!
## The clock of a queue
-/

section Clock

variable [Exact F] {dt : F} {j : Nat} {q : DungeonRoom F} {worked : List Bool}

/-- The steps that it takes to train a unit. -/
noncomputable def stepsToTrain (dt : F) : Nat :=
  stridesOf (toReal (unitTrainTime 0 : F)) (toReal dt)

/-- The first unit of a queue has had its part of so many steps, the others have to wait. -/
def Waits (dt : F) (n : Nat) : List (TrainItem F) -> Prop
  | [] => stepsToTrain dt ∣ n
  | item :: rest =>
      toReal item.remaining = leftAfter (toReal (unitTrainTime 0 : F)) (toReal dt) n ∧
        forall other, other ∈ rest ->
          toReal other.remaining = toReal (unitTrainTime 0 : F)

/-- A building has released a unit whenever it was time. -/
structure OnTime (dt : F) (j : Nat) (q : DungeonRoom F) (worked : List Bool) : Prop where
  keyed : Keyed q
  marks : Periodic (stepsToTrain dt) worked
  queue : forall b, q.buildings.lookup j = some b -> Waits dt worked.length b.trainQueue
  unborn : q.nextEntityId ≤ j -> worked = []

theorem trainTime_pos : 0 < toReal (unitTrainTime 0 : F) := by
  rw [unitTrainTime, Exact.lit_eq]
  norm_num

/-- Time is up exactly in every so many steps. -/
theorem timeUp_iff (hdt : lit 0 < dt) {item : TrainItem F} {n : Nat}
    (h : toReal item.remaining = leftAfter (toReal (unitTrainTime 0 : F)) (toReal dt) n) :
    item.remaining - dt ≤ lit 0 <-> stepsToTrain dt ∣ n + 1 := by
  rw [Exact.pos_iff] at hdt
  rw [Exact.le_iff, Exact.sub_eq, Exact.zero_eq, h]
  exact leftAfter_over trainTime_pos hdt n

/-- A queue goes on when its first unit is released. -/
theorem Waits.released {n : Nat} {item : TrainItem F} {rest : List (TrainItem F)}
    (h : Waits dt n (item :: rest)) (hdvd : stepsToTrain dt ∣ n + 1) :
    Waits dt (n + 1) rest := by
  cases rest with
  | nil => exact hdvd
  | cons next others =>
      refine ⟨?_, fun other hother => h.right other (List.mem_cons_of_mem next hother)⟩
      rw [h.right next List.mem_cons_self]
      exact (leftAfter_start hdvd).symm

/-- An order goes to the end of a queue. -/
theorem Waits.ordered {n : Nat} {queue : List (TrainItem F)} (h : Waits dt n queue)
    (unitType : Nat) : Waits dt n (queue ++ [⟨unitType, unitTrainTime unitType⟩]) := by
  cases queue with
  | nil =>
      refine ⟨?_, fun other hother => by cases hother⟩
      exact (leftAfter_start h).symm
  | cons item rest =>
      refine ⟨h.left, ?_⟩
      intro other hother
      rcases List.mem_append.mp hother with hold | hnew
      · exact h.right other hold
      · rw [List.mem_singleton.mp hnew]
        rfl

/-- All other turns leave the clock alone. -/
theorem OnTime.other (h : OnTime dt j q worked) {t : Turn F}
    (hother : forall dt', t ≠ Turn.building dt' j) :
    OnTime dt j (q.turn t) (worked ++ shifts j q t) := by
  rcases turn_keyed h.keyed t with ⟨hkeyed, hnext⟩
  rw [shifts_other hother, List.append_nil]
  refine ⟨hkeyed, h.marks, ?_, fun hj => h.unborn (hnext.trans hj)⟩
  intro v hv
  rcases queue_cases h.keyed hother hv with ⟨b, hb, hsame | ⟨unitType, hqueue⟩⟩ | ⟨hj, hempty⟩
  · rw [hsame]
    exact h.queue b hb
  · rw [hqueue]
    exact (h.queue b hb).ordered unitType
  · rw [hempty, h.unborn hj]
    exact dvd_zero _

/-- The turn of the building. -/
theorem OnTime.own (h : OnTime dt j q worked) (hdt : lit 0 < dt) :
    OnTime dt j (q.turn (Turn.building dt j))
      (worked ++ shifts j q (Turn.building dt j)) := by
  rcases turn_keyed h.keyed (Turn.building dt j) with ⟨hkeyed, hnext⟩
  rcases shift_cases (j := j) h.keyed dt with ⟨hidle, hsame⟩ | ⟨b, item, rest, hb, hqueue, hwork⟩
  · have hturn : q.turn (Turn.building dt j) = q := hsame
    rw [hidle, List.append_nil, hturn]
    exact h
  · have hwaits := h.queue b hb
    rw [hqueue] at hwaits
    have hborn : ¬ (q.turn (Turn.building dt j)).nextEntityId ≤ j := by
      have hlt := (h.keyed.buildings j b hb).right
      lia
    have hiff := timeUp_iff hdt hwaits.left
    rcases hwork with ⟨hready, hshift, hbuildings⟩ | ⟨hready, hshift, hbuildings⟩
    · have hdvd := hiff.mp hready
      rw [hshift]
      refine ⟨hkeyed, h.marks.next (decide_eq_true hdvd).symm, ?_, fun hj => absurd hj hborn⟩
      intro v hv
      change (stepBuilding dt q j).buildings.lookup j = some v at hv
      rw [hbuildings, AList.lookup_insert] at hv
      injection hv with hv
      rw [← hv, List.length_append]
      exact hwaits.released hdvd
    · have hnot : ¬ stepsToTrain dt ∣ worked.length + 1 := fun hdvd => hready (hiff.mpr hdvd)
      rw [hshift]
      refine ⟨hkeyed, h.marks.next (decide_eq_false hnot).symm, ?_, fun hj => absurd hj hborn⟩
      intro v hv
      change (stepBuilding dt q j).buildings.lookup j = some v at hv
      rw [hbuildings, AList.lookup_insert] at hv
      injection hv with hv
      rw [← hv, List.length_append]
      refine ⟨?_, hwaits.right⟩
      rw [Exact.le_iff, Exact.sub_eq, Exact.zero_eq, hwaits.left] at hready
      rw [Exact.sub_eq, hwaits.left]
      exact (leftAfter_next ((Exact.pos_iff dt).mp hdt) hready).symm

theorem OnTime.turn (h : OnTime dt j q worked) (hdt : lit 0 < dt) {t : Turn F}
    (ht : Clocked dt t) : OnTime dt j (q.turn t) (worked ++ shifts j q t) := by
  by_cases hown : exists dt', t = Turn.building dt' j
  · rcases hown with ⟨dt', rfl⟩
    rw [ht dt' j rfl]
    exact h.own hdt
  · exact h.other fun dt' heq => hown ⟨dt', heq⟩

end Clock

/-!
## Runs
-/

section Runs

variable {q : DungeonRoom F} {j : Nat}

/-- A building takes its turn in a step of the same length. -/
theorem building_mem_turns {c : RoomCall F} {dt : F} {id : Nat}
    (h : Turn.building dt id ∈ q.turns c) : exists ω, c = RoomCall.step ω dt := by
  rcases mem_turns_cases h with ⟨_, heq⟩ | ⟨_, heq | ⟨_, heq⟩⟩ | ⟨ω, dt', hc, hstep⟩
  · cases heq
  · cases heq
  · cases heq
  · rcases mem_stepTurns_cases hstep with heq | ⟨_, heq⟩ | ⟨_, heq⟩ | ⟨_, heq⟩ | ⟨_, heq⟩
    · cases heq
    · cases heq
    · injection heq with hdt _
      rw [hdt]
      exact ⟨ω, hc⟩
    · cases heq
    · cases heq

theorem clocked_scriptOf {dt : F} {calls : List (RoomCall F)}
    (hsteps : forall ω dt', RoomCall.step ω dt' ∈ calls -> dt' = dt) {t : Turn F}
    (ht : t ∈ q.scriptOf calls) : Clocked dt t := by
  rintro dt' id rfl
  rcases mem_script ht with ⟨p, c, hc, hturn⟩
  rcases building_mem_turns hturn with ⟨ω, rfl⟩
  exact hsteps ω dt' hc

/-- A building has at most one turn in a step, and none between the steps. -/
theorem turns_building (q : DungeonRoom F) (c : RoomCall F) (j : Nat) :
    (q.turns c).countP (isTurnOf j) ≤ stepsBegun (q.turns c) := by
  by_cases hstep : exists ω dt, c = RoomCall.step ω dt
  · rcases hstep with ⟨ω, dt, rfl⟩
    have hone : 1 ≤ stepsBegun (stepTurns ω dt q) := by
      unfold stepsBegun stepTurns
      rw [List.countP_cons]
      exact Nat.le_add_left 1 _
    exact (stepTurns_building ω dt q j).trans hone
  · have hnone : (q.turns c).countP (isTurnOf j) = 0 := by
      rw [List.countP_eq_zero]
      intro t ht hown
      cases t with
      | building dt id =>
          rcases building_mem_turns ht with ⟨ω, hc⟩
          exact hstep ⟨ω, dt, hc⟩
      | _ => cases hown
    rw [hnone]
    exact Nat.zero_le _

theorem scriptOf_building (calls : List (RoomCall F)) (q : DungeonRoom F) (j : Nat) :
    (q.scriptOf calls).countP (isTurnOf j) ≤ stepsBegun (q.scriptOf calls) := by
  induction calls generalizing q with
  | nil =>
      exact Nat.le_refl 0
  | cons c rest ih =>
      have hfirst := turns_building q c j
      have hrest := ih (q.call c)
      unfold stepsBegun at hfirst hrest ⊢
      unfold scriptOf at hrest ⊢
      rw [script, List.countP_append, List.countP_append]
      exact Nat.add_le_add hfirst hrest

/-- A building works in its own turns only. -/
theorem shifts_length (ts : List (Turn F)) (q : DungeonRoom F) :
    (chronicle DungeonRoom.turn (shifts j) q ts).length ≤ ts.countP (isTurnOf j) := by
  refine chronicle_length_le ?_ q ts
  intro q t
  cases t with
  | building dt id =>
      simp only [shifts, isTurnOf, decide_eq_true_eq]
      split
      · split
        · exact Nat.zero_le 1
        · split
          · exact Nat.zero_le 1
          · exact Nat.le_refl 1
      · exact Nat.le_refl 0
  | _ => exact Nat.zero_le _

theorem shift_released {dt : F} {mark : Bool}
    (h : shifts j q (Turn.building dt j) = [mark]) :
    ((stepBuilding dt q j).units.lookup q.nextEntityId).isSome = mark := by
  rw [shifts, if_pos rfl] at h
  split at h
  · cases h
  · split at h
    · cases h
    · injection h

/-- A turn spawns a unit from the building when its mark is true. -/
theorem spawned_shifts (hq : Keyed q) (t : Turn F) :
    (spawnedBy j (trainEvents q t)).length = (shifts j q t).count true := by
  cases t with
  | building dt id =>
      by_cases hid : id = j
      · subst hid
        have hquiet : (stepBuilding dt q id).units.lookup q.nextEntityId = none ->
            trainEvents q (Turn.building dt id) = [] := by
          intro hnone
          unfold trainEvents
          simp only [hnone]
        rcases shift_cases (j := id) hq dt with ⟨hidle, hsame⟩ |
          ⟨_, _, _, _, _, ⟨_, hshift, _⟩ | ⟨_, hshift, _⟩⟩
        · have hnone : (stepBuilding dt q id).units.lookup q.nextEntityId = none := by
            rw [hsame]
            exact hq.units_fresh
          rw [hquiet hnone, hidle]
          rfl
        · have hsome := shift_released hshift
          rw [Option.isSome_iff_exists] at hsome
          rcases hsome with ⟨u, hu⟩
          have hevents : trainEvents q (Turn.building dt id) =
              [TrainEvent.spawned id u.unitType] := by
            unfold trainEvents
            simp only [hu]
          rw [hevents, hshift, spawnedBy_spawned, if_pos rfl]
          rfl
        · have hnone := shift_released hshift
          rw [Option.isSome_eq_false_iff, Option.isNone_iff_eq_none] at hnone
          rw [hquiet hnone, hshift]
          rfl
      · have hquiet : spawnedBy j (trainEvents q (Turn.building dt id)) = [] := by
          unfold trainEvents
          dsimp only
          split
          · rfl
          · rw [spawnedBy_spawned, if_neg hid]
        rw [hquiet, shifts, if_neg hid]
        rfl
  | command cmd =>
      unfold trainEvents
      dsimp only
      split
      · rfl
      · rfl
  | _ => rfl

/-- The units that have been spawned are the true marks. -/
theorem shifts_count {ts : List (Turn F)} (hq : Keyed q) :
    (spawnedBy j (chronicle DungeonRoom.turn trainEvents q ts)).length =
      (chronicle DungeonRoom.turn (shifts j) q ts).count true := by
  induction ts generalizing q with
  | nil =>
      rfl
  | cons t rest ih =>
      rw [chronicle, chronicle, spawnedBy_append, List.length_append, List.count_append,
        spawned_shifts hq t, ih (turn_keyed hq t).left]

/-- The turns of other buildings leave a building alone. -/
theorem buildings_others (dt : F) {ids : List Nat} (hj : j ∉ ids) {b : Building F}
    (hb : q.buildings.lookup j = some b) :
    ((ids.map (Turn.building dt)).foldl turn q).buildings.lookup j = some b := by
  induction ids generalizing q with
  | nil =>
      exact hb
  | cons id rest ih =>
      rw [List.mem_cons, not_or] at hj
      rw [List.map_cons, List.foldl_cons]
      refine ih hj.right ?_
      change (stepBuilding dt q id).buildings.lookup j = some b
      rcases stepBuilding_cases dt q id with
        heq | ⟨_, _, _, _, _, _, ⟨_, heq⟩ | ⟨_, heq⟩⟩
      · rw [heq]
        exact hb
      · rw [heq]
        exact (AList.lookup_insert_ne hj.left).trans hb
      · rw [heq]
        exact (AList.lookup_insert_ne hj.left).trans hb

/-- No building works twice in a step. -/
theorem shifts_of_step (ω : IterOrder) (dt : F) :
    (chronicle DungeonRoom.turn (shifts j) q (stepTurns ω dt q)).length ≤ 1 :=
  (shifts_length (stepTurns ω dt q) q).trans (stepTurns_building ω dt q j)

/-- A finished building with a unit to train works in every step. -/
theorem shift_of_step (ω : IterOrder) (dt : F) {b : Building F}
    (hb : (q.unitsStepped ω dt).buildings.lookup j = some b) (hqueue : b.trainQueue ≠ [])
    (hbuilt : b.underConstruction = false) :
    (chronicle DungeonRoom.turn (shifts j) q (stepTurns ω dt q)).length = 1 := by
  have hvisit : j ∈ ω.visit (q.unitsStepped ω dt).buildings :=
    ω.mem_visit.mpr (Table.mem_of_lookup hb)
  rcases List.append_of_mem hvisit with ⟨before, after, hsplit⟩
  have hfirst : j ∉ before := by
    have hnodup := ω.visit_nodup (q.unitsStepped ω dt).buildings
    rw [hsplit, List.nodup_append] at hnodup
    intro hmem
    exact hnodup.right.right j hmem j List.mem_cons_self rfl
  have hunits : (Turn.scanTick :: (ω.visit q.units).map (Turn.unit ω dt q.scans)).foldl turn q =
      q.unitsStepped ω dt := by
    rw [List.foldl_cons, List.foldl_map]
    rfl
  have hkept := buildings_others dt hfirst hb
  rw [← hunits, ← List.foldl_append] at hkept
  have hworks : exists mark, mark ∈ shifts j
      ((Turn.scanTick :: (ω.visit q.units).map (Turn.unit ω dt q.scans) ++
        before.map (Turn.building dt)).foldl turn q) (Turn.building dt j) := by
    rw [shifts, if_pos rfl, hkept]
    dsimp only
    rw [hbuilt, Bool.or_false, if_neg (by simpa using hqueue)]
    exact ⟨_, List.mem_singleton_self _⟩
  have hpos : 0 < (chronicle turn (shifts j) q (stepTurns ω dt q)).length := by
    rcases hworks with ⟨mark, hmark⟩
    have hplan : stepTurns ω dt q =
        (Turn.scanTick :: (ω.visit q.units).map (Turn.unit ω dt q.scans) ++
          before.map (Turn.building dt)) ++ Turn.building dt j ::
            (after.map (Turn.building dt) ++
              (ω.visit (q.stepAlive ω dt).units).map Turn.deadUnit ++
              (ω.visit (removeDeadUnits ω (q.stepAlive ω dt)).buildings).map
                Turn.deadBuilding) := by
      simp [stepTurns, hsplit]
    exact List.length_pos_of_mem (mem_chronicle_iff.mpr ⟨_, _, _, hplan, hmark⟩)
  exact Nat.le_antisymm (shifts_of_step ω dt) hpos

end Runs

section OnTime

variable [Exact F]

theorem onTime_create (dt : F) (roomId : Nat) (roomName : String) (maxPlayers j : Nat) :
    OnTime dt j (create roomId roomName maxPlayers : DungeonRoom F) [] := by
  refine ⟨keyed_create roomId roomName maxPlayers, periodic_nil, ?_, fun _ => rfl⟩
  intro b hb
  cases hb

/--
In every run whose steps have the same length, whatever is ordered and whenever, a building
works in at most one turn of every step, a unit leaves it in exactly every so many of the
turns in which it works, and so the number of its units is that of the turns in which it has
worked, divided by the steps that it takes to train one.  A finished building that has a
unit to train when the units of a step are done works in that step.
-/
theorem training_on_time (roomId : Nat) (roomName : String) (maxPlayers : Nat)
    (calls : List (RoomCall F)) (dt : F) (hdt : lit 0 < dt)
    (hsteps : forall ω dt', RoomCall.step ω dt' ∈ calls -> dt' = dt) (j : Nat) :
    (chronicle turn (shifts j) (create roomId roomName maxPlayers)
        (scriptOf (create roomId roomName maxPlayers) calls)).length ≤
      stepsBegun (scriptOf (create roomId roomName maxPlayers) calls) ∧
    (forall front ω back, calls = front ++ RoomCall.step ω dt :: back ->
      (chronicle turn (shifts j) (front.foldl call (create roomId roomName maxPlayers))
        (stepTurns ω dt (front.foldl call (create roomId roomName maxPlayers)))).length ≤ 1) ∧
    Periodic (stepsToTrain dt) (chronicle turn (shifts j) (create roomId roomName maxPlayers)
      (scriptOf (create roomId roomName maxPlayers) calls)) ∧
    (spawnedBy j (chronicle turn trainEvents (create roomId roomName maxPlayers)
        (scriptOf (create roomId roomName maxPlayers) calls))).length =
      (chronicle turn (shifts j) (create roomId roomName maxPlayers)
        (scriptOf (create roomId roomName maxPlayers) calls)).length / stepsToTrain dt ∧
    forall front ω back b, calls = front ++ RoomCall.step ω dt :: back ->
      ((front.foldl call (create roomId roomName maxPlayers)).unitsStepped ω
        dt).buildings.lookup j = some b ->
      b.trainQueue ≠ [] -> b.underConstruction = false ->
        (chronicle turn (shifts j) (front.foldl call (create roomId roomName maxPlayers))
          (stepTurns ω dt (front.foldl call (create roomId roomName maxPlayers)))).length =
            1 := by
  have hkeyed := keyed_create (F := F) roomId roomName maxPlayers
  have hclocked : forall t, t ∈ scriptOf (create roomId roomName maxPlayers) calls ->
      Clocked dt t := fun t ht => clocked_scriptOf hsteps ht
  have hend := chronicle_invariant_of (OnTime dt j)
    (fun _ t _ h (ht : Clocked dt t) => h.turn hdt ht)
    (onTime_create dt roomId roomName maxPlayers j) hclocked
  rw [List.nil_append] at hend
  refine ⟨?_, ?_, hend.marks, ?_, ?_⟩
  · exact (shifts_length _ _).trans (scriptOf_building calls _ j)
  · intro front ω back _
    exact shifts_of_step ω dt
  · rw [shifts_count hkeyed]
    exact hend.marks.count
  · intro front ω back b _ hb hqueue hbuilt
    exact shift_of_step ω dt hb hqueue hbuilt

end OnTime

/-- An inn is ordered two villagers and has five steps of a second. -/
def apprenticeship : List (RoomCall Rat) :=
  [RoomCall.addPlayer 1, RoomCall.beginBattle,
    RoomCall.spawnBuilding 1 0 kBuildingVillagerInn ⟨0, 0, 0⟩ 0 false,
    RoomCall.enqueueCommand
      ⟨CommandType.train, 1, 0, [], ⟨0, 0, 0⟩, [], 1, kUnitVillager, 0⟩,
    RoomCall.enqueueCommand
      ⟨CommandType.train, 1, 1, [], ⟨0, 0, 0⟩, [], 1, kUnitVillager, 0⟩,
    RoomCall.applyPending, RoomCall.step IterOrder.stored 1, RoomCall.step IterOrder.stored 1,
    RoomCall.step IterOrder.stored 1, RoomCall.step IterOrder.stored 1,
    RoomCall.step IterOrder.stored 1]

/-- It works in four of them and has trained both. -/
theorem inn_trains_on_time :
    chronicle turn (shifts 1) (create 1 "inn" 2)
        (scriptOf (create 1 "inn" 2) apprenticeship) = [false, true, false, true] ∧
      (spawnedBy 1 (chronicle turn trainEvents (create 1 "inn" 2)
          (scriptOf (create 1 "inn" 2) apprenticeship))).length =
        (chronicle turn (shifts 1) (create 1 "inn" 2)
          (scriptOf (create 1 "inn" 2) apprenticeship)).length / stepsToTrain (1 : Rat) := by
  have hdt : (lit 0 : Rat) < 1 := by decide +kernel
  have hsteps : forall ω dt', RoomCall.step ω dt' ∈ apprenticeship -> dt' = 1 := by
    intro ω dt' h
    simp only [apprenticeship, List.mem_cons, List.not_mem_nil, reduceCtorEq, false_or,
      or_false, RoomCall.step.injEq] at h
    rcases h with h | h | h | h | h
    all_goals exact h.right
  refine ⟨by decide +kernel, ?_⟩
  exact (training_on_time 1 "inn" 2 apprenticeship 1 hdt hsteps 1).right.right.right.left

end DungeonRoom

end RtsGame
