import RtsGame.Room.Trade

/-!
# Orders for units and the units that come of them

An accepted Train command puts an item at the end of a building's queue, and the
turn of the building takes one from the front when its time is up.  Over every
run the orders that a standing building was given are the units that it has
spawned and the items that wait.
-/

namespace RtsGame

open Scalar

namespace DungeonRoom

variable {F : Type} [Scalar F]

/-- An order that a building accepts, or a unit that leaves it. -/
inductive TrainEvent where
  | ordered (building unitType : Nat)
  | spawned (building unitType : Nat)

/-- The types of units ordered from a building. -/
def orderedFrom (j : Nat) (events : List TrainEvent) : List Nat :=
  events.filterMap fun e =>
    match e with
    | TrainEvent.ordered id unitType => if id = j then some unitType else none
    | TrainEvent.spawned _ _ => none

/-- The types of the units that a building has spawned. -/
def spawnedBy (j : Nat) (events : List TrainEvent) : List Nat :=
  events.filterMap fun e =>
    match e with
    | TrainEvent.ordered _ _ => none
    | TrainEvent.spawned id unitType => if id = j then some unitType else none

/-- The types of the units in a building's queue. -/
def queuedTypes (b : Building F) : List Nat := b.trainQueue.map TrainItem.unitType

/--
What a turn has to do with training: a Train command that is not rejected, or a
unit with the next id after the turn of a building.
-/
def trainEvents (q : DungeonRoom F) (t : Turn F) : List TrainEvent :=
  match t with
  | Turn.command cmd =>
      if cmd.type = CommandType.train ∧ q.accepts cmd = true then
        [TrainEvent.ordered cmd.targetEntity cmd.auxType]
      else []
  | Turn.building dt id =>
      match (stepBuilding dt q id).units.lookup q.nextEntityId with
      | none => []
      | some u => [TrainEvent.spawned id u.unitType]
  | _ => []

section Events

variable {j : Nat} {past : List TrainEvent}

theorem orderedFrom_append (events : List TrainEvent) :
    orderedFrom j (past ++ events) = orderedFrom j past ++ orderedFrom j events :=
  List.filterMap_append

theorem spawnedBy_append (events : List TrainEvent) :
    spawnedBy j (past ++ events) = spawnedBy j past ++ spawnedBy j events :=
  List.filterMap_append

theorem orderedFrom_ordered (id unitType : Nat) :
    orderedFrom j [TrainEvent.ordered id unitType] = if id = j then [unitType] else [] := by
  unfold orderedFrom
  split
  · rename_i hid
    simp [hid]
  · rename_i hid
    simp [hid]

theorem spawnedBy_spawned (id unitType : Nat) :
    spawnedBy j [TrainEvent.spawned id unitType] = if id = j then [unitType] else [] := by
  unfold spawnedBy
  split
  · rename_i hid
    simp [hid]
  · rename_i hid
    simp [hid]

end Events

/-- The orders of every building are what it has spawned and what it still has to train. -/
structure Balanced (q : DungeonRoom F) (past : List TrainEvent) : Prop where
  keyed : Keyed q
  standing : forall j b, q.buildings.lookup j = some b ->
    orderedFrom j past = spawnedBy j past ++ queuedTypes b
  unborn : forall j, q.nextEntityId ≤ j -> orderedFrom j past = [] ∧ spawnedBy j past = []

section Balance

variable {q : DungeonRoom F} {t : Turn F} {past : List TrainEvent}

/-- A turn without orders and spawns keeps the queues, up to the time that is left. -/
theorem Balanced.quiet (h : Balanced q past) (hevents : trainEvents q t = [])
    (hqueue : forall j v, (q.turn t).buildings.lookup j = some v ->
      (exists b, q.buildings.lookup j = some b ∧ queuedTypes v = queuedTypes b) ∨
        (q.nextEntityId ≤ j ∧ v.trainQueue = [])) :
    Balanced (q.turn t) (past ++ trainEvents q t) := by
  rcases turn_keyed h.keyed t with ⟨hkeyed, hnext⟩
  rw [hevents, List.append_nil]
  refine ⟨hkeyed, ?_, fun j hj => h.unborn j (hnext.trans hj)⟩
  intro j v hv
  rcases hqueue j v hv with ⟨b, hb, hsame⟩ | ⟨hj, hempty⟩
  · rw [hsame]
    exact h.standing j b hb
  · rcases h.unborn j hj with ⟨hordered, hspawned⟩
    rw [hordered, hspawned, queuedTypes, hempty]
    rfl

/-- Only Train commands and the turns of buildings touch the queues. -/
theorem queue_kept (hq : Keyed q)
    (htrain : forall cmd, t = Turn.command cmd -> cmd.type ≠ CommandType.train)
    (hbuilding : forall dt id, t ≠ Turn.building dt id) (j : Nat) (v : Building F)
    (hv : (q.turn t).buildings.lookup j = some v) :
    (exists b, q.buildings.lookup j = some b ∧ queuedTypes v = queuedTypes b) ∨
      (q.nextEntityId ≤ j ∧ v.trainQueue = []) := by
  cases building_fate hq hv with
  | kept hb => exact Or.inl ⟨v, hb, rfl⟩
  | placed _ _ hj heq =>
      rw [heq]
      exact Or.inr ⟨Nat.le_of_eq hj.symm, rfl⟩
  | founded _ _ _ _ hj heq =>
      rw [heq]
      exact Or.inr ⟨Nat.le_of_eq hj.symm, rfl⟩
  | ordered ht htype _ _ _ => exact absurd htype (htrain _ ht)
  | training ht _ _ _ _ _ => exact absurd ht (hbuilding _ _)
  | released ht _ _ _ _ _ => exact absurd ht (hbuilding _ _)
  | struck _ hb _ _ heq =>
      rw [heq]
      exact Or.inl ⟨_, hb, rfl⟩
  | built _ _ _ _ _ _ hb _ heq =>
      refine Or.inl ⟨_, hb, ?_⟩
      rw [heq]
      unfold buildProgress
      dsimp only
      split
      · rfl
      · rfl

/-- An accepted order goes to the end of the queue. -/
theorem Balanced.train (h : Balanced q past) {cmd : PendingCommand F}
    (htype : cmd.type = CommandType.train) :
    Balanced (q.turn (Turn.command cmd)) (past ++ trainEvents q (Turn.command cmd)) := by
  rcases turn_keyed h.keyed (Turn.command cmd) with ⟨hkeyed, hnext⟩
  rcases (allOrNothing q cmd).train htype with ⟨_, henlists⟩ | ⟨_, code, hdown⟩
  · have hevents : trainEvents q (Turn.command cmd) =
        [TrainEvent.ordered cmd.targetEntity cmd.auxType] := by
      unfold trainEvents accepts
      dsimp only
      rw [if_pos ⟨htype, decide_eq_true henlists.rejected⟩]
    rcases henlists.queue with ⟨b, hb, hqueue⟩
    rw [hevents]
    refine ⟨hkeyed, ?_, ?_⟩
    · intro j v hv
      have hv' := (hqueue j).symm.trans hv
      rw [orderedFrom_append, spawnedBy_append, orderedFrom_ordered]
      change _ = (spawnedBy j past ++ []) ++ queuedTypes v
      rw [List.append_nil]
      by_cases hj : j = cmd.targetEntity
      · rw [if_pos hj] at hv'
        injection hv' with heq
        rw [if_pos hj.symm, h.standing j b (hj ▸ hb), ← heq, List.append_assoc]
        unfold queuedTypes
        rw [List.map_append]
        rfl
      · rw [if_neg hj] at hv'
        rw [if_neg (Ne.symm hj), List.append_nil]
        exact h.standing j v hv'
    · intro j hj
      have hlt := (h.keyed.buildings _ b hb).right
      have hne : cmd.targetEntity ≠ j := by lia
      rw [orderedFrom_append, spawnedBy_append, orderedFrom_ordered, if_neg hne,
        List.append_nil]
      change _ ∧ spawnedBy j past ++ [] = []
      rw [List.append_nil]
      exact h.unborn j (hnext.trans hj)
  · have hevents : trainEvents q (Turn.command cmd) = [] := by
      unfold trainEvents accepts
      dsimp only
      rw [if_neg]
      rintro ⟨_, haccepted⟩
      have hsame := of_decide_eq_true haccepted
      rw [hdown] at hsame
      exact absurd hsame (by simp)
    refine h.quiet hevents ?_
    intro j v hv
    change (q.applyCommand cmd).buildings.lookup j = some v at hv
    rw [hdown] at hv
    exact Or.inl ⟨v, hv, rfl⟩

/-- A building that releases a unit takes its order from the front of the queue. -/
theorem Balanced.building (h : Balanced q past) (dt : F) (id : Nat) :
    Balanced (q.turn (Turn.building dt id))
      (past ++ trainEvents q (Turn.building dt id)) := by
  rcases turn_keyed h.keyed (Turn.building dt id) with ⟨hkeyed, hnext⟩
  have hfresh := h.keyed.units_fresh
  rcases stepBuilding_cases dt q id with
    heq | ⟨b, item, rest, hb, hqueue, _, ⟨_, heq⟩ | ⟨_, heq⟩⟩
  · refine h.quiet ?_ ?_
    · unfold trainEvents
      simp only [heq, hfresh]
    · intro j v hv
      change (stepBuilding dt q id).buildings.lookup j = some v at hv
      rw [heq] at hv
      exact Or.inl ⟨v, hv, rfl⟩
  · have hnew : (stepBuilding dt q id).units.lookup q.nextEntityId =
        some (trainedUnit q.nextEntityId b item.unitType) := by
      rw [heq]
      exact AList.lookup_insert _
    have hevents : trainEvents q (Turn.building dt id) =
        [TrainEvent.spawned id item.unitType] := by
      unfold trainEvents
      simp only [hnew]
      rfl
    rw [hevents]
    refine ⟨hkeyed, ?_, ?_⟩
    · intro j v hv
      change (stepBuilding dt q id).buildings.lookup j = some v at hv
      rw [heq] at hv
      change (q.buildings.insert id _).lookup j = some v at hv
      rw [Table.lookup_insert_ite] at hv
      rw [orderedFrom_append, spawnedBy_append, spawnedBy_spawned]
      change orderedFrom j past ++ [] = _
      rw [List.append_nil]
      by_cases hj : j = id
      · rw [if_pos hj] at hv
        injection hv with hv
        rw [if_pos hj.symm, h.standing j b (hj ▸ hb), ← hv, List.append_assoc]
        unfold queuedTypes
        rw [hqueue]
        rfl
      · rw [if_neg hj] at hv
        rw [if_neg (Ne.symm hj), List.append_nil]
        exact h.standing j v hv
    · intro j hj
      have hlt := (h.keyed.buildings _ b hb).right
      have hne : id ≠ j := by lia
      rw [orderedFrom_append, spawnedBy_append, spawnedBy_spawned, if_neg hne,
        List.append_nil]
      change orderedFrom j past ++ [] = [] ∧ _
      rw [List.append_nil]
      exact h.unborn j (hnext.trans hj)
  · refine h.quiet ?_ ?_
    · unfold trainEvents
      have hnone : (stepBuilding dt q id).units.lookup q.nextEntityId = none := by
        rw [heq]
        exact hfresh
      simp only [hnone]
    · intro j v hv
      change (stepBuilding dt q id).buildings.lookup j = some v at hv
      rw [heq] at hv
      change (q.buildings.insert id _).lookup j = some v at hv
      rw [Table.lookup_insert_ite] at hv
      split at hv
      · rename_i hj
        injection hv with hv
        refine Or.inl ⟨b, hj ▸ hb, ?_⟩
        rw [← hv, queuedTypes, queuedTypes, hqueue]
        rfl
      · exact Or.inl ⟨v, hv, rfl⟩

theorem Balanced.turn (h : Balanced q past) (t : Turn F) :
    Balanced (q.turn t) (past ++ trainEvents q t) := by
  cases t with
  | command cmd =>
      by_cases htype : cmd.type = CommandType.train
      · exact h.train htype
      · refine h.quiet ?_ (queue_kept h.keyed ?_ ?_)
        · unfold trainEvents
          dsimp only
          rw [if_neg]
          rintro ⟨htrain, _⟩
          exact htype htrain
        · intro other heq
          injection heq with heq
          rw [← heq]
          exact htype
        · intro dt id heq
          cases heq
  | building dt id => exact h.building dt id
  | _ => exact h.quiet rfl (queue_kept h.keyed nofun nofun)

end Balance

/-!
## Single turns and single steps
-/

/-- What a turn may do on account of training. -/
structure TrainsFairly (q : DungeonRoom F) (t : Turn F) : Prop where
  paid : forall cmd, t = Turn.command cmd -> cmd.type = CommandType.train ->
    q.accepts cmd = true -> Paid q (q.turn t) cmd.ownerUid (unitCost cmd.auxType)
  free : forall dt id, t = Turn.building dt id -> (q.turn t).playerRes = q.playerRes
  born : forall j u, (q.turn t).units.lookup j = some u -> q.units.lookup j = none ->
    (exists ownerUid team unitType pos hp speed yaw plain,
      t = Turn.call (RoomCall.spawnUnit ownerUid team unitType pos hp speed yaw) plain) ∨
    exists dt id b item rest, t = Turn.building dt id ∧
      q.buildings.lookup id = some b ∧ b.trainQueue = item :: rest ∧
      u.ownerUid = b.ownerUid ∧ u.team = b.team ∧ u.unitType = item.unitType ∧
      trainEvents q t = [TrainEvent.spawned id item.unitType]

theorem accepts_train {q : DungeonRoom F} {cmd : PendingCommand F}
    (htype : cmd.type = CommandType.train) (haccepted : q.accepts cmd = true) :
    Enlists q (q.applyCommand cmd) cmd := by
  rcases (allOrNothing q cmd).train htype with ⟨_, henlists⟩ | ⟨_, code, hdown⟩
  · exact henlists
  · have hsame := of_decide_eq_true haccepted
    rw [hdown] at hsame
    exact absurd hsame (by simp)

theorem stepBuilding_born {q : DungeonRoom F} {dt : F} {id j : Nat}
    {u : GameUnit F} (hu : (stepBuilding dt q id).units.lookup j = some u)
    (hnone : q.units.lookup j = none) :
    exists b item rest, q.buildings.lookup id = some b ∧ b.trainQueue = item :: rest ∧
      u.ownerUid = b.ownerUid ∧ u.team = b.team ∧ u.unitType = item.unitType ∧
      trainEvents q (Turn.building dt id) = [TrainEvent.spawned id item.unitType] := by
  rcases stepBuilding_cases dt q id with
    heq | ⟨b, item, rest, hb, hqueue, _, ⟨_, heq⟩ | ⟨_, heq⟩⟩
  · rw [heq, hnone] at hu
    cases hu
  · have hnew : (stepBuilding dt q id).units.lookup q.nextEntityId =
        some (trainedUnit q.nextEntityId b item.unitType) := by
      rw [heq]
      exact AList.lookup_insert _
    rw [heq] at hu
    change (q.units.insert q.nextEntityId _).lookup j = some u at hu
    rw [Table.lookup_insert_ite, hnone] at hu
    split at hu
    · injection hu with hu
      refine ⟨b, item, rest, hb, hqueue, ?_, ?_, ?_, ?_⟩
      · rw [← hu]
        rfl
      · rw [← hu]
        rfl
      · rw [← hu]
        rfl
      · unfold trainEvents
        simp only [hnew]
        rfl
    · cases hu
  · rw [heq] at hu
    cases hnone.symm.trans hu

theorem trainsFairly {q : DungeonRoom F} (hq : Keyed q) (t : Turn F) :
    TrainsFairly q t := by
  constructor
  · rintro cmd rfl htype haccepted
    exact (accepts_train htype haccepted).paid
  · rintro dt id rfl
    change (stepBuilding dt q id).playerRes = q.playerRes
    rcases stepBuilding_cases dt q id with
      heq | ⟨b, item, rest, _, _, _, ⟨_, heq⟩ | ⟨_, heq⟩⟩
    · rw [heq]
    · rw [heq]
      rfl
    · rw [heq]
      rfl
  · intro j u hu hnone
    cases unit_fate hq hu with
    | kept hkept => cases hnone.symm.trans hkept
    | @spawned ownerUid team unitType pos hp speed yaw plain ht _ _ _ =>
        exact Or.inl ⟨ownerUid, team, unitType, pos, hp, speed, yaw, plain, ht⟩
    | @trained dt id unitType _ ht _ _ _ =>
        subst ht
        rcases stepBuilding_born hu hnone with ⟨b, item, rest, hborn⟩
        exact Or.inr ⟨dt, id, b, item, rest, rfl, hborn⟩
    | ordered _ hold _ => cases hnone.symm.trans hold
    | acted _ hout _ _ => cases hnone.symm.trans hout.found
    | struck _ _ hold _ _ _ => cases hnone.symm.trans hold

/-- The turn of a building with the given id. -/
def isTurnOf (j : Nat) : Turn F -> Bool
  | Turn.building _ id => id = j
  | _ => false

/-- A building spawns at most one unit for each of its turns. -/
theorem spawnedBy_le_turns (j : Nat) (q : DungeonRoom F) (ts : List (Turn F)) :
    (spawnedBy j (chronicle turn trainEvents q ts)).length ≤ ts.countP (isTurnOf j) := by
  induction ts generalizing q with
  | nil =>
      exact Nat.le_refl 0
  | cons t rest ih =>
      have hrest := ih (q.turn t)
      rw [chronicle, spawnedBy_append, List.length_append, List.countP_cons]
      have hfirst : (spawnedBy j (trainEvents q t)).length ≤
          if isTurnOf j t = true then 1 else 0 := by
        cases t with
        | building dt id =>
            simp only [trainEvents, isTurnOf, decide_eq_true_eq]
            split
            · exact Nat.zero_le _
            · rw [spawnedBy_spawned]
              split
              · exact Nat.le_refl 1
              · exact Nat.le_refl 0
        | command cmd =>
            simp only [trainEvents]
            split
            · exact Nat.zero_le _
            · exact Nat.zero_le _
        | _ => exact Nat.zero_le _
      lia

/-- In one step, every building has at most one turn. -/
theorem stepTurns_building (ω : IterOrder) (dt : F) (r : DungeonRoom F) (j : Nat) :
    (stepTurns ω dt r).countP (isTurnOf j) ≤ 1 := by
  have hother : forall l : List (Turn F), (forall t, t ∈ l -> isTurnOf j t = false) ->
      l.countP (isTurnOf j) = 0 := by
    intro l hl
    rw [List.countP_eq_zero]
    intro t ht
    rw [hl t ht]
    decide
  have hmap : forall (f : Nat -> Turn F) (l : List Nat),
      (forall id, isTurnOf j (f id) = false) -> (l.map f).countP (isTurnOf j) = 0 := by
    intro f l hf
    apply hother
    intro t ht
    rcases List.mem_map.mp ht with ⟨id, _, rfl⟩
    exact hf id
  have hvisit : ((ω.visit (r.unitsStepped ω dt).buildings).map
      (Turn.building dt)).countP (isTurnOf j) ≤ 1 := by
    rw [List.countP_map]
    have hcount := List.nodup_iff_count_le_one.mp
      (ω.visit_nodup (r.unitsStepped ω dt).buildings) j
    have hsame : (isTurnOf j ∘ Turn.building dt) = fun id => id == j := by
      funext id
      rfl
    rw [hsame]
    exact hcount
  unfold stepTurns
  rw [List.countP_cons, List.countP_append, List.countP_append, List.countP_append,
    hmap (Turn.unit ω dt r.scans) _ fun _ => rfl, hmap Turn.deadUnit _ fun _ => rfl,
    hmap Turn.deadBuilding _ fun _ => rfl]
  simpa [isTurnOf] using hvisit

/-!
## Whole runs
-/

/--
After any calls, the orders that a standing building has accepted are, in order,
the units that it has spawned and its queue; each order was paid exactly, each
spawned unit is the building's and of the type at the head of the queue; and no
building spawns more than one unit in a step.
-/
theorem training_exact (roomId : Nat) (roomName : String) (maxPlayers : Nat)
    (calls : List (RoomCall F)) :
    (forall j b,
      (calls.foldl call (create roomId roomName maxPlayers)).buildings.lookup j = some b ->
        orderedFrom j (chronicle turn trainEvents (create roomId roomName maxPlayers)
            (scriptOf (create roomId roomName maxPlayers) calls)) =
          spawnedBy j (chronicle turn trainEvents (create roomId roomName maxPlayers)
            (scriptOf (create roomId roomName maxPlayers) calls)) ++ queuedTypes b) ∧
      Throughout turn TrainsFairly (create roomId roomName maxPlayers)
        (scriptOf (create roomId roomName maxPlayers) calls) ∧
      forall front ω dt back, calls = front ++ RoomCall.step ω dt :: back -> forall j,
        (spawnedBy j (chronicle turn trainEvents
          (front.foldl call (create roomId roomName maxPlayers))
          (stepTurns ω dt (front.foldl call (create roomId roomName maxPlayers))))).length
            ≤ 1 := by
  have hkeyed := keyed_create (F := F) roomId roomName maxPlayers
  refine ⟨?_, ?_, ?_⟩
  · have hstart : Balanced (create roomId roomName maxPlayers : DungeonRoom F) [] := by
      refine ⟨hkeyed, ?_, fun j _ => ⟨rfl, rfl⟩⟩
      intro j b hb
      cases hb
    have hrun := chronicle_invariant Balanced (fun _ t _ h => h.turn t) hstart
      (scriptOf (create roomId roomName maxPlayers) calls)
    rw [scriptOf_foldl, List.nil_append] at hrun
    exact hrun.standing
  · intro front t back _
    exact trainsFairly (hkeyed.turns front).left t
  · intro front ω dt back _ j
    exact (spawnedBy_le_turns j _ _).trans (stepTurns_building ω dt _ j)

end DungeonRoom

end RtsGame
