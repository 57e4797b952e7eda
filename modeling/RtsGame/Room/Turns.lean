import RtsGame.Library.Script
import RtsGame.Room.Identity

/-!
# The turns of a room

`ApplyPending` and `Step` are loops: over the commands that wait, over the units,
over the buildings, and twice over what may have died.  A turn is one iteration
of one of these loops, or another call as a whole.  Statements about what happens
during a step are statements about its turns.
-/

namespace RtsGame

open Scalar

namespace DungeonRoom

variable {F : Type}

/-- The calls that are not loops over entities or commands. -/
def RoomCall.isPlain : RoomCall F -> Bool
  | RoomCall.applyPending => false
  | RoomCall.step _ _ => false
  | _ => true

/-- One iteration of a loop of the room, or a plain call. -/
inductive Turn (F : Type) where
  | call (c : RoomCall F) (plain : c.isPlain = true)
  | command (cmd : PendingCommand F)
  | clearPending
  | scanTick
  | unit (ω : IterOrder) (dt : F) (doAggro : Bool) (id : Nat)
  | building (dt : F) (id : Nat)
  | deadUnit (id : Nat)
  | deadBuilding (id : Nat)

variable [Scalar F]

def turn (r : DungeonRoom F) : Turn F -> DungeonRoom F
  | Turn.call c _ => r.call c
  | Turn.command cmd => r.applyCommand cmd
  | Turn.clearPending => { r with pending := [] }
  | Turn.scanTick => { r with aggroScanTick := r.nextScanTick }
  | Turn.unit ω dt doAggro id => stepUnit ω dt doAggro r id
  | Turn.building dt id => stepBuilding dt r id
  | Turn.deadUnit id => removeDeadUnit r id
  | Turn.deadBuilding id => removeDeadBuilding r id

/-- Does this step look for enemies? -/
def scans (r : DungeonRoom F) : Bool := r.nextScanTick % kAggroScanTicks = 0

/-- The room when the loop over the units is done. -/
def unitsStepped (ω : IterOrder) (dt : F) (r : DungeonRoom F) : DungeonRoom F :=
  stepUnits ω dt r.scans { r with aggroScanTick := r.nextScanTick }

/-- The turns of `Step` in the order of the source. -/
def stepTurns (ω : IterOrder) (dt : F) (r : DungeonRoom F) : List (Turn F) :=
  Turn.scanTick ::
    ((ω.visit r.units).map (Turn.unit ω dt r.scans) ++
      (ω.visit (r.unitsStepped ω dt).buildings).map (Turn.building dt) ++
      (ω.visit (r.stepAlive ω dt).units).map Turn.deadUnit ++
      (ω.visit (removeDeadUnits ω (r.stepAlive ω dt)).buildings).map Turn.deadBuilding)

/-- The turns of a call. -/
def turns (r : DungeonRoom F) (c : RoomCall F) : List (Turn F) :=
  match c with
  | RoomCall.applyPending => r.pending.map Turn.command ++ [Turn.clearPending]
  | RoomCall.step ω dt => stepTurns ω dt r
  | c => if h : c.isPlain then [Turn.call c h] else []

theorem turns_plain (r : DungeonRoom F) {c : RoomCall F} (h : c.isPlain = true) :
    r.turns c = [Turn.call c h] := by
  cases c with
  | applyPending => cases h
  | step ω dt => cases h
  | _ => rfl

theorem stepTurns_foldl (ω : IterOrder) (dt : F) (r : DungeonRoom F) :
    (stepTurns ω dt r).foldl turn r = r.step ω dt := by
  unfold stepTurns
  rw [List.foldl_cons, List.foldl_append, List.foldl_append, List.foldl_append,
    List.foldl_map, List.foldl_map, List.foldl_map, List.foldl_map]
  rfl

/-- The turns of a call together are the call. -/
theorem turns_foldl (r : DungeonRoom F) (c : RoomCall F) :
    (r.turns c).foldl turn r = r.call c := by
  cases c with
  | applyPending =>
      unfold turns
      rw [List.foldl_append, List.foldl_map]
      rfl
  | step ω dt => exact stepTurns_foldl ω dt r
  | _ => rfl

/-- All turns of a sequence of calls. -/
abbrev scriptOf (r : DungeonRoom F) (calls : List (RoomCall F)) : List (Turn F) :=
  script DungeonRoom.call turns r calls

theorem scriptOf_foldl (r : DungeonRoom F) (calls : List (RoomCall F)) :
    (r.scriptOf calls).foldl turn r = calls.foldl DungeonRoom.call r :=
  foldl_script turns_foldl r calls

theorem mem_stepTurns_cases {r : DungeonRoom F} {ω : IterOrder} {dt : F} {t : Turn F}
    (h : t ∈ stepTurns ω dt r) :
    t = Turn.scanTick ∨ (exists id, t = Turn.unit ω dt r.scans id) ∨
      (exists id, t = Turn.building dt id) ∨ (exists id, t = Turn.deadUnit id) ∨
      exists id, t = Turn.deadBuilding id := by
  simp only [stepTurns, List.mem_cons, List.mem_append, List.mem_map] at h
  rcases h with h | ((⟨id, _, h⟩ | ⟨id, _, h⟩) | ⟨id, _, h⟩) | ⟨id, _, h⟩
  · exact Or.inl h
  · exact Or.inr (Or.inl ⟨id, h.symm⟩)
  · exact Or.inr (Or.inr (Or.inl ⟨id, h.symm⟩))
  · exact Or.inr (Or.inr (Or.inr (Or.inl ⟨id, h.symm⟩)))
  · exact Or.inr (Or.inr (Or.inr (Or.inr ⟨id, h.symm⟩)))

/-- The turns of a call: the call itself, the waiting commands, or those of a step. -/
theorem mem_turns_cases {r : DungeonRoom F} {c : RoomCall F} {t : Turn F}
    (h : t ∈ r.turns c) :
    (exists plain, t = Turn.call c plain) ∨
      (c = RoomCall.applyPending ∧
        (t = Turn.clearPending ∨ exists cmd, t = Turn.command cmd)) ∨
      exists ω dt, c = RoomCall.step ω dt ∧ t ∈ stepTurns ω dt r := by
  by_cases hplain : c.isPlain = true
  · rw [turns_plain r hplain, List.mem_singleton] at h
    exact Or.inl ⟨hplain, h⟩
  · cases c with
    | applyPending =>
        simp only [turns, List.mem_append, List.mem_map, List.mem_singleton] at h
        refine Or.inr (Or.inl ⟨rfl, ?_⟩)
        rcases h with ⟨cmd, _, h⟩ | h
        · exact Or.inr ⟨cmd, h.symm⟩
        · exact Or.inl h
    | step ω dt => exact Or.inr (Or.inr ⟨ω, dt, rfl, h⟩)
    | _ => exact absurd rfl hplain

/-- A unit takes its turn in a step of the same length. -/
theorem unit_mem_turns {r : DungeonRoom F} {c : RoomCall F} {ω : IterOrder} {dt : F}
    {doAggro : Bool} {id : Nat} (h : Turn.unit ω dt doAggro id ∈ r.turns c) :
    c = RoomCall.step ω dt := by
  rcases mem_turns_cases h with ⟨_, heq⟩ | ⟨_, heq | ⟨_, heq⟩⟩ | ⟨ω', dt', hc, hstep⟩
  · cases heq
  · cases heq
  · cases heq
  · rcases mem_stepTurns_cases hstep with heq | ⟨_, heq⟩ | ⟨_, heq⟩ | ⟨_, heq⟩ | ⟨_, heq⟩
    · cases heq
    · injection heq with hω hdt _ _
      rw [hc, hω, hdt]
    · cases heq
    · cases heq
    · cases heq

theorem unit_mem_scriptOf {r : DungeonRoom F} {calls : List (RoomCall F)}
    {ω : IterOrder} {dt : F} {doAggro : Bool} {id : Nat}
    (h : Turn.unit ω dt doAggro id ∈ r.scriptOf calls) :
    RoomCall.step ω dt ∈ calls := by
  rcases mem_script h with ⟨q, c, hc, ht⟩
  rw [← unit_mem_turns ht]
  exact hc

/-- A plain call is the turn of no other call. -/
theorem call_mem_turns {r : DungeonRoom F} {c d : RoomCall F} {plain : d.isPlain = true}
    (h : Turn.call d plain ∈ r.turns c) : c = d := by
  by_cases hc : c.isPlain = true
  · rw [turns_plain r hc, List.mem_singleton] at h
    injection h with heq
    exact heq.symm
  · rcases mem_turns_cases h with ⟨hplain, _⟩ | ⟨_, heq | ⟨_, heq⟩⟩ | ⟨_, _, _, hstep⟩
    · exact absurd hplain hc
    · cases heq
    · cases heq
    · rcases mem_stepTurns_cases hstep with heq | ⟨_, heq⟩ | ⟨_, heq⟩ | ⟨_, heq⟩ | ⟨_, heq⟩
      all_goals cases heq

theorem call_mem_scriptOf {r : DungeonRoom F} {calls : List (RoomCall F)} {d : RoomCall F}
    {plain : d.isPlain = true} (h : Turn.call d plain ∈ r.scriptOf calls) : d ∈ calls := by
  rcases mem_script h with ⟨q, c, hc, ht⟩
  rw [← call_mem_turns ht]
  exact hc

/-- What holds in a run whose last call is a step holds at the turns of that step. -/
theorem throughout_step {cond : DungeonRoom F -> Turn F -> Prop} {r : DungeonRoom F}
    {calls : List (RoomCall F)} {ω : IterOrder} {dt : F}
    (h : Throughout turn cond r (r.scriptOf (calls ++ [RoomCall.step ω dt]))) :
    Throughout turn cond (calls.foldl call r) (stepTurns ω dt (calls.foldl call r)) := by
  rw [scriptOf, script_append, throughout_append, scriptOf_foldl] at h
  have hstep := h.right
  rw [script, script, List.append_nil] at hstep
  exact hstep

end DungeonRoom

end RtsGame
