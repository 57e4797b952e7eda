import Mathlib.Data.List.Induction

/-!
# Calls that are made of turns

A call does its work in turns: small pieces between which nobody looks.  The
script of a run lists the turns of all its calls.  What holds at every turn of a
script is proved turn by turn, and every moment of a run is the state after the
turns of an initial part of its script.
-/

namespace RtsGame

variable {state call turn : Type}

/-!
## Conditions at every turn
-/

/-- Every turn of a list meets a condition in the state in which it is taken. -/
def Throughout (play : state -> turn -> state) (cond : state -> turn -> Prop)
    (s : state) (turns : List turn) : Prop :=
  forall front t back, turns = front ++ t :: back -> cond (front.foldl play s) t

section Throughout

variable {play : state -> turn -> state} {cond cond' : state -> turn -> Prop}
  {s : state} {t : turn} {front back turns : List turn}

theorem throughout_nil : Throughout play cond s [] := by
  intro front t back h
  cases front with
  | nil => cases h
  | cons x rest => cases h

theorem throughout_cons :
    Throughout play cond s (t :: turns) <->
      cond s t ∧ Throughout play cond (play s t) turns := by
  constructor
  · intro h
    refine ⟨h [] t turns rfl, ?_⟩
    intro front x back heq
    exact h (t :: front) x back (congrArg (List.cons t) heq)
  · rintro ⟨hfirst, hrest⟩ front x back heq
    cases front with
    | nil =>
        injection heq with ht _
        subst ht
        exact hfirst
    | cons y front =>
        injection heq with ht hturns
        subst ht
        exact hrest front x back hturns

theorem throughout_append :
    Throughout play cond s (front ++ back) <->
      Throughout play cond s front ∧
        Throughout play cond (front.foldl play s) back := by
  induction front generalizing s with
  | nil =>
      exact ⟨fun h => ⟨throughout_nil, h⟩, fun h => h.right⟩
  | cons x rest ih =>
      rw [List.cons_append, throughout_cons, throughout_cons, List.foldl_cons, ih]
      exact and_assoc.symm

instance decidableThroughout (play : state -> turn -> state)
    (cond : state -> turn -> Prop) [forall s t, Decidable (cond s t)] :
    forall (s : state) (turns : List turn), Decidable (Throughout play cond s turns)
  | _, [] => isTrue throughout_nil
  | s, t :: rest =>
      have := decidableThroughout play cond (play s t) rest
      decidable_of_iff (cond s t ∧ Throughout play cond (play s t) rest)
        throughout_cons.symm

theorem Throughout.mono (himp : forall s t, cond s t -> cond' s t)
    (h : Throughout play cond s turns) : Throughout play cond' s turns := by
  intro front t back heq
  exact himp _ t (h front t back heq)

/-- An invariant of the turns holds in the end. -/
theorem Throughout.invariant (inv : state -> Prop)
    (hturn : forall s t, inv s -> cond s t -> inv (play s t)) (hs : inv s)
    (h : Throughout play cond s turns) : inv (turns.foldl play s) := by
  induction turns generalizing s with
  | nil =>
      exact hs
  | cons x rest ih =>
      rw [throughout_cons] at h
      exact ih (hturn s x hs h.left) h.right

/-- What follows from an invariant holds at every turn. -/
theorem Throughout.derive {inv : state -> Prop}
    (hturn : forall s t, inv s -> cond s t -> inv (play s t) ∧ cond' s t) (hs : inv s)
    (h : Throughout play cond s turns) : Throughout play cond' s turns := by
  intro front t back heq
  rw [heq, throughout_append, throughout_cons] at h
  have hfront := h.left.invariant inv (fun s t hs hcond => (hturn s t hs hcond).left) hs
  exact (hturn _ t hfront h.right.left).right

/-- A condition on the turn alone. -/
theorem throughout_of_mem {good : turn -> Prop} (h : forall t, t ∈ turns -> good t) :
    Throughout play (fun _ t => good t) s turns := by
  intro front t back heq
  apply h
  rw [heq]
  exact List.mem_append_right front List.mem_cons_self

end Throughout

/-!
## What is noted during a run
-/

/-- The notes that are taken at the turns of a list, in order. -/
def chronicle {note : Type} (play : state -> turn -> state)
    (notes : state -> turn -> List note) : state -> List turn -> List note
  | _, [] => []
  | s, t :: rest => notes s t ++ chronicle play notes (play s t) rest

section Chronicle

variable {note : Type} {play : state -> turn -> state}
  {notes : state -> turn -> List note}

/-- Every note was taken at one of the turns. -/
theorem mem_chronicle_iff {s : state} {turns : List turn} {x : note} :
    x ∈ chronicle play notes s turns <->
      exists front t back, turns = front ++ t :: back ∧ x ∈ notes (front.foldl play s) t := by
  induction turns generalizing s with
  | nil =>
      constructor
      · intro h
        cases h
      · rintro ⟨front, t, back, heq, _⟩
        cases front with
        | nil => cases heq
        | cons y front => cases heq
  | cons t rest ih =>
      rw [chronicle, List.mem_append, ih]
      constructor
      · rintro (hnow | ⟨front, t', back, heq, hlater⟩)
        · exact ⟨[], t, rest, rfl, hnow⟩
        · exact ⟨t :: front, t', back, congrArg (List.cons t) heq, hlater⟩
      · rintro ⟨front, t', back, heq, hx⟩
        cases front with
        | nil =>
            injection heq with ht _
            rw [ht]
            exact Or.inl hx
        | cons y front =>
            injection heq with ht hrest
            rw [ht]
            exact Or.inr ⟨front, t', back, hrest, hx⟩

/-- What every turn that is good keeps of a state and the notes so far holds in the end. -/
theorem chronicle_invariant_of {good : turn -> Prop} (inv : state -> List note -> Prop)
    (hturn : forall s t past, inv s past -> good t -> inv (play s t) (past ++ notes s t))
    {s : state} {past : List note} (hs : inv s past) {turns : List turn}
    (hgood : forall t, t ∈ turns -> good t) :
    inv (turns.foldl play s) (past ++ chronicle play notes s turns) := by
  induction turns generalizing s past with
  | nil =>
      rw [chronicle, List.append_nil]
      exact hs
  | cons t rest ih =>
      rw [chronicle, ← List.append_assoc]
      exact ih (hturn s t past hs (hgood t List.mem_cons_self))
        fun x hx => hgood x (List.mem_cons_of_mem t hx)

theorem chronicle_invariant (inv : state -> List note -> Prop)
    (hturn : forall s t past, inv s past -> inv (play s t) (past ++ notes s t))
    {s : state} {past : List note} (hs : inv s past) (turns : List turn) :
    inv (turns.foldl play s) (past ++ chronicle play notes s turns) := by
  have hall : forall t, t ∈ turns -> (fun _ : turn => True) t := fun _ _ => trivial
  exact chronicle_invariant_of inv (fun s t past h _ => hturn s t past h) hs hall

/-- If there is at most one note, and only at some of the turns, then these are no fewer. -/
theorem chronicle_length_le {beat : turn -> Bool}
    (hturn : forall s t, (notes s t).length ≤ if beat t = true then 1 else 0) (s : state)
    (turns : List turn) : (chronicle play notes s turns).length ≤ turns.countP beat := by
  induction turns generalizing s with
  | nil =>
      exact Nat.le_refl 0
  | cons t rest ih =>
      rw [chronicle, List.length_append, List.countP_cons, Nat.add_comm]
      exact Nat.add_le_add (ih (play s t)) (hturn s t)

end Chronicle

/-!
## Scripts
-/

/-- The turns of a list of calls, one call after the other. -/
def script (next : state -> call -> state) (turns : state -> call -> List turn) :
    state -> List call -> List turn
  | _, [] => []
  | s, c :: rest => turns s c ++ script next turns (next s c) rest

section Script

variable {next : state -> call -> state} {turns : state -> call -> List turn}
  {play : state -> turn -> state}

/-- The script of a run leads where the run leads. -/
theorem foldl_script (hplay : forall s c, (turns s c).foldl play s = next s c)
    (s : state) (calls : List call) :
    (script next turns s calls).foldl play s = calls.foldl next s := by
  induction calls generalizing s with
  | nil =>
      rfl
  | cons c rest ih =>
      rw [script, List.foldl_append, hplay, ih]
      rfl

theorem script_append (s : state) (front back : List call) :
    script next turns s (front ++ back) =
      script next turns s front ++ script next turns (front.foldl next s) back := by
  induction front generalizing s with
  | nil =>
      rfl
  | cons c rest ih =>
      rw [List.cons_append, script, ih, script, List.append_assoc]
      rfl

/-- A turn of a script is a turn of one of the calls. -/
theorem mem_script {s : state} {calls : List call} {t : turn}
    (h : t ∈ script next turns s calls) : exists q c, c ∈ calls ∧ t ∈ turns q c := by
  induction calls generalizing s with
  | nil =>
      cases h
  | cons c rest ih =>
      rw [script, List.mem_append] at h
      cases h with
      | inl hfirst =>
          exact ⟨s, c, List.mem_cons_self, hfirst⟩
      | inr hlater =>
          rcases ih hlater with ⟨q, d, hd, ht⟩
          exact ⟨q, d, List.mem_cons_of_mem c hd, ht⟩

end Script

end RtsGame
