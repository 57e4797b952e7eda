import RtsGame.Library.Script

/-!
# Beats that do not outrun a clock

Among the turns of a run some are ticks of a clock and some are beats.  The beats
keep pace with the clock if it ticks between any two of them.  A quantity that
every beat lowers by a little and nothing else lowers is then bounded below by the
number of ticks.
-/

namespace RtsGame

/-- Which turns are ticks, and which are beats. -/
structure Metre (turn : Type) where
  tick : turn -> Bool
  beat : turn -> Bool

namespace Metre

variable {state call turn : Type} (m : Metre turn)

/-- Has the clock ticked since the last beat, if it had so before the turn? -/
def after (fresh : Bool) (t : turn) : Bool :=
  if m.tick t then true else if m.beat t then false else fresh

/-- Every beat comes after a tick that no other beat has used. -/
def Paced : Bool -> List turn -> Prop
  | _, [] => True
  | fresh, t :: rest => (m.beat t = true -> fresh = true) ∧ Paced (m.after fresh t) rest

/-- How often the clock ticks. -/
def ticks (ts : List turn) : Nat := ts.countP m.tick

variable {m}

theorem ticks_cons (t : turn) (rest : List turn) :
    m.ticks (t :: rest) = (if m.tick t then 1 else 0) + m.ticks rest := by
  unfold ticks
  rw [List.countP_cons, Nat.add_comm]

theorem paced_append {fresh : Bool} {front back : List turn} :
    m.Paced fresh (front ++ back) <->
      m.Paced fresh front ∧ m.Paced (front.foldl m.after fresh) back := by
  induction front generalizing fresh with
  | nil =>
      exact ⟨fun h => ⟨trivial, h⟩, fun h => h.right⟩
  | cons t rest ih =>
      rw [List.cons_append, Paced, Paced, List.foldl_cons, ih]
      exact and_assoc.symm

/-- Without beats there is nothing to show. -/
theorem paced_of_quiet {ts : List turn} (h : forall t, t ∈ ts -> m.beat t = false)
    (fresh : Bool) : m.Paced fresh ts := by
  induction ts generalizing fresh with
  | nil =>
      trivial
  | cons t rest ih =>
      constructor
      · intro hbeat
        rw [h t List.mem_cons_self] at hbeat
        cases hbeat
      · exact ih (fun x hx => h x (List.mem_cons_of_mem t hx)) _

/-- A script is paced if each of its calls is, whatever came before it. -/
theorem paced_script {next : state -> call -> state} {turns : state -> call -> List turn}
    (hcall : forall s c fresh, m.Paced fresh (turns s c)) (s : state) (calls : List call)
    (fresh : Bool) : m.Paced fresh (script next turns s calls) := by
  induction calls generalizing s fresh with
  | nil =>
      trivial
  | cons c rest ih =>
      rw [script, paced_append]
      exact ⟨hcall s c fresh, ih (next s c) _⟩

/-- An invariant that counts the ticks and looks at the beats. -/
theorem Paced.invariant {play : state -> turn -> state} {good : turn -> Prop}
    (inv : Nat -> Bool -> state -> Prop)
    (hturn : forall n fresh s t, inv n fresh s -> good t ->
      (m.beat t = true -> fresh = true) ->
      inv (n + if m.tick t then 1 else 0) (m.after fresh t) (play s t))
    {n : Nat} {fresh : Bool} {s : state} {ts : List turn} (hs : inv n fresh s)
    (hgood : forall t, t ∈ ts -> good t) (h : m.Paced fresh ts) :
    inv (n + m.ticks ts) (ts.foldl m.after fresh) (ts.foldl play s) := by
  induction ts generalizing n fresh s with
  | nil =>
      exact hs
  | cons t rest ih =>
      rw [ticks_cons, ← Nat.add_assoc]
      exact ih (hturn n fresh s t hs (hgood t List.mem_cons_self) h.left)
        (fun x hx => hgood x (List.mem_cons_of_mem t hx)) h.right

end Metre

end RtsGame
