import Mathlib.Algebra.Order.Group.Defs
import Mathlib.Algebra.Order.Monoid.Unbundled.Basic
import RtsGame.Library.Pace

/-!
# What a run costs

Every turn of a run costs something.  A potential pays in advance: if the cost of each
turn and the rise of the potential together are at most an allowance, which only some
turns have, then a whole run costs at most the potential it starts with and the
allowances of those turns.  Where these turns keep pace with a clock, it is the number of
ticks that bounds the cost.
-/

namespace RtsGame

variable {state turn cost : Type}

/-- The costs of the turns together. -/
def tally [AddCommGroup cost] (play : state -> turn -> state)
    (price : state -> turn -> cost) : state -> List turn -> cost
  | _, [] => 0
  | s, t :: rest => price s t + tally play price (play s t) rest

section Tally

variable [AddCommGroup cost] {play : state -> turn -> state} {price : state -> turn -> cost}

variable [PartialOrder cost] [IsOrderedAddMonoid cost]

/-- A potential and the allowances of some turns pay for the whole run. -/
theorem tally_add_potential_le (inv : state -> Prop) (potential : state -> cost)
    (beat : turn -> Bool) (allowance : cost) {good : turn -> Prop}
    (hturn : forall s t, inv s -> good t -> inv (play s t) ∧
      price s t + potential (play s t) ≤ potential s + if beat t then allowance else 0)
    {s : state} (hs : inv s) {ts : List turn} (hgood : forall t, t ∈ ts -> good t) :
    tally play price s ts + potential (ts.foldl play s) ≤
      potential s + ts.countP beat • allowance := by
  induction ts generalizing s with
  | nil =>
      rw [tally, List.countP_nil, zero_nsmul, zero_add, add_zero]
      rfl
  | cons t rest ih =>
      rcases hturn s t hs (hgood t List.mem_cons_self) with ⟨hnext, hpaid⟩
      have hrest := ih hnext fun x hx => hgood x (List.mem_cons_of_mem t hx)
      have hcount : (t :: rest).countP beat • allowance =
          (if beat t then allowance else 0) + rest.countP beat • allowance := by
        rw [List.countP_cons, add_nsmul, add_comm]
        cases beat t with
        | true => rw [if_pos rfl, if_pos rfl, one_nsmul]
        | false => rw [if_neg Bool.false_ne_true, if_neg Bool.false_ne_true, zero_nsmul]
      calc
        price s t + tally play price (play s t) rest + potential (rest.foldl play (play s t))
            ≤ price s t + (potential (play s t) + rest.countP beat • allowance) := by
          rw [add_assoc]
          exact add_le_add_right hrest _
        _ ≤ potential s + (if beat t then allowance else 0) +
              rest.countP beat • allowance := by
          rw [← add_assoc]
          exact add_le_add_left hpaid _
        _ = potential s + (t :: rest).countP beat • allowance := by
          rw [hcount, add_assoc]

end Tally

/-- A clock that ticks before every beat ticks at least as often. -/
theorem Metre.Paced.beats_le {m : Metre turn} {fresh : Bool} {ts : List turn}
    (h : m.Paced fresh ts) : ts.countP m.beat ≤ m.ticks ts + if fresh then 1 else 0 := by
  induction ts generalizing fresh with
  | nil =>
      exact Nat.zero_le _
  | cons t rest ih =>
      rcases h with ⟨hbeat, hrest⟩
      have hlater := ih hrest
      unfold Metre.after at hlater
      rw [Metre.ticks_cons, List.countP_cons]
      cases htick : m.tick t with
      | true =>
          rw [htick, if_pos rfl, if_pos rfl] at hlater
          rw [if_pos rfl]
          cases hb : m.beat t with
          | true =>
              rw [hbeat hb]
              simp only [if_true]
              lia
          | false =>
              simp only [Bool.false_eq_true, if_false]
              lia
      | false =>
          rw [htick] at hlater
          simp only [Bool.false_eq_true, if_false] at hlater ⊢
          cases hb : m.beat t with
          | true =>
              rw [hb] at hlater
              rw [hbeat hb]
              simp only [if_true, Bool.false_eq_true, if_false] at hlater ⊢
              lia
          | false =>
              rw [hb] at hlater
              simp only [Bool.false_eq_true, if_false] at hlater ⊢
              lia

end RtsGame
