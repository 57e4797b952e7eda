import Mathlib.Data.List.DropRight
import Mathlib.Data.List.Rotate

/-!
# A window over a stream

The last values of a stream can be kept in a list that grows until it is full and
is then overwritten in a circle.  Turned so that it begins with the place that is
overwritten next, the list is the end of the stream.
-/

namespace RtsGame

variable {value : Type}

/-- The cells, read from the next place on, are the last values that were seen. -/
structure Recalls (window : Nat) (cells : List value) (next : Nat)
    (seen : List value) : Prop where
  turned : cells.rotate next = seen.rtake window
  inside : next < window
  growing : cells.length < window -> next = 0

theorem length_rtake (seen : List value) (window : Nat) :
    (seen.rtake window).length = min seen.length window := by
  unfold List.rtake
  rw [List.length_drop]
  omega

theorem rtake_min (seen : List value) (window : Nat) :
    seen.rtake (min seen.length window) = seen.rtake window := by
  unfold List.rtake
  congr 1
  omega

/-- A full window loses its oldest value when another one comes. -/
theorem rtake_snoc_full {seen : List value} {window : Nat} (x : value)
    (hpos : 0 < window) (hfull : window ≤ seen.length) :
    (seen ++ [x]).rtake window = (seen.rtake window).tail ++ [x] := by
  unfold List.rtake
  rw [List.tail_drop, List.length_append, List.length_singleton,
    List.drop_append_of_le_length (by omega)]
  congr 2
  omega

theorem rtake_of_length_le {seen : List value} {window : Nat}
    (h : seen.length ≤ window) : seen.rtake window = seen := by
  unfold List.rtake
  rw [Nat.sub_eq_zero_of_le h, List.drop_zero]

/-- Overwriting the place that the circle begins with moves it to the end. -/
theorem rotate_succ_set {cells : List value} {next : Nat} (x : value)
    (h : next < cells.length) :
    (cells.set next x).rotate (next + 1) = (cells.rotate next).tail ++ [x] := by
  have hset : (cells.set next x).length = cells.length := List.length_set
  rw [List.rotate_eq_drop_append_take (by omega),
    List.rotate_eq_drop_append_take (Nat.le_of_lt h),
    List.drop_set_of_lt (Nat.lt_succ_self next), List.take_succ_eq_append_getElem (by omega),
    List.take_set_of_le (Nat.le_refl next), List.getElem_set_self,
    List.tail_append_of_ne_nil, List.tail_drop, List.append_assoc]
  intro hnil
  rw [List.drop_eq_nil_iff] at hnil
  exact Nat.not_lt_of_le hnil h

namespace Recalls

variable {window next : Nat} {cells seen : List value}

theorem nil (hpos : 0 < window) : Recalls window ([] : List value) 0 [] where
  turned := by simp
  inside := hpos
  growing := fun _ => rfl

theorem length_eq (h : Recalls window cells next seen) :
    cells.length = min seen.length window := by
  have hlen := congrArg List.length h.turned
  rw [List.length_rotate, length_rtake] at hlen
  exact hlen

/-- Nothing but the order tells the cells from the end of the stream. -/
theorem perm (h : Recalls window cells next seen) :
    List.Perm cells (seen.rtake window) := by
  rw [← h.turned]
  exact (List.rotate_perm cells next).symm

/-- While there is room, a value goes to the end. -/
theorem grow (h : Recalls window cells next seen) (x : value)
    (hroom : cells.length < window) :
    Recalls window (cells ++ [x]) next (seen ++ [x]) := by
  have hnext : next = 0 := h.growing hroom
  have hshort : seen.length < window := by
    have hlen := h.length_eq
    omega
  have hcells : cells = seen := by
    have hturned := h.turned
    rw [hnext, List.rotate_zero, rtake_of_length_le (Nat.le_of_lt hshort)] at hturned
    exact hturned
  refine ⟨?_, h.inside, fun _ => hnext⟩
  rw [hnext, List.rotate_zero, hcells, rtake_of_length_le]
  rw [List.length_append, List.length_singleton]
  exact hshort

/-- Once the window is full, a value takes the place of the oldest one. -/
theorem overwrite (h : Recalls window cells next seen) (x : value)
    (hfull : ¬ cells.length < window) :
    Recalls window (cells.set next x) ((next + 1) % window) (seen ++ [x]) := by
  have hpos : 0 < window := Nat.zero_lt_of_lt h.inside
  have hlen : cells.length = window ∧ window ≤ seen.length := by
    have hlen := h.length_eq
    omega
  have hset : (cells.set next x).length = window := by
    rw [List.length_set, hlen.left]
  refine ⟨?_, Nat.mod_lt _ hpos, ?_⟩
  · calc
      (cells.set next x).rotate ((next + 1) % window)
          = (cells.set next x).rotate ((next + 1) % (cells.set next x).length) := by
            rw [hset]
      _ = (cells.set next x).rotate (next + 1) := List.rotate_mod _ _
      _ = (cells.rotate next).tail ++ [x] :=
            rotate_succ_set x (by rw [hlen.left]; exact h.inside)
      _ = (seen ++ [x]).rtake window := by
            rw [h.turned, rtake_snoc_full x hpos hlen.right]
  · intro hshort
    rw [hset] at hshort
    exact absurd hshort (Nat.lt_irrefl window)

end Recalls

/-- In a sorted list an earlier place holds a value that is no larger. -/
theorem sorted_getElem? {le : value -> value -> Prop} {xs : List value}
    (hrefl : forall x, le x x) (hsorted : xs.Pairwise le) {i j : Nat} {y : value}
    (hij : i ≤ j) (hj : xs[j]? = some y) :
    exists x, xs[i]? = some x ∧ le x y := by
  obtain ⟨hlt, heq⟩ := List.getElem?_eq_some_iff.mp hj
  have hi : i < xs.length := Nat.lt_of_le_of_lt hij hlt
  refine ⟨xs[i], List.getElem?_eq_getElem hi, ?_⟩
  cases Nat.lt_or_eq_of_le hij with
  | inl hbefore =>
      rw [← heq]
      exact List.pairwise_iff_getElem.mp hsorted i j hi hlt hbefore
  | inr hsame =>
      subst hsame
      rw [heq]
      exact hrefl y

end RtsGame
