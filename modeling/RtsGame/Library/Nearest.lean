import Mathlib.Order.Lattice

/-!
# The nearest of a list

A search goes through a list of keys, of which some have a distance, and keeps the first that is
nearer than everything before it and than a bound from which it starts.
-/

namespace RtsGame

variable {key dist : Type}

/-- The best so far, or a key that is nearer. -/
def nearer [LT dist] [DecidableLT dist] (reach : key -> Option dist) (best : dist × key) (k : key) : dist × key :=
  match reach k with
  | none => best
  | some d => if d < best.1 then (d, k) else best

/-- What a search has found: what it started with, or a key that is nearer, and nothing nearer. -/
structure Closest {order : Type} [LinearOrder order] (value : dist -> order)
    (reach : key -> Option dist) (ks : List key) (start best : dist × key) : Prop where
  bounded : value best.1 ≤ value start.1
  least : forall k, k ∈ ks -> forall d, reach k = some d -> value best.1 ≤ value d
  found : best = start ∨
    best.2 ∈ ks ∧ reach best.2 = some best.1 ∧ value best.1 < value start.1

section Search

variable {order : Type} [LinearOrder order] {value : dist -> order}
  {reach : key -> Option dist} {ks : List key} {k : key} {start best : dist × key}

/-- A key that is no nearer than the start is passed over. -/
theorem Closest.pass (h : Closest value reach ks start best)
    (hfar : forall d, reach k = some d -> value start.1 ≤ value d) :
    Closest value reach (k :: ks) start best := by
  refine ⟨h.bounded, ?_, ?_⟩
  · intro other hother d hd
    rcases List.mem_cons.mp hother with hfirst | hlater
    · rw [hfirst] at hd
      exact h.bounded.trans (hfar d hd)
    · exact h.least other hlater d hd
  · rcases h.found with hstart | ⟨hmem, hreach, hless⟩
    · exact Or.inl hstart
    · exact Or.inr ⟨List.mem_cons_of_mem k hmem, hreach, hless⟩

/-- A key that is nearer than the start takes its place. -/
theorem Closest.take {d : dist} (h : Closest value reach ks (d, k) best)
    (hd : reach k = some d) (hless : value d < value start.1) :
    Closest value reach (k :: ks) start best := by
  refine ⟨h.bounded.trans hless.le, ?_, Or.inr ?_⟩
  · intro other hother d' hd'
    rcases List.mem_cons.mp hother with hfirst | hlater
    · rw [hfirst, hd] at hd'
      injection hd' with heq
      rw [← heq]
      exact h.bounded
    · exact h.least other hlater d' hd'
  · rcases h.found with hstart | ⟨hmem, hreach, hnearer⟩
    · rw [hstart]
      exact ⟨List.mem_cons_self, hd, hless⟩
    · exact ⟨List.mem_cons_of_mem k hmem, hreach, hnearer.trans hless⟩

theorem foldl_nearer [LT dist] [DecidableLT dist]
    (hlt : forall a b : dist, a < b <-> value a < value b) (ks : List key) (start : dist × key) :
    Closest value reach ks start (ks.foldl (nearer reach) start) := by
  induction ks generalizing start with
  | nil => exact ⟨le_refl _, fun _ h => absurd h List.not_mem_nil, Or.inl rfl⟩
  | cons k rest ih =>
      rw [List.foldl_cons]
      unfold nearer
      cases hreach : reach k with
      | none =>
          refine (ih start).pass ?_
          intro d hd
          rw [hreach] at hd
          cases hd
      | some d =>
          dsimp only
          by_cases hless : d < start.1
          · rw [if_pos hless]
            exact (ih (d, k)).take hreach ((hlt d start.1).mp hless)
          · rw [if_neg hless]
            refine (ih start).pass ?_
            intro d' hd'
            rw [hreach] at hd'
            injection hd' with heq
            rw [hlt, not_lt, heq] at hless
            exact hless

end Search

end RtsGame
