import Mathlib.Data.List.Basic
import Mathlib.Data.List.Pairwise

/-!
# Items that travel on lanes

Items are numbered in the order in which they are sent.  Each travels on one
lane; a lane delivers what it carries in order, but may lose some of it, and the
lanes do not wait for each other.  An item remembers which items were in flight
when it was sent.  Of what has been delivered, an item can be found before one
that was sent earlier only if the two came on different lanes and the earlier
one was still in flight when the later one was sent.
-/

namespace RtsGame

/-- The number of an item, its lane, and the numbers that were in flight. -/
structure Labels (item lane : Type) where
  index : item -> Nat
  lane : item -> lane
  seen : item -> List Nat

variable {item lane : Type} {L : Labels item lane}

/-- If the first item was sent later, it had another lane and the chance to overtake. -/
def MayPrecede (L : Labels item lane) (x y : item) : Prop :=
  L.index y < L.index x -> L.lane y ≠ L.lane x ∧ L.index y ∈ L.seen x

/-- What is in flight on each lane, what has been delivered, and the next number. -/
structure Lanes (L : Labels item lane) (flight : lane -> List item)
    (out : List item) (next : Nat) : Prop where
  own : forall l x, x ∈ flight l -> L.lane x = l
  fifo : forall l, (flight l).Pairwise fun x y => L.index x < L.index y
  unique : forall l l' x y, x ∈ flight l -> y ∈ flight l' ->
    L.index x = L.index y -> l = l'
  flight_lt : forall l x, x ∈ flight l -> L.index x < next
  out_lt : forall x, x ∈ out -> L.index x < next
  ahead : forall x y, x ∈ out -> y ∈ flight (L.lane x) -> L.index x < L.index y
  pending : forall l x y, y ∈ flight l ->
    (x ∈ out ∨ exists l', x ∈ flight l') -> L.index y < L.index x ->
      L.index y ∈ L.seen x
  order : out.Pairwise (MayPrecede L)

namespace Lanes

variable {flight flight' : lane -> List item} {out : List item} {next next' : Nat}

theorem empty (L : Labels item lane) (next : Nat) :
    Lanes L (fun _ => []) [] next where
  own := fun _ _ h => absurd h List.not_mem_nil
  fifo := fun _ => List.Pairwise.nil
  unique := fun _ _ _ _ h => absurd h List.not_mem_nil
  flight_lt := fun _ _ h => absurd h List.not_mem_nil
  out_lt := fun _ h => absurd h List.not_mem_nil
  ahead := fun _ _ h => absurd h List.not_mem_nil
  pending := fun _ _ _ h => absurd h List.not_mem_nil
  order := List.Pairwise.nil

/-- Lanes may lose items, and numbers may be skipped. -/
theorem lose (h : Lanes L flight out next)
    (hsub : forall l, (flight' l).Sublist (flight l)) (hle : next ≤ next') :
    Lanes L flight' out next' where
  own := fun l x hx => h.own l x ((hsub l).subset hx)
  fifo := fun l => (h.fifo l).sublist (hsub l)
  unique := fun l l' x y hx hy =>
    h.unique l l' x y ((hsub l).subset hx) ((hsub l').subset hy)
  flight_lt := fun l x hx =>
    Nat.lt_of_lt_of_le (h.flight_lt l x ((hsub l).subset hx)) hle
  out_lt := fun x hx => Nat.lt_of_lt_of_le (h.out_lt x hx) hle
  ahead := fun x y hx hy => h.ahead x y hx ((hsub _).subset hy)
  pending := by
    intro l x y hy hx hlt
    apply h.pending l x y ((hsub l).subset hy) _ hlt
    cases hx with
    | inl hout =>
        exact Or.inl hout
    | inr hflight =>
        rcases hflight with ⟨l', hl'⟩
        exact Or.inr ⟨l', (hsub l').subset hl'⟩
  order := h.order

/-- An item with the next number joins its lane and remembers what is in flight. -/
theorem send (h : Lanes L flight out next) {x : item} (hindex : L.index x = next)
    (hseen : forall l y, y ∈ flight l -> L.index y ∈ L.seen x)
    (hlane : (flight' (L.lane x)).Sublist (flight (L.lane x) ++ [x]))
    (hother : forall l, l ≠ L.lane x -> (flight' l).Sublist (flight l)) :
    Lanes L flight' out (next + 1) := by
  have hcases : forall l y, y ∈ flight' l ->
      y ∈ flight l ∨ (y = x ∧ l = L.lane x) := by
    intro l y hy
    by_cases hl : l = L.lane x
    · subst hl
      cases List.mem_append.mp (hlane.subset hy) with
      | inl hold => exact Or.inl hold
      | inr hnew => exact Or.inr ⟨List.mem_singleton.mp hnew, rfl⟩
    · exact Or.inl ((hother l hl).subset hy)
  constructor
  · intro l y hy
    rcases hcases l y hy with hold | ⟨rfl, rfl⟩
    · exact h.own l y hold
    · rfl
  · intro l
    by_cases hl : l = L.lane x
    · subst hl
      apply List.Pairwise.sublist hlane
      rw [List.pairwise_append]
      refine ⟨h.fifo _, List.pairwise_singleton _ _, ?_⟩
      intro y hy z hz
      rw [List.mem_singleton.mp hz, hindex]
      exact h.flight_lt _ y hy
    · exact (h.fifo l).sublist (hother l hl)
  · intro l l' y z hy hz hsame
    rcases hcases l y hy with hy' | ⟨rfl, rfl⟩
    · rcases hcases l' z hz with hz' | ⟨rfl, rfl⟩
      · exact h.unique l l' y z hy' hz' hsame
      · rw [hindex] at hsame
        exact absurd hsame (Nat.ne_of_lt (h.flight_lt l y hy'))
    · rcases hcases l' z hz with hz' | ⟨rfl, rfl⟩
      · rw [hindex] at hsame
        exact absurd hsame.symm (Nat.ne_of_lt (h.flight_lt l' z hz'))
      · rfl
  · intro l y hy
    rcases hcases l y hy with hold | ⟨rfl, rfl⟩
    · exact Nat.lt_succ_of_lt (h.flight_lt l y hold)
    · rw [hindex]
      exact Nat.lt_succ_self next
  · intro y hy
    exact Nat.lt_succ_of_lt (h.out_lt y hy)
  · intro y z hy hz
    rcases hcases _ z hz with hold | ⟨rfl, _⟩
    · exact h.ahead y z hy hold
    · rw [hindex]
      exact h.out_lt y hy
  · intro l y z hz hy hlt
    have hold : z ∈ flight l := by
      rcases hcases l z hz with hold | ⟨rfl, _⟩
      · exact hold
      · exfalso
        rw [hindex] at hlt
        cases hy with
        | inl hout =>
            exact Nat.lt_asymm hlt (h.out_lt y hout)
        | inr hflight =>
            rcases hflight with ⟨l', hl'⟩
            rcases hcases l' y hl' with hy' | ⟨rfl, _⟩
            · exact Nat.lt_asymm hlt (h.flight_lt l' y hy')
            · rw [hindex] at hlt
              exact Nat.lt_irrefl next hlt
    cases hy with
    | inl hout =>
        exact h.pending l y z hold (Or.inl hout) hlt
    | inr hflight =>
        rcases hflight with ⟨l', hl'⟩
        rcases hcases l' y hl' with hy' | ⟨rfl, _⟩
        · exact h.pending l y z hold (Or.inr ⟨l', hy'⟩) hlt
        · exact hseen l z hold
  · exact h.order

/-- The first item of a lane is delivered. -/
theorem deliver (h : Lanes L flight out next) {l : lane} {x : item}
    {rest : List item} (hl : flight l = x :: rest)
    (hlane : (flight' l).Sublist rest)
    (hother : forall l', l' ≠ l -> (flight' l').Sublist (flight l')) :
    Lanes L flight' (out ++ [x]) next := by
  have hx : x ∈ flight l := by
    rw [hl]
    exact List.mem_cons_self
  have hsub : forall l', (flight' l').Sublist (flight l') := by
    intro l'
    by_cases hl' : l' = l
    · subst hl'
      rw [hl]
      exact hlane.trans (List.sublist_cons_self x rest)
    · exact hother l' hl'
  have hrest := h.lose hsub (Nat.le_refl next)
  constructor
  · exact hrest.own
  · exact hrest.fifo
  · exact hrest.unique
  · exact hrest.flight_lt
  · intro y hy
    cases List.mem_append.mp hy with
    | inl hold =>
        exact h.out_lt y hold
    | inr hnew =>
        rw [List.mem_singleton.mp hnew]
        exact h.flight_lt l x hx
  · intro y z hy hz
    cases List.mem_append.mp hy with
    | inl hold =>
        exact hrest.ahead y z hold hz
    | inr hnew =>
        rw [List.mem_singleton.mp hnew] at hz ⊢
        rw [h.own l x hx] at hz
        have hfifo := h.fifo l
        rw [hl, List.pairwise_cons] at hfifo
        exact hfifo.left z (hlane.subset hz)
  · intro l' y z hz hy hlt
    apply h.pending l' y z ((hsub l').subset hz) _ hlt
    cases hy with
    | inl hout =>
        cases List.mem_append.mp hout with
        | inl hold =>
            exact Or.inl hold
        | inr hnew =>
            rw [List.mem_singleton.mp hnew]
            exact Or.inr ⟨l, hx⟩
    | inr hflight =>
        rcases hflight with ⟨l'', hl''⟩
        exact Or.inr ⟨l'', (hsub l'').subset hl''⟩
  · rw [List.pairwise_append]
    refine ⟨h.order, List.pairwise_singleton _ _, ?_⟩
    intro y hy z hz hlt
    rw [List.mem_singleton.mp hz] at hlt ⊢
    constructor
    · intro hsame
      have hx' := hx
      rw [← h.own l x hx, hsame] at hx'
      exact Nat.lt_asymm hlt (h.ahead y x hy hx')
    · exact h.pending l y x hx (Or.inl hy) hlt

/-- What has been delivered may be forgotten. -/
theorem forget {out' : List item} (h : Lanes L flight out next)
    (hsub : out'.Sublist out) : Lanes L flight out' next where
  own := h.own
  fifo := h.fifo
  unique := h.unique
  flight_lt := h.flight_lt
  out_lt := fun x hx => h.out_lt x (hsub.subset hx)
  ahead := fun x y hx => h.ahead x y (hsub.subset hx)
  pending := by
    intro l x y hy hx
    apply h.pending l x y hy
    cases hx with
    | inl hout => exact Or.inl (hsub.subset hout)
    | inr hflight => exact Or.inr hflight
  order := h.order.sublist hsub

/--
A group of items with consecutive numbers joins the lanes, each remembering what
was in flight and the earlier items of the group.  Some of them may be left out.
-/
theorem sendAll [DecidableEq lane] (p : item -> Bool) (seen : List Nat)
    (items : List item) (h : Lanes L flight out next)
    (hflight : forall l y, y ∈ flight l -> L.index y ∈ seen)
    (hindex : forall i x, items[i]? = some x -> L.index x = next + i)
    (hseen : forall i x, items[i]? = some x -> forall n,
      n ∈ seen ∨ (next ≤ n ∧ n < next + i) -> n ∈ L.seen x) :
    Lanes L (fun l => flight l ++ items.filter fun x => p x && decide (L.lane x = l))
      out (next + items.length) := by
  induction items generalizing flight next seen with
  | nil =>
      apply h.lose
      · intro l
        simp
      · exact Nat.le_add_right _ _
  | cons x rest ih =>
      have hx : L.index x = next := hindex 0 x rfl
      have hfirst : Lanes L
          (fun l => flight l ++ [x].filter fun y => p y && decide (L.lane y = l))
          out (next + 1) := by
        apply h.send hx
        · intro l y hy
          exact hseen 0 x rfl _ (Or.inl (hflight l y hy))
        · apply List.Sublist.append_left
          exact List.filter_sublist
        · intro l hl
          have hnone : ([x].filter fun y => p y && decide (L.lane y = l)) = [] := by
            simp [Ne.symm hl]
          simp only [hnone, List.append_nil, List.Sublist.refl]
      have hnext := ih (next :: seen) hfirst ?_ ?_ ?_
      · apply hnext.lose
        · intro l
          rw [List.append_assoc, ← List.filter_append]
          exact List.Sublist.refl _
        · rw [List.length_cons]
          exact Nat.le_of_eq (by omega)
      · intro l y hy
        cases List.mem_append.mp hy with
        | inl hold =>
            exact List.mem_cons_of_mem _ (hflight l y hold)
        | inr hnew =>
            rw [List.mem_singleton.mp (List.mem_filter.mp hnew).left, hx]
            exact List.mem_cons_self
      · intro i y hy
        rw [hindex (i + 1) y hy]
        omega
      · intro i y hy n hn
        apply hseen (i + 1) y hy
        rcases hn with hmem | ⟨hle, hlt⟩
        · cases List.mem_cons.mp hmem with
          | inl heq => exact Or.inr (by omega)
          | inr hold => exact Or.inl hold
        · exact Or.inr (by omega)

end Lanes

end RtsGame
