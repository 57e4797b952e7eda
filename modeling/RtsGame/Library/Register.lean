import Mathlib.Data.List.Nodup
import Mathlib.Data.Set.Insert
import Mathlib.Logic.Function.Basic

/-!
# Registers of numbered members

A register enlists members of several kinds and gives each of them the next
number.  It lists whom it enlisted and whom it dismissed, kind by kind, and the
lists may be emptied at any time.  Numbers are never given out again: the rules
of this module derive, from what one enlistment or dismissal does, what holds
between two moments of a register's life, and from that what holds of its whole
history.
-/

namespace RtsGame

/-- Whom a register holds, and whom it lists as enlisted and as dismissed. -/
@[ext] structure Register (kind : Type) where
  next : Nat
  present : kind -> Set Nat
  enlisted : kind -> List Nat
  dismissed : kind -> List Nat

/-- An entry in the history of a register. -/
inductive LifeEvent (kind : Type) where
  | enlisted (k : kind) (id : Nat)
  | dismissed (k : kind) (id : Nat)
deriving DecidableEq, Repr

namespace LifeEvent

variable {kind : Type}

/-- The number that the entry is about. -/
def id : LifeEvent kind -> Nat
  | enlisted _ id => id
  | dismissed _ id => id

/-- If the first entry is a dismissal, the second is about another number. -/
def Final : LifeEvent kind -> LifeEvent kind -> Prop
  | enlisted _ _, _ => True
  | dismissed _ id, later => later.id ≠ id

end LifeEvent

namespace Register

variable {kind : Type}

/-!
## Enlistments and dismissals
-/

section Changes

variable [DecidableEq kind]

def enlist (c : Register kind) (k : kind) : Register kind where
  next := c.next + 1
  present := Function.update c.present k (insert c.next (c.present k))
  enlisted := Function.update c.enlisted k (c.enlisted k ++ [c.next])
  dismissed := c.dismissed

def dismiss (c : Register kind) (k : kind) (id : Nat) : Register kind where
  next := c.next
  present := Function.update c.present k (c.present k \ {id})
  enlisted := c.enlisted
  dismissed := Function.update c.dismissed k (c.dismissed k ++ [id])

theorem mem_enlist {c : Register kind} {k j : kind} {id : Nat} :
    id ∈ (c.enlist k).present j <->
      id ∈ c.present j ∨ (j = k ∧ id = c.next) := by
  unfold enlist
  by_cases hj : j = k
  · subst hj
    simp only [Function.update_self, Set.mem_insert_iff, true_and]
    exact Or.comm
  · simp [hj]

theorem mem_dismiss {c : Register kind} {k j : kind} {id x : Nat} :
    x ∈ (c.dismiss k id).present j <->
      x ∈ c.present j ∧ ¬ (j = k ∧ x = id) := by
  unfold dismiss
  by_cases hj : j = k
  · subst hj
    simp
  · simp [hj]

end Changes

/-!
## Proper registers
-/

/-- Members have numbers below the next one, and no two kinds share a number. -/
structure Proper (c : Register kind) : Prop where
  next : 0 < c.next
  bounds : forall k id, id ∈ c.present k -> 0 < id ∧ id < c.next
  apart : forall k j id, id ∈ c.present k -> id ∈ c.present j -> k = j
  listed : forall k id, id ∈ c.enlisted k -> id < c.next
  once : forall k, (c.enlisted k).Nodup

namespace Proper

variable {c : Register kind}

theorem of_lists (h : Proper c) {d : Register kind} (hnext : d.next = c.next)
    (hpresent : d.present = c.present) (henlisted : forall k, d.enlisted k = []) :
    Proper d := by
  constructor
  · rw [hnext]
    exact h.next
  · rw [hnext, hpresent]
    exact h.bounds
  · rw [hpresent]
    exact h.apart
  · intro k id hid
    rw [henlisted k] at hid
    cases hid
  · intro k
    rw [henlisted k]
    exact List.nodup_nil

variable [DecidableEq kind]

theorem enlist (h : Proper c) (k : kind) : Proper (c.enlist k) := by
  have hfresh : forall j, c.next ∉ c.present j := by
    intro j hmem
    have hlt := (h.bounds j c.next hmem).right
    lia
  constructor
  · exact Nat.succ_pos _
  · intro j id hid
    rcases mem_enlist.mp hid with hold | ⟨_, rfl⟩
    · have hbounds := h.bounds j id hold
      exact ⟨hbounds.left, Nat.lt_succ_of_lt hbounds.right⟩
    · exact ⟨h.next, Nat.lt_succ_self _⟩
  · intro i j id hi hj
    rcases mem_enlist.mp hi with hi | ⟨rfl, rfl⟩
    · rcases mem_enlist.mp hj with hj | ⟨_, rfl⟩
      · exact h.apart i j id hi hj
      · exact absurd hi (hfresh i)
    · rcases mem_enlist.mp hj with hj | ⟨rfl, _⟩
      · exact absurd hj (hfresh j)
      · rfl
  · intro j id hid
    change id < c.next + 1
    by_cases hj : j = k
    · subst hj
      simp only [Register.enlist, Function.update_self, List.mem_append,
        List.mem_singleton] at hid
      rcases hid with hid | rfl
      · exact Nat.lt_succ_of_lt (h.listed j id hid)
      · exact Nat.lt_succ_self _
    · simp only [Register.enlist, Function.update_of_ne hj] at hid
      exact Nat.lt_succ_of_lt (h.listed j id hid)
  · intro j
    by_cases hj : j = k
    · subst hj
      simp only [Register.enlist, Function.update_self]
      refine List.nodup_append.mpr ⟨h.once j, List.nodup_singleton _, ?_⟩
      intro id hid x hx
      rw [List.mem_singleton.mp hx]
      exact Nat.ne_of_lt (h.listed j id hid)
    · simp only [Register.enlist, Function.update_of_ne hj]
      exact h.once j

theorem dismiss (h : Proper c) (k : kind) (id : Nat) : Proper (c.dismiss k id) := by
  constructor
  · exact h.next
  · intro j x hx
    exact h.bounds j x (mem_dismiss.mp hx).left
  · intro i j x hi hj
    exact h.apart i j x (mem_dismiss.mp hi).left (mem_dismiss.mp hj).left
  · exact h.listed
  · exact h.once

end Proper

/-!
## Between two moments

Between two moments at which the lists are not emptied, they grow at the end.
-/

/-- What a register adds to its lists on the way from one state to another. -/
structure Span (c d : Register kind) (added removed : kind -> List Nat) : Prop where
  next : c.next ≤ d.next
  enlisted : forall k, d.enlisted k = c.enlisted k ++ added k
  dismissed : forall k, d.dismissed k = c.dismissed k ++ removed k
  fresh : forall k id, id ∈ added k -> c.next ≤ id ∧ id < d.next
  once : forall k, (removed k).Nodup
  apart : forall k j id, id ∈ removed k -> id ∈ removed j -> k = j
  known : forall k id, id ∈ removed k ->
    id < d.next ∧ (id < c.next -> id ∈ c.present k)
  gone : forall k id, id ∈ removed k -> forall j, id ∉ d.present j
  present : forall k id, id ∈ d.present k ->
    id < d.next ∧ (id < c.next -> id ∈ c.present k)

/-- Some additions lead from one state to the other. -/
def Later (c d : Register kind) : Prop := exists added removed, Span c d added removed

theorem Later.refl {c : Register kind} (h : Proper c) : Later c c := by
  refine ⟨fun _ => [], fun _ => [], Nat.le_refl _, ?_, ?_, ?_, ?_, ?_, ?_, ?_, ?_⟩
  · intro k
    exact (List.append_nil _).symm
  · intro k
    exact (List.append_nil _).symm
  · intro k id hid
    cases hid
  · intro k
    exact List.nodup_nil
  · intro k j id hid
    cases hid
  · intro k id hid
    cases hid
  · intro k id hid
    cases hid
  · intro k id hid
    exact ⟨(h.bounds k id hid).right, fun _ => hid⟩

section Changes

variable [DecidableEq kind]

theorem Later.enlist {c d : Register kind} (h : Later c d) (k : kind) :
    Later c (d.enlist k) := by
  rcases h with ⟨added, removed, h⟩
  refine ⟨Function.update added k (added k ++ [d.next]), removed,
    Nat.le_succ_of_le h.next, ?_, h.dismissed, ?_, h.once, h.apart, ?_, ?_, ?_⟩
  · intro j
    by_cases hj : j = k
    · subst hj
      simp [Register.enlist, h.enlisted]
    · simp [Register.enlist, Function.update_of_ne hj, h.enlisted]
  · intro j id hid
    change c.next ≤ id ∧ id < d.next + 1
    have hnext := h.next
    by_cases hj : j = k
    · subst hj
      simp only [Function.update_self, List.mem_append, List.mem_singleton] at hid
      rcases hid with hid | rfl
      · have hfresh := h.fresh j id hid
        lia
      · lia
    · rw [Function.update_of_ne hj] at hid
      have hfresh := h.fresh j id hid
      lia
  · intro j id hid
    have hknown := h.known j id hid
    exact ⟨Nat.lt_succ_of_lt hknown.left, hknown.right⟩
  · intro j id hid i hmem
    rcases mem_enlist.mp hmem with hold | ⟨_, rfl⟩
    · exact h.gone j id hid i hold
    · exact Nat.lt_irrefl _ (h.known j _ hid).left
  · intro j id hid
    change id < d.next + 1 ∧ _
    rcases mem_enlist.mp hid with hold | ⟨_, rfl⟩
    · have hpresent := h.present j id hold
      exact ⟨Nat.lt_succ_of_lt hpresent.left, hpresent.right⟩
    · refine ⟨Nat.lt_succ_self _, ?_⟩
      intro hlt
      exact absurd h.next (Nat.not_le.mpr hlt)

theorem Later.dismiss {c d : Register kind} (h : Later c d) (hd : Proper d)
    {k : kind} {id : Nat} (hid : id ∈ d.present k) : Later c (d.dismiss k id) := by
  rcases h with ⟨added, removed, h⟩
  have hnew : forall j, id ∉ removed j := by
    intro j hmem
    exact h.gone j id hmem k hid
  have hcases : forall j x, x ∈ Function.update removed k (removed k ++ [id]) j ->
      x ∈ removed j ∨ (j = k ∧ x = id) := by
    intro j x hx
    by_cases hj : j = k
    · subst hj
      simp only [Function.update_self, List.mem_append, List.mem_singleton] at hx
      exact hx.imp_right fun heq => ⟨rfl, heq⟩
    · rw [Function.update_of_ne hj] at hx
      exact Or.inl hx
  refine ⟨added, Function.update removed k (removed k ++ [id]), h.next, h.enlisted,
    ?_, h.fresh, ?_, ?_, ?_, ?_, ?_⟩
  · intro j
    by_cases hj : j = k
    · subst hj
      simp [Register.dismiss, h.dismissed]
    · simp [Register.dismiss, Function.update_of_ne hj, h.dismissed]
  · intro j
    by_cases hj : j = k
    · subst hj
      rw [Function.update_self]
      refine List.nodup_append.mpr ⟨h.once j, List.nodup_singleton _, ?_⟩
      intro x hx y hy heq
      rw [heq, List.mem_singleton.mp hy] at hx
      exact hnew j hx
    · rw [Function.update_of_ne hj]
      exact h.once j
  · intro i j x hi hj
    rcases hcases i x hi with hin | ⟨hik, hx⟩
    · rcases hcases j x hj with hjn | ⟨_, hx⟩
      · exact h.apart i j x hin hjn
      · rw [hx] at hin
        exact absurd hin (hnew i)
    · rcases hcases j x hj with hjn | ⟨hjk, _⟩
      · rw [hx] at hjn
        exact absurd hjn (hnew j)
      · rw [hik, hjk]
  · intro j x hx
    rcases hcases j x hx with hx | ⟨rfl, rfl⟩
    · exact h.known j x hx
    · exact h.present j x hid
  · intro j x hx i hmem
    rcases mem_dismiss.mp hmem with ⟨hheld, hother⟩
    rcases hcases j x hx with hold | ⟨_, hxid⟩
    · exact h.gone j x hold i hheld
    · rw [hxid] at hheld hother
      exact hother ⟨hd.apart i k id hheld hid, rfl⟩
  · intro j x hx
    exact h.present j x (mem_dismiss.mp hx).left

/-- At most one member comes or goes. -/
inductive Change (c : Register kind) : Register kind -> Prop where
  | same : Change c c
  | enlist (k : kind) : Change c (c.enlist k)
  | dismiss {k : kind} {id : Nat} : id ∈ c.present k -> Change c (c.dismiss k id)

/-- A member stays, or it is listed as dismissed. -/
theorem Change.accounts {c d : Register kind} (hchange : Change c d) {k : kind} {id : Nat}
    (hid : id ∈ c.present k ∨ id ∈ c.dismissed k) :
    id ∈ d.present k ∨ id ∈ d.dismissed k := by
  cases hchange with
  | same => exact hid
  | enlist j => exact hid.imp_left fun hheld => mem_enlist.mpr (Or.inl hheld)
  | @dismiss j x _ =>
      have hlist : forall i, i ∈ c.dismissed k -> i ∈ (c.dismiss j x).dismissed k := by
        intro i hi
        unfold Register.dismiss
        by_cases hk : k = j
        · subst hk
          simp [hi]
        · simpa [hk] using hi
      cases hid with
      | inl hheld =>
          by_cases hx : k = j ∧ id = x
          · right
            rcases hx with ⟨rfl, rfl⟩
            unfold Register.dismiss
            simp
          · exact Or.inl (mem_dismiss.mpr ⟨hheld, hx⟩)
      | inr hlisted => exact Or.inr (hlist id hlisted)

theorem Proper.change {c d : Register kind} (h : Proper c) (hchange : Change c d) :
    Proper d := by
  cases hchange with
  | same => exact h
  | enlist k => exact h.enlist k
  | dismiss _ => exact h.dismiss _ _

theorem Later.change {c d e : Register kind} (h : Later c d) (hd : Proper d)
    (hchange : Change d e) : Later c e := by
  cases hchange with
  | same => exact h
  | enlist k => exact h.enlist k
  | dismiss hid => exact h.dismiss hd hid

end Changes

/-!
## The history
-/

/-- The entries that one state's lists have over another's. -/
def events (kinds : List kind) (c d : Register kind) : List (LifeEvent kind) :=
  (kinds.flatMap fun k =>
    ((d.enlisted k).drop (c.enlisted k).length).map (LifeEvent.enlisted k)) ++
  kinds.flatMap fun k =>
    ((d.dismissed k).drop (c.dismissed k).length).map (LifeEvent.dismissed k)

theorem events_of_empty (kinds : List kind) (c : Register kind) {d : Register kind}
    (henlisted : forall k, d.enlisted k = []) (hdismissed : forall k, d.dismissed k = []) :
    events kinds c d = [] := by
  simp [events, henlisted, hdismissed]

/-- A number that was dismissed is gone, and no later entry is about it. -/
structure Chronicled (past : List (LifeEvent kind)) (c : Register kind) : Prop where
  gone : forall k id, LifeEvent.dismissed k id ∈ past ->
    id < c.next ∧ forall j, id ∉ c.present j
  final : past.Pairwise LifeEvent.Final

theorem Chronicled.later {kinds : List kind} (hkinds : kinds.Nodup)
    {past : List (LifeEvent kind)} {c d : Register kind} (h : Chronicled past c)
    (hlater : Later c d) : Chronicled (past ++ events kinds c d) d := by
  rcases hlater with ⟨added, removed, hspan⟩
  have hevents : events kinds c d =
      (kinds.flatMap fun k => (added k).map (LifeEvent.enlisted k)) ++
        kinds.flatMap fun k => (removed k).map (LifeEvent.dismissed k) := by
    simp [events, hspan.enlisted, hspan.dismissed]
  rw [hevents]
  constructor
  · intro k id hmem
    simp only [List.mem_append, List.mem_flatMap, List.mem_map, reduceCtorEq,
      and_false, exists_false, false_or, LifeEvent.dismissed.injEq] at hmem
    rcases hmem with hold | ⟨j, _, x, hx, rfl, rfl⟩
    · have hgone := h.gone k id hold
      refine ⟨Nat.lt_of_lt_of_le hgone.left hspan.next, ?_⟩
      intro j hmem
      exact hgone.right j ((hspan.present j id hmem).right hgone.left)
    · exact ⟨(hspan.known j x hx).left, hspan.gone j x hx⟩
  · rw [List.pairwise_append, List.pairwise_append]
    refine ⟨h.final, ⟨?_, ?_, ?_⟩, ?_⟩
    · -- an enlistment rules nothing out
      rw [List.pairwise_flatMap]
      constructor
      · intro k _
        rw [List.pairwise_map]
        exact List.pairwise_of_forall fun _ _ => trivial
      · apply List.pairwise_of_forall
        intro j k x hx y _
        rcases List.mem_map.mp hx with ⟨id, _, rfl⟩
        trivial
    · rw [List.pairwise_flatMap]
      constructor
      · intro k _
        rw [List.pairwise_map]
        exact (hspan.once k).imp fun hne heq => hne heq.symm
      · refine hkinds.imp fun {j k} hne x hx y hy => ?_
        rcases List.mem_map.mp hx with ⟨id, hid, rfl⟩
        rcases List.mem_map.mp hy with ⟨id', hid', rfl⟩
        intro heq
        change id' = id at heq
        subst heq
        exact hne (hspan.apart j k id' hid hid')
    · intro x hx y _
      rcases List.mem_flatMap.mp hx with ⟨k, _, hx⟩
      rcases List.mem_map.mp hx with ⟨id, _, rfl⟩
      trivial
    · -- what is new here was not dismissed before
      intro x hx y hy
      cases x with
      | enlisted k id => trivial
      | dismissed k id =>
          have hgone := h.gone k id hx
          intro heq
          rcases List.mem_append.mp hy with hy | hy
          · rcases List.mem_flatMap.mp hy with ⟨j, _, hy⟩
            rcases List.mem_map.mp hy with ⟨id', hid', rfl⟩
            change id' = id at heq
            have hfresh := (hspan.fresh j id' hid').left
            lia
          · rcases List.mem_flatMap.mp hy with ⟨j, _, hy⟩
            rcases List.mem_map.mp hy with ⟨id', hid', rfl⟩
            change id' = id at heq
            rw [heq] at hid'
            exact hgone.right j ((hspan.known j id hid').right hgone.left)

theorem Chronicled.emptied {past : List (LifeEvent kind)} {c d : Register kind}
    (h : Chronicled past c) (hnext : d.next = c.next)
    (hpresent : d.present = c.present) : Chronicled past d := by
  constructor
  · rw [hnext, hpresent]
    exact h.gone
  · exact h.final

end Register

end RtsGame
