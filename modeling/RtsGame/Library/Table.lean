import Mathlib.Data.List.AList
import Mathlib.Algebra.Order.BigOperators.Group.List
import Mathlib.Algebra.Order.Group.Nat
import Mathlib.Algebra.GroupWithZero.Nat

/-!
# Finite tables with numeric keys

A table is an association list with distinct numeric keys.  The order of the
entries of a table carries no meaning: a loop over a table visits the keys in
an order that is supplied from outside, so that a statement about the loop is a
statement about every order in which a hash map may enumerate its keys.
-/

namespace RtsGame

/-- A finite map from numbers to values. -/
abbrev Table (alpha : Type) := AList (fun _ : Nat => alpha)

namespace Table

variable {alpha : Type}

/-!
## Look-up after an update
-/

theorem lookup_insert_ite (m : Table alpha) (k j : Nat) (v : alpha) :
    (m.insert k v).lookup j = if j = k then some v else m.lookup j := by
  by_cases h : j = k
  · subst h
    simp
  · simp [h, AList.lookup_insert_ne h]

theorem lookup_erase_ite (m : Table alpha) (k j : Nat) :
    (m.erase k).lookup j = if j = k then none else m.lookup j := by
  by_cases h : j = k
  · subst h
    simp
  · simp [h, AList.lookup_erase_ne h]

theorem mem_iff_lookup {m : Table alpha} {k : Nat} :
    k ∈ m <-> exists v, m.lookup k = some v := by
  rw [← AList.lookup_isSome, Option.isSome_iff_exists]

theorem mem_of_lookup {m : Table alpha} {k : Nat} {v : alpha}
    (h : m.lookup k = some v) : k ∈ m :=
  mem_iff_lookup.mpr ⟨v, h⟩

/-- Overwriting an entry leaves the keys as they are. -/
theorem mem_insert_of_lookup {m : Table alpha} {k j : Nat} {u : alpha} (v : alpha)
    (h : m.lookup k = some u) : j ∈ m.insert k v <-> j ∈ m := by
  rw [AList.mem_insert]
  constructor
  · rintro (rfl | hmem)
    · exact mem_of_lookup h
    · exact hmem
  · exact Or.inr

theorem mem_erase_iff {m : Table alpha} {k j : Nat} :
    j ∈ m.erase k <-> j ∈ m ∧ j ≠ k := by
  rw [AList.mem_erase]
  exact And.comm

theorem mem_entries_of_lookup {m : Table alpha} {k : Nat} {v : alpha}
    (h : m.lookup k = some v) :
    (⟨k, v⟩ : Sigma fun _ : Nat => alpha) ∈ m.entries :=
  AList.mem_lookup_iff.mp h

theorem lookup_of_mem_entries {m : Table alpha}
    {e : Sigma fun _ : Nat => alpha} (h : e ∈ m.entries) :
    m.lookup e.1 = some e.2 :=
  AList.mem_lookup_iff.mpr h

/-- Insert unless the key is already present, as `std::unordered_map::emplace`. -/
def emplace (m : Table alpha) (k : Nat) (v : alpha) : Table alpha :=
  match m.lookup k with
  | none => m.insert k v
  | some _ => m

theorem emplace_of_none {m : Table alpha} {k : Nat} (v : alpha)
    (h : m.lookup k = none) : emplace m k v = m.insert k v := by
  unfold emplace
  rw [h]

/-- Writing one value under a list of keys. -/
theorem foldl_insert_lookup (v : alpha) (keys : List Nat) (m : Table alpha)
    (j : Nat) :
    (keys.foldl (fun m k => m.insert k v) m).lookup j =
      if j ∈ keys then some v else m.lookup j := by
  induction keys generalizing m with
  | nil =>
      simp
  | cons k rest ih =>
      rw [List.foldl_cons, ih, lookup_insert_ite]
      by_cases hj : j = k
      · simp [hj]
      · simp [hj]

theorem erase_of_notMem {m : Table alpha} {k : Nat} (h : k ∉ m) :
    m.erase k = m :=
  AList.ext (List.kerase_of_notMem_keys h)

theorem entries_erase (m : Table alpha) (k : Nat) :
    (m.erase k).entries = m.entries.kerase k := rfl

/-- The entry at a present key can be moved to the front of the list. -/
theorem entries_perm_cons_erase {m : Table alpha} {k : Nat} {v : alpha}
    (h : m.lookup k = some v) :
    m.entries.Perm (⟨k, v⟩ :: (m.erase k).entries) := by
  have hmem : k ∈ m.entries.keys := mem_of_lookup h
  rcases List.exists_of_kerase hmem with ⟨w, front, back, hfront, hl, herase⟩
  have hw : w = v := by
    have hlook : m.lookup k = some w :=
      AList.mem_lookup_iff.mpr (by rw [hl]; simp)
    rw [h] at hlook
    injection hlook with hvw
    exact hvw.symm
  subst hw
  have hent : (m.erase k).entries = front ++ back := herase
  rw [hent, hl]
  exact List.perm_middle

/-!
## Properties of all entries
-/

/-- A property of every key with its value. -/
def AllAt (P : Nat -> alpha -> Prop) (m : Table alpha) : Prop :=
  forall k v, m.lookup k = some v -> P k v

theorem allAt_empty (P : Nat -> alpha -> Prop) :
    AllAt P (∅ : Table alpha) := by
  intro k v h
  cases h

theorem allAt_iff_entries {P : Nat -> alpha -> Prop} {m : Table alpha} :
    AllAt P m <-> forall e, e ∈ m.entries -> P e.1 e.2 := by
  constructor
  · intro h e he
    exact h e.1 e.2 (lookup_of_mem_entries he)
  · intro h k v hv
    exact h ⟨k, v⟩ (mem_entries_of_lookup hv)

instance decidableAllAt {P : Nat -> alpha -> Prop}
    [forall k v, Decidable (P k v)] (m : Table alpha) : Decidable (AllAt P m) :=
  decidable_of_iff _ allAt_iff_entries.symm

theorem AllAt.mono {P Q : Nat -> alpha -> Prop} {m : Table alpha}
    (h : AllAt P m) (hPQ : forall k v, P k v -> Q k v) : AllAt Q m := by
  intro k v hv
  exact hPQ k v (h k v hv)

theorem AllAt.insert {P : Nat -> alpha -> Prop} {m : Table alpha}
    (h : AllAt P m) {k : Nat} {v : alpha} (hv : P k v) :
    AllAt P (m.insert k v) := by
  intro j w hw
  rw [lookup_insert_ite] at hw
  split at hw
  · rename_i hj
    injection hw with hvw
    rw [hj, ← hvw]
    exact hv
  · exact h j w hw

theorem AllAt.erase {P : Nat -> alpha -> Prop} {m : Table alpha}
    (h : AllAt P m) (k : Nat) : AllAt P (m.erase k) := by
  intro j w hw
  rw [lookup_erase_ite] at hw
  split at hw
  · cases hw
  · exact h j w hw

/-!
## Number of entries
-/

/-- The number of entries of a table. -/
def size (m : Table alpha) : Nat := m.entries.length

@[simp] theorem size_empty : size (∅ : Table alpha) = 0 := rfl

theorem keys_length (m : Table alpha) : m.keys.length = size m := by
  simp [AList.keys, List.keys, size]

theorem size_eq_zero_iff {m : Table alpha} :
    size m = 0 <-> forall k, k ∉ m := by
  rw [← keys_length, List.length_eq_zero_iff, List.eq_nil_iff_forall_not_mem]
  rfl

/-- Tables with the same keys are of the same size. -/
theorem size_congr {beta : Type} {m : Table alpha} {n : Table beta}
    (h : forall k, k ∈ m <-> k ∈ n) : size m = size n := by
  have hperm : m.keys.Perm n.keys :=
    (List.perm_ext_iff_of_nodup m.keys_nodup n.keys_nodup).mpr h
  rw [← keys_length, ← keys_length]
  exact hperm.length_eq

theorem size_insert_of_notMem {m : Table alpha} {k : Nat} (v : alpha)
    (h : k ∉ m) : size (m.insert k v) = size m + 1 := by
  rw [size, AList.entries_insert_of_notMem h, List.length_cons, size]

theorem size_erase {m : Table alpha} {k : Nat} (h : k ∈ m) :
    size (m.erase k) + 1 = size m := by
  rcases mem_iff_lookup.mp h with ⟨v, hv⟩
  have hlen := (entries_perm_cons_erase hv).length_eq
  simp only [List.length_cons] at hlen
  exact hlen.symm

theorem size_insert_of_mem {m : Table alpha} {k : Nat} (v : alpha)
    (h : k ∈ m) : size (m.insert k v) = size m := by
  have herase := size_erase h
  have hins : size (m.insert k v) = size (m.erase k) + 1 := by
    simp [size, AList.entries_insert, entries_erase]
  lia

theorem size_insert_le (m : Table alpha) (k : Nat) (v : alpha) :
    size (m.insert k v) ≤ size m + 1 := by
  by_cases h : k ∈ m
  · rw [size_insert_of_mem v h]
    exact Nat.le_succ (size m)
  · rw [size_insert_of_notMem v h]

theorem size_erase_le (m : Table alpha) (k : Nat) : size (m.erase k) ≤ size m := by
  by_cases h : k ∈ m
  · rw [← size_erase h]
    exact Nat.le_succ (size (m.erase k))
  · rw [erase_of_notMem h]

/-- Looking up distinct keys finds at most as many entries as there are. -/
theorem length_filterMap_le {beta : Type} {m : Table alpha} {keys : List Nat}
    (hnodup : keys.Nodup) {f : Nat -> Option beta}
    (hf : forall k v, f k = some v -> k ∈ m) :
    (keys.filterMap f).length ≤ size m := by
  have hfound : (keys.filter fun k => (f k).isSome).length ≤ m.keys.length := by
    refine List.Subperm.length_le (List.subperm_of_subset (hnodup.filter _) ?_)
    intro k hk
    rcases Option.isSome_iff_exists.mp (List.mem_filter.mp hk).right with ⟨v, hv⟩
    exact hf k v hv
  rw [keys_length] at hfound
  rw [List.length_filterMap_eq_countP, List.countP_eq_length_filter]
  exact hfound

/-!
## Totals

The total of a weight over a table, and how an update changes it.
-/

/-- The sum of a weight over the values of a table. -/
def total (f : alpha -> Nat) (m : Table alpha) : Nat :=
  (m.entries.map fun e => f e.2).sum

@[simp] theorem total_empty (f : alpha -> Nat) :
    total f (∅ : Table alpha) = 0 := rfl

theorem total_erase {f : alpha -> Nat} {m : Table alpha} {k : Nat} {v : alpha}
    (h : m.lookup k = some v) : total f (m.erase k) + f v = total f m := by
  have hsum := ((entries_perm_cons_erase h).map fun e => f e.2).sum_eq
  simp only [List.map_cons, List.sum_cons] at hsum
  simp only [total]
  lia

theorem total_erase_le (f : alpha -> Nat) (m : Table alpha) (k : Nat) :
    total f (m.erase k) ≤ total f m := by
  by_cases hk : k ∈ m
  · rcases mem_iff_lookup.mp hk with ⟨v, hv⟩
    have herase := total_erase (f := f) hv
    lia
  · rw [erase_of_notMem hk]

theorem total_insert_eq (f : alpha -> Nat) (m : Table alpha) (k : Nat)
    (v : alpha) : total f (m.insert k v) = f v + total f (m.erase k) := by
  simp [total, AList.entries_insert, entries_erase]

theorem total_insert_new {f : alpha -> Nat} {m : Table alpha} {k : Nat}
    (v : alpha) (h : m.lookup k = none) :
    total f (m.insert k v) = f v + total f m := by
  have hk : k ∉ m := AList.lookup_eq_none.mp h
  rw [total, AList.entries_insert_of_notMem hk, List.map_cons, List.sum_cons,
    total]

theorem total_insert_old {f : alpha -> Nat} {m : Table alpha} {k : Nat}
    {w : alpha} (v : alpha) (h : m.lookup k = some w) :
    total f (m.insert k v) + f w = total f m + f v := by
  have herase := total_erase (f := f) h
  rw [total_insert_eq]
  lia

theorem le_total {f : alpha -> Nat} {m : Table alpha} {k : Nat} {v : alpha}
    (h : m.lookup k = some v) : f v ≤ total f m := by
  have herase := total_erase (f := f) h
  lia

theorem total_le_size_mul {f : alpha -> Nat} {m : Table alpha} {c : Nat}
    (h : forall k v, m.lookup k = some v -> f v ≤ c) :
    total f m ≤ size m * c := by
  have hsum := List.sum_le_card_nsmul (m.entries.map fun e => f e.2) c (by
    intro x hx
    rcases List.mem_map.mp hx with ⟨e, he, rfl⟩
    exact h e.1 e.2 (lookup_of_mem_entries he))
  simpa [total, size] using hsum

/-!
## Pruning

A loop over a list of keys that erases the entries that satisfy a test.
-/

/-- The table after the loop, and the erased keys in order. -/
def prune (dead : alpha -> Bool) : List Nat -> Table alpha ->
    Table alpha × List Nat
  | [], m => (m, [])
  | k :: rest, m =>
      match m.lookup k with
      | none => prune dead rest m
      | some v =>
          if dead v then
            let later := prune dead rest (m.erase k)
            (later.1, k :: later.2)
          else prune dead rest m

theorem prune_cons_none {dead : alpha -> Bool} {k : Nat} {rest : List Nat}
    {m : Table alpha} (h : m.lookup k = none) :
    prune dead (k :: rest) m = prune dead rest m := by
  rw [prune, h]

theorem prune_cons_dead {dead : alpha -> Bool} {k : Nat} {rest : List Nat}
    {m : Table alpha} {v : alpha} (h : m.lookup k = some v)
    (hdead : dead v = true) :
    prune dead (k :: rest) m =
      ((prune dead rest (m.erase k)).1, k :: (prune dead rest (m.erase k)).2) := by
  rw [prune, h]
  simp [hdead]

theorem prune_cons_alive {dead : alpha -> Bool} {k : Nat} {rest : List Nat}
    {m : Table alpha} {v : alpha} (h : m.lookup k = some v)
    (halive : dead v = false) :
    prune dead (k :: rest) m = prune dead rest m := by
  rw [prune, h]
  simp [halive]

theorem prune_lookup (dead : alpha -> Bool) (keys : List Nat)
    (m : Table alpha) (k : Nat) :
    (prune dead keys m).1.lookup k =
      if k ∈ keys then (m.lookup k).filter fun v => !dead v
      else m.lookup k := by
  induction keys generalizing m with
  | nil =>
      simp [prune]
  | cons j rest ih =>
      cases hj : m.lookup j with
      | none =>
          rw [prune_cons_none hj, ih]
          by_cases hk : k = j
          · subst hk
            simp [hj]
          · simp [hk]
      | some v =>
          cases hdead : dead v with
          | true =>
              rw [prune_cons_dead hj hdead, ih, lookup_erase_ite]
              by_cases hk : k = j
              · subst hk
                simp [hj, hdead, Option.filter]
              · simp [hk]
          | false =>
              rw [prune_cons_alive hj hdead, ih]
              by_cases hk : k = j
              · subst hk
                simp [hj, hdead, Option.filter]
              · simp [hk]

end Table

/-!
## Iteration orders
-/

/--
An order in which a loop may visit the keys of a table: any function that
rearranges the list of keys.
-/
structure IterOrder where
  order : List Nat -> List Nat
  perm : forall l, (order l).Perm l

namespace IterOrder

variable {alpha : Type}

/-- The order in which the keys happen to be stored. -/
def stored : IterOrder where
  order := id
  perm := fun l => List.Perm.refl l

/-- The keys of a table in the order in which a loop visits them. -/
def visit (ω : IterOrder) (m : Table alpha) : List Nat := ω.order m.keys

/-- The values of a table in the order in which a loop visits them. -/
def values (ω : IterOrder) (m : Table alpha) : List alpha :=
  (ω.visit m).filterMap m.lookup

@[simp] theorem mem_visit {ω : IterOrder} {m : Table alpha} {k : Nat} :
    k ∈ ω.visit m <-> k ∈ m :=
  (ω.perm m.keys).mem_iff

theorem visit_nodup (ω : IterOrder) (m : Table alpha) : (ω.visit m).Nodup :=
  (ω.perm m.keys).nodup_iff.mpr m.keys_nodup

/-- Pruning along a complete visit keeps exactly the entries that fail the test. -/
theorem prune_visit_lookup (ω : IterOrder) (dead : alpha -> Bool)
    (m : Table alpha) (k : Nat) :
    (Table.prune dead (ω.visit m) m).1.lookup k =
      (m.lookup k).filter fun v => !dead v := by
  rw [Table.prune_lookup]
  split
  · rfl
  · rename_i hk
    rw [mem_visit, ← AList.lookup_eq_none] at hk
    rw [hk]
    rfl

/-- A sum over a table of tables to which one key alone contributes. -/
theorem sum_visit_single {beta : Type} {ω : IterOrder} {m : Table alpha}
    {g : Nat -> alpha -> beta} {f : beta -> Nat} {k : Nat}
    (hother : forall j v, m.lookup j = some v -> j ≠ k -> f (g j v) = 0) :
    (((ω.visit m).filterMap fun j => (m.lookup j).map (g j)).map f).sum =
      (m.lookup k).elim 0 fun v => f (g k v) := by
  have hsum : forall keys : List Nat,
      ((keys.filterMap fun j => (m.lookup j).map (g j)).map f).sum =
        (keys.map fun j => (m.lookup j).elim 0 fun v => f (g j v)).sum := by
    intro keys
    induction keys with
    | nil =>
        rfl
    | cons j rest ih =>
        cases hj : m.lookup j with
        | none => simp [hj, ih]
        | some v => simp [hj, ih]
  rw [hsum, List.sum_map_eq_nsmul_single k]
  · by_cases hk : k ∈ m
    · rw [List.count_eq_one_of_mem (ω.visit_nodup m) (mem_visit.mpr hk), one_nsmul]
    · rw [AList.lookup_eq_none.mpr hk]
      exact nsmul_zero _
  · intro j hne hj
    cases hv : m.lookup j with
    | none => rfl
    | some v => exact hother j v hv hne

theorem length_values_le (ω : IterOrder) (m : Table alpha) :
    (ω.values m).length ≤ m.size := by
  have hvisit : (ω.visit m).length = m.size :=
    (ω.perm m.keys).length_eq.trans (Table.keys_length m)
  rw [← hvisit]
  exact List.length_filterMap_le m.lookup (ω.visit m)

theorem mem_values {ω : IterOrder} {m : Table alpha} {v : alpha} :
    v ∈ ω.values m <-> exists k, m.lookup k = some v := by
  simp only [values, List.mem_filterMap, mem_visit]
  constructor
  · rintro ⟨k, _, hk⟩
    exact ⟨k, hk⟩
  · rintro ⟨k, hk⟩
    exact ⟨k, Table.mem_of_lookup hk, hk⟩

end IterOrder

end RtsGame
