import RtsGame.Library.Table

/-!
# Change logs of tables

Three lists of keys log how a table has changed since an earlier moment: the
keys whose entries look different, the keys that were added and the keys that
were removed.  The log is complete if no difference between the two tables is
missing from it.  Whether two entries look the same is decided by a view.
-/

namespace RtsGame

namespace Table

variable {alpha beta : Type}

/-- Every difference between the old and the new table is in the lists. -/
structure Tracked (view : alpha -> beta) (old new : Table alpha)
    (dirty added removed : List Nat) : Prop where
  changed : forall k u v, old.lookup k = some u -> new.lookup k = some v ->
    view v ≠ view u -> k ∈ dirty
  appeared : forall k v, old.lookup k = none -> new.lookup k = some v ->
    k ∈ added
  vanished : forall k u, old.lookup k = some u -> new.lookup k = none ->
    k ∈ removed

namespace Tracked

variable {view : alpha -> beta} {old new : Table alpha}
variable {dirty added removed : List Nat}

theorem refl (m : Table alpha) : Tracked view m m dirty added removed := by
  constructor
  · intro k u v hu hv hne
    rw [hu] at hv
    injection hv with huv
    exact absurd (by rw [huv]) hne
  · intro k v hnone hv
    rw [hnone] at hv
    cases hv
  · intro k u hu hnone
    rw [hu] at hnone
    cases hnone

theorem mono {dirty' added' removed' : List Nat}
    (h : Tracked view old new dirty added removed) (hdirty : dirty ⊆ dirty')
    (hadded : added ⊆ added') (hremoved : removed ⊆ removed') :
    Tracked view old new dirty' added' removed' := by
  constructor
  · intro k u v hu hv hne
    exact hdirty (h.changed k u v hu hv hne)
  · intro k v hnone hv
    exact hadded (h.appeared k v hnone hv)
  · intro k u hu hnone
    exact hremoved (h.vanished k u hu hnone)

theorem listed_of_appeared (h : Tracked view old new dirty added removed)
    {k : Nat} (hold : k ∉ old) (hnew : k ∈ new) : k ∈ added := by
  rcases mem_iff_lookup.mp hnew with ⟨v, hv⟩
  exact h.appeared k v (AList.lookup_eq_none.mpr hold) hv

theorem listed_of_vanished (h : Tracked view old new dirty added removed)
    {k : Nat} (hold : k ∈ old) (hnew : k ∉ new) : k ∈ removed := by
  rcases mem_iff_lookup.mp hold with ⟨u, hu⟩
  exact h.vanished k u hu (AList.lookup_eq_none.mpr hnew)

/-- Overwriting a present entry, either unseen or marked. -/
theorem write (h : Tracked view old new dirty added removed) {k : Nat}
    {u v : alpha} (hu : new.lookup k = some u)
    (hmark : k ∈ dirty ∨ view v = view u) :
    Tracked view old (new.insert k v) dirty added removed := by
  constructor
  · intro j u₀ w hu₀ hw hne
    rw [lookup_insert_ite] at hw
    split at hw
    · rename_i hj
      subst hj
      injection hw with hvw
      subst hvw
      rcases hmark with hmark | hview
      · exact hmark
      · rw [hview] at hne
        exact h.changed j u₀ u hu₀ hu hne
    · exact h.changed j u₀ w hu₀ hw hne
  · intro j w hnone hw
    rw [lookup_insert_ite] at hw
    split at hw
    · rename_i hj
      subst hj
      exact h.appeared j u hnone hu
    · exact h.appeared j w hnone hw
  · intro j u₀ hu₀ hnone
    rw [lookup_insert_ite] at hnone
    split at hnone
    · cases hnone
    · exact h.vanished j u₀ hu₀ hnone

/-- Adding an entry that the old table does not have. -/
theorem spawn (h : Tracked view old new dirty added removed) {k : Nat}
    (v : alpha) (hfresh : old.lookup k = none) (hmark : k ∈ added) :
    Tracked view old (new.insert k v) dirty added removed := by
  constructor
  · intro j u₀ w hu₀ hw hne
    rw [lookup_insert_ite] at hw
    split at hw
    · rename_i hj
      subst hj
      rw [hfresh] at hu₀
      cases hu₀
    · exact h.changed j u₀ w hu₀ hw hne
  · intro j w hnone hw
    rw [lookup_insert_ite] at hw
    split at hw
    · rename_i hj
      subst hj
      exact hmark
    · exact h.appeared j w hnone hw
  · intro j u₀ hu₀ hnone
    rw [lookup_insert_ite] at hnone
    split at hnone
    · cases hnone
    · exact h.vanished j u₀ hu₀ hnone

theorem erase (h : Tracked view old new dirty added removed) {k : Nat}
    (hmark : k ∈ removed) :
    Tracked view old (new.erase k) dirty added removed := by
  constructor
  · intro j u₀ w hu₀ hw hne
    rw [lookup_erase_ite] at hw
    split at hw
    · cases hw
    · exact h.changed j u₀ w hu₀ hw hne
  · intro j w hnone hw
    rw [lookup_erase_ite] at hw
    split at hw
    · cases hw
    · exact h.appeared j w hnone hw
  · intro j u₀ hu₀ hnone
    rw [lookup_erase_ite] at hnone
    split at hnone
    · rename_i hj
      subst hj
      exact hmark
    · exact h.vanished j u₀ hu₀ hnone

end Tracked

/-!
## Removed keys

Keys are given out in increasing order, and the ones that were removed stay
away.
-/

/-- The listed keys are not in the table and will not be given out again. -/
def Gone (m : Table alpha) (next : Nat) (ids : List Nat) : Prop :=
  forall k, k ∈ ids -> m.lookup k = none ∧ k < next

namespace Gone

variable {m : Table alpha} {next : Nat} {ids : List Nat}

theorem nil : Gone m next [] := by
  intro k hk
  cases hk

theorem write (h : Gone m next ids) {k : Nat} {u : alpha} (v : alpha)
    (hu : m.lookup k = some u) : Gone (m.insert k v) next ids := by
  intro j hj
  rcases h j hj with ⟨hnone, hlt⟩
  have hne : j ≠ k := by
    intro heq
    rw [heq, hu] at hnone
    cases hnone
  exact ⟨(AList.lookup_insert_ne hne).trans hnone, hlt⟩

theorem later (h : Gone m next ids) : Gone m (next + 1) ids := by
  intro j hj
  rcases h j hj with ⟨hnone, hlt⟩
  exact ⟨hnone, by lia⟩

theorem spawn (h : Gone m next ids) (v : alpha) :
    Gone (m.insert next v) (next + 1) ids := by
  intro j hj
  rcases h j hj with ⟨hnone, hlt⟩
  have hne : j ≠ next := by lia
  exact ⟨(AList.lookup_insert_ne hne).trans hnone, by lia⟩

theorem erase (h : Gone m next ids) {k : Nat} (hk : k < next) :
    Gone (m.erase k) next (ids ++ [k]) := by
  intro j hj
  rw [lookup_erase_ite]
  rcases List.mem_append.mp hj with hold | hnew
  · rcases h j hold with ⟨hnone, hlt⟩
    refine ⟨?_, hlt⟩
    split
    · rfl
    · exact hnone
  · have hjk := List.mem_singleton.mp hnew
    rw [if_pos hjk, hjk]
    exact ⟨rfl, hk⟩

end Gone

end Table

end RtsGame
