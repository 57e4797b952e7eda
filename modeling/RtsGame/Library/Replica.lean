import RtsGame.Library.Runs
import RtsGame.Library.Tracking

/-!
# Replicas of collections

A replica holds what is known of a collection, by key.  It is told about
entries, each of which carries its own key, and about keys that are gone.  The
rules of this module say what a replica holds after a round of true reports:
first the new entries, then the keys that are gone, then the changed entries.
-/

namespace RtsGame

/-- What is known of each key. -/
abbrev Replicated (beta : Type) := Nat -> Option beta

namespace Replicated

variable {beta : Type}

/-- Nothing is known. -/
def blank : Replicated beta := fun _ => none

def put (m : Replicated beta) (k : Nat) (v : beta) : Replicated beta :=
  fun j => if j = k then some v else m j

def remove (m : Replicated beta) (k : Nat) : Replicated beta :=
  fun j => if j = k then none else m j

/-- Entries are reported, in order. -/
def putAll (key : beta -> Nat) (m : Replicated beta) (vs : List beta) :
    Replicated beta :=
  vs.foldl (fun m v => m.put (key v) v) m

/-- Keys are reported as gone, in order. -/
def removeAll (m : Replicated beta) (ks : List Nat) : Replicated beta :=
  ks.foldl remove m

variable {key : beta -> Nat} {m truth : Replicated beta}

theorem removeAll_apply (m : Replicated beta) (ks : List Nat) (k : Nat) :
    removeAll m ks k = if k ∈ ks then none else m k := by
  induction ks generalizing m with
  | nil =>
      simp [removeAll]
  | cons j rest ih =>
      change removeAll (m.remove j) rest k = _
      rw [ih]
      by_cases hrest : k ∈ rest
      · simp [hrest]
      · by_cases hj : k = j
        · simp [hj, remove]
        · simp [hrest, hj, remove]

/-- True reports make a replica right about the keys they are about. -/
theorem putAll_apply {vs : List beta}
    (h : forall v, v ∈ vs -> truth (key v) = some v) (m : Replicated beta)
    (k : Nat) :
    putAll key m vs k = if k ∈ vs.map key then truth k else m k := by
  induction vs generalizing m with
  | nil =>
      simp [putAll]
  | cons v rest ih =>
      have hrest := ih (fun w hw => h w (List.mem_cons_of_mem v hw))
        (m.put (key v) v)
      change putAll key (m.put (key v) v) rest k = _
      rw [hrest, List.map_cons]
      by_cases hlater : k ∈ rest.map key
      · rw [if_pos hlater, if_pos (List.mem_cons_of_mem _ hlater)]
      · rw [if_neg hlater, put]
        by_cases hk : k = key v
        · rw [if_pos hk, if_pos (hk ▸ List.mem_cons_self), hk]
          exact (h v List.mem_cons_self).symm
        · rw [if_neg hk, if_neg]
          intro hmem
          rcases List.mem_cons.mp hmem with heq | hmem
          · exact hk heq
          · exact hlater hmem

/-- Complete and true reports make a blank replica right. -/
theorem putAll_blank {vs : List beta}
    (h : forall v, v ∈ vs -> truth (key v) = some v)
    (hall : forall k v, truth k = some v -> v ∈ vs ∧ key v = k) :
    putAll key blank vs = truth := by
  funext k
  rw [putAll_apply h]
  split
  · rfl
  · rename_i hmem
    cases hk : truth k with
    | none => rfl
    | some v =>
        rcases hall k v hk with ⟨hv, hkey⟩
        exact absurd (List.mem_map.mpr ⟨v, hv, hkey⟩) hmem

/-- A round of reports. -/
def replay (key : beta -> Nat) (m : Replicated beta) (added : List beta)
    (removed : List Nat) (changed : List beta) : Replicated beta :=
  putAll key (removeAll (putAll key m added) removed) changed

/--
After a round of true reports a replica is right about a key exactly if it was
right before or the key was reported.
-/
theorem replay_apply_iff {added changed : List beta} {removed : List Nat}
    (hadded : forall v, v ∈ added -> truth (key v) = some v)
    (hremoved : forall k, k ∈ removed -> truth k = none)
    (hchanged : forall v, v ∈ changed -> truth (key v) = some v)
    (m : Replicated beta) (k : Nat) :
    replay key m added removed changed k = truth k <->
      m k = truth k ∨ k ∈ added.map key ∨ k ∈ removed ∨
        k ∈ changed.map key := by
  rw [replay, putAll_apply hchanged, removeAll_apply, putAll_apply hadded]
  by_cases hlate : k ∈ changed.map key
  · simp [hlate]
  · rw [if_neg hlate]
    by_cases hgone : k ∈ removed
    · simp [hgone, hremoved k hgone]
    · rw [if_neg hgone]
      by_cases hnew : k ∈ added.map key
      · simp [hnew]
      · rw [if_neg hnew]
        constructor
        · exact Or.inl
        · rintro (heq | hmem | hmem | hmem)
          · exact heq
          · exact absurd hmem hnew
          · exact absurd hmem hgone
          · exact absurd hmem hlate

/-!
## Reports about tables
-/

section Tables

variable {alpha gamma : Type} {fill : Nat -> alpha -> beta}
variable {old new : Table alpha} {dirty added removed : List Nat}

/-- What there is to know about a table. -/
def ofTable (fill : Nat -> alpha -> beta) (t : Table alpha) : Replicated beta :=
  fun k => (t.lookup k).map (fill k)

/-- The entries of a table under the given keys. -/
def reports (fill : Nat -> alpha -> beta) (t : Table alpha) (ids : List Nat) :
    List beta :=
  ids.filterMap (ofTable fill t)

theorem reports_true (hkey : new.AllAt fun k v => key (fill k v) = k)
    (ids : List Nat) :
    forall v, v ∈ reports fill new ids -> ofTable fill new (key v) = some v := by
  intro v hv
  rcases List.mem_filterMap.mp hv with ⟨k, _, hk⟩
  rcases Option.map_eq_some_iff.mp hk with ⟨u, hu, hfill⟩
  rw [← hfill, hkey k u hu, hfill]
  exact hk

theorem mem_reports (hkey : new.AllAt fun k v => key (fill k v) = k)
    {ids : List Nat} {k : Nat} (hk : k ∈ new) :
    k ∈ (reports fill new ids).map key <-> k ∈ ids := by
  constructor
  · intro hmem
    rcases List.mem_map.mp hmem with ⟨v, hv, hv'⟩
    rcases List.mem_filterMap.mp hv with ⟨j, hj, htrue⟩
    rcases Option.map_eq_some_iff.mp htrue with ⟨u, hu, hfill⟩
    rw [← hv', ← hfill, hkey j u hu]
    exact hj
  · intro hids
    rcases Table.mem_iff_lookup.mp hk with ⟨u, hu⟩
    refine List.mem_map.mpr ⟨fill k u, ?_, hkey k u hu⟩
    exact List.mem_filterMap.mpr ⟨k, hids, Option.map_eq_some_iff.mpr ⟨u, hu, rfl⟩⟩

/-- The entries that a loop over the whole table reports. -/
theorem map_values (ω : IterOrder) (f : alpha -> beta) (t : Table alpha) :
    (ω.values t).map f = reports (fun _ => f) t (ω.visit t) := by
  rw [IterOrder.values, List.map_filterMap]
  rfl

/-- Reporting the whole table makes a blank replica right. -/
theorem putAll_visit (ω : IterOrder)
    (hkey : new.AllAt fun k v => key (fill k v) = k) :
    putAll key blank (reports fill new (ω.visit new)) = ofTable fill new := by
  apply putAll_blank (reports_true hkey _)
  intro k v hv
  rcases Option.map_eq_some_iff.mp hv with ⟨u, hu, hfill⟩
  constructor
  · exact List.mem_filterMap.mpr
      ⟨k, IterOrder.mem_visit.mpr (Table.mem_of_lookup hu), hv⟩
  · rw [← hfill]
    exact hkey k u hu

/-- Leaving some keys out. -/
theorem reports_unless (t : Table alpha) (ids skipped : List Nat) :
    (ids.filterMap fun k =>
        if k ∈ skipped then none else (t.lookup k).map (fill k)) =
      reports fill t (ids.filter fun k => k ∉ skipped) := by
  rw [reports, List.filterMap_filter]
  congr 1
  funext k
  by_cases hk : k ∈ skipped
  · simp [hk]
  · simp [hk, ofTable]

/-- A complete log of changes is enough to follow a table. -/
theorem replay_tracked {view : alpha -> gamma}
    (htracked : Table.Tracked view old new dirty added removed)
    (hfill : forall k u v, view v = view u -> fill k v = fill k u)
    (hkey : new.AllAt fun k v => key (fill k v) = k)
    (hgone : forall k, k ∈ removed -> new.lookup k = none)
    {marks : List Nat} (hmarks : forall k, k ∈ dirty -> k ∉ added -> k ∈ marks) :
    replay key (ofTable fill old) (reports fill new added) removed
      (reports fill new marks) = ofTable fill new := by
  funext k
  rw [replay_apply_iff (reports_true hkey added) _ (reports_true hkey marks)]
  · cases hnew : new.lookup k with
    | none =>
        cases hold : old.lookup k with
        | none => exact Or.inl (by simp [ofTable, hold, hnew])
        | some u =>
            have hlisted := htracked.vanished k u hold hnew
            exact Or.inr (Or.inr (Or.inl hlisted))
    | some v =>
        have hmem : k ∈ new := Table.mem_of_lookup hnew
        rw [mem_reports hkey hmem, mem_reports hkey hmem]
        by_cases hadded : k ∈ added
        · exact Or.inr (Or.inl hadded)
        · cases hold : old.lookup k with
          | none => exact absurd (htracked.appeared k v hold hnew) hadded
          | some u =>
              by_cases hview : view v = view u
              · exact Or.inl (by simp [ofTable, hold, hnew, hfill k u v hview])
              · have hdirty := htracked.changed k u v hold hnew hview
                exact Or.inr (Or.inr (Or.inr (hmarks k hdirty hadded)))
  · intro j hj
    simp [ofTable, hgone j hj]

/--
If only new and lost entries are reported, a replica follows a table exactly if
the entries that stay look as before.
-/
theorem replay_unmarked_iff {view : alpha -> gamma}
    (htracked : Table.Tracked view old new dirty added removed)
    (hkey : new.AllAt fun k v => key (fill k v) = k)
    (hgone : forall k, k ∈ removed -> new.lookup k = none)
    (hfresh : forall k, k ∈ added -> old.lookup k = none) :
    replay key (ofTable fill old) (reports fill new added) removed [] =
        ofTable fill new <->
      forall k u v, old.lookup k = some u -> new.lookup k = some v ->
        fill k v = fill k u := by
  have hreports : forall k,
      replay key (ofTable fill old) (reports fill new added) removed [] k =
          ofTable fill new k <->
        ofTable fill old k = ofTable fill new k ∨
          k ∈ (reports fill new added).map key ∨ k ∈ removed := by
    intro k
    rw [replay_apply_iff (reports_true hkey added) (by
      intro j hj
      simp [ofTable, hgone j hj]) (by
      intro v hv
      cases hv)]
    simp
  constructor
  · intro heq k u v hu hv
    rcases (hreports k).mp (congrFun heq k) with hsame | hmem | hmem
    · simp only [ofTable, hu, hv, Option.map_some, Option.some.injEq] at hsame
      exact hsame.symm
    · rw [mem_reports hkey (Table.mem_of_lookup hv)] at hmem
      rw [hfresh k hmem] at hu
      cases hu
    · rw [hgone k hmem] at hv
      cases hv
  · intro hkept
    funext k
    rw [hreports k]
    cases hnew : new.lookup k with
    | none =>
        cases hold : old.lookup k with
        | none => exact Or.inl (by simp [ofTable, hold, hnew])
        | some u => exact Or.inr (Or.inr (htracked.vanished k u hold hnew))
    | some v =>
        cases hold : old.lookup k with
        | none =>
            have hadded := htracked.appeared k v hold hnew
            exact Or.inr (Or.inl ((mem_reports hkey
              (Table.mem_of_lookup hnew)).mpr hadded))
        | some u => exact Or.inl (by simp [ofTable, hold, hnew, hkept k u v hold hnew])

/-- A replica is right up to a relation: it has the same keys, with related values. -/
def Within (rel : beta -> beta -> Prop) (m truth : Replicated beta) : Prop :=
  forall k, Option.Rel rel (m k) (truth k)

theorem Within.refl {rel : beta -> beta -> Prop} (hrefl : forall v, rel v v)
    (m : Replicated beta) : Within rel m m := by
  intro k
  cases m k with
  | none => exact Option.Rel.none
  | some v => exact Option.Rel.some (hrefl v)

/--
If only new and lost entries are reported, a replica that was right up to a relation stays
so, whatever else has changed in the entries that stay.
-/
theorem replay_within {view : alpha -> gamma} {rel : beta -> beta -> Prop}
    (hrefl : forall v, rel v v)
    (htracked : Table.Tracked view old new [] added removed)
    (hview : forall k u v w, view v = view u -> rel w (fill k u) -> rel w (fill k v))
    (hkey : new.AllAt fun k v => key (fill k v) = k)
    (hgone : forall k, k ∈ removed -> new.lookup k = none)
    {m : Replicated beta} (hm : Within rel m (ofTable fill old)) :
    Within rel (replay key m (reports fill new added) removed []) (ofTable fill new) := by
  intro k
  have hreplay : replay key m (reports fill new added) removed [] k =
      if k ∈ removed then none else putAll key m (reports fill new added) k :=
    removeAll_apply _ removed k
  rw [hreplay]
  split
  · rename_i hremoved
    simp only [ofTable, hgone k hremoved, Option.map_none]
    exact Option.Rel.none
  · rename_i hstays
    rw [putAll_apply (reports_true hkey added)]
    split
    · exact Within.refl hrefl _ k
    · rename_i hunlisted
      have hold := hm k
      cases hnew : new.lookup k with
      | none =>
          cases hbefore : old.lookup k with
          | none =>
              simp only [ofTable, hbefore, hnew] at hold ⊢
              exact hold
          | some u => exact absurd (htracked.vanished k u hbefore hnew) hstays
      | some v =>
          rw [mem_reports hkey (Table.mem_of_lookup hnew)] at hunlisted
          cases hbefore : old.lookup k with
          | none => exact absurd (htracked.appeared k v hbefore hnew) hunlisted
          | some u =>
              simp only [ofTable, hbefore, hnew, Option.map_some] at hold ⊢
              have hsame : view v = view u := by
                by_contra hne
                cases htracked.changed k u v hbefore hnew hne
              cases hmk : m k with
              | none =>
                  rw [hmk] at hold
                  cases hold
              | some w =>
                  rw [hmk] at hold
                  cases hold with
                  | some hrel => exact Option.Rel.some (hview k u v w hsame hrel)

end Tables

end Replicated

/-!
## Catching up

A state is kept with a stream of messages, some of which set it anew.  Whoever receives one
of these and everything after it need not know what came earlier.
-/

section CatchingUp

variable {state msg : Type} {receive : state -> msg -> state} {anew : msg -> Prop}

/-- Whoever receives everything from such a message on ends in a good state. -/
def CatchesUp (receive : state -> msg -> state) (anew : msg -> Prop) (msgs : List msg)
    (good : state -> Prop) : Prop :=
  forall front first back, msgs = front ++ first :: back -> anew first ->
    forall m, good ((first :: back).foldl receive m)

theorem CatchesUp.reset {past : List msg} {last : msg} {good : state -> Prop}
    (h : forall m, good (receive m last)) :
    CatchesUp receive anew (past ++ [last]) good := by
  intro front first back heq _ m
  rcases append_eq_cons_cases heq with ⟨mid, _, hback⟩ | ⟨mid, _, hlast⟩
  · rw [hback, ← List.cons_append, List.foldl_append]
    exact h _
  · rcases List.append_eq_singleton_iff.mp hlast.symm with ⟨_, hsingle⟩ | ⟨_, hnone⟩
    · rw [hsingle]
      exact h m
    · cases hnone

theorem CatchesUp.extend {past more : List msg} {good good' : state -> Prop}
    (h : CatchesUp receive anew past good) (hmore : forall x, x ∈ more -> ¬ anew x)
    (hstep : forall m, good m -> good' (more.foldl receive m)) :
    CatchesUp receive anew (past ++ more) good' := by
  intro front first back heq hanew m
  rcases append_eq_cons_cases heq with ⟨mid, hpast, hback⟩ | ⟨mid, _, hlate⟩
  · rw [hback, ← List.cons_append, List.foldl_append]
    exact hstep _ (h front first mid hpast hanew m)
  · exact absurd hanew (hmore first (by rw [hlate]; simp))

end CatchingUp

end RtsGame
