import Mathlib.Data.Finset.Max
import Mathlib.Data.List.Sort

/-!
# Ranks in a sorted list

The rank of an element is the number of elements that are not above it: in a sorted list,
with repetitions, the place behind its last occurrence.  A sorted list is determined by its
elements, its length and their ranks.
-/

namespace RtsGame

variable {alpha : Type} [LinearOrder alpha] {a : alpha} {l l' : List alpha} {k : Nat}

/-- The number of elements that are not above a given one. -/
def rank (a : alpha) (l : List alpha) : Nat := l.countP fun b => b ≤ a

theorem rank_le_length (a : alpha) (l : List alpha) : rank a l ≤ l.length :=
  List.countP_le_length

theorem rank_eq_length (h : forall b, b ∈ l -> b ≤ a) : rank a l = l.length := by
  unfold rank
  rw [List.countP_eq_length]
  intro b hb
  exact decide_eq_true (h b hb)

theorem rank_eq_zero (h : forall b, b ∈ l -> a < b) : rank a l = 0 := by
  unfold rank
  rw [List.countP_eq_zero]
  intro b hb hle
  exact absurd (of_decide_eq_true hle) (not_le.mpr (h b hb))

/-- The elements up to the rank are those that are not above. -/
theorem getElem_le_iff (hl : l.Pairwise fun b c => b ≤ c) (hk : k < l.length) :
    l[k] ≤ a <-> k < rank a l := by
  induction l generalizing k with
  | nil => cases hk
  | cons b rest ih =>
      rw [List.pairwise_cons] at hl
      by_cases hb : b ≤ a
      · have hrank : rank a (b :: rest) = rank a rest + 1 :=
          List.countP_cons_of_pos (decide_eq_true hb)
        cases k with
        | zero =>
            rw [hrank]
            exact iff_of_true hb (Nat.succ_pos _)
        | succ k =>
            rw [hrank, Nat.add_lt_add_iff_right, List.getElem_cons_succ]
            exact ih hl.right _
      · have habove : forall c, c ∈ b :: rest -> a < c := by
          intro c hc
          rw [not_le] at hb
          rcases List.mem_cons.mp hc with rfl | hrest
          · exact hb
          · exact lt_of_lt_of_le hb (hl.left c hrest)
        rw [rank_eq_zero habove]
        exact iff_of_false (not_le.mpr (habove _ (List.getElem_mem hk))) (Nat.not_lt_zero k)

/-- The last occurrence of an element is just before its rank. -/
theorem rank_of_last (hl : l.Pairwise fun b c => b ≤ c) (hk : l[k]? = some a)
    (hlast : a ∉ l.drop (k + 1)) : rank a l = k + 1 := by
  rcases List.getElem?_eq_some_iff.mp hk with ⟨hlt, hget⟩
  apply le_antisymm
  · by_contra hmore
    have hnext : k + 1 < l.length := by
      have hle := rank_le_length a l
      lia
    have hle : l[k + 1] ≤ a := (getElem_le_iff hl hnext).mpr (by lia)
    have hge : a ≤ l[k + 1] := by
      rw [← hget]
      exact List.pairwise_iff_getElem.mp hl k (k + 1) hlt hnext (Nat.lt_succ_self k)
    have hmem : l[k + 1] ∈ l.drop (k + 1) := by
      rw [List.drop_eq_getElem_cons hnext]
      exact List.mem_cons_self
    rw [le_antisymm hle hge] at hmem
    exact hlast hmem
  · exact (getElem_le_iff hl hlt).mp (le_of_eq hget)

theorem eq_of_ranks (hl : l.Pairwise fun b c => b ≤ c) (hl' : l'.Pairwise fun b c => b ≤ c)
    (hlength : l.length = l'.length) (hmem : forall b, b ∈ l <-> b ∈ l')
    (hranks : forall b, b ∈ l -> rank b l = rank b l') : l = l' := by
  apply List.ext_getElem hlength
  intro k hk hk'
  apply le_antisymm
  · rw [getElem_le_iff hl hk, hranks _ ((hmem _).mpr (List.getElem_mem hk')),
      ← getElem_le_iff hl' hk']
  · rw [getElem_le_iff hl' hk', ← hranks _ (List.getElem_mem hk), ← getElem_le_iff hl hk]

/-- The topmost element is last, wherever else it is. -/
theorem length_eq_of_parts (hmem : forall b, b ∈ l <-> b ∈ l')
    (hparts : forall b, b ∈ l -> exists k k', rank b l = k + 1 ∧ rank b l' = k' + 1 ∧
      k * l'.length = k' * l.length) : l.length = l'.length := by
  by_cases hnone : l = []
  · subst hnone
    have hnone' : l' = [] := List.eq_nil_iff_forall_not_mem.mpr fun b hb =>
      List.not_mem_nil ((hmem b).mpr hb)
    rw [hnone']
  · have hsome : l.toFinset.Nonempty := by
      rw [List.toFinset_nonempty_iff]
      exact hnone
    rcases l.toFinset.exists_max_image id hsome with ⟨top, htop, hmax⟩
    rw [List.mem_toFinset] at htop
    have hle : forall b, b ∈ l -> b ≤ top := fun b hb => hmax b (List.mem_toFinset.mpr hb)
    rcases hparts top htop with ⟨k, k', hk, hk', hpart⟩
    rw [rank_eq_length hle] at hk
    rw [rank_eq_length fun b hb => hle b ((hmem b).mpr hb)] at hk'
    rw [hk, hk', Nat.mul_succ, Nat.mul_succ, Nat.mul_comm k' k,
      Nat.add_left_cancel_iff] at hpart
    rw [hk, hk', hpart]

theorem eq_of_parts (hl : l.Pairwise fun b c => b ≤ c) (hl' : l'.Pairwise fun b c => b ≤ c)
    (hmem : forall b, b ∈ l <-> b ∈ l')
    (hparts : forall b, b ∈ l -> exists k k', rank b l = k + 1 ∧ rank b l' = k' + 1 ∧
      k * l'.length = k' * l.length) : l = l' := by
  have hlength := length_eq_of_parts hmem hparts
  apply eq_of_ranks hl hl' hlength hmem
  intro b hb
  rcases hparts b hb with ⟨k, k', hk, hk', hpart⟩
  rw [← hlength] at hpart
  rw [hk, hk', Nat.eq_of_mul_eq_mul_right (List.length_pos_of_mem hb) hpart]

end RtsGame
