import Mathlib.Data.Int.CardIntervalMod
import RtsGame.Library.Runs

/-!
# Round robin

A cursor goes around a number of slots.  Each request moves it on to the next slot that is
ready, at most once around, and is served there.  A slot that is ready for every request gets
its share, whatever the other slots do: none of them is served more than once more often.
-/

namespace RtsGame

/-- The cursor tries so many slots of `n` at most, and stops behind the first that is ready. -/
def sweep (n : Nat) (ready : Nat -> Bool) : Nat -> Nat -> Nat × Option Nat
  | 0, cursor => (cursor, none)
  | tries + 1, cursor =>
      if ready (cursor % n) then (cursor + 1, some (cursor % n))
      else sweep n ready tries (cursor + 1)

/-- The slots that serve a list of requests, each with the slots that are ready for it. -/
def serve (n : Nat) : Nat -> List (Nat -> Bool) -> List (Option Nat)
  | _, [] => []
  | cursor, ready :: rest =>
      let found := sweep n ready n cursor
      found.2 :: serve n found.1 rest

/-- How often the cursor has stood at a slot. -/
def turnsAt (n slot cursor : Nat) : Nat := cursor.count fun k => k % n = slot

theorem turnsAt_succ (n slot cursor : Nat) :
    turnsAt n slot (cursor + 1) = turnsAt n slot cursor + if cursor % n = slot then 1 else 0 :=
  Nat.count_succ _ cursor

theorem turnsAt_eq {n slot : Nat} (hslot : slot < n) (cursor : Nat) :
    turnsAt n slot cursor = cursor / n + if slot < cursor % n then 1 else 0 := by
  have hcount := Nat.count_modEq_card cursor (Nat.zero_lt_of_lt hslot) slot
  rw [Nat.mod_eq_of_lt hslot] at hcount
  rw [← hcount, turnsAt]
  congr 1
  funext k
  rw [Nat.ModEq, Nat.mod_eq_of_lt hslot]

/-- Between two moments the cursor stands at a slot at most once more often than at another. -/
theorem turnsAt_balanced {n a b : Nat} (ha : a < n) (hb : b < n) (first last : Nat) :
    turnsAt n b last + turnsAt n a first ≤ turnsAt n a last + turnsAt n b first + 1 := by
  rw [turnsAt_eq ha, turnsAt_eq ha, turnsAt_eq hb, turnsAt_eq hb]
  by_cases hlast : b < last % n
  · by_cases hfirst : a < first % n
    · by_cases hbefore : b < first % n
      · simp only [hlast, hfirst, hbefore, if_true]
        split
        · lia
        · lia
      · have hafter : a < last % n := by lia
        simp only [hlast, hfirst, hbefore, hafter, if_true, if_false]
        lia
    · simp only [hlast, hfirst, if_true, if_false]
      lia
  · simp only [hlast, if_false]
    by_cases hfirst : a < first % n
    · simp only [hfirst, if_true]
      lia
    · simp only [hfirst, if_false]
      lia

section Sweeps

variable {n : Nat} {ready : Nat -> Bool}

/-- A sweep serves a slot only where the cursor stood, and a slot that is ready wherever it did. -/
theorem sweep_turns (n : Nat) (ready : Nat -> Bool) (tries cursor slot : Nat) :
    let found := sweep n ready tries cursor
    let served := if found.2 = some slot then 1 else 0
    turnsAt n slot cursor + served ≤ turnsAt n slot found.1 ∧
      (ready slot = true -> turnsAt n slot found.1 = turnsAt n slot cursor + served) := by
  induction tries generalizing cursor with
  | zero => exact ⟨Nat.le_refl _, fun _ => rfl⟩
  | succ tries ih =>
      unfold sweep
      cases hstands : ready (cursor % n) with
      | true =>
          have hturn := turnsAt_succ n slot cursor
          simp only [if_true, Option.some.injEq]
          exact ⟨hturn.ge, fun _ => hturn⟩
      | false =>
          have hturn := turnsAt_succ n slot cursor
          rcases ih (cursor + 1) with ⟨hle, heq⟩
          simp only [Bool.false_eq_true, if_false]
          constructor
          · lia
          · intro hready
            have hother : cursor % n ≠ slot := by
              intro hsame
              rw [hsame, hready] at hstands
              cases hstands
            rw [if_neg hother] at hturn
            rw [heq hready, hturn]
            rfl

/-- The slot that is served is ready. -/
theorem sweep_ready {tries cursor slot : Nat}
    (h : (sweep n ready tries cursor).2 = some slot) : ready slot = true := by
  induction tries generalizing cursor with
  | zero => cases h
  | succ tries ih =>
      unfold sweep at h
      split at h
      · rename_i hready
        injection h with hslot
        rw [← hslot]
        exact hready
      · exact ih h

/-- A cursor that starts over at a multiple of the number of slots finds the same. -/
theorem sweep_mod {period : Nat} (hperiod : n ∣ period) (tries cursor : Nat) :
    (sweep n ready tries (cursor % period)).2 = (sweep n ready tries cursor).2 ∧
      (sweep n ready tries (cursor % period)).1 % period =
        (sweep n ready tries cursor).1 % period := by
  have hstep : forall first second : Nat, first % period = second % period ->
      (sweep n ready tries first).2 = (sweep n ready tries second).2 ∧
        (sweep n ready tries first).1 % period = (sweep n ready tries second).1 % period := by
    induction tries with
    | zero => exact fun first second h => ⟨rfl, h⟩
    | succ tries ih =>
        intro first second h
        have hnext : (first + 1) % period = (second + 1) % period := Nat.ModEq.add_right 1 h
        have hslot : first % n = second % n := Nat.ModEq.of_dvd hperiod h
        unfold sweep
        rw [hslot]
        split
        · exact ⟨rfl, hnext⟩
        · exact ih (first + 1) (second + 1) hnext
  exact hstep (cursor % period) cursor (Nat.mod_mod cursor period)

/-- Once around there is a slot that is ready, if there is any. -/
theorem sweep_finds {slot : Nat} (hready : ready slot = true) (tries cursor ahead : Nat)
    (hahead : ahead < tries) (hslot : (cursor + ahead) % n = slot) :
    (sweep n ready tries cursor).2 ≠ none := by
  induction tries generalizing cursor ahead with
  | zero => exact absurd hahead (Nat.not_lt_zero _)
  | succ tries ih =>
      unfold sweep
      split
      · exact Option.some_ne_none _
      · rename_i hwaits
        cases ahead with
        | zero =>
            rw [Nat.add_zero] at hslot
            rw [hslot] at hwaits
            exact absurd hready hwaits
        | succ ahead =>
            refine ih (cursor + 1) ahead (Nat.lt_of_succ_lt_succ hahead) ?_
            rw [← hslot]
            congr 1
            lia

theorem sweep_around {slot : Nat} (hslot : slot < n) (hready : ready slot = true)
    (cursor : Nat) : (sweep n ready n cursor).2 ≠ none := by
  have hmod : cursor % n < n := Nat.mod_lt _ (Nat.zero_lt_of_lt hslot)
  refine sweep_finds hready n cursor ((slot + (n - cursor % n)) % n)
    (Nat.mod_lt _ (Nat.zero_lt_of_lt hslot)) ?_
  rw [Nat.add_mod, Nat.mod_mod, ← Nat.add_mod]
  have hsplit : cursor + (slot + (n - cursor % n)) = slot + n * (cursor / n + 1) := by
    have hcursor := Nat.div_add_mod cursor n
    rw [Nat.mul_add, Nat.mul_one]
    lia
  rw [hsplit, Nat.add_mul_mod_self_left, Nat.mod_eq_of_lt hslot]

end Sweeps

/-- What a list of requests does to the cursor. -/
theorem serve_turns {n : Nat} (requests : List (Nat -> Bool)) (cursor : Nat) :
    exists last, forall slot,
      turnsAt n slot cursor + (serve n cursor requests).count (some slot) ≤ turnsAt n slot last ∧
        ((forall ready, ready ∈ requests -> ready slot = true) ->
          turnsAt n slot last =
            turnsAt n slot cursor + (serve n cursor requests).count (some slot)) := by
  induction requests generalizing cursor with
  | nil => exact ⟨cursor, fun slot => ⟨Nat.le_refl _, fun _ => rfl⟩⟩
  | cons ready rest ih =>
      rcases ih (sweep n ready n cursor).1 with ⟨last, hlast⟩
      refine ⟨last, fun slot => ?_⟩
      have hcount : (serve n cursor (ready :: rest)).count (some slot) =
          (serve n (sweep n ready n cursor).1 rest).count (some slot) +
            if (sweep n ready n cursor).2 = some slot then 1 else 0 := by
        rw [serve, List.count_cons]
        simp only [beq_iff_eq]
      rcases hlast slot with ⟨hle, heq⟩
      rcases sweep_turns n ready n cursor slot with ⟨hfirst, hexact⟩
      constructor
      · lia
      · intro hready
        rw [heq fun other hother => hready other (List.mem_cons_of_mem _ hother),
          hexact (hready ready List.mem_cons_self), hcount]
        lia

/--
A slot that is ready for every request sees that every request is served, and that no other
slot is served more than once more often than it is.
-/
theorem serve_fair {n a : Nat} (ha : a < n) {requests : List (Nat -> Bool)}
    (hready : forall ready, ready ∈ requests -> ready a = true) (cursor : Nat) :
    none ∉ serve n cursor requests ∧
      forall b, b < n -> (serve n cursor requests).count (some b) ≤
        (serve n cursor requests).count (some a) + 1 := by
  constructor
  · induction requests generalizing cursor with
    | nil => exact List.not_mem_nil
    | cons ready rest ih =>
        intro hnone
        rcases List.mem_cons.mp hnone with hfirst | hlater
        · exact sweep_around ha (hready ready List.mem_cons_self) cursor hfirst.symm
        · exact ih (fun other hother => hready other (List.mem_cons_of_mem _ hother)) _ hlater
  · intro b hb
    rcases serve_turns (n := n) requests cursor with ⟨last, hlast⟩
    have hbalanced := turnsAt_balanced ha hb cursor last
    have hshare := (hlast a).right hready
    have hother := (hlast b).left
    lia

end RtsGame
