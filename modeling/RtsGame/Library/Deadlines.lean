import Mathlib.Order.Basic

/-!
# Fixed steps on a clock that may lag

A loop waits for a deadline, works, and moves the deadline by one interval; if the new
deadline has passed already, the missed steps are dropped and the loop is aligned anew.
The timer never fires early but as late as it likes, and between the steps time passes for
other reasons.  However late the steps are, there are never more than two of them too many
for the time that has passed; and as long as none of them is late, none is missing.
-/

namespace RtsGame

/-- The deadline of the next step and the time that the clock shows. -/
structure Pacer where
  deadline : Nat
  clock : Nat
deriving DecidableEq, Repr

/-- Time passes, or the timer fires, by so much too late, and a step takes so long. -/
inductive Beat where
  | passes (elapsed : Nat)
  | wakes (late worked : Nat)
deriving DecidableEq, Repr

namespace Pacer

/-- The next deadline after a step for the given one that is done at the given time. -/
def nextDeadline (interval deadline now : Nat) : Nat :=
  if deadline + interval < now then now + interval else deadline + interval

def play (interval : Nat) (p : Pacer) : Beat -> Pacer
  | Beat.passes elapsed => { p with clock := p.clock + elapsed }
  | Beat.wakes late worked =>
      let now := max p.clock p.deadline + late + worked
      ⟨nextDeadline interval p.deadline now, now⟩

/-- How many steps there are. -/
def wakeCount (beats : List Beat) : Nat :=
  beats.countP fun beat =>
    match beat with
    | Beat.wakes _ _ => true
    | Beat.passes _ => false

/-- The step is done before the next one is due. -/
def InTime (interval : Nat) (p : Pacer) : Beat -> Prop
  | Beat.passes _ => True
  | Beat.wakes late worked =>
      max p.clock p.deadline + late + worked ≤ p.deadline + interval

instance (interval : Nat) (p : Pacer) : forall beat, Decidable (p.InTime interval beat)
  | Beat.passes _ => isTrue trivial
  | Beat.wakes late worked =>
      inferInstanceAs (Decidable
        (max p.clock p.deadline + late + worked ≤ p.deadline + interval))

/-- Every step of a run is done before the next one is due. -/
def AllInTime (interval : Nat) : Pacer -> List Beat -> Prop
  | _, [] => True
  | p, beat :: rest => p.InTime interval beat ∧ AllInTime interval (p.play interval beat) rest

instance decidableAllInTime (interval : Nat) :
    forall (p : Pacer) (beats : List Beat), Decidable (AllInTime interval p beats)
  | _, [] => isTrue trivial
  | p, beat :: rest =>
      have := decidableAllInTime interval (p.play interval beat) rest
      inferInstanceAs (Decidable
        (p.InTime interval beat ∧ AllInTime interval (p.play interval beat) rest))

variable {interval : Nat} {p : Pacer}

theorem nextDeadline_le (interval deadline now : Nat) :
    deadline + interval ≤ nextDeadline interval deadline now ∧
      now ≤ nextDeadline interval deadline now := by
  unfold nextDeadline
  split
  · lia
  · lia

theorem wakeCount_append (front back : List Beat) :
    wakeCount (front ++ back) = wakeCount front + wakeCount back :=
  List.countP_append

/-- Since it showed a certain time, the clock has gone on and there were so many steps. -/
structure Since (interval start count : Nat) (p : Pacer) : Prop where
  clock : start ≤ p.clock
  deadline : 0 < count -> start + interval * count ≤ p.deadline + interval
  steps : start + interval * count ≤ p.clock + 2 * interval

theorem Since.start (interval : Nat) (p : Pacer) : Since interval p.clock 0 p where
  clock := Nat.le_refl _
  deadline := fun h => absurd h (Nat.lt_irrefl 0)
  steps := by lia

theorem Since.play {start count : Nat} (h : Since interval start count p) (beat : Beat) :
    Since interval start (count + wakeCount [beat]) (p.play interval beat) := by
  cases beat with
  | passes elapsed =>
      refine ⟨?_, h.deadline, ?_⟩
      · exact Nat.le_trans h.clock (Nat.le_add_right _ _)
      · exact Nat.le_trans h.steps (by change p.clock + _ ≤ p.clock + elapsed + _; lia)
  | wakes late worked =>
      have hnext := nextDeadline_le interval p.deadline
        (max p.clock p.deadline + late + worked)
      have hclock := Nat.le_max_left p.clock p.deadline
      have hdeadline := Nat.le_max_right p.clock p.deadline
      have hcount : interval * (count + 1) = interval * count + interval := Nat.mul_succ _ _
      change Since interval start (count + 1) ⟨nextDeadline interval p.deadline _, _⟩
      have hstart := h.clock
      refine ⟨by lia, fun _ => ?_, ?_⟩
      · rw [hcount]
        rcases Nat.eq_zero_or_pos count with hzero | hpos
        · subst hzero
          lia
        · have hbefore := h.deadline hpos
          lia
      · rw [hcount]
        rcases Nat.eq_zero_or_pos count with hzero | hpos
        · subst hzero
          lia
        · have hbefore := h.deadline hpos
          lia

theorem Since.run {start count : Nat} (h : Since interval start count p)
    (beats : List Beat) :
    Since interval start (count + wakeCount beats) (beats.foldl (Pacer.play interval) p) := by
  induction beats generalizing p count with
  | nil => exact h
  | cons beat rest ih =>
      have hrest := ih (h.play beat)
      have hcount : wakeCount (beat :: rest) = wakeCount [beat] + wakeCount rest :=
        wakeCount_append [beat] rest
      rw [hcount, ← Nat.add_assoc]
      exact hrest

/-- In no window are there more than two steps too many. -/
theorem steps_le (interval : Nat) (p : Pacer) (beats : List Beat) :
    p.clock ≤ (beats.foldl (Pacer.play interval) p).clock ∧
      interval * wakeCount beats ≤
        (beats.foldl (Pacer.play interval) p).clock - p.clock + 2 * interval := by
  have hend := (Since.start interval p).run beats
  rw [Nat.zero_add] at hend
  have hclock := hend.clock
  have hsteps := hend.steps
  exact ⟨hclock, by lia⟩

/-- Steps in time move the deadline by one interval each. -/
theorem deadline_eq {beats : List Beat} (h : AllInTime interval p beats) :
    (beats.foldl (Pacer.play interval) p).deadline =
      p.deadline + interval * wakeCount beats := by
  induction beats generalizing p with
  | nil => rfl
  | cons beat rest ih =>
      have hcount : wakeCount (beat :: rest) = wakeCount [beat] + wakeCount rest :=
        wakeCount_append [beat] rest
      rw [List.foldl_cons, ih h.right, hcount, Nat.mul_add, ← Nat.add_assoc]
      congr 1
      cases beat with
      | passes elapsed => rfl
      | wakes late worked =>
          have hintime : max p.clock p.deadline + late + worked ≤ p.deadline + interval :=
            h.left
          change nextDeadline interval p.deadline _ = p.deadline + interval * 1
          unfold nextDeadline
          rw [if_neg (by lia), Nat.mul_one]

theorem allInTime_append {front back : List Beat} :
    AllInTime interval p (front ++ back) <->
      AllInTime interval p front ∧
        AllInTime interval (front.foldl (Pacer.play interval) p) back := by
  induction front generalizing p with
  | nil => exact ⟨fun h => ⟨trivial, h⟩, fun h => h.right⟩
  | cons beat rest ih =>
      rw [List.cons_append, AllInTime, AllInTime, List.foldl_cons, ih]
      exact and_assoc.symm

/--
If no step was late then after each of them the clock has gone on by as many intervals as
there were steps, and by at most one more.
-/
theorem no_drift {beats : List Beat} {late worked : Nat} (hstart : p.deadline = p.clock + interval)
    (h : AllInTime interval p (beats ++ [Beat.wakes late worked])) :
    let last := (beats ++ [Beat.wakes late worked]).foldl (Pacer.play interval) p
    let count := wakeCount (beats ++ [Beat.wakes late worked])
    p.clock + interval * count ≤ last.clock ∧
      last.clock ≤ p.clock + interval * (count + 1) := by
  intro last count
  have hend := deadline_eq h
  rcases allInTime_append.mp h with ⟨hfront, hlast, _⟩
  have hmiddle := deadline_eq hfront
  have hcount : count = wakeCount beats + 1 := wakeCount_append beats [Beat.wakes late worked]
  have hclock : last.clock = max (beats.foldl (Pacer.play interval) p).clock
      (beats.foldl (Pacer.play interval) p).deadline + late + worked := by
    change ((beats ++ [_]).foldl (Pacer.play interval) p).clock = _
    rw [List.foldl_append]
    rfl
  have hintime : max (beats.foldl (Pacer.play interval) p).clock
      (beats.foldl (Pacer.play interval) p).deadline + late + worked ≤
        (beats.foldl (Pacer.play interval) p).deadline + interval := hlast
  have hlate := Nat.le_max_right (beats.foldl (Pacer.play interval) p).clock
    (beats.foldl (Pacer.play interval) p).deadline
  rw [hclock, hcount, Nat.mul_succ, Nat.mul_succ]
  lia

end Pacer

end RtsGame
