import Mathlib.Logic.Relation

/-!
# Runs of machines with outputs

A machine takes one input at a time and answers with a new state and a list of
outputs.  A run feeds it a list of inputs and collects the outputs in order.
The rules of this module derive what holds after every run from what one step
preserves; the outputs collected so far are part of the invariant, so that it
can speak about the history.
-/

namespace RtsGame

variable {state input output : Type}

/-- Feed a list of inputs to a machine and collect its outputs. -/
def runMachine (step : state -> input -> state × List output) :
    state -> List input -> state × List output
  | s, [] => (s, [])
  | s, i :: rest =>
      let first := step s i
      let later := runMachine step first.1 rest
      (later.1, first.2 ++ later.2)

@[simp] theorem runMachine_nil (step : state -> input -> state × List output)
    (s : state) : runMachine step s [] = (s, []) := rfl

theorem runMachine_append (step : state -> input -> state × List output)
    (s : state) (front back : List input) :
    runMachine step s (front ++ back) =
      ((runMachine step (runMachine step s front).1 back).1,
        (runMachine step s front).2 ++
          (runMachine step (runMachine step s front).1 back).2) := by
  induction front generalizing s with
  | nil =>
      simp
  | cons i rest ih =>
      simp [runMachine, ih]

/-- An output of a run is an output of one of its steps. -/
theorem mem_runMachine {step : state -> input -> state × List output} {s : state}
    {inputs : List input} {o : output} (h : o ∈ (runMachine step s inputs).2) :
    exists front i back, inputs = front ++ i :: back ∧
      o ∈ (step (runMachine step s front).1 i).2 := by
  induction inputs generalizing s with
  | nil =>
      cases h
  | cons i rest ih =>
      change o ∈ (step s i).2 ++ (runMachine step (step s i).1 rest).2 at h
      rw [List.mem_append] at h
      cases h with
      | inl hfirst =>
          exact ⟨[], i, rest, rfl, hfirst⟩
      | inr hlater =>
          obtain ⟨front, j, back, heq, ho⟩ := ih hlater
          exact ⟨i :: front, j, back, congrArg (List.cons i) heq, ho⟩

/-- Every input of a run meets a condition in the state that receives it. -/
def Along (step : state -> input -> state × List output)
    (cond : state -> input -> Prop) : state -> List input -> Prop
  | _, [] => True
  | s, i :: rest => cond s i ∧ Along step cond (step s i).1 rest

instance decidableAlong (step : state -> input -> state × List output)
    (cond : state -> input -> Prop) [forall s i, Decidable (cond s i)] :
    forall (s : state) (inputs : List input), Decidable (Along step cond s inputs)
  | _, [] => isTrue trivial
  | s, i :: rest =>
      have := decidableAlong step cond (step s i).1 rest
      inferInstanceAs (Decidable (cond s i ∧ Along step cond (step s i).1 rest))

theorem along_of_forall {step : state -> input -> state × List output}
    {cond : state -> input -> Prop} (h : forall s i, cond s i) (s : state)
    (inputs : List input) : Along step cond s inputs := by
  induction inputs generalizing s with
  | nil =>
      trivial
  | cons i rest ih =>
      exact ⟨h s i, ih (step s i).1⟩

theorem Along.mono {step : state -> input -> state × List output}
    {cond cond' : state -> input -> Prop}
    (himp : forall s i, cond s i -> cond' s i) {s : state}
    {inputs : List input} (h : Along step cond s inputs) :
    Along step cond' s inputs := by
  induction inputs generalizing s with
  | nil =>
      trivial
  | cons i rest ih =>
      exact ⟨himp s i h.1, ih h.2⟩

/--
Invariant rule with history: what holds of the initial state without outputs,
and is preserved by every step that meets the condition, holds after every run
along which the condition is met.
-/
theorem runMachine_along {step : state -> input -> state × List output}
    {cond : state -> input -> Prop} (inv : List output -> state -> Prop)
    (hstep : forall past s i, inv past s -> cond s i ->
      inv (past ++ (step s i).2) (step s i).1)
    (past : List output) (s : state) (hs : inv past s) (inputs : List input)
    (hcond : Along step cond s inputs) :
    inv (past ++ (runMachine step s inputs).2)
      (runMachine step s inputs).1 := by
  induction inputs generalizing past s with
  | nil =>
      simpa using hs
  | cons i rest ih =>
      rcases hcond with ⟨hfirst, hlater⟩
      have hnext := ih (past ++ (step s i).2) (step s i).1
        (hstep past s i hs hfirst) hlater
      simpa [runMachine, List.append_assoc] using hnext

/-- The rule for runs without a condition. -/
theorem runMachine_invariant
    {step : state -> input -> state × List output}
    (inv : List output -> state -> Prop)
    (hstep : forall past s i, inv past s ->
      inv (past ++ (step s i).2) (step s i).1)
    (past : List output) (s : state) (hs : inv past s) (inputs : List input) :
    inv (past ++ (runMachine step s inputs).2)
      (runMachine step s inputs).1 :=
  have hcond : Along step (fun _ _ => True) s inputs :=
    along_of_forall (fun _ _ => trivial) s inputs
  runMachine_along inv (fun past s i hs _ => hstep past s i hs) past s hs inputs
    hcond

/-- An entry of a history that goes on is in the old part or in the new one. -/
theorem append_eq_cons_cases {α : Type} {past more front back : List α} {x : α}
    (h : past ++ more = front ++ x :: back) :
    (exists mid, past = front ++ x :: mid ∧ back = mid ++ more) ∨
      exists mid, front = past ++ mid ∧ more = mid ++ x :: back := by
  rcases List.append_eq_append_iff.mp h with ⟨mid, hfront, hmore⟩ | ⟨mid, hpast, hback⟩
  · exact Or.inr ⟨mid, hfront, hmore⟩
  · cases mid with
    | nil =>
        refine Or.inr ⟨[], ?_, hback.symm⟩
        rw [hpast, List.append_nil, List.append_nil]
    | cons y mid =>
        injection hback with hx hrest
        subst hx
        exact Or.inl ⟨mid, hpast, hrest⟩

/-!
## Two machines on the same states
-/

/-- Machines that differ in their outputs only reach the same states. -/
theorem runMachine_fst_congr {output' : Type}
    {step : state -> input -> state × List output}
    {step' : state -> input -> state × List output'}
    (h : forall s i, (step' s i).1 = (step s i).1) (s : state) (inputs : List input) :
    (runMachine step' s inputs).1 = (runMachine step s inputs).1 := by
  induction inputs generalizing s with
  | nil =>
      rfl
  | cons i rest ih =>
      change (runMachine step' (step' s i).1 rest).1 =
        (runMachine step (step s i).1 rest).1
      rw [h s i]
      exact ih (step s i).1

theorem Along.congr {output' : Type} {step : state -> input -> state × List output}
    {step' : state -> input -> state × List output'}
    (h : forall s i, (step' s i).1 = (step s i).1) {cond : state -> input -> Prop}
    {s : state} {inputs : List input} (halong : Along step cond s inputs) :
    Along step' cond s inputs := by
  induction inputs generalizing s with
  | nil =>
      trivial
  | cons i rest ih =>
      refine ⟨halong.1, ?_⟩
      rw [h s i]
      exact ih halong.2

/-!
## Runs whose outputs are all good

Whether an output is good is judged in the final state.  An output that a state
knows stays known, and later steps do not change the verdict on it.
-/

section Verdicts

variable {step : state -> input -> state × List output}
  {inv : state -> Prop} {known good : state -> output -> Prop}
  {cond : state -> input -> Prop}

/-- The verdict on a known output is the same after every run. -/
theorem runMachine_verdict (hinv : forall s i, inv s -> inv (step s i).1)
    (hknown : forall s i o, inv s -> known s o -> known (step s i).1 o)
    (hgood : forall s i o, inv s -> known s o ->
      (good (step s i).1 o <-> good s o))
    {s : state} (hs : inv s) {o : output} (ho : known s o)
    (inputs : List input) :
    good (runMachine step s inputs).1 o <-> good s o := by
  induction inputs generalizing s with
  | nil =>
      rfl
  | cons i rest ih =>
      have hnext := ih (hinv s i hs) (hknown s i o hs ho)
      exact hnext.trans (hgood s i o hs ho)

/--
All outputs of a run have a property that does not look at the state if and only
if every step meets the condition.
-/
theorem runMachine_outputs_iff {good : output -> Prop}
    (hinv : forall s i, inv s -> inv (step s i).1)
    (hstep : forall s i, inv s ->
      ((forall o, o ∈ (step s i).2 -> good o) <-> cond s i))
    {s : state} (hs : inv s) (inputs : List input) :
    (forall o, o ∈ (runMachine step s inputs).2 -> good o) <->
      Along step cond s inputs := by
  induction inputs generalizing s with
  | nil =>
      simp [Along]
  | cons i rest ih =>
      show (forall o, o ∈ (step s i).2 ++ (runMachine step (step s i).1 rest).2 ->
        good o) <-> cond s i ∧ Along step cond (step s i).1 rest
      rw [← hstep s i hs, ← ih (hinv s i hs)]
      exact List.forall_mem_append

/--
A property holds in every state of a run if and only if every step meets the
condition, where a step that does not meet it spoils the property at once.
-/
theorem runMachine_always_iff {good : state -> Prop} (hgood : forall s, inv s -> good s)
    (hstep : forall s i, inv s -> cond s i -> inv (step s i).1)
    (hspoil : forall s i, inv s -> good (step s i).1 -> cond s i)
    {s : state} (hs : inv s) (inputs : List input) :
    (forall front back, inputs = front ++ back ->
      good (runMachine step s front).1) <-> Along step cond s inputs := by
  induction inputs generalizing s with
  | nil =>
      constructor
      · intro _
        trivial
      · intro _ front back h
        rw [(List.append_eq_nil_iff.mp h.symm).left]
        exact hgood s hs
  | cons i rest ih =>
      constructor
      · intro h
        have hfirst : cond s i := hspoil s i hs (h [i] rest rfl)
        refine ⟨hfirst, (ih (hstep s i hs hfirst)).mp ?_⟩
        intro front back heq
        exact h (i :: front) back (congrArg (List.cons i) heq)
      · intro h front back heq
        cases front with
        | nil => exact hgood s hs
        | cons j front =>
            cases heq
            exact (ih (hstep s i hs h.left)).mpr h.right front back rfl

/-- All outputs of a run are good if and only if every step meets the condition. -/
theorem runMachine_good_iff (hinv : forall s i, inv s -> inv (step s i).1)
    (hknown : forall s i o, inv s -> known s o -> known (step s i).1 o)
    (hgood : forall s i o, inv s -> known s o ->
      (good (step s i).1 o <-> good s o))
    (hout : forall s i o, inv s -> o ∈ (step s i).2 -> known (step s i).1 o)
    (hstep : forall s i, inv s ->
      ((forall o, o ∈ (step s i).2 -> good (step s i).1 o) <-> cond s i))
    {s : state} (hs : inv s) (inputs : List input) :
    (forall o, o ∈ (runMachine step s inputs).2 ->
      good (runMachine step s inputs).1 o) <-> Along step cond s inputs := by
  induction inputs generalizing s with
  | nil =>
      simp [Along]
  | cons i rest ih =>
      have hfirst : forall o, o ∈ (step s i).2 ->
          (good (runMachine step (step s i).1 rest).1 o <->
            good (step s i).1 o) := by
        intro o ho
        exact runMachine_verdict hinv hknown hgood (hinv s i hs) (hout s i o hs ho)
          rest
      show (forall o, o ∈ (step s i).2 ++ (runMachine step (step s i).1 rest).2 ->
        good (runMachine step (step s i).1 rest).1 o) <->
          cond s i ∧ Along step cond (step s i).1 rest
      rw [← hstep s i hs, ← ih (hinv s i hs)]
      constructor
      · intro h
        constructor
        · intro o ho
          exact (hfirst o ho).mp (h o (List.mem_append_left _ ho))
        · intro o ho
          exact h o (List.mem_append_right _ ho)
      · intro h o ho
        cases List.mem_append.mp ho with
        | inl hnow =>
            exact (hfirst o hnow).mpr (h.left o hnow)
        | inr hlater =>
            exact h.right o hlater

end Verdicts

/-!
## Machines that drive another machine

Every step gives the other machine a list of inputs to work on.  When these take
its state to what is seen of the next one, the runs correspond as well.
-/

section Driven

variable {state' input' : Type} {step : state -> input -> state × List output}
  {step' : state' -> input' -> state' × List output}

/-- The inputs that a run gives to the other machine. -/
def driven (step : state -> input -> state × List output)
    (feed : state -> input -> List input') : state -> List input -> List input'
  | _, [] => []
  | s, i :: rest => feed s i ++ driven step feed (step s i).1 rest

theorem runMachine_driven {feed : state -> input -> List input'}
    {inv : state -> Prop} {view : state -> state'}
    (hinv : forall s i, inv s -> inv (step s i).1)
    (hstep : forall s i, inv s ->
      runMachine step' (view s) (feed s i) = (view (step s i).1, (step s i).2))
    {s : state} (hs : inv s) (inputs : List input) :
    runMachine step' (view s) (driven step feed s inputs) =
      (view (runMachine step s inputs).1, (runMachine step s inputs).2) := by
  induction inputs generalizing s with
  | nil =>
      rfl
  | cons i rest ih =>
      unfold driven
      rw [runMachine_append, hstep s i hs, ih (hinv s i hs)]
      rfl

end Driven

/-!
## Runs whose steps meet a condition or not

The invariant is told whether all steps so far have met the condition, and can
say what the state has to do with that.
-/

section Tracked

variable {step : state -> input -> state × List output}
  {assumed cond : state -> input -> Prop} {inv : Prop -> state -> Prop}

end Tracked

/-!
## Sequences of labelled moves
-/

/-- A finite sequence of moves, with the outputs of the moves concatenated. -/
inductive Moves (move : state -> List output -> state -> Prop) :
    state -> List output -> state -> Prop where
  | nil (s : state) : Moves move s [] s
  | cons {s t u : state} {front back : List output} :
      move s front t -> Moves move t back u -> Moves move s (front ++ back) u

namespace Moves

variable {move : state -> List output -> state -> Prop}

theorem single {s t : state} {outs : List output} (h : move s outs t) :
    Moves move s outs t := by
  have hcons := Moves.cons h (Moves.nil t)
  simpa using hcons

theorem append {s t u : state} {front back : List output}
    (hfront : Moves move s front t) (hback : Moves move t back u) :
    Moves move s (front ++ back) u := by
  induction hfront with
  | nil _ =>
      simpa using hback
  | cons hmove _ ih =>
      rw [List.append_assoc]
      exact Moves.cons hmove (ih hback)

/-- What one move preserves, a sequence of moves preserves. -/
theorem invariant (inv : List output -> state -> Prop)
    (hmove : forall past s outs t, inv past s -> move s outs t ->
      inv (past ++ outs) t)
    {s t : state} {outs : List output} (h : Moves move s outs t)
    (past : List output) (hs : inv past s) : inv (past ++ outs) t := by
  induction h generalizing past with
  | nil _ =>
      simpa using hs
  | cons hfirst _ ih =>
      have hnext := ih _ (hmove _ _ _ _ hs hfirst)
      simpa [List.append_assoc] using hnext

/-- The invariant rule for a property of the state alone. -/
theorem preserves (inv : state -> Prop)
    (hmove : forall s outs t, inv s -> move s outs t -> inv t)
    {s t : state} {outs : List output} (h : Moves move s outs t)
    (hs : inv s) : inv t :=
  invariant (fun _ => inv) (fun _ s outs t => hmove s outs t) h [] hs

theorem mono {move' : state -> List output -> state -> Prop}
    (himp : forall s outs t, move s outs t -> move' s outs t)
    {s t : state} {outs : List output} (h : Moves move s outs t) :
    Moves move' s outs t := by
  induction h with
  | nil s =>
      exact Moves.nil s
  | cons hfirst _ ih =>
      exact Moves.cons (himp _ _ _ hfirst) ih

/-- A loop whose body consists of silent moves consists of silent moves. -/
theorem foldl {item : Type} {body : state -> item -> state}
    (hbody : forall s x, Moves move s [] (body s x)) (s : state)
    (items : List item) : Moves move s [] (items.foldl body s) := by
  induction items generalizing s with
  | nil =>
      exact Moves.nil s
  | cons x rest ih =>
      exact (hbody s x).append (ih (body s x))

end Moves

/-!
## Loops
-/

/-- What every round of a loop does, the loop does, if it can be done in no or more rounds. -/
theorem foldl_rel {state item : Type} {rel : state -> state -> Prop}
    (hrefl : forall s, rel s s) (htrans : forall {s t u}, rel s t -> rel t u -> rel s u)
    {body : state -> item -> state} (hbody : forall s x, rel s (body s x)) (s : state)
    (items : List item) : rel s (items.foldl body s) := by
  induction items generalizing s with
  | nil =>
      exact hrefl s
  | cons x rest ih =>
      exact htrans (hbody s x) (ih (body s x))

/-- What no round of a loop changes, the loop does not change. -/
theorem foldl_same {state item value : Type} (look : state -> value)
    {body : state -> item -> state} (hbody : forall s x, look (body s x) = look s)
    (s : state) (items : List item) : look (items.foldl body s) = look s :=
  @foldl_rel state item (fun s t => look t = look s) (fun _ => rfl)
    (fun h h' => h'.trans h) body hbody s items

/-!
## Interleavings of the work of several parties

Every item belongs to a party.  Two lists are interleavings of the same work if
each party finds its own items in the same order in both.
-/

section Interleaving

variable {item : Type}

/-- Each party finds the same items in the same order in both lists. -/
def Interleaved (party : item -> Nat) (l₁ l₂ : List item) : Prop :=
  forall p, (l₁.filter fun x => party x = p) = l₂.filter fun x => party x = p

theorem Interleaved.symm {party : item -> Nat} {l₁ l₂ : List item}
    (h : Interleaved party l₁ l₂) : Interleaved party l₂ l₁ :=
  fun p => (h p).symm

theorem Interleaved.mem {party : item -> Nat} {l₁ l₂ : List item}
    (h : Interleaved party l₁ l₂) {x : item} (hx : x ∈ l₁) : x ∈ l₂ := by
  have hmem : x ∈ l₁.filter fun y => party y = party x := by
    rw [List.mem_filter]
    exact ⟨hx, by simp⟩
  rw [h (party x)] at hmem
  exact (List.mem_filter.mp hmem).left

/--
A step of one party reads only what the party sees, and changes nothing that
another party sees.
-/
structure Confined (step : state -> item -> state) (party : item -> Nat)
    (inv : state -> Prop) (legal : item -> Prop)
    (alike : Nat -> state -> state -> Prop) : Prop where
  keeps : forall s x, inv s -> legal x -> inv (step s x)
  own : forall s t x, inv s -> inv t -> legal x -> alike (party x) s t ->
    alike (party x) (step s x) (step t x)
  foreign : forall s t x p, inv s -> legal x -> party x ≠ p -> alike p s t ->
    alike p (step s x) t

/-- What a party sees after a loop depends on its own items alone. -/
theorem Confined.foldl_filter {step : state -> item -> state}
    {party : item -> Nat} {inv : state -> Prop} {legal : item -> Prop}
    {alike : Nat -> state -> state -> Prop}
    (hc : Confined step party inv legal alike) (p : Nat) (items : List item)
    (hlegal : forall x, x ∈ items -> legal x) (s t : state) (hs : inv s)
    (ht : inv t) (hst : alike p s t) :
    alike p (items.foldl step s)
      ((items.filter fun x => party x = p).foldl step t) := by
  induction items generalizing s t with
  | nil =>
      exact hst
  | cons x rest ih =>
      have hx : legal x := hlegal x (List.mem_cons_self)
      have hrest : forall y, y ∈ rest -> legal y := by
        intro y hy
        exact hlegal y (List.mem_cons_of_mem _ hy)
      by_cases hp : party x = p
      · subst hp
        rw [List.filter_cons_of_pos (by simp)]
        exact ih hrest _ _ (hc.keeps s x hs hx) (hc.keeps t x ht hx)
          (hc.own s t x hs ht hx hst)
      · rw [List.filter_cons_of_neg (by simpa using hp)]
        exact ih hrest _ _ (hc.keeps s x hs hx) ht
          (hc.foreign s t x p hs hx hp hst)

/-- Two interleavings of the same work lead to states that look alike. -/
theorem Confined.foldl_interleaved {step : state -> item -> state}
    {party : item -> Nat} {inv : state -> Prop} {legal : item -> Prop}
    {alike : Nat -> state -> state -> Prop}
    (hc : Confined step party inv legal alike)
    (hequiv : forall p, Equivalence (alike p)) {l₁ l₂ : List item}
    (hl : Interleaved party l₁ l₂) (hlegal : forall x, x ∈ l₁ -> legal x)
    {s t : state} (hs : inv s) (ht : inv t) {p : Nat} (hst : alike p s t) :
    alike p (l₁.foldl step s) (l₂.foldl step t) := by
  have hfirst := hc.foldl_filter p l₁ hlegal s t hs ht hst
  have hlegal₂ : forall x, x ∈ l₂ -> legal x := by
    intro x hx
    exact hlegal x (hl.symm.mem hx)
  have hsecond := hc.foldl_filter p l₂ hlegal₂ t t ht ht ((hequiv p).refl t)
  rw [hl p] at hfirst
  exact (hequiv p).trans hfirst ((hequiv p).symm hsecond)

end Interleaving

end RtsGame
