import RtsGame.Library.Runs

/-!
# Compartments of a machine

A machine may look after several things at once.  Such a thing is a compartment of it if an
input that does not concern the thing leaves it as it is, and an input that does concern it
does the same to it whatever else the machine looks after.  Then all that ever happens to it
and is ever said about it is decided by the inputs that concern it.
-/

namespace RtsGame

variable {state input output news : Type}

/--
What makes a compartment of a machine, in the states that satisfy an invariant: which states
agree on it, which inputs concern it in a state, and what an output tells about it.
-/
structure Compartment (step : state -> input -> state × List output) (inv : state -> Prop)
    (agree : state -> state -> Prop) (concerns : state -> input -> Bool)
    (tell : output -> Option news) : Prop where
  equiv : Equivalence agree
  kept : forall s i, inv s -> inv (step s i).1
  decided : forall s t i, inv s -> inv t -> agree s t -> concerns s i = concerns t i
  apart : forall s i, inv s -> concerns s i = false ->
    agree (step s i).1 s ∧ (step s i).2.filterMap tell = []
  within : forall s t i, inv s -> inv t -> agree s t -> concerns s i = true ->
    agree (step s i).1 (step t i).1 ∧
      (step s i).2.filterMap tell = (step t i).2.filterMap tell

/-- The inputs of a run that concern the compartment when it is their turn. -/
def concerning (step : state -> input -> state × List output)
    (concerns : state -> input -> Bool) : state -> List input -> List input
  | _, [] => []
  | s, i :: rest =>
      if concerns s i then i :: concerning step concerns (step s i).1 rest
      else concerning step concerns (step s i).1 rest

section Concerning

variable {step : state -> input -> state × List output} {concerns : state -> input -> Bool}
  {s : state} {i : input}

theorem concerning_pos (h : concerns s i = true) (rest : List input) :
    concerning step concerns s (i :: rest) = i :: concerning step concerns (step s i).1 rest :=
  if_pos h

theorem concerning_neg (h : concerns s i = false) (rest : List input) :
    concerning step concerns s (i :: rest) = concerning step concerns (step s i).1 rest := by
  apply if_neg
  rw [h]
  decide

end Concerning

namespace Compartment

variable {step : state -> input -> state × List output} {inv : state -> Prop}
  {agree : state -> state -> Prop} {concerns : state -> input -> Bool}
  {tell : output -> Option news}

theorem run_kept (h : Compartment step inv agree concerns tell) {s : state} (hs : inv s)
    (inputs : List input) : inv (runMachine step s inputs).1 :=
  runMachine_invariant (fun _ t => inv t) (fun _ t i ht => h.kept t i ht) [] s hs inputs

/-- Inputs that do not concern the compartment come to nothing. -/
theorem run_apart (h : Compartment step inv agree concerns tell) {s : state} (hs : inv s)
    {inputs : List input} (hnone : concerning step concerns s inputs = []) :
    agree (runMachine step s inputs).1 s ∧
      (runMachine step s inputs).2.filterMap tell = [] := by
  induction inputs generalizing s with
  | nil => exact ⟨h.equiv.refl s, rfl⟩
  | cons i rest ih =>
      cases hi : concerns s i with
      | true =>
          rw [concerning_pos hi] at hnone
          cases hnone
      | false =>
          rw [concerning_neg hi] at hnone
          rcases h.apart s i hs hi with ⟨hfirst, hquiet⟩
          rcases ih (h.kept s i hs) hnone with ⟨hlater, hsilent⟩
          refine ⟨h.equiv.trans hlater hfirst, ?_⟩
          change ((step s i).2 ++ (runMachine step (step s i).1 rest).2).filterMap tell = []
          rw [List.filterMap_append, hquiet, hsilent]
          rfl

/-- What goes before the first input that concerns the compartment, and what comes after. -/
theorem concerning_cons {s : state} {inputs later : List input} {i : input}
    (h : concerning step concerns s inputs = i :: later) :
    exists front back, inputs = front ++ i :: back ∧
      concerning step concerns s front = [] ∧
      concerns (runMachine step s front).1 i = true ∧
      concerning step concerns (step (runMachine step s front).1 i).1 back = later := by
  induction inputs generalizing s with
  | nil => cases h
  | cons j rest ih =>
      cases hj : concerns s j with
      | true =>
          rw [concerning_pos hj] at h
          injection h with hhead hlater
          subst hhead
          exact ⟨[], rest, rfl, rfl, hj, hlater⟩
      | false =>
          rw [concerning_neg hj] at h
          rcases ih h with ⟨front, back, heq, hnone, hi, hlater⟩
          refine ⟨j :: front, back, congrArg (List.cons j) heq, ?_, hi, hlater⟩
          rw [concerning_neg hj]
          exact hnone

/-- The run over an input that concerns the compartment and those before it, which do not. -/
theorem run_to (h : Compartment step inv agree concerns tell) {s : state} (hs : inv s)
    {front : List input} (hnone : concerning step concerns s front = []) (i : input)
    (back : List input) :
    let there := (runMachine step s front).1
    inv there ∧ agree there s ∧
      runMachine step s (front ++ i :: back) =
        ((runMachine step (step there i).1 back).1,
          (runMachine step s front).2 ++ ((step there i).2 ++
            (runMachine step (step there i).1 back).2)) ∧
      (runMachine step s (front ++ i :: back)).2.filterMap tell =
        (step there i).2.filterMap tell ++
          (runMachine step (step there i).1 back).2.filterMap tell := by
  intro there
  rcases h.run_apart hs hnone with ⟨hagree, hsilent⟩
  have hrun : runMachine step s (front ++ i :: back) =
      ((runMachine step (step there i).1 back).1,
        (runMachine step s front).2 ++ ((step there i).2 ++
          (runMachine step (step there i).1 back).2)) := runMachine_append step s front (i :: back)
  refine ⟨h.run_kept hs front, hagree, hrun, ?_⟩
  rw [hrun, List.filterMap_append, List.filterMap_append, hsilent]
  rfl

/--
Two runs with the same inputs that concern the compartment do the same to it and say the same
about it, whatever other inputs there are in between and whatever else they are about.
-/
theorem runs_agree (h : Compartment step inv agree concerns tell) {s t : state}
    (hs : inv s) (ht : inv t) (hagree : agree s t) {inputs inputs' : List input}
    (hsame : concerning step concerns s inputs = concerning step concerns t inputs') :
    agree (runMachine step s inputs).1 (runMachine step t inputs').1 ∧
      (runMachine step s inputs).2.filterMap tell =
        (runMachine step t inputs').2.filterMap tell := by
  generalize hcommon : concerning step concerns s inputs = common at hsame
  induction common generalizing s t inputs inputs' with
  | nil =>
      rcases h.run_apart hs hcommon with ⟨hleft, hquiet⟩
      rcases h.run_apart ht hsame.symm with ⟨hright, hquiet'⟩
      refine ⟨h.equiv.trans hleft (h.equiv.trans hagree (h.equiv.symm hright)), ?_⟩
      rw [hquiet, hquiet']
  | cons i later ih =>
      rcases concerning_cons hcommon with ⟨front, back, rfl, hnone, hi, hlater⟩
      rcases concerning_cons hsame.symm with ⟨front', back', rfl, hnone', hi', hlater'⟩
      rcases h.run_to hs hnone i back with ⟨hthere, hback, hrun, hsaid⟩
      rcases h.run_to ht hnone' i back' with ⟨hthere', hback', hrun', hsaid'⟩
      have hmet := h.equiv.trans hback (h.equiv.trans hagree (h.equiv.symm hback'))
      rcases h.within _ _ i hthere hthere' hmet hi with ⟨hnext, hnews⟩
      rcases ih (h.kept _ i hthere) (h.kept _ i hthere') hnext hlater hlater'.symm with
        ⟨hend, hrest⟩
      rw [hsaid, hsaid', hrun, hrun', hnews, hrest]
      exact ⟨hend, rfl⟩

end Compartment

end RtsGame
