import Mathlib.Data.List.Basic
import RtsGame.Library.Runs

/-!
# Bounded queues with a loop that writes

A sender puts packets into a queue of bounded depth, which drops its oldest
packet when it is full.  A flag says whether a loop is at work; the sender that
finds it lowered raises it and spawns a loop.  The loop takes one packet at a
time, hands it over and is suspended until the write completes, and lowers the
flag before it returns.  The session around the queue may be closed at any
time, also while a write is outstanding.

The rules of this module say what each of these steps preserves.  Sessions
differ in when they take packets, when their loop goes on and what closing does
to the queue, which is what an outlet lists.
-/

namespace RtsGame

/-- Where a loop is suspended. -/
inductive LoopPoint (packet : Type) where
  | spawned
  | writing (p : packet)
deriving DecidableEq, Repr

/-- How a packet left the queue. -/
inductive Exit where
  | handed
  | dropped
  | discarded
deriving DecidableEq, Repr

/--
A session as a sender sees it.  The last three fields are not in the program:
the packets that were posted, those that left the queue in the order in which
they left it, and those that were refused.
-/
structure Outbox (state packet : Type) where
  state : state
  queue : List packet
  isWriting : Bool
  loops : List (LoopPoint packet)
  posted : List packet
  departed : List (Exit × packet)
  refused : List packet

/--
What a kind of session does: the depth of its queue, in which states it takes
packets, writes them and counts as closed, the states that it goes to when the
loop takes a packet, returns or fails and when it is closed, and whether closing
empties the queue and lowers the flag.
-/
structure Outlet (state : Type) where
  depth : Nat
  takes : state -> Bool
  writes : state -> Bool
  isClosed : state -> Bool
  busy : state -> state
  rest : state -> state
  failed : state -> state
  closed : state
  clears : Bool

namespace Outbox

variable {state packet : Type}

def create (s : state) : Outbox state packet :=
  ⟨s, [], false, [], [], [], []⟩

/-- The packets that were handed over. -/
def handed (b : Outbox state packet) : List packet :=
  (b.departed.filter fun entry => entry.1 = Exit.handed).map Prod.snd

/-- The packets that were dropped because the queue was full. -/
def dropped (b : Outbox state packet) : List packet :=
  (b.departed.filter fun entry => entry.1 = Exit.dropped).map Prod.snd

/-- The writes that have not completed. -/
def outstanding (b : Outbox state packet) : List packet :=
  b.loops.filterMap fun
    | LoopPoint.spawned => none
    | LoopPoint.writing p => some p

end Outbox

namespace Outlet

variable {state packet : Type}

/-!
## Steps
-/

/-- The packet that a full queue loses. -/
def overflow (o : Outlet state) (b : Outbox state packet) : List packet :=
  if b.queue.length ≥ o.depth then b.queue.take 1 else []

def send (o : Outlet state) (b : Outbox state packet) (p : packet) :
    Outbox state packet :=
  if o.takes b.state then
    { b with
      queue := (if b.queue.length ≥ o.depth then b.queue.tail else b.queue) ++ [p]
      isWriting := true
      loops := if b.isWriting then b.loops else b.loops ++ [LoopPoint.spawned]
      posted := b.posted ++ [p]
      departed := b.departed ++ (o.overflow b).map fun q => (Exit.dropped, q) }
  else { b with posted := b.posted ++ [p], refused := b.refused ++ [p] }

def close (o : Outlet state) (b : Outbox state packet) : Outbox state packet :=
  if o.isClosed b.state then b
  else if o.clears then
    { b with
      state := o.closed
      queue := []
      isWriting := false
      departed := b.departed ++ b.queue.map fun q => (Exit.discarded, q) }
  else { b with state := o.closed }

/-- The loop lowers the flag and returns. -/
def returns (o : Outlet state) (b : Outbox state packet) (i : Nat) :
    Outbox state packet :=
  { b with
    state := o.rest b.state
    isWriting := false
    loops := b.loops.eraseIdx i }

/-- The loop takes the next packet or returns. -/
def turn (o : Outlet state) (b : Outbox state packet) (i : Nat) :
    Outbox state packet :=
  match b.queue with
  | [] => o.returns b i
  | p :: rest =>
      if o.writes b.state then
        { b with
          state := o.busy b.state
          queue := rest
          loops := b.loops.set i (LoopPoint.writing p)
          departed := b.departed ++ [(Exit.handed, p)] }
      else o.returns b i

/-- A write fails: the loop lowers the flag, closes the session and returns. -/
def fails (o : Outlet state) (b : Outbox state packet) (i : Nat) :
    Outbox state packet :=
  o.close
    { b with
      state := o.failed b.state
      isWriting := false
      loops := b.loops.eraseIdx i }

/-- A loop that is ready goes on: it has been spawned, or its write has completed. -/
def resume (o : Outlet state) (b : Outbox state packet) (i : Nat) (ok : Bool) :
    Outbox state packet :=
  match b.loops[i]? with
  | none => b
  | some LoopPoint.spawned => o.turn b i
  | some (LoopPoint.writing _) => if ok then o.turn b i else o.fails b i

/-!
## What the steps preserve
-/

/-- What the proofs need of an outlet. -/
structure Lawful (o : Outlet state) : Prop where
  depth : 0 < o.depth
  closed : o.isClosed o.closed = true
  silent : forall s, o.isClosed s = true -> o.writes s = false
  open_takes : forall s, o.isClosed s = false -> o.takes s = true
  takes_closed : o.clears = true -> o.takes o.closed = false
  busy : forall s, o.writes s = true -> o.writes (o.busy s) = true
  rest_writes : forall s, o.writes (o.rest s) = o.writes s
  rest_takes : forall s, o.takes (o.rest s) = o.takes s
  failed_takes : forall s, o.takes s = false -> o.takes (o.failed s) = false

/-- The queue is short, and at most one loop is at work on it. -/
structure Orderly (o : Outlet state) (b : Outbox state packet) : Prop where
  short : b.queue.length ≤ o.depth
  single : b.loops.length ≤ 1
  active : b.isWriting = true -> b.loops ≠ []
  quiet : o.takes b.state = true -> b.isWriting = false -> b.loops = []
  order : b.posted = b.departed.map Prod.snd ++ b.queue ++ b.refused
  refused : b.refused ≠ [] -> o.takes b.state = false
  discarded : forall p, (Exit.discarded, p) ∈ b.departed -> o.takes b.state = false

/-- If the session can write, somebody works on a queue that is not empty. -/
def Served (o : Outlet state) (b : Outbox state packet) : Prop :=
  o.writes b.state = true -> b.queue ≠ [] -> b.isWriting = true

variable {o : Outlet state} {b : Outbox state packet}

theorem Lawful.open_of_writes (ho : o.Lawful) {s : state} (h : o.writes s = true) :
    o.isClosed s = false := by
  cases hclosed : o.isClosed s with
  | false => rfl
  | true =>
      rw [ho.silent s hclosed] at h
      cases h

theorem orderly_create (o : Outlet state) (s : state) :
    o.Orderly (Outbox.create s : Outbox state packet) := by
  refine ⟨Nat.zero_le _, Nat.zero_le _, ?_, fun _ _ => rfl, rfl,
    fun h => absurd rfl h, ?_⟩
  · intro h
    cases h
  · intro p h
    cases h

theorem served_create (o : Outlet state) (s : state) :
    o.Served (Outbox.create s : Outbox state packet) :=
  fun _ h => absurd rfl h

/-- A full queue loses its oldest packet and keeps the order of the others. -/
theorem overflow_append (ho : o.Lawful) (b : Outbox state packet) :
    o.overflow b ++ (if b.queue.length ≥ o.depth then b.queue.tail else b.queue) =
      b.queue := by
  unfold overflow
  split
  · rename_i hfull
    cases hq : b.queue with
    | nil =>
        have hdepth := ho.depth
        rw [hq] at hfull
        simp only [List.length_nil] at hfull
        lia
    | cons p rest => rfl
  · rfl

theorem Orderly.send (ho : o.Lawful) (h : o.Orderly b) (p : packet) :
    o.Orderly (o.send b p) := by
  unfold Outlet.send
  split
  · rename_i htakes
    have hdepth := ho.depth
    have hshort := h.short
    refine ⟨?_, ?_, ?_, ?_, ?_, ?_, ?_⟩
    · change ((if b.queue.length ≥ o.depth then b.queue.tail else b.queue) ++
        [p]).length ≤ o.depth
      rw [List.length_append, List.length_singleton]
      split
      · rw [List.length_tail]
        lia
      · lia
    · dsimp only
      split
      · exact h.single
      · rename_i hidle
        rw [h.quiet htakes (Bool.eq_false_iff.mpr hidle)]
        exact Nat.le_refl 1
    · intro _
      dsimp only
      split
      · rename_i hbusy
        exact h.active hbusy
      · intro hnil
        have hlast := (List.append_eq_nil_iff.mp hnil).right
        cases hlast
    · intro _ hidle
      cases hidle
    · have hnone : b.refused = [] := by
        by_contra hne
        rw [h.refused hne] at htakes
        cases htakes
      change b.posted ++ [p] = _ ++ _ ++ b.refused
      rw [h.order, hnone, List.append_nil, List.append_nil, List.map_append,
        List.map_map]
      have hsame : (o.overflow b).map (Prod.snd ∘ fun q => (Exit.dropped, q)) =
          o.overflow b := List.map_id _
      rw [hsame, List.append_assoc _ (o.overflow b), ← List.append_assoc (o.overflow b),
        overflow_append ho, List.append_assoc]
    · intro hne
      have hrefused := h.refused hne
      rw [hrefused] at htakes
      cases htakes
    · intro q hq
      apply h.discarded q
      rcases List.mem_append.mp hq with hold | hnew
      · exact hold
      · rcases List.mem_map.mp hnew with ⟨q', _, heq⟩
        cases heq
  · rename_i hrefuses
    refine ⟨h.short, h.single, h.active, h.quiet, ?_, ?_, h.discarded⟩
    · change b.posted ++ [p] = _ ++ _ ++ (b.refused ++ [p])
      rw [h.order, List.append_assoc]
    · intro _
      exact Bool.eq_false_iff.mpr hrefuses

/-- A packet that is taken is worked on, whatever was before. -/
theorem served_send (o : Outlet state) (b : Outbox state packet) {p : packet}
    (htakes : o.takes b.state = true) : o.Served (o.send b p) := by
  intro _ _
  unfold Outlet.send
  rw [if_pos htakes]

theorem Served.send (h : o.Served b) (p : packet) :
    o.Served (o.send b p) := by
  cases htakes : o.takes b.state with
  | true => exact served_send o b htakes
  | false =>
      unfold Outlet.send
      rw [if_neg (by rw [htakes]; exact Bool.false_ne_true)]
      exact h

theorem close_isClosed (ho : o.Lawful) (b : Outbox state packet) :
    o.isClosed (o.close b).state = true := by
  unfold Outlet.close
  split
  · rename_i hclosed
    exact hclosed
  · split
    · exact ho.closed
    · exact ho.closed

theorem served_of_isClosed (ho : o.Lawful) (h : o.isClosed b.state = true) :
    o.Served b := by
  intro hwrites
  rw [ho.silent _ h] at hwrites
  cases hwrites

/-- Closing is orderly if the flag tells the truth, or closing lowers it. -/
theorem Orderly.close (ho : o.Lawful) (h : o.Orderly b) : o.Orderly (o.close b) := by
  unfold Outlet.close
  split
  · exact h
  · rename_i hopen
    have htakes := ho.open_takes b.state (Bool.eq_false_iff.mpr hopen)
    have hnone : b.refused = [] := by
      by_contra hne
      rw [h.refused hne] at htakes
      cases htakes
    split
    · rename_i hclears
      have hrefuses := ho.takes_closed hclears
      refine ⟨Nat.zero_le _, h.single, ?_, ?_, ?_, fun _ => hrefuses,
        fun _ _ => hrefuses⟩
      · intro hbusy
        cases hbusy
      · intro hagain
        change o.takes o.closed = true at hagain
        rw [hrefuses] at hagain
        cases hagain
      · change b.posted = _ ++ [] ++ b.refused
        rw [h.order, List.append_nil, List.map_append, List.map_map]
        have hsame : b.queue.map (Prod.snd ∘ fun q => (Exit.discarded, q)) = b.queue :=
          List.map_id _
        rw [hsame]
    · refine ⟨h.short, h.single, h.active, fun _ => h.quiet htakes, h.order, ?_, ?_⟩
      · intro hne
        exact absurd hnone hne
      · intro p hp
        rw [h.discarded p hp] at htakes
        cases htakes

theorem eraseIdx_eq_nil {alpha : Type} {l : List alpha} (hl : l.length ≤ 1) {i : Nat}
    (hi : i < l.length) : l.eraseIdx i = [] := by
  have hlen := List.length_eraseIdx_of_lt hi
  exact List.eq_nil_of_length_eq_zero (by lia)

theorem Orderly.returns (ho : o.Lawful) (h : o.Orderly b) {i : Nat}
    (hi : i < b.loops.length) : o.Orderly (o.returns b i) := by
  have hnil := eraseIdx_eq_nil h.single hi
  refine ⟨h.short, ?_, ?_, fun _ _ => hnil, h.order, ?_, ?_⟩
  · change (b.loops.eraseIdx i).length ≤ 1
    rw [hnil]
    exact Nat.zero_le 1
  · intro hbusy
    cases hbusy
  · intro hne
    change o.takes (o.rest b.state) = false
    rw [ho.rest_takes]
    exact h.refused hne
  · intro p hp
    change o.takes (o.rest b.state) = false
    rw [ho.rest_takes]
    exact h.discarded p hp

theorem Orderly.turn (ho : o.Lawful) (h : o.Orderly b) {i : Nat}
    (hi : i < b.loops.length) : o.Orderly (o.turn b i) := by
  unfold Outlet.turn
  split
  · exact h.returns ho hi
  · rename_i p rest hqueue
    split
    · rename_i hwrites
      have hshort := h.short
      have htakes := ho.open_takes _ (ho.open_of_writes hwrites)
      refine ⟨?_, ?_, ?_, ?_, ?_, ?_, ?_⟩
      · change rest.length ≤ o.depth
        rw [hqueue, List.length_cons] at hshort
        lia
      · change (b.loops.set i (LoopPoint.writing p)).length ≤ 1
        rw [List.length_set]
        exact h.single
      · intro hbusy hnil
        exact h.active hbusy (by simpa using hnil)
      · intro _ hidle
        change b.loops.set i (LoopPoint.writing p) = []
        rw [h.quiet htakes hidle]
        rfl
      · change b.posted = _ ++ rest ++ b.refused
        rw [h.order, hqueue]
        simp
      · intro hne
        rw [h.refused hne] at htakes
        cases htakes
      · intro q hq
        rcases List.mem_append.mp hq with hold | hnew
        · rw [h.discarded q hold] at htakes
          cases htakes
        · cases List.mem_singleton.mp hnew
    · exact h.returns ho hi

theorem Served.turn (ho : o.Lawful) (h : o.Served b) (i : Nat) :
    o.Served (o.turn b i) := by
  unfold Outlet.turn
  split
  · rename_i hqueue
    intro _ hne
    exact absurd hqueue hne
  · rename_i p rest hqueue
    split
    · rename_i hwrites
      intro _ _
      apply h hwrites
      rw [hqueue]
      exact List.cons_ne_nil p rest
    · rename_i hsilent
      intro hwrites
      change o.writes (o.rest b.state) = true at hwrites
      rw [ho.rest_writes] at hwrites
      exact absurd hwrites hsilent

/-- A loop that goes on lets the session rest, or takes a packet where it may write. -/
theorem turn_state (o : Outlet state) (b : Outbox state packet) (i : Nat) :
    (o.turn b i).state = o.rest b.state ∨
      o.writes b.state = true ∧ (o.turn b i).state = o.busy b.state := by
  unfold turn
  split
  · exact Or.inl rfl
  · split
    · next hwrites => exact Or.inr ⟨hwrites, rfl⟩
    · exact Or.inl rfl

theorem Orderly.fails (ho : o.Lawful) (h : o.Orderly b) {i : Nat}
    (hi : i < b.loops.length) : o.Orderly (o.fails b i) := by
  have hnil := eraseIdx_eq_nil h.single hi
  apply Orderly.close ho
  refine ⟨h.short, ?_, ?_, fun _ _ => hnil, h.order, ?_, ?_⟩
  · change (b.loops.eraseIdx i).length ≤ 1
    rw [hnil]
    exact Nat.zero_le 1
  · intro hbusy
    cases hbusy
  · intro hne
    exact ho.failed_takes b.state (h.refused hne)
  · intro p hp
    exact ho.failed_takes b.state (h.discarded p hp)

theorem Orderly.resume (ho : o.Lawful) (h : o.Orderly b) (i : Nat) (ok : Bool) :
    o.Orderly (o.resume b i ok) := by
  unfold Outlet.resume
  split
  · exact h
  · rename_i hloop
    exact h.turn ho (List.getElem?_eq_some_iff.mp hloop).choose
  · rename_i p hloop
    have hi := (List.getElem?_eq_some_iff.mp hloop).choose
    split
    · exact h.turn ho hi
    · exact h.fails ho hi

theorem Served.resume (ho : o.Lawful) (h : o.Served b) (i : Nat) (ok : Bool) :
    o.Served (o.resume b i ok) := by
  unfold Outlet.resume
  split
  · exact h
  · exact h.turn ho i
  · split
    · exact h.turn ho i
    · exact served_of_isClosed ho (close_isClosed ho _)

theorem Served.close (ho : o.Lawful) (b : Outbox state packet) : o.Served (o.close b) :=
  served_of_isClosed ho (close_isClosed ho b)

/-- The state of the session changes while the queue stays as it is. -/
theorem Orderly.assign (h : o.Orderly b) {s : state}
    (htakes : o.takes s = o.takes b.state) : o.Orderly { b with state := s } := by
  refine ⟨h.short, h.single, h.active, ?_, h.order, ?_, ?_⟩
  · intro hs
    exact h.quiet (htakes ▸ hs)
  · intro hne
    exact htakes.trans (h.refused hne)
  · intro p hp
    exact htakes.trans (h.discarded p hp)

/-!
## Runs
-/

/-- The state may change in other ways, but a session that takes packets goes on. -/
inductive OutboxInput (state packet : Type) where
  | sends (p : packet)
  | resumes (loop : Nat) (ok : Bool)
  | closes
  | becomes (s : state)

def next (o : Outlet state) (b : Outbox state packet) :
    OutboxInput state packet -> Outbox state packet
  | OutboxInput.sends p => o.send b p
  | OutboxInput.resumes loop ok => o.resume b loop ok
  | OutboxInput.closes => o.close b
  | OutboxInput.becomes s =>
      if o.takes s = o.takes b.state then { b with state := s } else b

/-- The packets that a step drops. -/
def losses (o : Outlet state) (b : Outbox state packet) :
    OutboxInput state packet -> List packet
  | OutboxInput.sends _ => if o.takes b.state then o.overflow b else []
  | _ => []

def step (o : Outlet state) (b : Outbox state packet)
    (input : OutboxInput state packet) : Outbox state packet × List packet :=
  (o.next b input, o.losses b input)

theorem Orderly.next (ho : o.Lawful) (h : o.Orderly b)
    (input : OutboxInput state packet) : o.Orderly (o.next b input) := by
  cases input with
  | sends p => exact h.send ho p
  | resumes loop ok => exact h.resume ho loop ok
  | closes => exact h.close ho
  | becomes s =>
      simp only [Outlet.next]
      split
      · rename_i htakes
        exact h.assign htakes
      · exact h

/-- In a session that writes whenever it takes packets, none is left behind. -/
theorem Served.next (ho : o.Lawful) (hboth : o.takes = o.writes) (h : o.Served b)
    (input : OutboxInput state packet) : o.Served (o.next b input) := by
  cases input with
  | sends p => exact h.send p
  | resumes loop ok => exact h.resume ho loop ok
  | closes => exact Served.close ho b
  | becomes s =>
      simp only [Outlet.next]
      split
      · rename_i htakes
        intro hwrites
        apply h
        rw [hboth] at htakes
        exact htakes.symm.trans hwrites
      · exact h

theorem run_orderly (ho : o.Lawful) (s : state) (inputs : List (OutboxInput state packet)) :
    o.Orderly (runMachine o.step (Outbox.create s) inputs).1 :=
  runMachine_invariant (fun _ b => o.Orderly b) (fun _ _ input h => h.next ho input)
    [] _ (orderly_create o s) inputs

theorem run_served (ho : o.Lawful) (hboth : o.takes = o.writes) (s : state)
    (inputs : List (OutboxInput state packet)) :
    o.Served (runMachine o.step (Outbox.create s) inputs).1 :=
  runMachine_invariant (fun _ b => o.Served b) (fun _ _ input h => h.next ho hboth input)
    [] _ (served_create o s) inputs

/-!
## Which packets are posted

The field `posted` is no more than a record of the sends.
-/

/-- The packets that an input sends. -/
def OutboxInput.packets : OutboxInput state packet -> List packet
  | OutboxInput.sends p => [p]
  | _ => []

theorem send_posted (o : Outlet state) (b : Outbox state packet) (p : packet) :
    (o.send b p).posted = b.posted ++ [p] := by
  unfold Outlet.send
  split
  · rfl
  · rfl

theorem close_posted (o : Outlet state) (b : Outbox state packet) :
    (o.close b).posted = b.posted := by
  unfold Outlet.close
  split
  · rfl
  · split
    · rfl
    · rfl

theorem turn_posted (o : Outlet state) (b : Outbox state packet) (i : Nat) :
    (o.turn b i).posted = b.posted := by
  unfold Outlet.turn
  split
  · rfl
  · split
    · rfl
    · rfl

theorem resume_posted (o : Outlet state) (b : Outbox state packet) (i : Nat) (ok : Bool) :
    (o.resume b i ok).posted = b.posted := by
  unfold Outlet.resume
  split
  · rfl
  · exact turn_posted o b i
  · split
    · exact turn_posted o b i
    · exact close_posted o _

theorem next_posted (o : Outlet state) (b : Outbox state packet)
    (input : OutboxInput state packet) :
    (o.next b input).posted = b.posted ++ input.packets := by
  cases input with
  | sends p => exact send_posted o b p
  | resumes loop ok => exact (resume_posted o b loop ok).trans (List.append_nil _).symm
  | closes => exact (close_posted o b).trans (List.append_nil _).symm
  | becomes s =>
      simp only [Outlet.next, OutboxInput.packets, List.append_nil]
      split
      · rfl
      · rfl

theorem run_posted (o : Outlet state) (s : state)
    (inputs : List (OutboxInput state packet)) :
    (runMachine o.step (Outbox.create s) inputs).1.posted =
      inputs.flatMap OutboxInput.packets := by
  have hfrom : forall b : Outbox state packet,
      (runMachine o.step b inputs).1.posted = b.posted ++ inputs.flatMap OutboxInput.packets := by
    induction inputs with
    | nil =>
        intro b
        exact (List.append_nil _).symm
    | cons input rest ih =>
        intro b
        change (runMachine o.step (o.next b input) rest).1.posted = _
        rw [ih, next_posted, List.flatMap_cons, List.append_assoc]
  exact hfrom (Outbox.create s)

/-!
## Which packets are dropped

A packet is dropped when it still waits and as many packets as fit into the
queue are posted after it.
-/

/-- A packet that must not be lost leaves the queue before it is overtaken. -/
def InTime (o : Outlet state) (spare : packet -> Bool) (b : Outbox state packet) :
    OutboxInput state packet -> Prop
  | OutboxInput.sends _ =>
      o.takes b.state = true -> forall k p, b.posted[k]? = some p -> spare p = false ->
        b.departed.length ≤ k -> b.posted.length - k < o.depth
  | _ => True

theorem dropped_append (b : Outbox state packet) (exits : List (Exit × packet)) :
    ({ b with departed := b.departed ++ exits } : Outbox state packet).dropped =
      b.dropped ++ (exits.filter fun entry => entry.1 = Exit.dropped).map Prod.snd := by
  simp [Outbox.dropped]

theorem close_dropped (o : Outlet state) (b : Outbox state packet) :
    (o.close b).dropped = b.dropped := by
  unfold Outlet.close
  split
  · rfl
  · split
    · have hnone : (b.queue.map fun q => (Exit.discarded, q)).filter
          (fun entry => entry.1 = Exit.dropped) = [] := by
        rw [List.filter_eq_nil_iff]
        intro entry hentry
        rcases List.mem_map.mp hentry with ⟨q, _, rfl⟩
        exact Bool.false_ne_true
      have happend := dropped_append b (b.queue.map fun q => (Exit.discarded, q))
      rw [hnone, List.map_nil, List.append_nil] at happend
      exact happend
    · rfl

theorem turn_dropped (o : Outlet state) (b : Outbox state packet) (i : Nat) :
    (o.turn b i).dropped = b.dropped := by
  unfold Outlet.turn
  split
  · rfl
  · rename_i p rest _
    split
    · have happend := dropped_append b [(Exit.handed, p)]
      rw [List.filter_cons_of_neg (by simp), List.filter_nil, List.map_nil,
        List.append_nil] at happend
      exact happend
    · rfl

/-- Only a send to a full queue drops a packet. -/
theorem next_dropped (o : Outlet state) (b : Outbox state packet)
    (input : OutboxInput state packet) :
    (o.next b input).dropped = b.dropped ++ o.losses b input := by
  cases input with
  | sends p =>
      simp only [Outlet.next, losses, Outlet.send]
      split
      · have hall : ((o.overflow b).map fun q => (Exit.dropped, q)).filter
            (fun entry => entry.1 = Exit.dropped) =
            (o.overflow b).map fun q => (Exit.dropped, q) := by
          rw [List.filter_eq_self]
          intro entry hentry
          rcases List.mem_map.mp hentry with ⟨q, _, rfl⟩
          rfl
        have happend := dropped_append b ((o.overflow b).map fun q => (Exit.dropped, q))
        have hsame : (o.overflow b).map (Prod.snd ∘ fun q => (Exit.dropped, q)) =
            o.overflow b := List.map_id _
        rw [hall, List.map_map, hsame] at happend
        exact happend
      · exact (List.append_nil _).symm
  | resumes loop ok =>
      simp only [Outlet.next, losses, List.append_nil]
      unfold Outlet.resume
      split
      · rfl
      · exact turn_dropped o b loop
      · split
        · exact turn_dropped o b loop
        · unfold Outlet.fails
          rw [close_dropped]
          rfl
  | closes =>
      simp only [Outlet.next, losses, List.append_nil]
      exact close_dropped o b
  | becomes s =>
      simp only [Outlet.next, losses, List.append_nil]
      split
      · rfl
      · rfl

theorem run_dropped (o : Outlet state) (s : state)
    (inputs : List (OutboxInput state packet)) :
    (runMachine o.step (Outbox.create s) inputs).1.dropped =
      (runMachine o.step (Outbox.create s) inputs).2 := by
  have hstep : forall past (b : Outbox state packet) input, b.dropped = past ->
      (o.step b input).1.dropped = past ++ (o.step b input).2 := by
    intro past b input h
    change (o.next b input).dropped = past ++ o.losses b input
    rw [next_dropped, h]
  exact runMachine_invariant (fun past (b : Outbox state packet) => b.dropped = past) hstep
    [] _ rfl inputs

theorem losses_spare_iff (ho : o.Lawful) (h : o.Orderly b) (spare : packet -> Bool)
    (input : OutboxInput state packet) :
    (forall p, p ∈ o.losses b input -> spare p = true) <-> o.InTime spare b input := by
  cases input with
  | sends p =>
      simp only [losses, InTime]
      split
      · rename_i htakes
        have hnone : b.refused = [] := by
          by_contra hne
          rw [h.refused hne] at htakes
          cases htakes
        have horder := h.order
        rw [hnone, List.append_nil] at horder
        have hlen : b.posted.length = b.departed.length + b.queue.length := by
          rw [horder, List.length_append, List.length_map]
        have hget : forall k, b.departed.length ≤ k ->
            b.posted[k]? = b.queue[k - b.departed.length]? := by
          intro k hk
          rw [horder, List.getElem?_append_right (by rw [List.length_map]; exact hk),
            List.length_map]
        have hdepth := ho.depth
        unfold overflow
        split
        · rename_i hfull
          cases hqueue : b.queue with
          | nil =>
              rw [hqueue] at hfull
              simp only [List.length_nil] at hfull
              lia
          | cons q rest =>
              have hshort := h.short
              rw [hqueue, List.length_cons] at hshort hlen hfull
              simp only [List.take_succ_cons, List.take_zero, List.mem_singleton,
                forall_eq]
              constructor
              · intro hspare _ k p' hp' hirrecoverable hk
                by_contra hlate
                have hfirst : k = b.departed.length := by lia
                rw [hget k hk, hfirst, Nat.sub_self, hqueue] at hp'
                cases hp'
                rw [hspare] at hirrecoverable
                cases hirrecoverable
              · intro hintime
                cases hq : spare q with
                | true => rfl
                | false =>
                    have hgetq : b.posted[b.departed.length]? = some q := by
                      rw [hget _ (Nat.le_refl _), Nat.sub_self, hqueue]
                      rfl
                    have hlt := hintime htakes _ q hgetq hq (Nat.le_refl _)
                    lia
        · rename_i hroom
          constructor
          · intro _ _ k p' hp' _ hk
            lia
          · intro _ p' hp'
            cases hp'
      · rename_i hrefuses
        constructor
        · intro _ htakes
          exact absurd htakes hrefuses
        · intro _ p' hp'
          cases hp'
  | resumes loop ok =>
      simp only [losses, InTime, iff_true]
      intro p hp
      cases hp
  | closes =>
      simp only [losses, InTime, iff_true]
      intro p hp
      cases hp
  | becomes s =>
      simp only [losses, InTime, iff_true]
      intro p hp
      cases hp

/-- A run drops spare packets only if and only if the others leave in time. -/
theorem run_drops_spare_iff (ho : o.Lawful) (spare : packet -> Bool) (s : state)
    (inputs : List (OutboxInput state packet)) :
    (forall p, p ∈ (runMachine o.step (Outbox.create s) inputs).1.dropped ->
      spare p = true) <->
      Along o.step (o.InTime spare) (Outbox.create s) inputs := by
  have hinv : forall (b : Outbox state packet) input, o.Orderly b ->
      o.Orderly (o.step b input).1 := fun _ input h => h.next ho input
  have hiff : forall (b : Outbox state packet) input, o.Orderly b ->
      ((forall p, p ∈ (o.step b input).2 -> spare p = true) <-> o.InTime spare b input) :=
    fun _ input h => losses_spare_iff ho h spare input
  rw [run_dropped]
  exact runMachine_outputs_iff hinv hiff (orderly_create o s) inputs

/-- As long as there is room, what is sent waits. -/
theorem sends_fill (s : Outbox state packet) (htakes : o.takes s.state = true)
    (ps : List packet) (hroom : s.queue.length + ps.length ≤ o.depth) :
    (runMachine o.step s (ps.map OutboxInput.sends)).1.queue = s.queue ++ ps ∧
      (runMachine o.step s (ps.map OutboxInput.sends)).1.state = s.state := by
  induction ps generalizing s with
  | nil =>
      exact ⟨(List.append_nil _).symm, rfl⟩
  | cons p rest ih =>
      rw [List.length_cons] at hroom
      have hsend : (o.send s p).queue = s.queue ++ [p] ∧ (o.send s p).state = s.state := by
        unfold Outlet.send
        rw [if_pos htakes, if_neg (by lia)]
        exact ⟨rfl, rfl⟩
      have hlater := ih (o.send s p) (by rw [hsend.right]; exact htakes)
        (by rw [hsend.left, List.length_append, List.length_singleton]; lia)
      change (runMachine o.step (o.send s p) (rest.map OutboxInput.sends)).1.queue = _ ∧
        (runMachine o.step (o.send s p) (rest.map OutboxInput.sends)).1.state = _
      rw [hlater.left, hlater.right, hsend.left, hsend.right, List.append_assoc]
      exact ⟨rfl, rfl⟩

/-!
## The protocol
-/

/--
At most one write is outstanding and the queue is not longer than its depth.
What was posted is, in order, what left the queue, what is in it and what was
refused, and nothing is discarded or refused before the session is closed; so
what is handed over is a subsequence of what was posted.  If the session can write, a loop is
at work on a queue that is not empty.
-/
structure SendProtocol (o : Outlet state) (b : Outbox state packet) : Prop where
  oneWrite : b.outstanding.length ≤ 1
  depth : b.queue.length ≤ o.depth
  order : b.posted = b.departed.map Prod.snd ++ b.queue ++ b.refused
  refused : b.refused ≠ [] -> o.isClosed b.state = true
  discarded : forall p, (Exit.discarded, p) ∈ b.departed -> o.isClosed b.state = true
  subsequence : b.handed.Sublist b.posted
  loop : o.writes b.state = true -> b.queue ≠ [] -> b.loops ≠ []

theorem Orderly.protocol (ho : o.Lawful) (h : o.Orderly b) (hserved : o.Served b) :
    o.SendProtocol b := by
  have hclosed : o.takes b.state = false -> o.isClosed b.state = true := by
    intro hrefuses
    cases hclosed : o.isClosed b.state with
    | true => rfl
    | false =>
        rw [ho.open_takes _ hclosed] at hrefuses
        cases hrefuses
  refine ⟨?_, h.short, h.order, fun hne => hclosed (h.refused hne),
    fun p hp => hclosed (h.discarded p hp), ?_, ?_⟩
  · exact Nat.le_trans (List.length_filterMap_le _ _) h.single
  · have hsub : b.handed.Sublist (b.departed.map Prod.snd) :=
      List.filter_sublist.map Prod.snd
    rw [h.order, List.append_assoc]
    exact hsub.trans (List.sublist_append_left _ _)
  · intro hwrites hne
    exact h.active (hserved hwrites hne)

end Outlet

end RtsGame
