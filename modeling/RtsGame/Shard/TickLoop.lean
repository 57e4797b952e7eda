import RtsGame.Shard.Stream
import RtsGame.Library.Deadlines

/-!
# Games against the clock

A shard handles tasks and steps its games on one thread.  The steps come from a loop that
waits for a deadline; tasks, the steps themselves and the timer may all make it late.  A game
counts its own ticks, and what it has counted between two moments is compared here with the
time that has passed.
-/

namespace RtsGame

variable {B F : Type} [Scalar F]

/-- `kTickInterval`, in the nanoseconds of the steady clock. -/
def kTickInterval : Nat := 50000000

/-- A shard, the deadline of its timer and the time. -/
structure Clocked (F : Type) where
  shard : LogicShard F
  pacer : Pacer

/--
Nothing happens for a while, a task is handled, or the timer of `TickLoop` fires, some time
after the deadline; and how long it takes.
-/
inductive ClockedInput (B : Type) where
  | idles (elapsed : Nat)
  | handles (worked : Nat) (task : LogicTask B) (ω : Orders)
  | wakes (late worked : Nat) (ω : Orders)

/-- What the input means for the clock. -/
def ClockedInput.beat : ClockedInput B -> Beat
  | ClockedInput.idles elapsed => Beat.passes elapsed
  | ClockedInput.handles worked _ _ => Beat.passes worked
  | ClockedInput.wakes late worked _ => Beat.wakes late worked

namespace Clocked

/-- `TickLoop` is started when the clock shows the given time. -/
def start (shardId shardCount now : Nat) : Clocked F :=
  ⟨LogicShard.create shardId shardCount, ⟨now + kTickInterval, now⟩⟩

/-- What the input means for the shard. -/
def handleShard (codec : Codec B F) (s : LogicShard F) :
    ClockedInput B -> LogicShard F × List (ShardEvent F)
  | ClockedInput.idles _ => (s, [])
  | ClockedInput.handles _ task ω => LogicShard.handleTask codec ω s task
  | ClockedInput.wakes _ _ ω => LogicShard.tickRooms ω s

/-- A round of `TickLoop`, a task, or nothing. -/
def handle (codec : Codec B F) (s : Clocked F) (input : ClockedInput B) :
    Clocked F × List (ShardEvent F) :=
  let handled := handleShard codec s.shard input
  (⟨handled.1, s.pacer.play kTickInterval input.beat⟩, handled.2)

def run (codec : Codec B F) (shardId shardCount now : Nat)
    (inputs : List (ClockedInput B)) : Clocked F × List (ShardEvent F) :=
  runMachine (handle codec) (start shardId shardCount now) inputs

end Clocked

/-!
## The tick of a game
-/

/-- Wherever the room is, it has been started, and if its game runs it has that tick. -/
structure GameAt (roomId tick : Nat) (s : LogicShard F) : Prop where
  born : roomId < s.nextId
  game : forall r, s.rooms.lookup roomId = some r ->
    r.started = true ∧ (r.gameOver = false -> r.serverTick = tick)

omit [Scalar F] in
theorem GameAt.put {roomId tick k : Nat} {s s' : LogicShard F} {r r' : DungeonRoom F}
    (h : GameAt roomId tick s) (hnext : s.nextId ≤ s'.nextId)
    (hrooms : s'.rooms = s.rooms.insert k r') (hr : s.rooms.lookup k = some r)
    (hgame : r.started = true -> r'.started = true ∧
      (r'.gameOver = false -> r.gameOver = false ∧ r'.serverTick = r.serverTick)) :
    GameAt roomId tick s' := by
  refine ⟨Nat.lt_of_lt_of_le h.born hnext, ?_⟩
  intro q hq
  rw [hrooms, Table.lookup_insert_ite] at hq
  split at hq
  · rename_i hk
    subst hk
    injection hq with heq
    subst heq
    rcases h.game r hr with ⟨hstarted, htick⟩
    rcases hgame hstarted with ⟨hstill, hsame⟩
    refine ⟨hstill, fun hrunning => ?_⟩
    rcases hsame hrunning with ⟨hbefore, hcount⟩
    exact hcount.trans (htick hbefore)
  · exact h.game q hq

/-- The policy of tasks: no game is stepped. -/
def Policy.still : Policy F :=
  ⟨fun _ _ => True, fun _ _ => True, fun _ _ => False⟩

/-- Without steps a game stays at its tick. -/
theorem ShardMove.gameAt {roomId tick : Nat} {s s' : LogicShard F}
    {events : List (ShardEvent F)} (hindexed : WellIndexed s) (h : GameAt roomId tick s)
    (hmove : ShardMove Policy.still s events s') : GameAt roomId tick s' := by
  cases hmove with
  | route routes => exact ⟨h.born, h.game⟩
  | talk _ => exact h
  | @create uid roomName maxPlayers _ _ =>
      have hnext := hindexed.nextId_le
      have hborn := h.born
      constructor
      · change roomId < LogicShard.nextId { s with nextRoomId := s.nextRoomId + 1 }
        lia
      · intro r hr
        change (s.rooms.insert s.nextId _).lookup roomId = some r at hr
        rw [Table.lookup_insert_ite, if_neg (by lia)] at hr
        exact h.game r hr
  | @enter uid k r _ hr _ _ =>
      exact h.put (Nat.le_refl _) rfl hr fun hstarted => ⟨hstarted, fun hr => ⟨hr, rfl⟩⟩
  | @touch uid k r _ hr =>
      exact h.put (Nat.le_refl _) rfl hr fun hstarted => ⟨hstarted, fun hr => ⟨hr, rfl⟩⟩
  | @refresh k r hr =>
      exact h.put (Nat.le_refl _) rfl hr fun hstarted => ⟨hstarted, fun hr => ⟨hr, rfl⟩⟩
  | @inner k r r' events hr hinner =>
      refine h.put (Nat.le_refl _) rfl hr fun hstarted => ?_
      cases hinner with
      | ready flag _ => exact ⟨hstarted, fun hrunning => ⟨hrunning, rfl⟩⟩
      | start routes ω _ _ hlobby => cases hlobby.symm.trans hstarted
      | enqueue cmd _ => exact ⟨hstarted, fun hrunning => ⟨hrunning, rfl⟩⟩
      | tick routes ω _ hno => exact hno.elim
  | @leave uid k r r' events _ hr _ _ hleave =>
      refine h.put (Nat.le_refl _) rfl hr fun hstarted => ?_
      cases hleave with
      | depart _ => exact ⟨hstarted, fun hrunning => ⟨hrunning, rfl⟩⟩
      | abandon routes ω _ => exact ⟨hstarted, fun hrunning => by cases hrunning⟩
  | @vanish uid k r _ _ _ =>
      refine ⟨h.born, ?_⟩
      intro q hq
      change (s.rooms.erase k).lookup roomId = some q at hq
      rw [Table.lookup_erase_ite] at hq
      split at hq
      · cases hq
      · exact h.game q hq

theorem handleTask_gameAt {codec : Codec B F} {roomId tick : Nat} {s : LogicShard F}
    (hindexed : WellIndexed s) (h : GameAt roomId tick s) (task : LogicTask B) (ω : Orders) :
    GameAt roomId tick (LogicShard.handleTask codec ω s task).1 := by
  have hmoves := hindexed.handleTask (p := Policy.still) codec ω task
    ⟨fun _ _ _ => trivial, fun _ _ _ => trivial⟩
  have hend := Moves.preserves (fun t => WellIndexed t ∧ GameAt roomId tick t)
    (fun t events t' ht hmove => ⟨hmove.wellIndexed ht.left, hmove.gameAt ht.left ht.right⟩)
    hmoves ⟨hindexed, h⟩
  exact hend.right

/-- A round of the loop steps every running game once. -/
theorem tickRooms_gameAt {roomId tick : Nat} {s : LogicShard F} (hindexed : WellIndexed s)
    (h : GameAt roomId tick s) (ω : Orders) :
    GameAt roomId (tick + 1) (LogicShard.tickRooms ω s).1 := by
  constructor
  · have hborn : forall t : LogicShard F, WellIndexed t ∧ roomId < t.nextId ->
        forall events t', ShardMove Policy.free t events t' ->
          WellIndexed t' ∧ roomId < t'.nextId := by
      intro t ht events t' hmove
      refine ⟨hmove.wellIndexed ht.left, ?_⟩
      cases hmove with
      | create roomName maxPlayers _ _ =>
          have hnext := ht.left.nextId_le
          have hlt := ht.right
          change roomId < LogicShard.nextId { t with nextRoomId := t.nextRoomId + 1 }
          lia
      | _ => exact ht.right
    have hmoves := hindexed.tickRooms (p := Policy.free) ω fun _ _ _ _ => trivial
    exact (Moves.preserves (fun t => WellIndexed t ∧ roomId < t.nextId)
      (fun t events t' ht hmove => hborn t ht events t' hmove) hmoves
      ⟨hindexed, h.born⟩).right
  · intro q hq
    rw [LogicShard.tickRooms_lookup, Option.map_eq_some_iff] at hq
    rcases hq with ⟨r, hr, rfl⟩
    rcases h.game r hr with ⟨hstarted, htick⟩
    have hkeyed := (hindexed.shapes roomId r hr).keyed
    have hsame := (DungeonRoom.afterStep_setup hkeyed (ω.room roomId)).left
    have hcount := DungeonRoom.afterStep_serverTick hkeyed (ω.room roomId)
    unfold LogicShard.ticked
    split
    · rename_i hactive
      have hrunning : r.gameOver = false := by
        simp only [LogicShard.isActive, Bool.and_eq_true, Bool.not_eq_true'] at hactive
        exact hactive.right
      rw [htick hrunning] at hcount
      rcases tickRoom_cases s.uidRoute (ω.room roomId) roomId r with ⟨_, heq⟩ | ⟨_, _, heq⟩
      · rw [heq]
        exact ⟨hsame.started.trans hstarted, fun _ => hcount⟩
      · rw [heq]
        exact ⟨hsame.started.trans hstarted, fun hover => by cases hover⟩
    · rename_i hidle
      refine ⟨hstarted, fun hrunning => absurd ?_ hidle⟩
      simp [LogicShard.isActive, hstarted, hrunning]

/-!
## Runs
-/

namespace Clocked

variable {codec : Codec B F} {s : Clocked F}

/-- The beats of the inputs. -/
def beats (inputs : List (ClockedInput B)) : List Beat := inputs.map ClockedInput.beat

theorem handleShard_wellIndexed {s : LogicShard F} (h : WellIndexed s)
    (input : ClockedInput B) : WellIndexed (handleShard codec s input).1 := by
  cases input with
  | idles elapsed => exact h
  | handles worked task ω =>
      exact h.moves (h.handle (p := Policy.free) codec (LogicShard.ShardInput.task task ω)
        Policy.free_respected)
  | wakes late worked ω =>
      exact h.moves (h.handle (p := Policy.free) codec (LogicShard.ShardInput.tick ω)
        Policy.free_respected)

theorem handleShard_gameAt {roomId tick : Nat} {s : LogicShard F} (hindexed : WellIndexed s)
    (h : GameAt roomId tick s) (input : ClockedInput B) :
    GameAt roomId (tick + Pacer.wakeCount [input.beat]) (handleShard codec s input).1 := by
  cases input with
  | idles elapsed => exact h
  | handles worked task ω => exact handleTask_gameAt hindexed h task ω
  | wakes late worked ω => exact tickRooms_gameAt hindexed h ω

/-- What the clock shows depends on the beats alone. -/
theorem pacer_run (codec : Codec B F) (s : Clocked F) (inputs : List (ClockedInput B)) :
    (runMachine (handle codec) s inputs).1.pacer =
      (beats inputs).foldl (Pacer.play kTickInterval) s.pacer := by
  induction inputs generalizing s with
  | nil => rfl
  | cons input rest ih => exact ih (handle codec s input).1

theorem wellIndexed_run (codec : Codec B F) (h : WellIndexed s.shard)
    (inputs : List (ClockedInput B)) :
    WellIndexed (runMachine (handle codec) s inputs).1.shard := by
  induction inputs generalizing s with
  | nil => exact h
  | cons input rest ih => exact ih (handleShard_wellIndexed h input)

theorem gameAt_run (codec : Codec B F) {roomId tick : Nat} (hindexed : WellIndexed s.shard)
    (h : GameAt roomId tick s.shard) (inputs : List (ClockedInput B)) :
    GameAt roomId (tick + Pacer.wakeCount (beats inputs))
      (runMachine (handle codec) s inputs).1.shard := by
  induction inputs generalizing s tick with
  | nil => exact h
  | cons input rest ih =>
      have hcount : Pacer.wakeCount (beats (input :: rest)) =
          Pacer.wakeCount [input.beat] + Pacer.wakeCount (beats rest) :=
        Pacer.wakeCount_append [input.beat] (beats rest)
      rw [hcount, ← Nat.add_assoc]
      exact ih (s := (handle codec s input).1) (handleShard_wellIndexed hindexed input)
        (handleShard_gameAt hindexed h input)

/-- A game that runs at both ends of a window has ticked once in each round of the loop. -/
theorem ticked_once {roomId : Nat} {r r' : DungeonRoom F} (hindexed : WellIndexed s.shard)
    {window : List (ClockedInput B)} (hr : s.shard.rooms.lookup roomId = some r)
    (hactive : LogicShard.isActive r = true)
    (hr' : (runMachine (handle codec) s window).1.shard.rooms.lookup roomId = some r')
    (hactive' : LogicShard.isActive r' = true) :
    r'.serverTick = r.serverTick + Pacer.wakeCount (beats window) := by
  simp only [LogicShard.isActive, Bool.and_eq_true, Bool.not_eq_true'] at hactive hactive'
  have hstart : GameAt roomId r.serverTick s.shard := by
    refine ⟨(hindexed.ids roomId r hr).right, ?_⟩
    intro q hq
    injection hr.symm.trans hq with heq
    rw [← heq]
    exact ⟨hactive.left, fun _ => rfl⟩
  exact ((gameAt_run codec hindexed hstart window).game r' hr').right hactive'.right

/-- If no round was late, the clock after a round is where the rounds so far put it. -/
theorem clock_after_round (codec : Codec B F) (shardId shardCount : Nat) {now : Nat}
    {inputs front : List (ClockedInput B)} {late worked : Nat} {ω : Orders}
    (hlast : inputs = front ++ [ClockedInput.wakes late worked ω])
    (h : Pacer.AllInTime kTickInterval ⟨now + kTickInterval, now⟩ (beats inputs)) :
    now + kTickInterval * Pacer.wakeCount (beats inputs) ≤
        (run codec shardId shardCount now inputs).1.pacer.clock ∧
      (run codec shardId shardCount now inputs).1.pacer.clock ≤
        now + kTickInterval * Pacer.wakeCount (beats inputs) + kTickInterval := by
  have hbeats : beats inputs = beats front ++ [Beat.wakes late worked] := by
    rw [hlast]
    exact List.map_append
  have hclock : (run codec shardId shardCount now inputs).1.pacer =
      (beats inputs).foldl (Pacer.play kTickInterval) ⟨now + kTickInterval, now⟩ :=
    pacer_run codec (start shardId shardCount now) inputs
  rw [hbeats] at h
  have hdrift := Pacer.no_drift rfl h
  rw [← hbeats] at hdrift
  rw [hclock, Nat.add_assoc, ← Nat.mul_succ]
  exact hdrift

/--
In every run, with whatever tasks between the rounds of the loop and however late they are:
over any window of the run a game that runs at both ends of it has ticked at most twice more
often than the time that has passed allows.  If no round was late since the loop was started
and the window is one from round to round, then neither has it ticked more than once less
often.
-/
theorem run_on_time (codec : Codec B F) (shardId shardCount now : Nat)
    (before window : List (ClockedInput B)) (roomId : Nat) (r r' : DungeonRoom F)
    (hr : (run codec shardId shardCount now before).1.shard.rooms.lookup roomId = some r)
    (hactive : LogicShard.isActive r = true)
    (hr' : (run codec shardId shardCount now (before ++ window)).1.shard.rooms.lookup
      roomId = some r')
    (hactive' : LogicShard.isActive r' = true) :
    let elapsed := (run codec shardId shardCount now (before ++ window)).1.pacer.clock -
      (run codec shardId shardCount now before).1.pacer.clock
    let ticks := r'.serverTick - r.serverTick
    r.serverTick ≤ r'.serverTick ∧
      kTickInterval * ticks ≤ elapsed + 2 * kTickInterval ∧
      ((exists front late worked ω, before = front ++ [ClockedInput.wakes late worked ω]) ->
        (exists front late worked ω, window = front ++ [ClockedInput.wakes late worked ω]) ->
        Pacer.AllInTime kTickInterval ⟨now + kTickInterval, now⟩ (beats (before ++ window)) ->
        kTickInterval * ticks ≤ elapsed + kTickInterval ∧
          elapsed ≤ kTickInterval * ticks + kTickInterval) := by
  intro elapsed ticks
  have hindexed : WellIndexed (run codec shardId shardCount now before).1.shard :=
    wellIndexed_run codec (WellIndexed.create shardId shardCount) before
  have hend : (run codec shardId shardCount now (before ++ window)).1 =
      (runMachine (handle codec) (run codec shardId shardCount now before).1 window).1 := by
    unfold run
    rw [runMachine_append]
  have hcount : r'.serverTick = r.serverTick + Pacer.wakeCount (beats window) := by
    rw [hend] at hr'
    exact ticked_once hindexed hr hactive hr' hactive'
  have hticks : ticks = Pacer.wakeCount (beats window) := by
    change r'.serverTick - r.serverTick = _
    lia
  have hclock : elapsed = ((beats window).foldl (Pacer.play kTickInterval)
      (run codec shardId shardCount now before).1.pacer).clock -
        (run codec shardId shardCount now before).1.pacer.clock := by
    change (run codec shardId shardCount now (before ++ window)).1.pacer.clock - _ = _
    rw [hend, pacer_run]
  refine ⟨by lia, ?_, ?_⟩
  · rw [hticks, hclock]
    exact (Pacer.steps_le kTickInterval _ (beats window)).right
  · rintro ⟨front, late, worked, ω, hbefore⟩ ⟨front', late', worked', ω', hwindow⟩ hintime
    have hcounts : Pacer.wakeCount (beats (before ++ window)) =
        Pacer.wakeCount (beats before) + Pacer.wakeCount (beats window) := by
      unfold beats
      rw [List.map_append, Pacer.wakeCount_append]
    have hprompt : Pacer.AllInTime kTickInterval ⟨now + kTickInterval, now⟩
        (beats before) := by
      unfold beats at hintime ⊢
      rw [List.map_append] at hintime
      exact (Pacer.allInTime_append.mp hintime).left
    have hfirst := clock_after_round codec shardId shardCount hbefore hprompt
    have hround : before ++ window =
        (before ++ front') ++ [ClockedInput.wakes late' worked' ω'] := by
      rw [hwindow, List.append_assoc]
    have hlast := clock_after_round codec shardId shardCount hround hintime
    rw [hcounts, Nat.mul_add] at hlast
    rw [hticks]
    change _ ≤ ((run codec shardId shardCount now (before ++ window)).1.pacer.clock -
      (run codec shardId shardCount now before).1.pacer.clock) + _ ∧
        (run codec shardId shardCount now (before ++ window)).1.pacer.clock -
          (run codec shardId shardCount now before).1.pacer.clock ≤ _
    lia

/-- A player opens a room alone and starts the game; then there is a round. -/
def startsAlone : List (ClockedInput (Wire Rat)) :=
  [ClockedInput.handles 1000 (Wire.task MsgId.createRoomReq 1 (Wire.createRoom ⟨"", 1⟩))
      Orders.stored,
    ClockedInput.handles 1000 (Wire.task MsgId.playerReadyReq 1 (Wire.playerReady ⟨1, true⟩))
      Orders.stored,
    ClockedInput.wakes 0 2000 Orders.stored]

/-- Two more rounds, a little late. -/
def playsOn : List (ClockedInput (Wire Rat)) :=
  [ClockedInput.idles 3000, ClockedInput.wakes 50 2000 Orders.stored,
    ClockedInput.wakes 100 2000 Orders.stored]

theorem startsAlone_on_time :
    exists r r' : DungeonRoom Rat, r'.serverTick = r.serverTick + 2 ∧
      kTickInterval * (r'.serverTick - r.serverTick) ≤
        (run Wire.codec 0 1 0 (startsAlone ++ playsOn)).1.pacer.clock -
          (run Wire.codec 0 1 0 startsAlone).1.pacer.clock + kTickInterval := by
  have hbefore : ((run Wire.codec 0 1 0 startsAlone).1.shard.rooms.lookup 1).any
      (fun r => LogicShard.isActive r && r.serverTick == 1) = true := by decide +kernel
  have hafter : ((run Wire.codec 0 1 0 (startsAlone ++ playsOn)).1.shard.rooms.lookup 1).any
      (fun r => LogicShard.isActive r && r.serverTick == 3) = true := by decide +kernel
  rcases (Option.any_eq_true _ _).mp hbefore with ⟨r, hr, hthen⟩
  rcases (Option.any_eq_true _ _).mp hafter with ⟨r', hr', hnow⟩
  rw [Bool.and_eq_true, beq_iff_eq] at hthen hnow
  have hall := run_on_time Wire.codec 0 1 0 startsAlone playsOn 1 r r' hr hthen.left hr'
    hnow.left
  have hfirst : exists front late worked ω,
      startsAlone = front ++ [ClockedInput.wakes late worked ω] :=
    ⟨startsAlone.dropLast, 0, 2000, Orders.stored, rfl⟩
  have hlast : exists front late worked ω,
      playsOn = front ++ [ClockedInput.wakes late worked ω] :=
    ⟨playsOn.dropLast, 100, 2000, Orders.stored, rfl⟩
  refine ⟨r, r', ?_, (hall.right.right hfirst hlast (by decide +kernel)).left⟩
  rw [hthen.right, hnow.right]

end Clocked

end RtsGame
