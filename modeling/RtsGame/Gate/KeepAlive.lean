import RtsGame.Gate.ConnPool
import RtsGame.Library.Script

/-!
# How a pool heals

Three timers watch over the connections of a pool.  One bounds the time for connecting, one
wakes `keep_alive`, which pings the game server and gives up a connection without a recent
pong, and one wakes `detection`, which replaces what was closed.  The pool gets a clock
here.  When no handler is late, no slot holds on to a connection that is of no use.
-/

namespace RtsGame

/-- The time for connecting, in the nanoseconds of the steady clock. -/
def connectTimeLimit : Nat := 5000000000

def kBackendHeartbeatInterval : Nat := 5000000000

def kBackendHeartbeatTimeout : Nat := 15000000000

/-- `LINK_DETECTION_TIME`. -/
def linkDetectionTime : Nat := 1000000000

/-!
## The clock of a connection
-/

/-- When `timer_` expires, and `last_pong_time_`. -/
structure ClientClock where
  expiry : Nat
  lastPong : Nat
deriving DecidableEq, Repr

namespace ClientSession

variable {packet : Type}

/-- The turn of `HandleRead` that comes next completes a packet. -/
def completesPacket (s : ClientSession packet) : Bool :=
  match s.read with
  | BackendRead.head (Completion.ready (some 0)) => !s.isClosed
  | BackendRead.body (Completion.ready _) => true
  | _ => false

/-- What a handler does to the clock; a packet that is complete may be a pong. -/
def clockAfter (s : ClientSession packet) (now : Nat) (clock : ClientClock) (isPong : Bool) :
    ClientInput packet -> ClientClock
  | ClientInput.connectRuns config _ _ =>
      match s.connect with
      | ConnectPoint.spawned =>
          if config = ConfigResult.usable then
            { clock with expiry := now + connectTimeLimit }
          else clock
      | ConnectPoint.connecting (Completion.ready _) =>
          if s.isClosed then clock else { clock with lastPong := now }
      | _ => clock
  | ClientInput.readRuns =>
      if isPong && s.completesPacket then { clock with lastPong := now } else clock
  | ClientInput.aliveRuns _ _ =>
      if s.alive = AlivePoint.dispatching ∧ outlet.writes s.getState = true then
        { clock with expiry := now + kBackendHeartbeatInterval }
      else clock
  | _ => clock

/-- Whether a pong is late is read off the clock. -/
def punctual (now : Nat) (clock : ClientClock) : ClientInput packet -> ClientInput packet
  | ClientInput.aliveRuns _ ping =>
      ClientInput.aliveRuns (kBackendHeartbeatTimeout < now - clock.lastPong) ping
  | input => input

/-- A timer does not expire early. -/
def due (now : Nat) (clock : ClientClock) : ClientInput packet -> Bool
  | ClientInput.timerExpires => clock.expiry ≤ now
  | _ => true

/-- Until then no handler of a timer and none of `handleconnect` is ready. -/
def sleepsUntil (time : Nat) (clock : ClientClock) (s : ClientSession packet) : Bool :=
  (match s.connect with
    | ConnectPoint.returned => true
    | ConnectPoint.connecting Completion.waiting => true
    | _ => false) &&
  (match s.connectTimer with
    | TimerWait.expired => false
    | TimerWait.waiting => time ≤ clock.expiry
    | _ => true) &&
  match s.alive with
    | AlivePoint.returned => true
    | AlivePoint.waiting => time ≤ clock.expiry
    | _ => false

end ClientSession

/-!
## The clock of a pool
-/

/-- A pool, the time, the clocks of its sessions and when `detection` wakes up. -/
structure TimedPool (packet : Type) where
  pool : GameServerConnPool packet
  now : Nat
  clocks : Nat -> ClientClock
  detectAt : Nat

/--
Time passes, something happens to a session, a packet is posted, and the timer of `detection`
expires or breaks.  Of a packet that a session completes it is told whether it is a pong.
-/
inductive TimedPoolInput (packet : Type) where
  | passes (elapsed : Nat)
  | session (number : Nat) (isPong : Bool) (input : ClientSession.ClientInput packet)
  | posts (p : packet)
  | detects
  | detectBreaks

namespace TimedPool

open GameServerConnPool

variable {packet : Type}

def create (n now : Nat) : TimedPool packet where
  pool := init n
  now := now
  clocks := fun _ => ⟨0, now⟩
  detectAt := now + linkDetectionTime

/-- A new session starts with `last_pong_time_` at the present time. -/
def clocksAfter (t : TimedPool packet) : Nat -> ClientClock := fun number =>
  if number < t.pool.created.length then t.clocks number else ⟨0, t.now⟩

def stepSession (t : TimedPool packet) (number : Nat) (isPong : Bool)
    (input : ClientSession.ClientInput packet) : TimedPool packet :=
  match t.pool.created[number]? with
  | none => t
  | some c =>
      let clock := t.clocks number
      if ClientSession.due t.now clock input then
        { t with
          pool := t.pool.next (PoolInput.session number (ClientSession.punctual t.now clock input))
          clocks := Function.update t.clocks number
            (c.session.clockAfter t.now clock isPong input) }
      else t

/-- A round of `detection` and the head of its loop. -/
def detect (t : TimedPool packet) : TimedPool packet :=
  if t.detectAt ≤ t.now then
    { t with
      pool := t.pool.detection
      clocks := t.clocksAfter
      detectAt := t.now + linkDetectionTime }
  else t

def next (t : TimedPool packet) : TimedPoolInput packet -> TimedPool packet
  | TimedPoolInput.passes elapsed => { t with now := t.now + elapsed }
  | TimedPoolInput.session number isPong input => t.stepSession number isPong input
  | TimedPoolInput.posts p => { t with pool := t.pool.next (PoolInput.posts p) }
  | TimedPoolInput.detects => t.detect
  | TimedPoolInput.detectBreaks => { t with detectAt := t.now + linkDetectionTime }

def run (n now : Nat) (inputs : List (TimedPoolInput packet)) : TimedPool packet :=
  inputs.foldl next (create n now)

end TimedPool

/-!
## A connection in time
-/

namespace ClientSession

variable {packet : Type} {now : Nat} {clock : ClientClock} {s : ClientSession packet}

/-- A session that is connecting was made, or was given its time for that, not long ago. -/
structure Dialling (now : Nat) (clock : ClientClock) (s : ClientSession packet) : Prop where
  state : s.getState = ClientSessionState.connecting
  read : s.read = BackendRead.returned
  alive : s.alive = AlivePoint.returned
  since : (s.connect = ConnectPoint.spawned ∧ s.connectTimer = TimerWait.none ∧
      now = clock.lastPong) ∨
    (exists completion, s.connect = ConnectPoint.connecting completion) ∧
      (s.connectTimer = TimerWait.waiting ∨ s.connectTimer = TimerWait.expired) ∧
        clock.expiry = clock.lastPong + connectTimeLimit ∧ now ≤ clock.expiry

/-- How `keep_alive` stands to the last pong. -/
def AliveInTime (now : Nat) (clock : ClientClock) : AlivePoint -> Prop
  | AlivePoint.dispatching => now ≤ clock.lastPong + kBackendHeartbeatTimeout
  | AlivePoint.waiting =>
      clock.expiry ≤ clock.lastPong + kBackendHeartbeatTimeout + kBackendHeartbeatInterval ∧
        now ≤ clock.expiry
  | AlivePoint.expired =>
      now ≤ clock.lastPong + kBackendHeartbeatTimeout + kBackendHeartbeatInterval
  | AlivePoint.failed =>
      now ≤ clock.lastPong + kBackendHeartbeatTimeout + kBackendHeartbeatInterval
  | AlivePoint.returned => False
  | AlivePoint.aborted => False

/-- A session that is connected is watched by `keep_alive`. -/
structure Beating (now : Nat) (clock : ClientClock) (s : ClientSession packet) : Prop where
  state : outlet.writes s.getState = true
  connect : s.connect = ConnectPoint.returned
  timer : s.connectTimer ≠ TimerWait.waiting
  past : clock.lastPong ≤ now
  alive : AliveInTime now clock s.alive

inductive InTime (now : Nat) (clock : ClientClock) (s : ClientSession packet) : Prop where
  | dialling : Dialling now clock s -> InTime now clock s
  | beating : Beating now clock s -> InTime now clock s
  | ended : s.getState = ClientSessionState.closed -> InTime now clock s

theorem close_getState {t : ClientSession packet} (h : t.isClosed = false) :
    t.close.getState = ClientSessionState.closed := by
  have hopen : ¬ outlet.isClosed t.outbox.state = true := by
    change ¬ t.isClosed = true
    rw [h]
    exact Bool.false_ne_true
  unfold close
  rw [if_neg (by rw [h]; exact Bool.false_ne_true)]
  change (outlet.close t.outbox).state = _
  unfold Outlet.close
  rw [if_neg hopen]
  rfl

theorem AliveInTime.le {point : AlivePoint} (h : AliveInTime now clock point) :
    now ≤ clock.lastPong + kBackendHeartbeatTimeout + kBackendHeartbeatInterval := by
  cases point with
  | dispatching => exact Nat.le_trans h (Nat.le_add_right _ _)
  | waiting => exact Nat.le_trans h.right h.left
  | expired => exact h
  | failed => exact h
  | returned => exact h.elim
  | aborted => exact h.elim

/-- A pong never makes it too late. -/
theorem AliveInTime.pong {point : AlivePoint} (h : AliveInTime now clock point)
    (hpast : clock.lastPong ≤ now) : AliveInTime now { clock with lastPong := now } point := by
  cases point with
  | dispatching => exact Nat.le_add_right _ _
  | waiting =>
      refine ⟨Nat.le_trans h.left ?_, h.right⟩
      change _ ≤ now + kBackendHeartbeatTimeout + kBackendHeartbeatInterval
      lia
  | expired =>
      change now ≤ now + kBackendHeartbeatTimeout + kBackendHeartbeatInterval
      lia
  | failed =>
      change now ≤ now + kBackendHeartbeatTimeout + kBackendHeartbeatInterval
      lia
  | returned => exact h.elim
  | aborted => exact h.elim

/-- A loop that writes changes nothing but the queue, or closes the session. -/
theorem writeLoop_cases (s : ClientSession packet) (i : Nat) (ok : Bool) :
    (s.writeLoop i ok).getState = ClientSessionState.closed ∨
      exists outbox, s.writeLoop i ok = { s with outbox := outbox } ∧
        (outbox.state = outlet.rest s.getState ∨ outbox.state = s.getState ∨
          outlet.writes s.getState = true ∧ outbox.state = ClientSessionState.busy) := by
  unfold writeLoop Outlet.resume
  dsimp only
  cases hloop : s.outbox.loops[i]? with
  | none => exact Or.inr ⟨s.outbox, rfl, Or.inr (Or.inl rfl)⟩
  | some point =>
      have hturn : (outlet.turn s.outbox i).state = outlet.rest s.getState ∨
          (outlet.turn s.outbox i).state = s.getState ∨
            outlet.writes s.getState = true ∧
              (outlet.turn s.outbox i).state = ClientSessionState.busy := by
        rcases Outlet.turn_state outlet s.outbox i with hrest | ⟨hwrites, hbusy⟩
        · exact Or.inl hrest
        · exact Or.inr (Or.inr ⟨hwrites, hbusy⟩)
      cases point with
      | spawned => exact Or.inr ⟨outlet.turn s.outbox i, rfl, hturn⟩
      | writing p =>
          cases ok with
          | true => exact Or.inr ⟨outlet.turn s.outbox i, rfl, hturn⟩
          | false => exact Or.inl rfl

theorem dialling_create (now : Nat) :
    Dialling now ⟨0, now⟩ (create : ClientSession packet) where
  state := rfl
  read := rfl
  alive := rfl
  since := Or.inl ⟨rfl, rfl, rfl⟩

theorem Dialling.open (h : Dialling now clock s) : s.isClosed = false := by
  unfold isClosed
  rw [h.state]
  rfl

/-- The queue of a session that is connecting does not matter. -/
theorem Dialling.outbox (h : Dialling now clock s) {outbox : Outbox ClientSessionState packet}
    (hstate : outbox.state = s.getState) : Dialling now clock { s with outbox := outbox } :=
  ⟨hstate.trans h.state, h.read, h.alive, h.since⟩

/-- `handleconnect` arms the timer, connects, or closes the session. -/
theorem Dialling.handleconnect (h : Dialling now clock s) (config : ConfigResult)
    (hello ping : packet) :
    InTime now
      (s.clockAfter now clock false (ClientInput.connectRuns config hello ping))
      (s.handleconnect config hello ping) := by
  have hopen : ¬ s.isClosed = true := by
    rw [h.open]
    exact Bool.false_ne_true
  rcases h.since with
    ⟨hspawned, _, hnow⟩ | ⟨⟨completion, hconnecting⟩, htimer, hexpiry, hle⟩
  · unfold clockAfter ClientSession.handleconnect
    dsimp only
    rw [hspawned]
    cases config with
    | usable =>
        apply InTime.dialling
        refine ⟨h.state, h.read, ?_, ?_⟩
        · exact congrArg AlivePoint.cancel h.alive
        · rw [if_pos rfl]
          refine Or.inr ⟨⟨Completion.waiting, rfl⟩, Or.inl rfl, ?_, Nat.le_add_right _ _⟩
          change now + connectTimeLimit = clock.lastPong + connectTimeLimit
          rw [hnow]
    | notLoaded => exact InTime.ended (close_getState rfl)
    | invalidPort => exact InTime.ended (close_getState rfl)
    | throws =>
        apply InTime.ended
        change (startConnect s ConfigResult.throws).getState = _
        unfold startConnect
        rw [if_neg hopen]
        exact close_getState rfl
  · unfold clockAfter ClientSession.handleconnect
    dsimp only
    rw [hconnecting]
    cases completion with
    | waiting => exact InTime.dialling h
    | failed =>
        apply InTime.ended
        change (s.finishConnect false hello ping).getState = _
        unfold finishConnect
        dsimp only
        rw [if_neg hopen, if_neg Bool.false_ne_true]
        exact close_getState rfl
    | ready _ =>
        dsimp only
        rw [if_neg hopen]
        apply InTime.beating
        unfold finishConnect
        dsimp only
        rw [if_neg hopen, if_pos rfl]
        refine ⟨?_, rfl, ?_, Nat.le_refl _, Nat.le_add_right _ _⟩
        · change outlet.writes (sendData (sendData _ _) _).getState = true
          rw [getState_sendData, getState_sendData]
          rfl
        · change s.connectTimer.cancel ≠ TimerWait.waiting
          rcases htimer with hwaiting | hexpired
          · rw [hwaiting]
            exact TimerWait.noConfusion
          · rw [hexpired]
            exact TimerWait.noConfusion

theorem Dialling.next (h : Dialling now clock s) (isPong : Bool) (input : ClientInput packet)
    (hdue : due now clock input = true) :
    InTime now (s.clockAfter now clock isPong input) (s.next (punctual now clock input)) := by
  cases input with
  | connectRuns config hello ping => exact h.handleconnect config hello ping
  | connectEnds ok =>
      apply InTime.dialling
      simp only [punctual, ClientSession.next, connectEnds, clockAfter]
      split
      · rename_i hwaiting
        refine ⟨h.state, h.read, h.alive, ?_⟩
        rcases h.since with ⟨hspawned, _, _⟩ | ⟨_, hrest⟩
        · rw [hspawned] at hwaiting
          cases hwaiting
        · exact Or.inr ⟨⟨_, rfl⟩, hrest⟩
      · exact h
  | timerExpires =>
      apply InTime.dialling
      refine ⟨h.state, h.read, congrArg AlivePoint.expire h.alive, ?_⟩
      rcases h.since with ⟨hspawned, hnone, hnow⟩ | ⟨hconnecting, htimer, hrest⟩
      · exact Or.inl ⟨hspawned, congrArg TimerWait.expire hnone, hnow⟩
      · refine Or.inr ⟨hconnecting, Or.inr ?_, hrest⟩
        change s.connectTimer.expire = TimerWait.expired
        rcases htimer with hwaiting | hexpired
        · rw [hwaiting]
          rfl
        · rw [hexpired]
          rfl
  | timerBreaks =>
      exact InTime.dialling ⟨h.state, h.read, congrArg AlivePoint.fault h.alive, h.since⟩
  | timeoutRuns =>
      simp only [punctual, ClientSession.next, connectTimeout, clockAfter]
      rcases h.since with ⟨_, hnone, _⟩ | ⟨_, hwaiting | hexpired, _⟩
      · rw [hnone]
        exact InTime.dialling h
      · rw [hwaiting]
        exact InTime.dialling h
      · rw [hexpired]
        dsimp only
        rw [if_pos h.state]
        exact InTime.ended (close_getState h.open)
  | headArrives header =>
      simp only [punctual, ClientSession.next, headArrives, clockAfter]
      rw [h.read]
      exact InTime.dialling h
  | bodyArrives =>
      simp only [punctual, ClientSession.next, bodyArrives, clockAfter]
      rw [h.read]
      exact InTime.dialling h
  | readBreaks =>
      exact InTime.dialling ⟨h.state, congrArg BackendRead.cancel h.read, h.alive, h.since⟩
  | readRuns =>
      have hnothing : s.completesPacket = false := by
        unfold completesPacket
        rw [h.read]
      simp only [punctual, ClientSession.next, handleReadTurn, clockAfter, hnothing,
        Bool.and_false, Bool.false_eq_true, if_false]
      rw [h.read]
      exact InTime.dialling h
  | aliveRuns late ping =>
      simp only [punctual, ClientSession.next, keepAlive, clockAfter]
      rw [h.alive, if_neg (fun hboth => by cases hboth.left)]
      exact InTime.dialling h
  | writeRuns loop ok =>
      rcases writeLoop_cases s loop ok with hclosed | ⟨outbox, heq, hstate⟩
      · exact InTime.ended hclosed
      · change InTime now clock (s.writeLoop loop ok)
        rw [heq]
        refine InTime.dialling (h.outbox ?_)
        rcases hstate with hrest | hsame | ⟨hwrites, _⟩
        · rw [hrest, h.state]
          rfl
        · exact hsame
        · rw [h.state] at hwrites
          cases hwrites
  | sends p => exact InTime.dialling (h.outbox (getState_sendData s p))

theorem Beating.open (h : Beating now clock s) : s.isClosed = false :=
  outlet_lawful.open_of_writes h.state

theorem Beating.not_closed (h : Beating now clock s) : ¬ s.isClosed = true := by
  rw [h.open]
  exact Bool.false_ne_true

/-- A packet has been read; a pong sets the clock. -/
theorem Beating.readRuns (h : Beating now clock s) (isPong : Bool) :
    InTime now (s.clockAfter now clock isPong ClientInput.readRuns) s.handleReadTurn := by
  have hclock : forall t : ClientSession packet, t.getState = s.getState ->
      t.connect = s.connect -> t.connectTimer = s.connectTimer -> t.alive = s.alive ->
        InTime now (s.clockAfter now clock isPong ClientInput.readRuns) t := by
    intro t hsame hconnect htimer halive
    apply InTime.beating
    unfold clockAfter
    dsimp only
    split
    · refine ⟨by rw [hsame]; exact h.state, hconnect.trans h.connect,
        by rw [htimer]; exact h.timer, Nat.le_refl _, ?_⟩
      rw [halive]
      exact h.alive.pong h.past
    · refine ⟨by rw [hsame]; exact h.state, hconnect.trans h.connect,
        by rw [htimer]; exact h.timer, h.past, ?_⟩
      rw [halive]
      exact h.alive
  have hnext : InTime now (s.clockAfter now clock isPong ClientInput.readRuns)
      s.readNext := by
    unfold readNext
    rw [if_neg h.not_closed]
    exact hclock _ rfl rfl rfl rfl
  have hfails : InTime now (s.clockAfter now clock isPong ClientInput.readRuns)
      s.readFails := InTime.ended (close_getState h.open)
  have hsame := hclock s rfl rfl rfl rfl
  unfold handleReadTurn
  split
  · exact hsame
  · exact hnext
  · exact hsame
  · exact hfails
  · exact hfails
  · rw [if_neg h.not_closed]
    split
    · exact hnext
    · exact hclock _ rfl rfl rfl rfl
  · exact hsame
  · exact hfails
  · exact hnext

theorem Beating.aliveRuns (h : Beating now clock s) (isPong late : Bool) (ping : packet) :
    InTime now (s.clockAfter now clock isPong (ClientInput.aliveRuns late ping))
      (s.next (punctual now clock (ClientInput.aliveRuns late ping))) := by
  have halive := h.alive
  simp only [punctual, ClientSession.next, keepAlive, clockAfter]
  cases hpoint : s.alive with
  | returned =>
      rw [hpoint] at halive
      exact halive.elim
  | aborted =>
      rw [hpoint] at halive
      exact halive.elim
  | waiting =>
      rw [if_neg (fun hboth => by cases hboth.left)]
      exact InTime.beating h
  | dispatching =>
      rw [hpoint] at halive
      have hboth : AlivePoint.dispatching = AlivePoint.dispatching ∧
          outlet.writes s.getState = true := ⟨rfl, h.state⟩
      dsimp only
      rw [if_pos hboth, if_pos h.state]
      refine InTime.beating ⟨h.state, h.connect, ?_, h.past, ?_, Nat.le_add_right _ _⟩
      · change s.connectTimer.cancel ≠ TimerWait.waiting
        cases htimer : s.connectTimer with
        | waiting => exact absurd htimer h.timer
        | _ => exact TimerWait.noConfusion
      · exact Nat.add_le_add_right halive _
  | failed => exact InTime.ended (close_getState rfl)
  | expired =>
      rw [if_neg (fun hboth => by cases hboth.left)]
      dsimp only
      split
      · exact InTime.ended (close_getState rfl)
      · rename_i hintime
        rw [decide_eq_true_eq, Nat.not_lt] at hintime
        refine InTime.beating ⟨?_, h.connect, h.timer, h.past, ?_⟩
        · change outlet.writes (s.sendData ping).getState = true
          rw [getState_sendData]
          exact h.state
        · change now ≤ clock.lastPong + kBackendHeartbeatTimeout
          lia

theorem Beating.writeRuns (h : Beating now clock s) (loop : Nat) (ok : Bool) :
    InTime now clock (s.writeLoop loop ok) := by
  rcases writeLoop_cases s loop ok with hclosed | ⟨outbox, heq, hloop⟩
  · exact InTime.ended hclosed
  · rw [heq]
    refine InTime.beating ⟨?_, h.connect, h.timer, h.past, h.alive⟩
    change outlet.writes outbox.state = true
    rcases hloop with hrest | hsame | ⟨_, hbusy⟩
    · rw [hrest, outlet_lawful.rest_writes]
      exact h.state
    · rw [hsame]
      exact h.state
    · rw [hbusy]
      rfl

theorem Beating.next (h : Beating now clock s) (isPong : Bool) (input : ClientInput packet)
    (hdue : due now clock input = true) :
    InTime now (s.clockAfter now clock isPong input) (s.next (punctual now clock input)) := by
  have hstate : s.getState ≠ ClientSessionState.connecting := by
    intro hconnecting
    have hwrites := h.state
    rw [hconnecting] at hwrites
    cases hwrites
  cases input with
  | connectRuns config hello ping =>
      simp only [punctual, ClientSession.next, ClientSession.handleconnect, clockAfter]
      rw [h.connect]
      exact InTime.beating h
  | connectEnds ok =>
      simp only [punctual, ClientSession.next, connectEnds, clockAfter]
      rw [h.connect]
      exact InTime.beating h
  | timerExpires =>
      refine InTime.beating ⟨h.state, h.connect, ?_, h.past, ?_⟩
      · change s.connectTimer.expire ≠ TimerWait.waiting
        cases htimer : s.connectTimer with
        | waiting => exact absurd htimer h.timer
        | _ => exact TimerWait.noConfusion
      · have halive := h.alive
        change AliveInTime now clock s.alive.expire
        cases hpoint : s.alive with
        | waiting =>
            rw [hpoint] at halive
            exact halive.le
        | _ =>
            rw [hpoint] at halive
            exact halive
  | timerBreaks =>
      refine InTime.beating ⟨h.state, h.connect, h.timer, h.past, ?_⟩
      have halive := h.alive
      change AliveInTime now clock s.alive.fault
      cases hpoint : s.alive with
      | waiting =>
          rw [hpoint] at halive
          exact halive.le
      | _ =>
          rw [hpoint] at halive
          exact halive
  | timeoutRuns =>
      simp only [punctual, ClientSession.next, connectTimeout, clockAfter]
      split
      · rw [if_neg hstate]
        exact InTime.beating ⟨h.state, h.connect, TimerWait.noConfusion, h.past, h.alive⟩
      · exact InTime.beating ⟨h.state, h.connect, TimerWait.noConfusion, h.past, h.alive⟩
      · exact InTime.beating h
  | headArrives header =>
      simp only [punctual, ClientSession.next, headArrives, clockAfter]
      split
      · exact InTime.beating ⟨h.state, h.connect, h.timer, h.past, h.alive⟩
      · exact InTime.beating h
  | bodyArrives =>
      simp only [punctual, ClientSession.next, bodyArrives, clockAfter]
      split
      · exact InTime.beating ⟨h.state, h.connect, h.timer, h.past, h.alive⟩
      · exact InTime.beating h
  | readBreaks => exact InTime.beating ⟨h.state, h.connect, h.timer, h.past, h.alive⟩
  | readRuns => exact h.readRuns isPong
  | aliveRuns late ping => exact h.aliveRuns isPong late ping
  | writeRuns loop ok => exact h.writeRuns loop ok
  | sends p =>
      refine InTime.beating ⟨?_, h.connect, h.timer, h.past, h.alive⟩
      change outlet.writes (s.sendData p).getState = true
      rw [getState_sendData]
      exact h.state

/-- No handler makes a session fall behind. -/
theorem InTime.next (h : InTime now clock s) (hs : s.Settled) (isPong : Bool)
    (input : ClientInput packet) (hdue : due now clock input = true) :
    InTime now (s.clockAfter now clock isPong input) (s.next (punctual now clock input)) := by
  cases h with
  | dialling hdialling => exact hdialling.next isPong input hdue
  | beating hbeating => exact hbeating.next isPong input hdue
  | ended hclosed => exact InTime.ended (hs.next_closed hclosed _)

/-- Time passes only as long as the session sleeps. -/
theorem InTime.passes (h : InTime now clock s) {elapsed : Nat}
    (hsleeps : s.sleepsUntil (now + elapsed) clock = true) :
    InTime (now + elapsed) clock s := by
  unfold sleepsUntil at hsleeps
  rw [Bool.and_eq_true, Bool.and_eq_true] at hsleeps
  rcases hsleeps with ⟨⟨hconnect, htimer⟩, halive⟩
  cases h with
  | dialling h =>
      apply InTime.dialling
      refine ⟨h.state, h.read, h.alive, ?_⟩
      rcases h.since with ⟨hspawned, _, _⟩ | ⟨hconnecting, hwaiting | hexpired, hexpiry, _⟩
      · rw [hspawned] at hconnect
        cases hconnect
      · rw [hwaiting] at htimer
        exact Or.inr ⟨hconnecting, Or.inl hwaiting, hexpiry, of_decide_eq_true htimer⟩
      · rw [hexpired] at htimer
        cases htimer
  | beating h =>
      refine InTime.beating ⟨h.state, h.connect, h.timer,
        Nat.le_trans h.past (Nat.le_add_right _ _), ?_⟩
      have hpoint := h.alive
      cases hkind : s.alive with
      | waiting =>
          rw [hkind] at halive hpoint
          exact ⟨hpoint.left, of_decide_eq_true halive⟩
      | returned =>
          rw [hkind] at hpoint
          exact hpoint.elim
      | _ =>
          rw [hkind] at halive
          cases halive
  | ended h => exact InTime.ended h

end ClientSession

/-!
## A pool in time
-/

namespace GameServerConnPool

variable {packet : Type} {pool : GameServerConnPool packet}

theorem detectSlots_connCnt {slots : List Nat} (h : Pooled pool)
    (hslots : forall slot, slot ∈ slots -> slot < pool.connCnt) :
    (slots.foldl detectSlot pool).connCnt = pool.connCnt := by
  induction slots generalizing pool with
  | nil => rfl
  | cons slot rest ih =>
      have hslot := hslots slot List.mem_cons_self
      refine (ih (h.detectSlot hslot).left fun other hother => ?_).trans
        (detectSlot_connCnt h slot)
      rw [detectSlot_connCnt h slot]
      exact hslots other (List.mem_cons_of_mem slot hother)

/-- A round of `detection` changes no session and makes new ones. -/
theorem detectSlots_created {slots : List Nat} (h : Pooled pool)
    (hslots : forall slot, slot ∈ slots -> slot < pool.connCnt) {number : Nat}
    {c : PoolConn packet}
    (hc : (slots.foldl detectSlot pool).created[number]? = some c) :
    pool.created[number]? = some c ∨
      pool.created.length ≤ number ∧ c.session = ClientSession.create := by
  induction slots generalizing pool with
  | nil => exact Or.inl hc
  | cons slot rest ih =>
      have hfirst := h.detectSlot (hslots slot List.mem_cons_self)
      have hrest := ih hfirst.left (fun other hother => by
        rw [detectSlot_connCnt h slot]
        exact hslots other (List.mem_cons_of_mem slot hother)) hc
      rcases detectSlot_cases h slot with hsame | ⟨_, _, hfill⟩
      · rw [hsame] at hrest
        exact hrest
      · rw [hfill] at hrest
        rcases hrest with hold | ⟨hlate, hnew⟩
        · rcases fillSlot_created hold with hbefore | ⟨hnumber, heq⟩
          · exact Or.inl hbefore
          · rw [heq]
            exact Or.inr ⟨Nat.le_of_eq hnumber.symm, rfl⟩
        · have hlength : (pool.fillSlot slot).created.length = pool.created.length + 1 :=
            List.length_append
          rw [hlength] at hlate
          exact Or.inr ⟨Nat.le_of_succ_le hlate, hnew⟩

theorem fillSlots_created {slots : List Nat}
    (h : forall (number : Nat) (c : PoolConn packet), pool.created[number]? = some c ->
      c.session = ClientSession.create) :
    forall (number : Nat) (c : PoolConn packet),
      (slots.foldl fillSlot pool).created[number]? = some c ->
        c.session = ClientSession.create := by
  induction slots generalizing pool with
  | nil => exact h
  | cons slot rest ih =>
      refine ih fun number c hc => ?_
      rcases fillSlot_created hc with hold | ⟨_, hnew⟩
      · exact h number c hold
      · rw [hnew]

/-- The session was made before, and the slot holds another one. -/
def Elsewhere (slot number : Nat) (pool : GameServerConnPool packet) : Prop :=
  number < pool.created.length ∧ pool.sessions[slot]? ≠ some (some number)

theorem Elsewhere.fillSlot {slot number : Nat} (h : Elsewhere slot number pool)
    (hlength : pool.sessions.length = pool.connCnt) {other : Nat}
    (hother : other < pool.connCnt) : Elsewhere slot number (pool.fillSlot other) := by
  refine ⟨?_, ?_⟩
  · have hmore : (pool.fillSlot other).created.length = pool.created.length + 1 :=
      List.length_append
    rw [hmore]
    exact Nat.lt_succ_of_lt h.left
  · by_cases hslot : other = slot
    · subst hslot
      rw [fillSlot_same (hlength ▸ hother)]
      intro heq
      injection heq with heq
      injection heq with heq
      exact absurd h.left (Nat.not_lt.mpr (Nat.le_of_eq heq))
    · rw [fillSlot_other hslot]
      exact h.right

theorem Elsewhere.detectSlot {slot number : Nat} (h : Elsewhere slot number pool)
    (hpool : Pooled pool) {other : Nat} (hother : other < pool.connCnt) :
    Elsewhere slot number (pool.detectSlot other) := by
  rcases detectSlot_cases hpool other with hsame | ⟨_, _, hfill⟩
  · rw [hsame]
    exact h
  · rw [hfill]
    exact h.fillSlot hpool.length hother

theorem Elsewhere.detectSlots {slot number : Nat} (h : Elsewhere slot number pool)
    (hpool : Pooled pool) {slots : List Nat}
    (hslots : forall other, other ∈ slots -> other < pool.connCnt) :
    Elsewhere slot number (slots.foldl GameServerConnPool.detectSlot pool) := by
  induction slots generalizing pool with
  | nil => exact h
  | cons other rest ih =>
      have hother := hslots other List.mem_cons_self
      exact ih (h.detectSlot hpool hother) (hpool.detectSlot hother).left (by
        intro k hk
        rw [detectSlot_connCnt hpool other]
        exact hslots k (List.mem_cons_of_mem other hk))

theorem detectSlot_elsewhere (h : Pooled pool) {slot number : Nat} (hslot : slot < pool.connCnt)
    {c : PoolConn packet} (hc : pool.created[number]? = some c)
    (hclosed : c.session.getState = ClientSessionState.closed) :
    Elsewhere slot number (pool.detectSlot slot) := by
  have hnumber : number < pool.created.length := (List.getElem?_eq_some_iff.mp hc).choose
  by_cases hholds : pool.sessions[slot]? = some (some number)
  · have hidle : ¬ isConnPendingOrAvailable (pool.conn slot) = true := by
      rw [conn_eq hholds hc]
      simp [isConnPendingOrAvailable, hclosed]
    have hfill : pool.detectSlot slot = pool.fillSlot slot := by
      unfold GameServerConnPool.detectSlot
      rw [if_neg hidle, closeSlot_of_vacant (h.vacant hidle)]
    have hmore : (pool.fillSlot slot).created.length = pool.created.length + 1 :=
      List.length_append
    rw [hfill]
    refine ⟨by rw [hmore]; exact Nat.lt_succ_of_lt hnumber, ?_⟩
    rw [fillSlot_same (h.length ▸ hslot)]
    intro heq
    injection heq with heq
    injection heq with heq
    exact absurd hnumber (Nat.not_lt.mpr (Nat.le_of_eq heq))
  · exact Elsewhere.detectSlot ⟨hnumber, hholds⟩ h hslot

/-- A round of `detection` takes a closed session out of its slot. -/
theorem detection_elsewhere (h : Pooled pool) {slot number : Nat} {c : PoolConn packet}
    (hc : pool.created[number]? = some c)
    (hclosed : c.session.getState = ClientSessionState.closed) :
    Elsewhere slot number pool.detection := by
  have hnumber : number < pool.created.length := (List.getElem?_eq_some_iff.mp hc).choose
  by_cases hslot : slot < pool.connCnt
  · rcases List.append_of_mem (List.mem_range.mpr hslot) with ⟨front, back, hrange⟩
    have hall : forall other, other ∈ front ++ slot :: back -> other < pool.connCnt := by
      intro other hother
      rw [← hrange] at hother
      exact List.mem_range.mp hother
    have hfront := h.detectSlots fun other hother =>
      hall other (List.mem_append_left (slot :: back) hother)
    have hcount := detectSlots_connCnt h (fun other hother =>
      hall other (List.mem_append_left (slot :: back) hother))
    rcases hfront.right number c hc with ⟨c', hc', _, hstays⟩
    have hturn : slot < (front.foldl GameServerConnPool.detectSlot pool).connCnt := by
      rw [hcount]
      exact hslot
    unfold detection
    rw [hrange, List.foldl_append, List.foldl_cons]
    refine (detectSlot_elsewhere hfront.left hturn hc' (hstays hclosed)).detectSlots
      (hfront.left.detectSlot hturn).left ?_
    intro other hother
    rw [detectSlot_connCnt hfront.left slot, hcount]
    exact hall other (List.mem_append_right front (List.mem_cons_of_mem slot hother))
  · refine Elsewhere.detectSlots ⟨hnumber, ?_⟩ h fun _ hother => List.mem_range.mp hother
    rw [List.getElem?_eq_none (by rw [h.length]; exact Nat.not_lt.mp hslot)]
    exact fun heq => by cases heq

/-- A slot that holds a session holds the same one later, or one that was made in between. -/
structure Refills (pool later : GameServerConnPool packet) : Prop where
  grows : pool.created.length ≤ later.created.length
  holds : forall {slot number : Nat}, pool.sessions[slot]? = some (some number) ->
    exists other, later.sessions[slot]? = some (some other) ∧
      (other = number ∨ pool.created.length ≤ other)

theorem Refills.refl (pool : GameServerConnPool packet) : Refills pool pool :=
  ⟨Nat.le_refl _, fun hslot => ⟨_, hslot, Or.inl rfl⟩⟩

theorem Refills.trans {first second third : GameServerConnPool packet}
    (h : Refills first second) (h' : Refills second third) : Refills first third := by
  refine ⟨Nat.le_trans h.grows h'.grows, ?_⟩
  intro slot number hslot
  rcases h.holds hslot with ⟨middle, hmiddle, hkept⟩
  rcases h'.holds hmiddle with ⟨other, hother, hsame | hnew⟩
  · exact ⟨other, hother, hsame ▸ hkept⟩
  · exact ⟨other, hother, Or.inr (Nat.le_trans h.grows hnew)⟩

theorem refills_modifyConn (pool : GameServerConnPool packet) (number : Nat)
    (f : ClientSession packet -> ClientSession packet) :
    Refills pool (pool.modifyConn number f) :=
  ⟨Nat.le_of_eq (List.length_modify ..).symm, (Refills.refl pool).holds⟩

theorem refills_postMessage (pool : GameServerConnPool packet) (p : packet) :
    Refills pool (pool.postMessage p).1 := by
  have hselected : Refills pool pool.selectConnUnsafe.1 :=
    ⟨Nat.le_refl _, (Refills.refl pool).holds⟩
  unfold postMessage
  dsimp only
  split
  · exact hselected
  · rename_i chosen _
    exact hselected.trans
      (refills_modifyConn pool.selectConnUnsafe.1 chosen fun s => s.sendData p)

theorem refills_fillSlot (pool : GameServerConnPool packet) (slot : Nat) :
    Refills pool (pool.fillSlot slot) := by
  constructor
  · change pool.created.length ≤ (pool.created ++ [_]).length
    rw [List.length_append]
    exact Nat.le_add_right _ _
  · intro other number hother
    by_cases heq : slot = other
    · subst heq
      have hslot : slot < pool.sessions.length := (List.getElem?_eq_some_iff.mp hother).choose
      exact ⟨_, fillSlot_same hslot, Or.inr (Nat.le_refl _)⟩
    · exact ⟨number, (fillSlot_other heq).trans hother, Or.inl rfl⟩

theorem refills_detectSlots {slots : List Nat} (h : Pooled pool)
    (hslots : forall slot, slot ∈ slots -> slot < pool.connCnt) :
    Refills pool (slots.foldl detectSlot pool) := by
  induction slots generalizing pool with
  | nil => exact Refills.refl pool
  | cons slot rest ih =>
      have hfirst : Refills pool (pool.detectSlot slot) := by
        rcases detectSlot_cases h slot with hsame | ⟨_, _, hfill⟩
        · rw [hsame]
          exact Refills.refl pool
        · rw [hfill]
          exact refills_fillSlot pool slot
      refine hfirst.trans (ih (h.detectSlot (hslots slot List.mem_cons_self)).left ?_)
      intro other hother
      rw [detectSlot_connCnt h slot]
      exact hslots other (List.mem_cons_of_mem slot hother)

end GameServerConnPool

namespace TimedPool

open GameServerConnPool

variable {packet : Type} {t : TimedPool packet}

/-- Time passes only as long as nothing has to happen, and no round of `detection` is left out. -/
def Prompt (t : TimedPool packet) : TimedPoolInput packet -> Prop
  | TimedPoolInput.passes elapsed => t.now + elapsed ≤ t.detectAt ∧
      forall number, number < t.pool.created.length ->
        (t.pool.created[number]?.map fun c =>
          c.session.sleepsUntil (t.now + elapsed) (t.clocks number)) = some true
  | TimedPoolInput.detectBreaks => False
  | _ => True

instance (t : TimedPool packet) : forall input, Decidable (t.Prompt input)
  | TimedPoolInput.passes elapsed =>
      inferInstanceAs (Decidable (t.now + elapsed ≤ t.detectAt ∧
        forall number, number < t.pool.created.length ->
          (t.pool.created[number]?.map fun c =>
            c.session.sleepsUntil (t.now + elapsed) (t.clocks number)) = some true))
  | TimedPoolInput.detectBreaks => isFalse id
  | TimedPoolInput.session _ _ _ => isTrue trivial
  | TimedPoolInput.posts _ => isTrue trivial
  | TimedPoolInput.detects => isTrue trivial

/-- The pool is in order, its sessions are in time, and `detection` wakes up soon. -/
structure Healthy (t : TimedPool packet) : Prop where
  pooled : Pooled t.pool
  intime : forall number c, t.pool.created[number]? = some c ->
    ClientSession.InTime t.now (t.clocks number) c.session
  soon : t.detectAt ≤ t.now + linkDetectionTime
  awake : t.now ≤ t.detectAt

theorem healthy_create (n now : Nat) : Healthy (create n now : TimedPool packet) where
  pooled := pooled_init n
  intime := by
    intro number c hc
    have hempty : forall (number : Nat) (c : PoolConn packet),
        (empty n : GameServerConnPool packet).created[number]? = some c ->
          c.session = ClientSession.create := fun number c hc => by cases hc
    have hnew : c.session = ClientSession.create := fillSlots_created hempty number c hc
    rw [hnew]
    exact ClientSession.InTime.dialling (ClientSession.dialling_create now)
  soon := Nat.le_refl _
  awake := Nat.le_add_right _ _

theorem Healthy.stepSession (h : Healthy t) (number : Nat) (isPong : Bool)
    (input : ClientSession.ClientInput packet) : Healthy (t.stepSession number isPong input) := by
  unfold TimedPool.stepSession
  split
  · exact h
  · rename_i c hc
    dsimp only
    split
    · rename_i hdue
      have hpooled := (h.pooled.next (PoolInput.session number
        (ClientSession.punctual t.now (t.clocks number) input))).left
      refine ⟨hpooled, ?_, h.soon, h.awake⟩
      intro k c' hc'
      change (t.pool.modifyConn number _).created[k]? = some c' at hc'
      change ClientSession.InTime t.now (Function.update t.clocks number _ k) c'.session
      unfold modifyConn at hc'
      dsimp only at hc'
      rw [List.getElem?_modify, Option.map_eq_map, Option.map_eq_some_iff] at hc'
      rcases hc' with ⟨d, hd, rfl⟩
      by_cases hk : number = k
      · subst hk
        rw [hc] at hd
        injection hd with heq
        subst heq
        rw [Function.update_self, if_pos rfl]
        exact (h.intime number c hc).next (h.pooled.settled hc) isPong input hdue
      · rw [Function.update_of_ne (Ne.symm hk), if_neg hk]
        exact h.intime k d hd
    · exact h

theorem Healthy.posts (h : Healthy t) (p : packet) :
    Healthy (t.next (TimedPoolInput.posts p)) := by
  refine ⟨(h.pooled.next (PoolInput.posts p)).left, ?_, h.soon, h.awake⟩
  intro number c' hc'
  change (t.pool.postMessage p).1.created[number]? = some c' at hc'
  unfold postMessage at hc'
  dsimp only at hc'
  split at hc'
  · exact h.intime number c' hc'
  · rename_i chosen _
    rcases modifyConn_created hc' with ⟨c, hc, _, hsent | hsame⟩
    · rw [hsent]
      exact (h.intime number c hc).next (h.pooled.settled hc) false
        (ClientSession.ClientInput.sends p) rfl
    · rw [hsame]
      exact h.intime number c hc

theorem Healthy.detect (h : Healthy t) : Healthy t.detect := by
  unfold TimedPool.detect
  split
  · refine ⟨h.pooled.detection.left, ?_, Nat.le_refl _, Nat.le_add_right _ _⟩
    intro number c hc
    change ClientSession.InTime t.now (t.clocksAfter number) c.session
    unfold clocksAfter
    rcases detectSlots_created h.pooled (fun _ hslot => List.mem_range.mp hslot) hc with
      hold | ⟨hlate, hnew⟩
    · rw [if_pos (List.getElem?_eq_some_iff.mp hold).choose]
      exact h.intime number c hold
    · rw [if_neg (Nat.not_lt.mpr hlate), hnew]
      exact ClientSession.InTime.dialling (ClientSession.dialling_create t.now)
  · exact h

theorem Healthy.next (h : Healthy t) {input : TimedPoolInput packet}
    (hprompt : t.Prompt input) : Healthy (t.next input) := by
  cases input with
  | passes elapsed =>
      refine ⟨h.pooled, ?_, ?_, hprompt.left⟩
      · intro number c hc
        change t.pool.created[number]? = some c at hc
        have hnumber : number < t.pool.created.length :=
          (List.getElem?_eq_some_iff.mp hc).choose
        have hsleeps := hprompt.right number hnumber
        rw [hc] at hsleeps
        exact (h.intime number c hc).passes (Option.some.inj hsleeps)
      · exact Nat.le_trans h.soon (Nat.add_le_add_right (Nat.le_add_right _ _) _)
  | session number isPong input => exact h.stepSession number isPong input
  | posts p => exact h.posts p
  | detects => exact h.detect
  | detectBreaks => exact hprompt.elim

/-!
## What is closed is replaced
-/

/-- The session is closed and the round of that time still to come, or it has lost its slot. -/
def Leaving (round slot number : Nat) (t : TimedPool packet) : Prop :=
  (t.detectAt = round ∧ exists c, t.pool.created[number]? = some c ∧
    c.session.getState = ClientSessionState.closed) ∨ Elsewhere slot number t.pool

theorem modifyConn_elsewhere {pool : GameServerConnPool packet} {slot number : Nat}
    (h : Elsewhere slot number pool) (k : Nat)
    (f : ClientSession packet -> ClientSession packet) :
    Elsewhere slot number (pool.modifyConn k f) := by
  refine ⟨?_, h.right⟩
  change number < (pool.created.modify k _).length
  rw [List.length_modify]
  exact h.left

theorem Leaving.next {round slot number : Nat} (h : Leaving round slot number t)
    (ht : Healthy t) {input : TimedPoolInput packet} (hprompt : t.Prompt input) :
    Leaving round slot number (t.next input) := by
  have hfollows : forall plain : PoolInput packet,
      (exists c, t.pool.created[number]? = some c ∧
        c.session.getState = ClientSessionState.closed) ->
      exists c, (t.pool.next plain).created[number]? = some c ∧
        c.session.getState = ClientSessionState.closed := by
    rintro plain ⟨c, hc, hclosed⟩
    rcases (ht.pooled.next plain).right number c hc with ⟨c', hc', _, hstays⟩
    exact ⟨c', hc', hstays hclosed⟩
  cases input with
  | passes elapsed => exact h
  | detectBreaks => exact hprompt.elim
  | session k isPong input =>
      change Leaving round slot number (t.stepSession k isPong input)
      unfold TimedPool.stepSession
      split
      · exact h
      · dsimp only
        split
        · rcases h with ⟨hround, hclosed⟩ | helse
          · exact Or.inl ⟨hround, hfollows _ hclosed⟩
          · exact Or.inr (modifyConn_elsewhere helse _ _)
        · exact h
  | posts p =>
      rcases h with ⟨hround, hclosed⟩ | helse
      · exact Or.inl ⟨hround, hfollows (PoolInput.posts p) hclosed⟩
      · right
        change Elsewhere slot number (t.pool.postMessage p).1
        unfold postMessage
        dsimp only
        split
        · exact helse
        · rename_i chosen _
          exact modifyConn_elsewhere helse chosen fun s => s.sendData p
  | detects =>
      change Leaving round slot number t.detect
      unfold TimedPool.detect
      split
      · right
        rcases h with ⟨_, c, hc, hclosed⟩ | helse
        · exact detection_elsewhere ht.pooled hc hclosed
        · exact helse.detectSlots ht.pooled fun _ hother => List.mem_range.mp hother
      · exact h

/-- No slot is given up without a new session for it. -/
theorem Healthy.refills (h : Healthy t) (input : TimedPoolInput packet) :
    Refills t.pool (t.next input).pool := by
  cases input with
  | passes elapsed => exact Refills.refl t.pool
  | detectBreaks => exact Refills.refl t.pool
  | session number isPong input =>
      change Refills t.pool (t.stepSession number isPong input).pool
      unfold TimedPool.stepSession
      split
      · exact Refills.refl t.pool
      · dsimp only
        split
        · exact refills_modifyConn t.pool number fun s => s.next _
        · exact Refills.refl t.pool
  | posts p => exact refills_postMessage t.pool p
  | detects =>
      change Refills t.pool t.detect.pool
      unfold TimedPool.detect
      split
      · exact refills_detectSlots h.pooled fun _ hslot => List.mem_range.mp hslot
      · exact Refills.refl t.pool

/--
In every run of a pool in which no handler of a timer is late: a connection that a slot holds
has been connecting for at most five seconds, or it is closed, or it was made or had a pong in
the last twenty seconds; and a connection that is closed has lost its slot when more than a
second has passed, to a connection for this slot that was made since then.
-/
theorem run_heals (n now : Nat) (before window : List (TimedPoolInput packet))
    (hprompt : Throughout next Prompt (create n now) (before ++ window)) :
    let first := run n now before
    let last := run n now (before ++ window)
    (forall slot number : Nat, last.pool.sessions[slot]? = some (some number) ->
      exists c : PoolConn packet, last.pool.created[number]? = some c ∧
        (c.session.getState = ClientSessionState.connecting ∧
            last.now ≤ (last.clocks number).lastPong + connectTimeLimit ∨
          isConnAvailable (some c.session) = true ∧
            last.now ≤ (last.clocks number).lastPong + kBackendHeartbeatTimeout +
              kBackendHeartbeatInterval ∨
          c.session.getState = ClientSessionState.closed)) ∧
    (first.now + linkDetectionTime < last.now ->
      forall (slot number : Nat) (c : PoolConn packet),
        first.pool.created[number]? = some c ->
          c.session.getState = ClientSessionState.closed ->
            last.pool.sessions[slot]? ≠ some (some number) ∧
              (first.pool.sessions[slot]? = some (some number) ->
                exists (other : Nat) (d : PoolConn packet),
                  last.pool.sessions[slot]? = some (some other) ∧
                    last.pool.created[other]? = some d ∧ d.slot = slot ∧
                      first.pool.created.length ≤ other)) := by
  intro first last
  rcases throughout_append.mp hprompt with ⟨hbefore, hwindow⟩
  have hfirst : Healthy first := hbefore.invariant Healthy
    (fun t input h hprompt => h.next hprompt) (healthy_create n now)
  have hsplit : last = window.foldl next first := List.foldl_append
  have hlast : Healthy last := by
    rw [hsplit]
    exact hwindow.invariant Healthy (fun t input h hprompt => h.next hprompt) hfirst
  constructor
  · intro slot number hslot
    rcases hlast.pooled.current hslot with ⟨c, hc, _⟩
    refine ⟨c, hc, ?_⟩
    cases hlast.intime number c hc with
    | dialling h =>
        refine Or.inl ⟨h.state, ?_⟩
        rcases h.since with ⟨_, _, hnow⟩ | ⟨_, _, hexpiry, hle⟩
        · rw [hnow]
          exact Nat.le_add_right _ _
        · exact hexpiry ▸ hle
    | beating h =>
        refine Or.inr (Or.inl ⟨?_, h.alive.le⟩)
        have hwrites := h.state
        simp only [ClientSession.outlet, Bool.or_eq_true] at hwrites
        simp only [isConnAvailable, Bool.or_eq_true]
        exact hwrites.symm
    | ended h => exact Or.inr (Or.inr h)
  · intro hlong slot number c hc hclosed
    have hleaving : Healthy last ∧ Leaving first.detectAt slot number last := by
      rw [hsplit]
      exact hwindow.invariant (fun t => Healthy t ∧ Leaving first.detectAt slot number t)
        (fun t input h hprompt => ⟨h.left.next hprompt, h.right.next h.left hprompt⟩)
        ⟨hfirst, Or.inl ⟨rfl, c, hc, hclosed⟩⟩
    have hrefills : Healthy last ∧ Refills first.pool last.pool := by
      rw [hsplit]
      exact hwindow.invariant (fun t => Healthy t ∧ Refills first.pool t.pool)
        (fun t input h hprompt =>
          ⟨h.left.next hprompt, h.right.trans (h.left.refills input)⟩)
        ⟨hfirst, Refills.refl first.pool⟩
    have hlost : last.pool.sessions[slot]? ≠ some (some number) := by
      rcases hleaving.right with ⟨hround, _⟩ | helse
      · have hsoon := hfirst.soon
        have hawake := hlast.awake
        lia
      · exact helse.right
    refine ⟨hlost, ?_⟩
    intro hheld
    rcases hrefills.right.holds hheld with ⟨other, hother, hsame | hnew⟩
    · exact absurd (hsame ▸ hother) hlost
    · rcases hlast.pooled.current hother with ⟨d, hd, hdslot⟩
      exact ⟨other, d, hother, hd, hdslot, hnew⟩

/-- The configuration cannot be read, and the only connection is closed. -/
def lostConfig : List (TimedPoolInput Unit) :=
  [TimedPoolInput.session 0 false
    (ClientSession.ClientInput.connectRuns ConfigResult.notLoaded () ())]

/-- A second later it is replaced, and the new one connects. -/
def secondTry : List (TimedPoolInput Unit) :=
  [TimedPoolInput.passes linkDetectionTime, TimedPoolInput.detects,
    TimedPoolInput.session 1 false
      (ClientSession.ClientInput.connectRuns ConfigResult.usable () ()),
    TimedPoolInput.passes 500000000]

theorem secondTry_heals :
    exists (other : Nat) (d : PoolConn Unit),
      (run 1 0 (lostConfig ++ secondTry)).pool.sessions[0]? = some (some other) ∧
        (run 1 0 (lostConfig ++ secondTry)).pool.created[other]? = some d ∧ d.slot = 0 ∧
          1 ≤ other := by
  have hheals := run_heals 1 0 lostConfig secondTry (by decide)
  have hclosed : ((run 1 0 lostConfig).pool.created[0]?.map fun c =>
      c.session.getState) = some ClientSessionState.closed := rfl
  rcases Option.map_eq_some_iff.mp hclosed with ⟨c, hc, hstate⟩
  exact (hheals.right (by decide) 0 0 c hc hstate).right rfl

end TimedPool

end RtsGame
