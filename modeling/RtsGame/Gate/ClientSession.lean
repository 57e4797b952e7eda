import RtsGame.Library.Outbox
import RtsGame.Library.Runs
import RtsGame.Server.NetworkShard

/-!
# A backend connection of a gateway

A `ClientSession` is one connection of a pool to the game server.  Four
coroutines and the callback of a timer share its state: `handleconnect`,
`HandleRead`, `keep_alive` and the loop that writes.  Each of them is modelled
by the point at which it is suspended; an operation ends before its handler
runs, and closing lets everything that is still outstanding fail.

What the router does with a packet does not touch the session and is left out.
-/

namespace RtsGame

inductive ClientSessionState where
  | connecting
  | connected
  | busy
  | timeout
  | error
  | closing
  | closed
deriving DecidableEq, Repr

/-- How the configuration is read: there is an exception if a value is missing. -/
inductive ConfigResult where
  | usable
  | notLoaded
  | invalidPort
  | throws
deriving DecidableEq, Repr

/-- Where `handleconnect` is suspended. -/
inductive ConnectPoint where
  | spawned
  | connecting (completion : Completion Unit)
  | returned

/-- A wait for the timer, which another wait or a call may cancel. -/
inductive TimerWait where
  | none
  | waiting
  | expired
  | aborted
deriving DecidableEq, Repr

/-- Where `HandleRead` is suspended.  A header is a length, or is refused. -/
inductive BackendRead where
  | returned
  | spawned
  | head (completion : Completion (Option Nat))
  | body (completion : Completion Unit)

/-- Where `keep_alive` is suspended. -/
inductive AlivePoint where
  | returned
  | dispatching
  | waiting
  | expired
  | aborted
  | failed
deriving DecidableEq, Repr

structure ClientSession (packet : Type) where
  outbox : Outbox ClientSessionState packet
  socketOpen : Bool
  connect : ConnectPoint
  connectTimer : TimerWait
  read : BackendRead
  alive : AlivePoint

namespace ConnectPoint

def cancel : ConnectPoint -> ConnectPoint
  | connecting Completion.waiting => connecting Completion.failed
  | point => point

end ConnectPoint

namespace TimerWait

def cancel : TimerWait -> TimerWait
  | waiting => aborted
  | point => point

def expire : TimerWait -> TimerWait
  | waiting => expired
  | point => point

end TimerWait

namespace BackendRead

def cancel : BackendRead -> BackendRead
  | head Completion.waiting => head Completion.failed
  | body Completion.waiting => body Completion.failed
  | point => point

end BackendRead

namespace AlivePoint

def cancel : AlivePoint -> AlivePoint
  | waiting => aborted
  | point => point

def expire : AlivePoint -> AlivePoint
  | waiting => expired
  | point => point

def fault : AlivePoint -> AlivePoint
  | waiting => failed
  | point => point

end AlivePoint

namespace ClientSession

variable {packet : Type}

/-- A session takes packets in every state; closing leaves its queue alone. -/
def outlet : Outlet ClientSessionState where
  depth := kMaxSendQueueDepth
  takes := fun _ => true
  writes := fun s => s = ClientSessionState.busy || s = ClientSessionState.connected
  isClosed := fun s => s = ClientSessionState.closed || s = ClientSessionState.closing
  busy := fun _ => ClientSessionState.busy
  rest := fun s =>
    if s = ClientSessionState.busy then ClientSessionState.connected else s
  failed := fun _ => ClientSessionState.error
  closed := ClientSessionState.closed
  clears := false

/-- A session that has been started. -/
def create : ClientSession packet where
  outbox := Outbox.create ClientSessionState.connecting
  socketOpen := false
  connect := ConnectPoint.spawned
  connectTimer := TimerWait.none
  read := BackendRead.returned
  alive := AlivePoint.returned

def getState (s : ClientSession packet) : ClientSessionState := s.outbox.state

def isClosed (s : ClientSession packet) : Bool := outlet.isClosed s.getState

def setState (s : ClientSession packet) (state : ClientSessionState) :
    ClientSession packet :=
  { s with outbox := { s.outbox with state := state } }

/-- `timer_.cancel`, `socket_.cancel` and `socket_.close`. -/
def shutDown (s : ClientSession packet) : ClientSession packet :=
  { s with
    socketOpen := false
    connect := s.connect.cancel
    connectTimer := s.connectTimer.cancel
    read := s.read.cancel
    alive := s.alive.cancel }

def close (s : ClientSession packet) : ClientSession packet :=
  if s.isClosed then s
  else { s with outbox := outlet.close s.outbox }.shutDown

def sendData (s : ClientSession packet) (p : packet) : ClientSession packet :=
  { s with outbox := outlet.send s.outbox p }

/-!
## Handlers
-/

/-- `handleconnect` up to its suspension. -/
def startConnect (s : ClientSession packet) : ConfigResult -> ClientSession packet
  | ConfigResult.usable =>
      { s with
        socketOpen := true
        connect := ConnectPoint.connecting Completion.waiting
        connectTimer := TimerWait.waiting
        alive := s.alive.cancel }
  | ConfigResult.notLoaded =>
      { s.setState ClientSessionState.error with connect := ConnectPoint.returned }.close
  | ConfigResult.invalidPort =>
      { s.setState ClientSessionState.error with connect := ConnectPoint.returned }.close
  | ConfigResult.throws =>
      if s.isClosed then { s with connect := ConnectPoint.returned }
      else
        { s.setState ClientSessionState.error with
          connect := ConnectPoint.returned }.close

/-- `handleconnect` after the connection was made, or could not be made. -/
def finishConnect (s : ClientSession packet) (ok : Bool) (hello ping : packet) :
    ClientSession packet :=
  let cancelled :=
    { s with
      connect := ConnectPoint.returned
      connectTimer := s.connectTimer.cancel
      alive := s.alive.cancel }
  if s.isClosed then cancelled
  else if ok then
    { ((cancelled.setState ClientSessionState.connected).sendData hello).sendData
        ping with
      read := BackendRead.spawned
      alive := AlivePoint.dispatching }
  else (cancelled.setState ClientSessionState.error).close

def handleconnect (s : ClientSession packet) (config : ConfigResult)
    (hello ping : packet) : ClientSession packet :=
  match s.connect with
  | ConnectPoint.spawned => s.startConnect config
  | ConnectPoint.connecting Completion.waiting => s
  | ConnectPoint.connecting (Completion.ready _) => s.finishConnect true hello ping
  | ConnectPoint.connecting Completion.failed => s.finishConnect false hello ping
  | ConnectPoint.returned => s

/-- The callback of the timer that bounds the time for connecting. -/
def connectTimeout (s : ClientSession packet) : ClientSession packet :=
  match s.connectTimer with
  | TimerWait.expired =>
      let ran := { s with connectTimer := TimerWait.none }
      if s.getState = ClientSessionState.connecting then ran.close else ran
  | TimerWait.aborted => { s with connectTimer := TimerWait.none }
  | _ => s

/-- The head of the loop of `HandleRead`. -/
def readNext (s : ClientSession packet) : ClientSession packet :=
  if s.isClosed then { s with read := BackendRead.returned }
  else { s with read := BackendRead.head Completion.waiting }

def readFails (s : ClientSession packet) : ClientSession packet :=
  { s.close with read := BackendRead.returned }

/-- One turn of `HandleRead`: the session is looked at after a header, not after a body. -/
def handleReadTurn (s : ClientSession packet) : ClientSession packet :=
  match s.read with
  | BackendRead.returned => s
  | BackendRead.spawned => s.readNext
  | BackendRead.head Completion.waiting => s
  | BackendRead.head Completion.failed => s.readFails
  | BackendRead.head (Completion.ready none) => s.readFails
  | BackendRead.head (Completion.ready (some len)) =>
      if s.isClosed then { s with read := BackendRead.returned }
      else if len = 0 then s.readNext
      else { s with read := BackendRead.body Completion.waiting }
  | BackendRead.body Completion.waiting => s
  | BackendRead.body Completion.failed => s.readFails
  | BackendRead.body (Completion.ready _) => s.readNext

/-- `keep_alive`; a pong is late if it is older than the timeout. -/
def keepAlive (s : ClientSession packet) (late : Bool) (ping : packet) :
    ClientSession packet :=
  match s.alive with
  | AlivePoint.returned => s
  | AlivePoint.dispatching =>
      if outlet.writes s.getState then
        { s with alive := AlivePoint.waiting, connectTimer := s.connectTimer.cancel }
      else { s with alive := AlivePoint.returned }
  | AlivePoint.waiting => s
  | AlivePoint.aborted => { s with alive := AlivePoint.returned }
  | AlivePoint.failed =>
      { s.setState ClientSessionState.error with alive := AlivePoint.returned }.close
  | AlivePoint.expired =>
      if late then
        { s.setState ClientSessionState.timeout with alive := AlivePoint.returned }.close
      else { s.sendData ping with alive := AlivePoint.dispatching }

/-- The write of a loop completes, or a loop that was spawned starts. -/
def writeLoop (s : ClientSession packet) (i : Nat) (ok : Bool) : ClientSession packet :=
  let resumed := { s with outbox := outlet.resume s.outbox i ok }
  match s.outbox.loops[i]? with
  | some (LoopPoint.writing _) => if ok then resumed else resumed.shutDown
  | _ => resumed

/-!
## Runs
-/

/-- The end of an operation, the handler of one that has ended, or a call. -/
inductive ClientInput (packet : Type) where
  | connectRuns (config : ConfigResult) (hello ping : packet)
  | connectEnds (ok : Bool)
  | timerExpires
  | timerBreaks
  | timeoutRuns
  | headArrives (header : Option Nat)
  | bodyArrives
  | readBreaks
  | readRuns
  | aliveRuns (late : Bool) (ping : packet)
  | writeRuns (loop : Nat) (ok : Bool)
  | sends (p : packet)

def connectEnds (s : ClientSession packet) (ok : Bool) : ClientSession packet :=
  match s.connect with
  | ConnectPoint.connecting Completion.waiting =>
      { s with
        connect := ConnectPoint.connecting
          (if ok then Completion.ready () else Completion.failed) }
  | _ => s

def headArrives (s : ClientSession packet) (header : Option Nat) :
    ClientSession packet :=
  match s.read with
  | BackendRead.head Completion.waiting =>
      { s with read := BackendRead.head (Completion.ready header) }
  | _ => s

def bodyArrives (s : ClientSession packet) : ClientSession packet :=
  match s.read with
  | BackendRead.body Completion.waiting =>
      { s with read := BackendRead.body (Completion.ready ()) }
  | _ => s

def next (s : ClientSession packet) : ClientInput packet -> ClientSession packet
  | ClientInput.connectRuns config hello ping => s.handleconnect config hello ping
  | ClientInput.connectEnds ok => s.connectEnds ok
  | ClientInput.timerExpires =>
      { s with connectTimer := s.connectTimer.expire, alive := s.alive.expire }
  | ClientInput.timerBreaks => { s with alive := s.alive.fault }
  | ClientInput.timeoutRuns => s.connectTimeout
  | ClientInput.headArrives header => s.headArrives header
  | ClientInput.bodyArrives => s.bodyArrives
  | ClientInput.readBreaks => { s with read := s.read.cancel }
  | ClientInput.readRuns => s.handleReadTurn
  | ClientInput.aliveRuns late ping => s.keepAlive late ping
  | ClientInput.writeRuns loop ok => s.writeLoop loop ok
  | ClientInput.sends p => s.sendData p

/-!
## The queue
-/

theorem outlet_lawful : outlet.Lawful where
  depth := by decide
  closed := rfl
  silent := by
    intro s h
    cases s with
    | closing => rfl
    | closed => rfl
    | _ => cases h
  open_takes := fun _ _ => rfl
  takes_closed := fun h => by cases h
  busy := fun _ _ => rfl
  rest_writes := by
    intro s
    cases s with
    | _ => rfl
  rest_takes := fun _ => rfl
  failed_takes := fun _ h => by cases h

/-- The queue is in order and, if the session can write, somebody works on it. -/
structure Sending (s : ClientSession packet) : Prop where
  orderly : outlet.Orderly s.outbox
  served : outlet.Served s.outbox

theorem Sending.sendData {s : ClientSession packet} (h : Sending s) (p : packet) :
    Sending (s.sendData p) :=
  ⟨h.orderly.send outlet_lawful p, h.served.send p⟩

theorem Sending.close {s : ClientSession packet} (h : outlet.Orderly s.outbox)
    (hopen : s.isClosed = false) : Sending s.close := by
  unfold ClientSession.close
  rw [if_neg (by rw [hopen]; exact Bool.false_ne_true)]
  exact ⟨h.close outlet_lawful, Outlet.Served.close outlet_lawful s.outbox⟩

theorem Sending.closeAny {s : ClientSession packet} (h : Sending s) :
    Sending s.close := by
  cases hclosed : s.isClosed with
  | false => exact Sending.close h.orderly hclosed
  | true =>
      unfold ClientSession.close
      rw [if_pos hclosed]
      exact h

/-- The state is overwritten and the session closed, as on every error. -/
theorem Sending.abandon {s : ClientSession packet} (h : Sending s)
    {state : ClientSessionState} (hstate : outlet.isClosed state = false)
    {t : ClientSession packet} (ht : t.outbox = { s.outbox with state := state }) :
    Sending t.close := by
  apply Sending.close
  · rw [ht]
    exact h.orderly.assign rfl
  · unfold isClosed getState
    rw [ht]
    exact hstate

/-- The session becomes connected and sends at once, so that nothing is left waiting. -/
theorem Sending.open {s : ClientSession packet} (h : Sending s) (p : packet) :
    Sending ((s.setState ClientSessionState.connected).sendData p) := by
  have hassign : outlet.Orderly
      { s.outbox with state := ClientSessionState.connected } := h.orderly.assign rfl
  exact ⟨hassign.send outlet_lawful p, Outlet.served_send outlet _ rfl⟩

theorem Sending.finishConnect {s : ClientSession packet} (h : Sending s) (ok : Bool)
    (hello ping : packet) : Sending (s.finishConnect ok hello ping) := by
  unfold ClientSession.finishConnect
  dsimp only
  split
  · exact ⟨h.orderly, h.served⟩
  · split
    · have hopen := (h.open hello).sendData ping
      exact ⟨hopen.orderly, hopen.served⟩
    · exact h.abandon rfl rfl

theorem Sending.handleconnect {s : ClientSession packet} (h : Sending s)
    (config : ConfigResult) (hello ping : packet) :
    Sending (s.handleconnect config hello ping) := by
  unfold ClientSession.handleconnect
  split
  · cases config with
    | usable => exact ⟨h.orderly, h.served⟩
    | notLoaded => exact h.abandon rfl rfl
    | invalidPort => exact h.abandon rfl rfl
    | throws =>
        simp only [startConnect]
        split
        · exact ⟨h.orderly, h.served⟩
        · exact h.abandon rfl rfl
  · exact h
  · exact h.finishConnect true hello ping
  · exact h.finishConnect false hello ping
  · exact h

theorem Sending.readNext {s : ClientSession packet} (h : Sending s) :
    Sending s.readNext := by
  unfold ClientSession.readNext
  split
  · exact ⟨h.orderly, h.served⟩
  · exact ⟨h.orderly, h.served⟩

theorem Sending.readFails {s : ClientSession packet} (h : Sending s) :
    Sending s.readFails :=
  ⟨h.closeAny.orderly, h.closeAny.served⟩

theorem Sending.handleReadTurn {s : ClientSession packet} (h : Sending s) :
    Sending s.handleReadTurn := by
  unfold ClientSession.handleReadTurn
  split
  · exact h
  · exact h.readNext
  · exact h
  · exact h.readFails
  · exact h.readFails
  · split
    · exact ⟨h.orderly, h.served⟩
    · split
      · exact h.readNext
      · exact ⟨h.orderly, h.served⟩
  · exact h
  · exact h.readFails
  · exact h.readNext

theorem Sending.keepAlive {s : ClientSession packet} (h : Sending s) (late : Bool)
    (ping : packet) : Sending (s.keepAlive late ping) := by
  unfold ClientSession.keepAlive
  split
  · exact h
  · split
    · exact ⟨h.orderly, h.served⟩
    · exact ⟨h.orderly, h.served⟩
  · exact h
  · exact ⟨h.orderly, h.served⟩
  · exact h.abandon rfl rfl
  · split
    · exact h.abandon rfl rfl
    · exact ⟨(h.sendData ping).orderly, (h.sendData ping).served⟩

theorem Sending.writeLoop {s : ClientSession packet} (h : Sending s) (i : Nat)
    (ok : Bool) : Sending (s.writeLoop i ok) := by
  have hresumed : Sending { s with outbox := outlet.resume s.outbox i ok } :=
    ⟨h.orderly.resume outlet_lawful i ok, h.served.resume outlet_lawful i ok⟩
  unfold ClientSession.writeLoop
  dsimp only
  split
  · split
    · exact hresumed
    · exact ⟨hresumed.orderly, hresumed.served⟩
  · exact hresumed

theorem Sending.next {s : ClientSession packet} (h : Sending s)
    (input : ClientInput packet) : Sending (s.next input) := by
  cases input with
  | connectRuns config hello ping => exact h.handleconnect config hello ping
  | connectEnds ok =>
      unfold ClientSession.next ClientSession.connectEnds
      dsimp only
      split
      · exact ⟨h.orderly, h.served⟩
      · exact h
  | timerExpires => exact ⟨h.orderly, h.served⟩
  | timerBreaks => exact ⟨h.orderly, h.served⟩
  | timeoutRuns =>
      unfold ClientSession.next connectTimeout
      dsimp only
      split
      · split
        · exact Sending.closeAny ⟨h.orderly, h.served⟩
        · exact ⟨h.orderly, h.served⟩
      · exact ⟨h.orderly, h.served⟩
      · exact h
  | headArrives header =>
      unfold ClientSession.next ClientSession.headArrives
      dsimp only
      split
      · exact ⟨h.orderly, h.served⟩
      · exact h
  | bodyArrives =>
      unfold ClientSession.next ClientSession.bodyArrives
      dsimp only
      split
      · exact ⟨h.orderly, h.served⟩
      · exact h
  | readBreaks => exact ⟨h.orderly, h.served⟩
  | readRuns => exact h.handleReadTurn
  | aliveRuns late ping => exact h.keepAlive late ping
  | writeRuns loop ok => exact h.writeLoop loop ok
  | sends p => exact h.sendData p

end ClientSession

end RtsGame
