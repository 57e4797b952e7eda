import RtsGame.Gate.ClientSession

/-!
# The pool of backend connections

A pool keeps one session per slot.  A detection round looks at every slot and
replaces a session that is neither connecting nor usable.  The sessions that
were replaced go on living in their coroutines, so the pool of the model
remembers all sessions that were ever created.

The first half follows a single session: as long as `handleconnect` has not
run, nothing else of the session is at work, and after that a session which
has been closed stays closed.
-/

namespace RtsGame

namespace ClientSession

variable {packet : Type}

/-!
## The life of a session
-/

/-- `handleconnect` has been spawned and nothing else is at work but writers. -/
structure Fresh (s : ClientSession packet) : Prop where
  connect : s.connect = ConnectPoint.spawned
  state : s.getState = ClientSessionState.connecting
  timer : s.connectTimer = TimerWait.none
  read : s.read = BackendRead.returned
  alive : s.alive = AlivePoint.returned
  loops : forall p, LoopPoint.writing p ∉ s.outbox.loops

/-- The states in which `handleconnect` and its successors leave a session. -/
structure Started (s : ClientSession packet) : Prop where
  connect : s.connect ≠ ConnectPoint.spawned
  state : s.getState = ClientSessionState.connecting ∨
    outlet.writes s.getState = true ∨ s.getState = ClientSessionState.closed
  socket : s.getState = ClientSessionState.closed -> s.socketOpen = false

/-- What a handler does to the state and the socket of a session. -/
inductive Turn (s t : ClientSession packet) : Prop where
  | stays (state : t.getState = s.getState)
      (socket : t.socketOpen = true -> s.socketOpen = true)
  | moves (wasOpen : s.isClosed = false) (writes : outlet.writes t.getState = true)
  | ends (state : t.getState = ClientSessionState.closed)
      (socket : t.socketOpen = false)

theorem fresh_create : Fresh (create : ClientSession packet) where
  connect := rfl
  state := rfl
  timer := rfl
  read := rfl
  alive := rfl
  loops := fun _ h => by cases h

theorem turn_refl (s : ClientSession packet) : Turn s s :=
  Turn.stays rfl id

theorem isClosed_of_closed {s : ClientSession packet}
    (h : s.getState = ClientSessionState.closed) : s.isClosed = true := by
  unfold isClosed
  rw [h]
  rfl

theorem close_ends {s t : ClientSession packet} (h : t.isClosed = false) :
    Turn s t.close := by
  have hopen : Not (t.isClosed = true) := by
    rw [h]
    exact Bool.false_ne_true
  have houtbox : (outlet.close t.outbox).state = ClientSessionState.closed := by
    unfold Outlet.close
    exact congrArg Outbox.state (if_neg hopen)
  unfold close
  rw [if_neg hopen]
  exact Turn.ends houtbox rfl

theorem turn_close (s : ClientSession packet) : Turn s s.close := by
  cases h : s.isClosed with
  | false => exact close_ends h
  | true =>
      unfold close
      rw [if_pos h]
      exact turn_refl s

theorem cancel_connect {point : ConnectPoint} (h : point ≠ ConnectPoint.spawned) :
    point.cancel ≠ ConnectPoint.spawned := by
  cases point with
  | spawned => contradiction
  | connecting completion =>
      cases completion with
      | _ => exact ConnectPoint.noConfusion
  | returned => exact h

theorem close_connect {t : ClientSession packet}
    (h : t.connect ≠ ConnectPoint.spawned) :
    t.close.connect ≠ ConnectPoint.spawned := by
  unfold close
  split
  · exact h
  · exact cancel_connect h

theorem getState_sendData (s : ClientSession packet) (p : packet) :
    (s.sendData p).getState = s.getState := by
  unfold sendData getState Outlet.send
  split
  · rfl
  · rfl

/-!
## Handlers of a session that has been started
-/

section Started

variable {s : ClientSession packet}

theorem turn_handleconnect (h : s.connect ≠ ConnectPoint.spawned)
    (config : ConfigResult) (hello ping : packet) :
    Turn s (s.handleconnect config hello ping) := by
  have hfinish : forall ok, Turn s (s.finishConnect ok hello ping) := by
    intro ok
    unfold finishConnect
    dsimp only
    split
    · exact Turn.stays rfl id
    · next hopen =>
        split
        · apply Turn.moves (Bool.eq_false_iff.mpr hopen)
          change outlet.writes (sendData (sendData _ _) _).getState = true
          rw [getState_sendData, getState_sendData]
          rfl
        · exact close_ends rfl
  unfold handleconnect
  split
  · contradiction
  · exact turn_refl s
  · exact hfinish true
  · exact hfinish false
  · exact turn_refl s

theorem turn_connectTimeout : Turn s s.connectTimeout := by
  unfold connectTimeout
  split
  · dsimp only
    split
    · next hstate =>
        apply close_ends
        show outlet.isClosed s.getState = false
        rw [hstate]
        rfl
    · exact Turn.stays rfl id
  · exact Turn.stays rfl id
  · exact turn_refl s

theorem turn_readNext : Turn s s.readNext := by
  unfold readNext
  split
  · exact Turn.stays rfl id
  · exact Turn.stays rfl id

theorem turn_readFails : Turn s s.readFails := by
  have hclose := turn_close s
  cases hclose with
  | stays state socket => exact Turn.stays state socket
  | moves wasOpen writes => exact Turn.moves wasOpen writes
  | ends state socket => exact Turn.ends state socket

theorem turn_handleReadTurn : Turn s s.handleReadTurn := by
  unfold handleReadTurn
  split
  · exact turn_refl s
  · exact turn_readNext
  · exact turn_refl s
  · exact turn_readFails
  · exact turn_readFails
  · split
    · exact Turn.stays rfl id
    · split
      · exact turn_readNext
      · exact Turn.stays rfl id
  · exact turn_refl s
  · exact turn_readFails
  · exact turn_readNext

theorem turn_keepAlive (late : Bool) (ping : packet) :
    Turn s (s.keepAlive late ping) := by
  unfold keepAlive
  split
  · exact turn_refl s
  · split
    · exact Turn.stays rfl id
    · exact Turn.stays rfl id
  · exact turn_refl s
  · exact Turn.stays rfl id
  · exact close_ends rfl
  · split
    · exact close_ends rfl
    · exact Turn.stays (getState_sendData s ping) id

/-- A loop that goes on takes a packet, or returns and lets a busy session rest. -/
theorem turn_writeTurn (i : Nat) :
    Turn s { s with outbox := outlet.turn s.outbox i } := by
  rcases Outlet.turn_state outlet s.outbox i with hrest | ⟨hwrites, hbusy⟩
  · cases hstate : s.getState with
    | busy =>
        apply Turn.moves
        · unfold isClosed
          rw [hstate]
          rfl
        · change outlet.writes (outlet.turn s.outbox i).state = true
          rw [hrest]
          change outlet.writes (outlet.rest s.getState) = true
          rw [hstate]
          rfl
    | _ =>
        have hkeeps : outlet.rest s.getState = s.getState := by
          rw [hstate]
          rfl
        exact Turn.stays (hrest.trans hkeeps) id
  · apply Turn.moves (outlet_lawful.open_of_writes hwrites)
    change outlet.writes (outlet.turn s.outbox i).state = true
    rw [hbusy]
    rfl

theorem turn_writeLoop (i : Nat) (ok : Bool) : Turn s (s.writeLoop i ok) := by
  unfold writeLoop Outlet.resume
  dsimp only
  cases hloop : s.outbox.loops[i]? with
  | none => exact turn_refl s
  | some point =>
      cases point with
      | spawned => exact turn_writeTurn i
      | writing p =>
          cases ok with
          | true => exact turn_writeTurn i
          | false => exact Turn.ends rfl rfl

theorem turn_next (h : s.connect ≠ ConnectPoint.spawned)
    (input : ClientInput packet) : Turn s (s.next input) := by
  cases input with
  | connectRuns config hello ping => exact turn_handleconnect h config hello ping
  | connectEnds ok =>
      unfold next connectEnds
      dsimp only
      split
      · exact Turn.stays rfl id
      · exact turn_refl s
  | timerExpires => exact Turn.stays rfl id
  | timerBreaks => exact Turn.stays rfl id
  | timeoutRuns => exact turn_connectTimeout
  | headArrives header =>
      unfold next headArrives
      dsimp only
      split
      · exact Turn.stays rfl id
      · exact turn_refl s
  | bodyArrives =>
      unfold next bodyArrives
      dsimp only
      split
      · exact Turn.stays rfl id
      · exact turn_refl s
  | readBreaks => exact Turn.stays rfl id
  | readRuns => exact turn_handleReadTurn
  | aliveRuns late ping => exact turn_keepAlive late ping
  | writeRuns loop ok => exact turn_writeLoop loop ok
  | sends p => exact Turn.stays (getState_sendData s p) id

theorem finishConnect_connect (ok : Bool) (hello ping : packet) :
    (s.finishConnect ok hello ping).connect ≠ ConnectPoint.spawned := by
  unfold finishConnect
  dsimp only
  split
  · exact ConnectPoint.noConfusion
  · split
    · exact ConnectPoint.noConfusion
    · apply close_connect
      exact ConnectPoint.noConfusion

/-- `handleconnect` is not spawned again. -/
theorem next_connect (h : s.connect ≠ ConnectPoint.spawned)
    (input : ClientInput packet) : (s.next input).connect ≠ ConnectPoint.spawned := by
  cases input with
  | connectRuns config hello ping =>
      simp only [next, handleconnect]
      split
      · contradiction
      · exact h
      · exact finishConnect_connect true hello ping
      · exact finishConnect_connect false hello ping
      · exact h
  | connectEnds ok =>
      simp only [next, connectEnds]
      split
      · exact ConnectPoint.noConfusion
      · exact h
  | timerExpires => exact h
  | timerBreaks => exact h
  | timeoutRuns =>
      simp only [next, connectTimeout]
      split
      · split
        · exact close_connect h
        · exact h
      · exact h
      · exact h
  | headArrives header =>
      simp only [next, headArrives]
      split
      · exact h
      · exact h
  | bodyArrives =>
      simp only [next, bodyArrives]
      split
      · exact h
      · exact h
  | readBreaks => exact h
  | readRuns =>
      have hclose : s.close.connect ≠ ConnectPoint.spawned := close_connect h
      simp only [next, handleReadTurn, readNext, readFails]
      repeat' split
      all_goals first | exact h | exact hclose
  | aliveRuns late ping =>
      simp only [next, keepAlive]
      repeat' split
      all_goals
        first
        | exact h
        | exact close_connect h
  | writeRuns loop ok =>
      simp only [next, writeLoop]
      split
      · split
        · exact h
        · exact cancel_connect h
      · exact h
  | sends p => exact h

theorem Turn.started {t : ClientSession packet} (hturn : Turn s t)
    (hstate : s.getState = ClientSessionState.connecting ∨
      outlet.writes s.getState = true ∨ s.getState = ClientSessionState.closed)
    (hsocket : s.getState = ClientSessionState.closed -> s.socketOpen = false)
    (hconnect : t.connect ≠ ConnectPoint.spawned) : Started t := by
  cases hturn with
  | stays state socket =>
      refine ⟨hconnect, ?_, ?_⟩
      · rw [state]
        exact hstate
      · intro hclosed
        have hshut := hsocket (state.symm.trans hclosed)
        exact Bool.eq_false_iff.mpr fun hopen =>
          Bool.false_ne_true (hshut.symm.trans (socket hopen))
  | moves wasOpen writes =>
      refine ⟨hconnect, Or.inr (Or.inl writes), ?_⟩
      intro hclosed
      rw [hclosed] at writes
      cases writes
  | ends state socket =>
      exact ⟨hconnect, Or.inr (Or.inr state), fun _ => socket⟩

theorem Started.next (h : Started s) (input : ClientInput packet) :
    Started (s.next input) :=
  (turn_next h.connect input).started h.state h.socket (next_connect h.connect input)

/-- A session that has been closed stays closed. -/
theorem Started.next_closed (h : Started s)
    (hclosed : s.getState = ClientSessionState.closed) (input : ClientInput packet) :
    (s.next input).getState = ClientSessionState.closed := by
  cases turn_next h.connect input with
  | stays state socket => exact state.trans hclosed
  | moves wasOpen writes =>
      rw [isClosed_of_closed hclosed] at wasOpen
      cases wasOpen
  | ends state socket => exact state

end Started

/-!
## Handlers of a session that has not been started
-/

section Fresh

variable {s : ClientSession packet}

theorem Fresh.not_closed (h : Fresh s) : s.getState ≠ ClientSessionState.closed := by
  rw [h.state]
  exact ClientSessionState.noConfusion

theorem Fresh.not_writes (h : Fresh s) : outlet.writes s.getState = false := by
  rw [h.state]
  rfl

/-- `handleconnect` runs up to its suspension, or closes the session. -/
theorem Fresh.started (h : Fresh s) {t : ClientSession packet} (hturn : Turn s t)
    (hconnect : t.connect ≠ ConnectPoint.spawned) : Started t :=
  hturn.started (Or.inl h.state) (fun hclosed => absurd hclosed h.not_closed) hconnect

theorem Fresh.handleconnect (h : Fresh s) (config : ConfigResult)
    (hello ping : packet) : Started (s.handleconnect config hello ping) := by
  have hfail : Started
      { s.setState ClientSessionState.error with
        connect := ConnectPoint.returned }.close := by
    apply h.started (close_ends rfl)
    apply close_connect
    exact ConnectPoint.noConfusion
  unfold ClientSession.handleconnect
  rw [h.connect]
  cases config with
  | usable =>
      refine ⟨ConnectPoint.noConfusion, Or.inl h.state, ?_⟩
      exact fun hclosed => absurd hclosed h.not_closed
  | notLoaded => exact hfail
  | invalidPort => exact hfail
  | throws =>
      simp only [startConnect]
      split
      · exact h.started (Turn.stays rfl id) ConnectPoint.noConfusion
      · exact hfail

theorem Fresh.sendData (h : Fresh s) (p : packet) : Fresh (s.sendData p) where
  connect := h.connect
  state := (getState_sendData s p).trans h.state
  timer := h.timer
  read := h.read
  alive := h.alive
  loops := by
    intro q hq
    change LoopPoint.writing q ∈ (outlet.send s.outbox p).loops at hq
    have htakes : outlet.takes s.outbox.state = true := rfl
    unfold Outlet.send at hq
    rw [if_pos htakes] at hq
    dsimp only at hq
    split at hq
    · exact h.loops q hq
    · rw [List.mem_append, List.mem_singleton] at hq
      cases hq with
      | inl hold => exact h.loops q hold
      | inr hnew => cases hnew

/-- A writer returns at once, as the session is still connecting. -/
theorem Fresh.writeLoop (h : Fresh s) (i : Nat) (ok : Bool) :
    Fresh (s.writeLoop i ok) := by
  have hturn : outlet.turn s.outbox i = outlet.returns s.outbox i := by
    unfold Outlet.turn
    split
    · rfl
    · rw [if_neg]
      exact Bool.eq_false_iff.mp h.not_writes
  have hrest : outlet.rest s.outbox.state = ClientSessionState.connecting := by
    change outlet.rest s.getState = ClientSessionState.connecting
    rw [h.state]
    rfl
  unfold ClientSession.writeLoop Outlet.resume
  dsimp only
  cases hloop : s.outbox.loops[i]? with
  | none => exact h
  | some point =>
      cases point with
      | spawned =>
          dsimp only
          rw [hturn]
          refine ⟨h.connect, hrest, h.timer, h.read, h.alive, ?_⟩
          intro p hp
          exact h.loops p (List.mem_of_mem_eraseIdx hp)
      | writing p => exact absurd (List.mem_of_getElem? hloop) (h.loops p)

theorem Fresh.next (h : Fresh s) (input : ClientInput packet) :
    Fresh (s.next input) ∨ Started (s.next input) := by
  cases input with
  | connectRuns config hello ping => exact Or.inr (h.handleconnect config hello ping)
  | connectEnds ok =>
      left
      unfold ClientSession.next ClientSession.connectEnds
      rw [h.connect]
      exact h
  | timerExpires =>
      left
      refine ⟨h.connect, h.state, ?_, h.read, ?_, h.loops⟩
      · exact congrArg TimerWait.expire h.timer
      · exact congrArg AlivePoint.expire h.alive
  | timerBreaks =>
      left
      exact ⟨h.connect, h.state, h.timer, h.read, congrArg AlivePoint.fault h.alive,
        h.loops⟩
  | timeoutRuns =>
      left
      unfold ClientSession.next connectTimeout
      rw [h.timer]
      exact h
  | headArrives header =>
      left
      unfold ClientSession.next ClientSession.headArrives
      rw [h.read]
      exact h
  | bodyArrives =>
      left
      unfold ClientSession.next ClientSession.bodyArrives
      rw [h.read]
      exact h
  | readBreaks =>
      left
      exact ⟨h.connect, h.state, h.timer, congrArg BackendRead.cancel h.read, h.alive,
        h.loops⟩
  | readRuns =>
      left
      unfold ClientSession.next ClientSession.handleReadTurn
      rw [h.read]
      exact h
  | aliveRuns late ping =>
      left
      unfold ClientSession.next ClientSession.keepAlive
      rw [h.alive]
      exact h
  | writeRuns loop ok => exact Or.inl (h.writeLoop loop ok)
  | sends p => exact Or.inl (h.sendData p)

end Fresh

/-!
## Both
-/

/-- A session between two handlers. -/
def Settled (s : ClientSession packet) : Prop := Fresh s ∨ Started s

theorem Settled.next {s : ClientSession packet} (h : Settled s)
    (input : ClientInput packet) : Settled (s.next input) := by
  cases h with
  | inl hfresh => exact hfresh.next input
  | inr hstarted => exact Or.inr (hstarted.next input)

theorem Settled.next_closed {s : ClientSession packet} (h : Settled s)
    (hclosed : s.getState = ClientSessionState.closed) (input : ClientInput packet) :
    (s.next input).getState = ClientSessionState.closed := by
  cases h with
  | inl hfresh => exact absurd hclosed hfresh.not_closed
  | inr hstarted => exact hstarted.next_closed hclosed input

theorem Settled.socket {s : ClientSession packet} (h : Settled s)
    (hclosed : s.getState = ClientSessionState.closed) : s.socketOpen = false := by
  cases h with
  | inl hfresh => exact absurd hclosed hfresh.not_closed
  | inr hstarted => exact hstarted.socket hclosed

end ClientSession

/-!
## The pool
-/

/-- A session with the slot it was created for, its `link_index_`. -/
structure PoolConn (packet : Type) where
  slot : Nat
  session : ClientSession packet

/-- A slot holds the number of a session, counted in the order of creation. -/
structure GameServerConnPool (packet : Type) where
  connCnt : Nat
  sessions : List (Option Nat)
  rrIdx : Nat
  created : List (PoolConn packet)

namespace GameServerConnPool

variable {packet : Type}

def empty (n : Nat) : GameServerConnPool packet where
  connCnt := n
  sessions := List.replicate n none
  rrIdx := 0
  created := []

def conn (pool : GameServerConnPool packet) (slot : Nat) :
    Option (ClientSession packet) :=
  match pool.sessions[slot]? with
  | some (some number) => pool.created[number]?.map PoolConn.session
  | _ => none

def modifyConn (pool : GameServerConnPool packet) (number : Nat)
    (f : ClientSession packet -> ClientSession packet) : GameServerConnPool packet :=
  { pool with
    created := pool.created.modify number fun c => { c with session := f c.session } }

def createConn (pool : GameServerConnPool packet) (slot : Nat) :
    GameServerConnPool packet × Nat :=
  ({ pool with created := pool.created ++ [⟨slot, ClientSession.create⟩] },
    pool.created.length)

/-- Create a session and put it into its slot. -/
def fillSlot (pool : GameServerConnPool packet) (slot : Nat) :
    GameServerConnPool packet :=
  let made := pool.createConn slot
  { made.1 with sessions := pool.sessions.set slot (some made.2) }

def init (n : Nat) : GameServerConnPool packet :=
  (List.range n).foldl fillSlot (empty n)

def isConnAvailable : Option (ClientSession packet) -> Bool
  | none => false
  | some s =>
      s.getState = ClientSessionState.connected || s.getState = ClientSessionState.busy

def isConnPendingOrAvailable : Option (ClientSession packet) -> Bool
  | none => false
  | some s =>
      s.getState = ClientSessionState.connecting ||
        s.getState = ClientSessionState.connected ||
        s.getState = ClientSessionState.busy

/-- At most so many slots are tried, from the one whose turn it is. -/
def selectFrom (pool : GameServerConnPool packet) : Nat -> Nat -> Nat × Option Nat
  | 0, rrIdx => (rrIdx, none)
  | n + 1, rrIdx =>
      let idx := rrIdx % pool.connCnt
      if isConnAvailable (pool.conn idx) then (rrIdx + 1, pool.sessions[idx]?.join)
      else pool.selectFrom n (rrIdx + 1)

def selectConnUnsafe (pool : GameServerConnPool packet) :
    GameServerConnPool packet × Option Nat :=
  let found := pool.selectFrom pool.connCnt pool.rrIdx
  ({ pool with rrIdx := found.1 }, found.2)

def postMessage (pool : GameServerConnPool packet) (p : packet) :
    GameServerConnPool packet × Bool :=
  let selected := pool.selectConnUnsafe
  match selected.2 with
  | none => (selected.1, false)
  | some number => (selected.1.modifyConn number fun s => s.sendData p, true)

def closeSlot (pool : GameServerConnPool packet) (slot : Nat) :
    GameServerConnPool packet :=
  match pool.sessions[slot]? with
  | some (some number) => pool.modifyConn number ClientSession.close
  | _ => pool

def detectSlot (pool : GameServerConnPool packet) (slot : Nat) :
    GameServerConnPool packet :=
  if isConnPendingOrAvailable (pool.conn slot) then pool
  else (pool.closeSlot slot).fillSlot slot

/-- One round of `detection`. -/
def detection (pool : GameServerConnPool packet) : GameServerConnPool packet :=
  (List.range pool.connCnt).foldl detectSlot pool

inductive PoolInput (packet : Type) where
  | session (number : Nat) (input : ClientSession.ClientInput packet)
  | posts (p : packet)
  | detects

def next (pool : GameServerConnPool packet) :
    PoolInput packet -> GameServerConnPool packet
  | PoolInput.session number input => pool.modifyConn number fun s => s.next input
  | PoolInput.posts p => (pool.postMessage p).1
  | PoolInput.detects => pool.detection

def run (pool : GameServerConnPool packet) (inputs : List (PoolInput packet)) :
    GameServerConnPool packet :=
  inputs.foldl next pool

/-!
## What a slot holds
-/

/--
A slot refers to a session that was created for it, and a session that no slot
refers to is closed.
-/
structure Pooled (pool : GameServerConnPool packet) : Prop where
  length : pool.sessions.length = pool.connCnt
  settled : forall {number : Nat} {c : PoolConn packet},
    pool.created[number]? = some c -> c.session.Settled
  current : forall {slot number : Nat}, pool.sessions[slot]? = some (some number) ->
    exists c, pool.created[number]? = some c ∧ c.slot = slot
  retired : forall {number : Nat} {c : PoolConn packet},
    pool.created[number]? = some c ->
    pool.sessions[c.slot]? = some (some number) ∨
      c.session.getState = ClientSessionState.closed

/-- Sessions are not forgotten, and those that are closed stay closed. -/
def Follows (pool later : GameServerConnPool packet) : Prop :=
  forall (number : Nat) (c : PoolConn packet), pool.created[number]? = some c ->
    exists c', later.created[number]? = some c' ∧ c'.slot = c.slot ∧
      (c.session.getState = ClientSessionState.closed ->
        c'.session.getState = ClientSessionState.closed)

theorem Follows.refl (pool : GameServerConnPool packet) : Follows pool pool :=
  fun _ c hc => ⟨c, hc, rfl, id⟩

theorem Follows.trans {first second third : GameServerConnPool packet}
    (h : Follows first second) (h' : Follows second third) : Follows first third := by
  intro number c hc
  obtain ⟨c', hc', hslot, hclosed⟩ := h number c hc
  obtain ⟨c'', hc'', hslot', hclosed'⟩ := h' number c' hc'
  exact ⟨c'', hc'', hslot'.trans hslot, fun h => hclosed' (hclosed h)⟩

theorem pooled_empty (n : Nat) : Pooled (empty n : GameServerConnPool packet) where
  length := List.length_replicate
  settled := fun hc => by cases hc
  current := by
    intro slot number h
    cases List.eq_of_mem_replicate (List.mem_of_getElem? h)
  retired := fun hc => by cases hc

theorem modifyConn_created {pool : GameServerConnPool packet} {number k : Nat}
    {f : ClientSession packet -> ClientSession packet} {c' : PoolConn packet}
    (h : (pool.modifyConn number f).created[k]? = some c') :
    exists c, pool.created[k]? = some c ∧ c'.slot = c.slot ∧
      (c'.session = f c.session ∨ c'.session = c.session) := by
  unfold modifyConn at h
  dsimp only at h
  rw [List.getElem?_modify, Option.map_eq_map, Option.map_eq_some_iff] at h
  obtain ⟨c, hc, hc'⟩ := h
  subst hc'
  refine ⟨c, hc, ?_⟩
  split
  · exact ⟨rfl, Or.inl rfl⟩
  · exact ⟨rfl, Or.inr rfl⟩

theorem created_modifyConn {pool : GameServerConnPool packet} {k : Nat}
    {c : PoolConn packet} (h : pool.created[k]? = some c) (number : Nat)
    (f : ClientSession packet -> ClientSession packet) :
    exists c', (pool.modifyConn number f).created[k]? = some c' := by
  unfold modifyConn
  dsimp only
  rw [List.getElem?_modify, h]
  exact ⟨_, rfl⟩

section Modify

variable {pool : GameServerConnPool packet}
  {f : ClientSession packet -> ClientSession packet}

theorem follows_modifyConn (h : Pooled pool) (number : Nat)
    (hclosed : forall s, s.Settled -> s.getState = ClientSessionState.closed ->
      (f s).getState = ClientSessionState.closed) :
    Follows pool (pool.modifyConn number f) := by
  intro k c hc
  obtain ⟨c', hc'⟩ := created_modifyConn hc number f
  obtain ⟨d, hd, hslot, hsession⟩ := modifyConn_created hc'
  rw [hc] at hd
  cases hd
  refine ⟨c', hc', hslot, ?_⟩
  intro hstate
  cases hsession with
  | inl hf =>
      rw [hf]
      exact hclosed c.session (h.settled hc) hstate
  | inr hsame =>
      rw [hsame]
      exact hstate

/-- What a handler of one session does keeps the pool in order. -/
theorem Pooled.modifyConn (h : Pooled pool) (number : Nat)
    (hsettled : forall s, s.Settled -> (f s).Settled)
    (hclosed : forall s, s.Settled -> s.getState = ClientSessionState.closed ->
      (f s).getState = ClientSessionState.closed) :
    Pooled (pool.modifyConn number f) where
  length := h.length
  settled := by
    intro k c' hc'
    obtain ⟨c, hc, hslot, hsession⟩ := modifyConn_created hc'
    cases hsession with
    | inl hf =>
        rw [hf]
        exact hsettled c.session (h.settled hc)
    | inr hsame =>
        rw [hsame]
        exact h.settled hc
  current := by
    intro slot k hk
    obtain ⟨c, hc, hslot⟩ := h.current hk
    obtain ⟨c', hc', hslot', _⟩ := follows_modifyConn h number hclosed k c hc
    exact ⟨c', hc', hslot'.trans hslot⟩
  retired := by
    intro k c' hc'
    obtain ⟨c, hc, hslot, _⟩ := modifyConn_created hc'
    obtain ⟨d, hd, _, hstays⟩ := follows_modifyConn h number hclosed k c hc
    rw [hc'] at hd
    cases hd
    rw [hslot]
    cases h.retired hc with
    | inl hcurrent => exact Or.inl hcurrent
    | inr hstate => exact Or.inr (hstays hstate)

end Modify

/-- No session that is not closed loses its slot if this slot is filled. -/
def Vacant (pool : GameServerConnPool packet) (slot : Nat) : Prop :=
  forall (number : Nat) (c : PoolConn packet),
    pool.sessions[slot]? = some (some number) -> pool.created[number]? = some c ->
      c.session.getState = ClientSessionState.closed

section Fill

variable {pool : GameServerConnPool packet} {slot : Nat}

theorem fillSlot_created {number : Nat} {c : PoolConn packet}
    (h : (pool.fillSlot slot).created[number]? = some c) :
    pool.created[number]? = some c ∨
      number = pool.created.length ∧ c = ⟨slot, ClientSession.create⟩ := by
  change (pool.created ++ [⟨slot, ClientSession.create⟩])[number]? = some c at h
  rw [List.getElem?_append] at h
  split at h
  · exact Or.inl h
  · next hlength =>
      have hzero : number - pool.created.length = 0 :=
        Nat.lt_one_iff.mp (List.getElem?_eq_some_iff.mp h).1
      rw [hzero] at h
      cases h
      exact Or.inr ⟨by omega, rfl⟩

theorem created_fillSlot {number : Nat} {c : PoolConn packet}
    (h : pool.created[number]? = some c) :
    (pool.fillSlot slot).created[number]? = some c := by
  change (pool.created ++ [⟨slot, ClientSession.create⟩])[number]? = some c
  rw [List.getElem?_append_left (List.getElem?_eq_some_iff.mp h).1]
  exact h

theorem follows_fillSlot : Follows pool (pool.fillSlot slot) :=
  fun _ c hc => ⟨c, created_fillSlot hc, rfl, id⟩

theorem fillSlot_same (hslot : slot < pool.sessions.length) :
    (pool.fillSlot slot).sessions[slot]? = some (some pool.created.length) :=
  List.getElem?_set_self hslot

theorem fillSlot_other {other : Nat} (h : slot ≠ other) :
    (pool.fillSlot slot).sessions[other]? = pool.sessions[other]? :=
  List.getElem?_set_ne h

theorem Pooled.fillSlot (h : Pooled pool) (hslot : slot < pool.connCnt)
    (hvacant : Vacant pool slot) : Pooled (pool.fillSlot slot) := by
  have hlength : slot < pool.sessions.length := by
    rw [h.length]
    exact hslot
  constructor
  case length =>
    exact (List.length_set ..).trans h.length
  case settled =>
    intro number c hc
    cases fillSlot_created hc with
    | inl hold => exact h.settled hold
    | inr hnew =>
        rw [hnew.2]
        exact Or.inl ClientSession.fresh_create
  case current =>
    intro other number hother
    by_cases heq : slot = other
    · subst heq
      rw [fillSlot_same hlength] at hother
      cases hother
      exact ⟨_, List.getElem?_concat_length, rfl⟩
    · rw [fillSlot_other heq] at hother
      obtain ⟨c, hc, hcslot⟩ := h.current hother
      exact ⟨c, created_fillSlot hc, hcslot⟩
  case retired =>
    intro number c hc
    cases fillSlot_created hc with
    | inl hold =>
        by_cases heq : slot = c.slot
        · cases h.retired hold with
          | inl hcurrent =>
              rw [← heq] at hcurrent
              exact Or.inr (hvacant number c hcurrent hold)
          | inr hclosed => exact Or.inr hclosed
        · rw [fillSlot_other heq]
          exact h.retired hold
    | inr hnew =>
        rw [hnew.1, hnew.2]
        exact Or.inl (fillSlot_same hlength)

end Fill

/-!
## A detection round
-/

section Detection

variable {pool : GameServerConnPool packet} {slot : Nat}

theorem conn_eq {number : Nat} {c : PoolConn packet}
    (hslot : pool.sessions[slot]? = some (some number))
    (hc : pool.created[number]? = some c) : pool.conn slot = some c.session := by
  unfold conn
  rw [hslot]
  change pool.created[number]?.map PoolConn.session = some c.session
  rw [hc]
  rfl

/-- A session that is neither pending nor available has been closed. -/
theorem closed_of_not_pending {s : ClientSession packet} (h : s.Settled)
    (hpending : Not (isConnPendingOrAvailable (some s) = true)) :
    s.getState = ClientSessionState.closed := by
  simp only [isConnPendingOrAvailable] at hpending
  cases h with
  | inl hfresh =>
      rw [hfresh.state] at hpending
      exact absurd rfl hpending
  | inr hstarted =>
      cases hstate : s.getState with
      | closed => rfl
      | connecting | connected | busy =>
          rw [hstate] at hpending
          exact absurd rfl hpending
      | timeout | error | closing =>
          have h := hstarted.state
          rw [hstate] at h
          rcases h with h | h | h
          all_goals cases h

theorem Pooled.vacant (h : Pooled pool)
    (hpending : Not (isConnPendingOrAvailable (pool.conn slot) = true)) :
    Vacant pool slot := by
  intro number c hslot hc
  rw [conn_eq hslot hc] at hpending
  exact closed_of_not_pending (h.settled hc) hpending

theorem close_of_closed {s : ClientSession packet}
    (h : s.getState = ClientSessionState.closed) : s.close = s := by
  unfold ClientSession.close
  rw [if_pos (ClientSession.isClosed_of_closed h)]

/-- Closing once more what is closed changes nothing. -/
theorem closeSlot_of_vacant (hvacant : Vacant pool slot) : pool.closeSlot slot = pool := by
  unfold closeSlot
  split
  · next number hslot =>
      have hcreated : (pool.created.modify number fun c =>
          { c with session := c.session.close }) = pool.created := by
        apply List.ext_getElem?
        intro k
        rw [List.getElem?_modify]
        cases hc : pool.created[k]? with
        | none => rfl
        | some c =>
            change some (if number = k then _ else c) = some c
            split
            · next heq =>
                subst heq
                rw [close_of_closed (hvacant number c hslot hc)]
            · rfl
      unfold modifyConn
      rw [hcreated]
  · rfl

theorem detectSlot_cases (h : Pooled pool) (slot : Nat) :
    pool.detectSlot slot = pool ∨
      Not (isConnPendingOrAvailable (pool.conn slot) = true) ∧ Vacant pool slot ∧
        pool.detectSlot slot = pool.fillSlot slot := by
  unfold detectSlot
  split
  · exact Or.inl rfl
  · next hpending =>
      have hvacant := h.vacant hpending
      rw [closeSlot_of_vacant hvacant]
      exact Or.inr ⟨hpending, hvacant, rfl⟩

theorem Pooled.detectSlot (h : Pooled pool) (hslot : slot < pool.connCnt) :
    Pooled (pool.detectSlot slot) ∧ Follows pool (pool.detectSlot slot) := by
  rcases detectSlot_cases h slot with hsame | ⟨_, hvacant, hfill⟩
  · rw [hsame]
    exact ⟨h, Follows.refl pool⟩
  · rw [hfill]
    exact ⟨h.fillSlot hslot hvacant, follows_fillSlot⟩

theorem detectSlot_connCnt (h : Pooled pool) (slot : Nat) :
    (pool.detectSlot slot).connCnt = pool.connCnt := by
  rcases detectSlot_cases h slot with hsame | ⟨_, _, hfill⟩
  · rw [hsame]
  · rw [hfill]
    rfl

/-- A session that is pending or available keeps its slot, whichever slot is looked at. -/
theorem detectSlot_spares (h : Pooled pool) {number : Nat} {c : PoolConn packet}
    (hslot : pool.sessions[slot]? = some (some number))
    (hc : pool.created[number]? = some c)
    (hpending : isConnPendingOrAvailable (some c.session) = true) (other : Nat) :
    (pool.detectSlot other).sessions[slot]? = some (some number) ∧
      (pool.detectSlot other).created[number]? = some c := by
  rcases detectSlot_cases h other with hsame | ⟨hidle, _, hfill⟩
  · rw [hsame]
    exact ⟨hslot, hc⟩
  · have hne : other ≠ slot := by
      intro heq
      rw [heq, conn_eq hslot hc] at hidle
      exact hidle hpending
    rw [hfill, fillSlot_other hne]
    exact ⟨hslot, created_fillSlot hc⟩

theorem Pooled.detectSlots {slots : List Nat} (h : Pooled pool)
    (hslots : forall slot, slot ∈ slots -> slot < pool.connCnt) :
    Pooled (slots.foldl GameServerConnPool.detectSlot pool) ∧
      Follows pool (slots.foldl GameServerConnPool.detectSlot pool) := by
  induction slots generalizing pool with
  | nil => exact ⟨h, Follows.refl pool⟩
  | cons slot rest ih =>
      have hfirst := h.detectSlot (hslots slot List.mem_cons_self)
      have hrest := ih hfirst.1 (fun other hother => by
        rw [detectSlot_connCnt h slot]
        exact hslots other (List.mem_cons_of_mem slot hother))
      exact ⟨hrest.1, hfirst.2.trans hrest.2⟩

theorem detectSlots_spare {slots : List Nat} (h : Pooled pool)
    (hslots : forall slot, slot ∈ slots -> slot < pool.connCnt) {number : Nat}
    {c : PoolConn packet} (hslot : pool.sessions[slot]? = some (some number))
    (hc : pool.created[number]? = some c)
    (hpending : isConnPendingOrAvailable (some c.session) = true) :
    (slots.foldl detectSlot pool).sessions[slot]? = some (some number) ∧
      (slots.foldl detectSlot pool).created[number]? = some c := by
  induction slots generalizing pool with
  | nil => exact ⟨hslot, hc⟩
  | cons first rest ih =>
      have hfirst := h.detectSlot (hslots first List.mem_cons_self)
      have hspared := detectSlot_spares h hslot hc hpending first
      exact ih hfirst.1
        (fun other hother => by
          rw [detectSlot_connCnt h first]
          exact hslots other (List.mem_cons_of_mem first hother))
        hspared.1 hspared.2

theorem Pooled.detection (h : Pooled pool) :
    Pooled pool.detection ∧ Follows pool pool.detection :=
  h.detectSlots fun _ hslot => List.mem_range.mp hslot

end Detection

/-!
## Runs
-/

section Runs

variable {pool : GameServerConnPool packet}

theorem Pooled.fillSlots {slots : List Nat} (h : Pooled pool) (hnodup : slots.Nodup)
    (hslots : forall slot, slot ∈ slots ->
      slot < pool.connCnt ∧ pool.sessions[slot]? = some none) :
    Pooled (slots.foldl GameServerConnPool.fillSlot pool) := by
  induction slots generalizing pool with
  | nil => exact h
  | cons slot rest ih =>
      obtain ⟨hfirst, hrest⟩ := List.nodup_cons.mp hnodup
      obtain ⟨hslot, hnone⟩ := hslots slot List.mem_cons_self
      have hvacant : Vacant pool slot := by
        intro number c hsome
        rw [hnone] at hsome
        cases hsome
      apply ih (h.fillSlot hslot hvacant) hrest
      intro other hother
      obtain ⟨hlt, hempty⟩ := hslots other (List.mem_cons_of_mem slot hother)
      have hne : slot ≠ other := fun heq => hfirst (heq ▸ hother)
      exact ⟨hlt, (fillSlot_other hne).trans hempty⟩

theorem pooled_init (n : Nat) : Pooled (init n : GameServerConnPool packet) := by
  apply (pooled_empty n).fillSlots List.nodup_range
  intro slot hslot
  have hlt := List.mem_range.mp hslot
  exact ⟨hlt, List.getElem?_replicate_of_lt hlt⟩

theorem Pooled.postMessage (h : Pooled pool) (p : packet) :
    Pooled (pool.postMessage p).1 ∧ Follows pool (pool.postMessage p).1 := by
  have hselected : Pooled pool.selectConnUnsafe.1 :=
    ⟨h.length, h.settled, h.current, h.retired⟩
  unfold GameServerConnPool.postMessage
  dsimp only
  split
  · exact ⟨hselected, Follows.refl pool⟩
  · next number _ =>
      have hsettled : forall s : ClientSession packet, s.Settled ->
          (s.sendData p).Settled :=
        fun s hs => hs.next (ClientSession.ClientInput.sends p)
      have hclosed : forall s : ClientSession packet, s.Settled ->
          s.getState = ClientSessionState.closed ->
            (s.sendData p).getState = ClientSessionState.closed :=
        fun s hs hstate => hs.next_closed hstate (ClientSession.ClientInput.sends p)
      exact ⟨hselected.modifyConn number hsettled hclosed,
        follows_modifyConn hselected number hclosed⟩

theorem Pooled.next (h : Pooled pool) (input : PoolInput packet) :
    Pooled (pool.next input) ∧ Follows pool (pool.next input) := by
  cases input with
  | session number input =>
      have hclosed : forall s : ClientSession packet, s.Settled ->
          s.getState = ClientSessionState.closed ->
            (s.next input).getState = ClientSessionState.closed :=
        fun s hs hstate => hs.next_closed hstate input
      exact ⟨h.modifyConn number (fun s hs => hs.next input) hclosed,
        follows_modifyConn h number hclosed⟩
  | posts p => exact h.postMessage p
  | detects => exact h.detection

theorem Pooled.run (h : Pooled pool) (inputs : List (PoolInput packet)) :
    Pooled (pool.run inputs) ∧ Follows pool (pool.run inputs) := by
  induction inputs generalizing pool with
  | nil => exact ⟨h, Follows.refl pool⟩
  | cons input rest ih =>
      have hfirst := h.next input
      have hrest := ih hfirst.1
      exact ⟨hrest.1, hfirst.2.trans hrest.2⟩

/-- Sessions that are closed in a pool are closed in a later one. -/
def StaysClosed (pool later : GameServerConnPool packet) : Prop :=
  forall (number : Nat) (c : PoolConn packet), pool.created[number]? = some c ->
    c.session.getState = ClientSessionState.closed ->
      exists c', later.created[number]? = some c' ∧ c'.slot = c.slot ∧
        c'.session.getState = ClientSessionState.closed

/-- A detection round leaves the slots of sessions that are pending or available. -/
def SparesPending (pool : GameServerConnPool packet) : Prop :=
  forall (slot number : Nat) (c : PoolConn packet),
    pool.sessions[slot]? = some (some number) -> pool.created[number]? = some c ->
      isConnPendingOrAvailable (some c.session) = true ->
        pool.detection.sessions[slot]? = some (some number) ∧
          pool.detection.created[number]? = some c

/-- What was created for a slot and is not in it is closed, and so is its socket. -/
structure OneConnPerSlot (pool : GameServerConnPool packet) : Prop where
  replaced : forall (number : Nat) (c : PoolConn packet),
    pool.created[number]? = some c ->
      pool.sessions[c.slot]? ≠ some (some number) ->
        c.session.getState = ClientSessionState.closed ∧ c.session.socketOpen = false
  live : forall (number other : Nat) (c d : PoolConn packet),
    pool.created[number]? = some c -> pool.created[other]? = some d ->
      c.slot = d.slot -> c.session.socketOpen = true ->
        d.session.socketOpen = true -> number = other

theorem Pooled.sparesPending (h : Pooled pool) : SparesPending pool := by
  intro slot number c hslot hc hpending
  exact detectSlots_spare h (fun _ hother => List.mem_range.mp hother) hslot hc hpending

theorem Pooled.oneConnPerSlot (h : Pooled pool) : OneConnPerSlot pool := by
  have hreplaced : forall (number : Nat) (c : PoolConn packet),
      pool.created[number]? = some c ->
        pool.sessions[c.slot]? ≠ some (some number) ->
          c.session.getState = ClientSessionState.closed ∧
            c.session.socketOpen = false := by
    intro number c hc hother
    cases h.retired hc with
    | inl hcurrent => exact absurd hcurrent hother
    | inr hclosed => exact ⟨hclosed, (h.settled hc).socket hclosed⟩
  have hcurrent : forall (number : Nat) (c : PoolConn packet),
      pool.created[number]? = some c -> c.session.socketOpen = true ->
        pool.sessions[c.slot]? = some (some number) := by
    intro number c hc hopen
    by_contra hother
    rw [(hreplaced number c hc hother).2] at hopen
    cases hopen
  refine ⟨hreplaced, ?_⟩
  intro number other c d hc hd hslot hopen hopen'
  have hfirst := hcurrent number c hc hopen
  have hsecond := hcurrent other d hd hopen'
  rw [hslot, hsecond] at hfirst
  cases hfirst
  rfl

theorem run_one_conn_per_slot (n : Nat) (before after : List (PoolInput packet)) :
    StaysClosed ((init n).run before) (((init n).run before).run after) ∧
      SparesPending ((init n).run before) ∧ OneConnPerSlot ((init n).run before) := by
  have hpooled := ((pooled_init n).run before).1
  refine ⟨?_, hpooled.sparesPending, hpooled.oneConnPerSlot⟩
  intro number c hc hclosed
  obtain ⟨c', hc', hslot, hstays⟩ := (hpooled.run after).2 number c hc
  exact ⟨c', hc', hslot, hstays hclosed⟩

/-- A session that could not read its configuration is replaced. -/
example :
    ((init 1 : GameServerConnPool Unit).run
      [PoolInput.session 0 (ClientSession.ClientInput.connectRuns
          ConfigResult.notLoaded () ()),
        PoolInput.detects]).sessions = [some 1] := rfl

end Runs

end GameServerConnPool

end RtsGame
