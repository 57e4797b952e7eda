import RtsGame.Server.GameServer

/-!
# A network shard and its gateway links

One thread runs everything on a network shard: the acceptor, the sessions of
the links and the tasks that logic shards post.  What interleaves are the
handlers.  A coroutine is therefore modelled by the point at which it is
suspended, an outstanding operation completes before its handler runs, and a
handler that is ready runs when the input says so.  An input whose operation is
not outstanding changes nothing, so a list of inputs is any order of handlers.

Sessions are numbered in the order in which they are made; a number stands for
a shared pointer.  The generation of a slot counts how often it has been bound
and is taken not to reach 2 ^ 64.
-/

namespace RtsGame

inductive SlotState where
  | empty
  | accepting
  | connected
  | closing
  | closed
deriving DecidableEq, Repr

structure GatewayLinkSlot where
  state : SlotState
  linkId : Nat
  generation : Nat
  session : Option Nat
deriving DecidableEq, Repr

inductive SessionState where
  | invalid
  | connected
  | loggedIn
  | closing
  | closed
deriving DecidableEq, Repr

/-- An asynchronous operation whose handler has not run. -/
inductive Completion (α : Type) where
  | waiting
  | ready (result : α)
  | failed

/--
Where `handle_read` is suspended.  A header is a message id with a length, or
nothing if `ReadHead` refuses it.
-/
inductive ReadPoint (B : Type) where
  | returned
  | spawned
  | head (completion : Completion (Option (MsgId × Nat)))
  | body (msgId : MsgId) (completion : Completion B)

/-- Where `start_write_loop` is suspended. -/
inductive WritePoint where
  | returned
  | spawned
  | writing
deriving DecidableEq, Repr

structure GatewayLinkSession (B P : Type) where
  slotId : Nat
  generation : Nat
  state : SessionState
  read : ReadPoint B
  sendQue : List P
  isWriting : Bool
  write : WritePoint

structure NetworkSendTarget where
  linkId : Nat
  generation : Nat
  uids : List Nat
deriving DecidableEq, Repr

structure NetworkTask (P : Type) where
  msgId : UInt16
  seq : Nat
  targets : List NetworkSendTarget
  body : P

def kMaxSendQueueDepth : Nat := 2048

/-- What a network shard takes from the generated protocol code. -/
structure LinkCodec (B P F : Type) where
  codec : Codec B F
  noBody : B
  buildPongRsp : Nat -> Nat -> Option P
  buildGameToGatewayEnvelope : NetworkTask P -> List Nat -> Option P

structure NetworkShard (B P : Type) where
  shardId : Nat
  logicShardCount : Nat
  slotCount : Nat
  slots : Nat -> GatewayLinkSlot
  sessions : Nat -> GatewayLinkSession B P
  sessionCount : Nat
  stopping : Bool
  acceptorOpen : Bool
  acceptPosted : Bool
  retryArmed : Bool
  closePosted : Bool
  accepts : List (Nat × Nat × Nat)

/--
What a shard does to the outside: a task with a route is posted to a logic
shard, a disconnect notice is posted to all of them, a packet is put on a
session for a target.  The session of `forwarded` is the one that received the
packet.
-/
inductive LinkEvent (B P : Type) where
  | forwarded (session : Nat) (task : LogicTask B)
  | disconnected (body : B)
  | enqueued (session : Nat) (target : NetworkSendTarget) (packet : P)

namespace ReadPoint

variable {B : Type}

/-- `socket_.cancel`: what is outstanding fails, what is ready stays ready. -/
def cancel : ReadPoint B -> ReadPoint B
  | head Completion.waiting => head Completion.failed
  | body msgId Completion.waiting => body msgId Completion.failed
  | point => point

end ReadPoint

namespace NetworkShard

variable {B P F : Type}

def emptySlot : GatewayLinkSlot := ⟨SlotState.empty, 0, 0, none⟩

/-- A session that has just been bound. -/
def newSession (slotId generation : Nat) : GatewayLinkSession B P :=
  ⟨slotId, generation, SessionState.invalid, ReadPoint.returned, [], false,
    WritePoint.returned⟩

def create (shardId logicShardCount maxLinks : Nat) : NetworkShard B P where
  shardId := shardId
  logicShardCount := logicShardCount
  slotCount := maxLinks
  slots := fun _ => emptySlot
  sessions := fun _ => newSession 0 0
  sessionCount := 0
  stopping := true
  acceptorOpen := false
  acceptPosted := false
  retryArmed := false
  closePosted := false
  accepts := []

def setSlot (n : NetworkShard B P) (i : Nat) (slot : GatewayLinkSlot) :
    NetworkShard B P :=
  { n with slots := Function.update n.slots i slot }

def setSession (n : NetworkShard B P) (s : Nat)
    (session : GatewayLinkSession B P) : NetworkShard B P :=
  { n with sessions := Function.update n.sessions s session }

/-- A session that is neither closing nor closed. -/
def IsOpen (session : GatewayLinkSession B P) : Prop :=
  session.state ≠ SessionState.closing ∧ session.state ≠ SessionState.closed

instance (session : GatewayLinkSession B P) : Decidable (IsOpen session) :=
  inferInstanceAs (Decidable (_ ∧ _))

def IsAvailable (session : GatewayLinkSession B P) : Prop :=
  session.state = SessionState.connected

instance (session : GatewayLinkSession B P) : Decidable (IsAvailable session) :=
  inferInstanceAs (Decidable (_ = _))

/-!
## Slots
-/

def findAvailableSlot (n : NetworkShard B P) : Option Nat :=
  (List.range n.slotCount).find? fun i =>
    (n.slots i).state = SlotState.empty ∨ (n.slots i).state = SlotState.closed

def onSessionClosed (n : NetworkShard B P) (slotId generation : Nat) :
    NetworkShard B P :=
  if n.slotCount ≤ slotId then n
  else if (n.slots slotId).generation ≠ generation then n
  else
    n.setSlot slotId
      { n.slots slotId with state := SlotState.closed, session := none }

/-- What `Close` does to the session itself, before it tells the owner. -/
def shut (session : GatewayLinkSession B P) : GatewayLinkSession B P :=
  { session with
    state := SessionState.closed
    read := session.read.cancel
    sendQue := []
    isWriting := false }

def close (n : NetworkShard B P) (s : Nat) : NetworkShard B P :=
  let session := n.sessions s
  if IsOpen session then
    (n.setSession s (shut session)).onSessionClosed session.slotId
      session.generation
  else n

/-- Close the session of a slot and let go of it. -/
def closeSlot (n : NetworkShard B P) (i : Nat) : NetworkShard B P :=
  let closed :=
    match (n.slots i).session with
    | some s => n.close s
    | none => n
  closed.setSlot i
    { closed.slots i with state := SlotState.closed, session := none }

def doAccept (n : NetworkShard B P) : NetworkShard B P :=
  if n.stopping ∨ ¬ n.acceptorOpen then n
  else
    match n.findAvailableSlot with
    | none => { n with retryArmed := true }
    | some i =>
        let generation := (n.slots i).generation + 1
        let s := n.sessionCount
        { n with
          slots := Function.update n.slots i
            ⟨SlotState.accepting, i, generation, some s⟩
          sessions := Function.update n.sessions s (newSession i generation)
          sessionCount := s + 1
          accepts := n.accepts ++ [(s, i, generation)] }

def start (n : NetworkShard B P) (s : Nat) : NetworkShard B P :=
  n.setSession s
    { n.sessions s with
      state := SessionState.connected
      read := ReadPoint.spawned }

/-- How an accept ends. -/
inductive AcceptResult where
  | accepted
  | aborted
  | failed
deriving DecidableEq, Repr

/-- The handler of an accept for a slot at a generation. -/
def handleAccept (n : NetworkShard B P) (i generation : Nat) :
    AcceptResult -> NetworkShard B P
  | AcceptResult.accepted =>
      let connected :=
        if (n.slots i).generation = generation ∧
            (n.slots i).state = SlotState.accepting then
          match (n.slots i).session with
          | none => n
          | some s =>
              (n.setSlot i
                { n.slots i with state := SlotState.connected }).start s
        else n
      if n.stopping then connected else connected.doAccept
  | AcceptResult.aborted =>
      if (n.slots i).generation = generation then n.closeSlot i else n
  | AcceptResult.failed =>
      let closed :=
        if (n.slots i).generation = generation then n.closeSlot i else n
      if n.stopping then closed else closed.doAccept

/-- The slot is left alone, closed or connected; then the next accept may start. -/
theorem handleAccept_cases (n : NetworkShard B P) (i generation : Nat)
    (result : AcceptResult) :
    exists m,
      (m = n ∨ m = n.closeSlot i ∨
        exists s, (n.slots i).session = some s ∧
          m = (n.setSlot i { n.slots i with state := SlotState.connected }).start s) ∧
      (n.handleAccept i generation result = m ∨
        n.handleAccept i generation result = m.doAccept) := by
  have hnext : forall m : NetworkShard B P,
      (if n.stopping then m else m.doAccept) = m ∨
        (if n.stopping then m else m.doAccept) = m.doAccept := by
    intro m
    split
    · exact Or.inl rfl
    · exact Or.inr rfl
  cases result with
  | accepted =>
      by_cases hslot : (n.slots i).generation = generation ∧
          (n.slots i).state = SlotState.accepting
      · cases hsession : (n.slots i).session with
        | none =>
            refine ⟨n, Or.inl rfl, ?_⟩
            simp only [handleAccept, if_pos hslot, hsession]
            exact hnext n
        | some s =>
            refine ⟨_, Or.inr (Or.inr ⟨s, rfl, rfl⟩), ?_⟩
            simp only [handleAccept, if_pos hslot, hsession]
            exact hnext _
      · refine ⟨n, Or.inl rfl, ?_⟩
        simp only [handleAccept, if_neg hslot]
        exact hnext n
  | aborted =>
      by_cases hslot : (n.slots i).generation = generation
      · exact ⟨n.closeSlot i, Or.inr (Or.inl rfl), Or.inl (if_pos hslot)⟩
      · exact ⟨n, Or.inl rfl, Or.inl (if_neg hslot)⟩
  | failed =>
      by_cases hslot : (n.slots i).generation = generation
      · refine ⟨n.closeSlot i, Or.inr (Or.inl rfl), ?_⟩
        simp only [handleAccept, if_pos hslot]
        exact hnext _
      · refine ⟨n, Or.inl rfl, ?_⟩
        simp only [handleAccept, if_neg hslot]
        exact hnext n

/-!
## Sending
-/

def postSend (n : NetworkShard B P) (s : Nat) (packet : P) : NetworkShard B P :=
  let session := n.sessions s
  if IsOpen session then
    let kept :=
      if session.sendQue.length ≥ kMaxSendQueueDepth then session.sendQue.tail
      else session.sendQue
    n.setSession s
      { session with
        sendQue := kept ++ [packet]
        isWriting := true
        write := if session.isWriting then session.write else WritePoint.spawned }
  else n

/-- The slot has a session that can send. -/
def sender (n : NetworkShard B P) (linkId : Nat) : Option Nat :=
  match (n.slots linkId).session with
  | none => none
  | some s =>
      if (n.slots linkId).state = SlotState.connected ∧
          IsAvailable (n.sessions s) then some s
      else none

def sendToGatewayLink (n : NetworkShard B P) (linkId : Nat) (packet : P) :
    NetworkShard B P :=
  if n.slotCount ≤ linkId then n
  else
    match n.sender linkId with
    | none => n
    | some s => n.postSend s packet

/-- One round of the loop over the targets of a task. -/
def sendToTarget (lc : LinkCodec B P F) (task : NetworkTask P)
    (n : NetworkShard B P) (target : NetworkSendTarget) :
    NetworkShard B P × List (LinkEvent B P) :=
  if n.slotCount ≤ target.linkId then (n, [])
  else if (n.slots target.linkId).generation ≠ target.generation then (n, [])
  else
    match n.sender target.linkId with
    | none => (n, [])
    | some s =>
        match lc.buildGameToGatewayEnvelope task target.uids with
        | none => (n, [])
        | some packet =>
            (n.postSend s packet, [LinkEvent.enqueued s target packet])

def handleNetworkTask (lc : LinkCodec B P F) (n : NetworkShard B P)
    (task : NetworkTask P) : NetworkShard B P × List (LinkEvent B P) :=
  if n.stopping then (n, [])
  else runMachine (sendToTarget lc task) n task.targets

/-- The write loop takes the next packet or returns. -/
def writeNext (n : NetworkShard B P) (s : Nat) : NetworkShard B P :=
  let session := n.sessions s
  match session.sendQue with
  | [] =>
      n.setSession s
        { session with isWriting := false, write := WritePoint.returned }
  | _ :: rest =>
      if IsOpen session then
        n.setSession s
          { session with sendQue := rest, write := WritePoint.writing }
      else
        n.setSession s
          { session with isWriting := false, write := WritePoint.returned }

def writeFails (n : NetworkShard B P) (s : Nat) : NetworkShard B P :=
  (n.setSession s
    { n.sessions s with
      isWriting := false
      write := WritePoint.returned }).close s

/-!
## Receiving
-/

def makeRoute (n : NetworkShard B P) (linkId : Nat) : GatewayRoute :=
  ⟨n.shardId, linkId,
    if linkId < n.slotCount then (n.slots linkId).generation else 0⟩

/-- The task that `ForwardToLogic` posts. -/
def forwardToLogic (lc : LinkCodec B P F) (n : NetworkShard B P) (s linkId : Nat)
    (msgId : MsgId) (seq : Nat) (body : B) : List (LinkEvent B P) :=
  match GameServer.parseGateToGameEnvelope lc.codec body with
  | none => []
  | some (envelope, _) =>
      if envelope.uid = 0 then []
      else if n.logicShardCount = 0 then []
      else
        [LinkEvent.forwarded s
          ⟨msgId, envelope.uid, seq, n.makeRoute linkId, body⟩]

def handlePingReq (lc : LinkCodec B P F) (n : NetworkShard B P)
    (linkId nowUnixMs : Nat) (body : B) : NetworkShard B P :=
  match lc.codec.pingReq body with
  | none => n
  | some clientTimeMs =>
      match lc.buildPongRsp clientTimeMs nowUnixMs with
      | none => n
      | some packet => n.sendToGatewayLink linkId packet

def handleClientDisconnected (lc : LinkCodec B P F) (body : B) :
    List (LinkEvent B P) :=
  match lc.codec.disconnectedUid body with
  | none => []
  | some uid => if uid = 0 then [] else [LinkEvent.disconnected body]

/-- The message that a packet is dispatched as, with its sequence number. -/
def dispatched (lc : LinkCodec B P F) (msgId : MsgId) (seq : Nat) (body : B) :
    Option (MsgId × Nat) :=
  if msgId = MsgId.gateToGameEnvelope then
    match GameServer.parseGateToGameEnvelope lc.codec body with
    | none => none
    | some (envelope, innerMsgId) => some (innerMsgId, envelope.clientSeq)
  else some (msgId, seq)

def onPacket (lc : LinkCodec B P F) (n : NetworkShard B P) (s linkId : Nat)
    (nowUnixMs : Nat) (msgId : MsgId) (seq : Nat) (body : B) :
    NetworkShard B P × List (LinkEvent B P) :=
  if n.stopping then (n, [])
  else
    match dispatched lc msgId seq body with
    | none => (n, [])
    | some (dispatchMsgId, dispatchSeq) =>
        match dispatchMsgId with
        | MsgId.pingReq => (n.handlePingReq lc linkId nowUnixMs body, [])
        | MsgId.clientDisconnectedNtf => (n, handleClientDisconnected lc body)
        | MsgId.gateToGameEnvelope => (n, [])
        | MsgId.other => (n, [])
        | dispatchMsgId =>
            (n, n.forwardToLogic lc s linkId dispatchMsgId dispatchSeq body)

def setRead (n : NetworkShard B P) (s : Nat) (point : ReadPoint B) :
    NetworkShard B P :=
  n.setSession s { n.sessions s with read := point }

/-- The head of the loop of `handle_read`. -/
def readNext (n : NetworkShard B P) (s : Nat) : NetworkShard B P :=
  if IsOpen (n.sessions s) then n.setRead s (ReadPoint.head Completion.waiting)
  else n.setRead s ReadPoint.returned

/-- A packet is complete: hand it over and read the next one. -/
def deliver (lc : LinkCodec B P F) (n : NetworkShard B P) (s nowUnixMs : Nat)
    (msgId : MsgId) (body : B) : NetworkShard B P × List (LinkEvent B P) :=
  let handed := n.onPacket lc s (n.sessions s).slotId nowUnixMs msgId 0 body
  (handed.1.readNext s, handed.2)

def readFails (n : NetworkShard B P) (s : Nat) : NetworkShard B P :=
  (n.close s).setRead s ReadPoint.returned

/-- `handle_read` continues; the session is checked after a header only. -/
def handleRead (lc : LinkCodec B P F) (n : NetworkShard B P) (s nowUnixMs : Nat) :
    NetworkShard B P × List (LinkEvent B P) :=
  match (n.sessions s).read with
  | ReadPoint.returned => (n, [])
  | ReadPoint.spawned => (n.readNext s, [])
  | ReadPoint.head Completion.waiting => (n, [])
  | ReadPoint.head Completion.failed => (n.readFails s, [])
  | ReadPoint.head (Completion.ready none) => (n.readFails s, [])
  | ReadPoint.head (Completion.ready (some (msgId, len))) =>
      if ¬ IsOpen (n.sessions s) then (n.setRead s ReadPoint.returned, [])
      else if len = 0 then n.deliver lc s nowUnixMs msgId lc.noBody
      else (n.setRead s (ReadPoint.body msgId Completion.waiting), [])
  | ReadPoint.body _ Completion.waiting => (n, [])
  | ReadPoint.body _ Completion.failed => (n.readFails s, [])
  | ReadPoint.body msgId (Completion.ready body) =>
      n.deliver lc s nowUnixMs msgId body

/-!
## Runs
-/

/--
What can happen next: a call from outside, the end of an operation, or the
handler of an operation that has ended.
-/
inductive LinkInput (B P : Type) where
  | start
  | stop
  | postedAccept
  | postedClose
  | retry
  | acceptEnds (session : Nat) (result : AcceptResult)
  | headArrives (session : Nat) (header : Option (MsgId × Nat))
  | bodyArrives (session : Nat) (body : B)
  | readBreaks (session : Nat)
  | readRuns (session : Nat) (nowUnixMs : Nat)
  | writeRuns (session : Nat)
  | writeEnds (session : Nat) (ok : Bool)
  | task (task : NetworkTask P)

def handle (lc : LinkCodec B P F) (n : NetworkShard B P) :
    LinkInput B P -> NetworkShard B P × List (LinkEvent B P)
  | LinkInput.start =>
      ({ n with stopping := false, acceptorOpen := true, acceptPosted := true }, [])
  | LinkInput.stop =>
      if n.stopping then (n, [])
      else ({ n with stopping := true, closePosted := true }, [])
  | LinkInput.postedAccept =>
      if n.acceptPosted then ({ n with acceptPosted := false }.doAccept, [])
      else (n, [])
  | LinkInput.postedClose =>
      if n.closePosted then
        ((List.range n.slotCount).foldl closeSlot
          { n with
            closePosted := false, acceptorOpen := false, retryArmed := false }, [])
      else (n, [])
  | LinkInput.retry =>
      if n.retryArmed then
        let fired := { n with retryArmed := false }
        (if n.stopping then fired else fired.doAccept, [])
      else (n, [])
  | LinkInput.acceptEnds s result =>
      match n.accepts.find? fun accept => accept.1 = s with
      | none => (n, [])
      | some (_, i, generation) =>
          ({ n with
            accepts := n.accepts.filter fun accept => accept.1 ≠ s }.handleAccept
              i generation result, [])
  | LinkInput.headArrives s header =>
      match (n.sessions s).read with
      | ReadPoint.head Completion.waiting =>
          (n.setRead s (ReadPoint.head (Completion.ready header)), [])
      | _ => (n, [])
  | LinkInput.bodyArrives s body =>
      match (n.sessions s).read with
      | ReadPoint.body msgId Completion.waiting =>
          (n.setRead s (ReadPoint.body msgId (Completion.ready body)), [])
      | _ => (n, [])
  | LinkInput.readBreaks s =>
      (n.setRead s (n.sessions s).read.cancel, [])
  | LinkInput.readRuns s nowUnixMs => n.handleRead lc s nowUnixMs
  | LinkInput.writeRuns s =>
      if (n.sessions s).write = WritePoint.spawned then (n.writeNext s, [])
      else (n, [])
  | LinkInput.writeEnds s ok =>
      if (n.sessions s).write = WritePoint.writing then
        (if ok then n.writeNext s else n.writeFails s, [])
      else (n, [])
  | LinkInput.task task => n.handleNetworkTask lc task

/-- Make a shard and let things happen in the given order. -/
def run (lc : LinkCodec B P F) (shardId logicShardCount maxLinks : Nat)
    (inputs : List (LinkInput B P)) : NetworkShard B P × List (LinkEvent B P) :=
  runMachine (handle lc) (create shardId logicShardCount maxLinks) inputs

end NetworkShard

/-- A packet that has not been turned into bytes, for concrete runs. -/
inductive OutPacket where
  | message (msgId : MsgId)
  | pongRsp (clientTimeMs serverTimeMs : Nat)
  | gameToGateEnvelope (targetUids : List Nat) (innerMsgId : UInt16)
      (serverTick : Nat) (payload : OutPacket)

def OutPacket.codec {F : Type} [Scalar F] : LinkCodec (Wire F) OutPacket F where
  codec := Wire.codec
  noBody := Wire.empty
  buildPongRsp := fun clientTimeMs serverTimeMs =>
    some (pongRsp clientTimeMs serverTimeMs)
  buildGameToGatewayEnvelope := fun task targetUids =>
    some (gameToGateEnvelope targetUids task.msgId task.seq task.body)

end RtsGame
