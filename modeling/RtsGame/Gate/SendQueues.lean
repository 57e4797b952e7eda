import RtsGame.Gate.ClientSession
import RtsGame.Gate.Cluster
import RtsGame.Library.Script
import RtsGame.Wire.Messages

/-!
# The send queues of the three sessions

Links of the game server, clients of the gateway and connections of its pools
all send through a bounded queue and a loop that writes.  All three keep the
protocol.  What they drop when the queue is full is whatever is oldest, so that
more than snapshots can be lost.
-/

namespace RtsGame

/-!
## Sessions that write while they are open
-/

/-- A session that takes and writes packets until it is closed. -/
def SessionState.outlet (clears : Bool) : Outlet SessionState where
  depth := kMaxSendQueueDepth
  takes := fun s => !(s = SessionState.closing || s = SessionState.closed)
  writes := fun s => !(s = SessionState.closing || s = SessionState.closed)
  isClosed := fun s => s = SessionState.closing || s = SessionState.closed
  busy := id
  rest := id
  failed := id
  closed := SessionState.closed
  clears := clears

theorem SessionState.outlet_lawful (clears : Bool) : (SessionState.outlet clears).Lawful where
  depth := show 0 < kMaxSendQueueDepth by decide
  closed := rfl
  silent := by
    intro s h
    simp only [SessionState.outlet] at h ⊢
    rw [h]
    rfl
  open_takes := by
    intro s h
    simp only [SessionState.outlet] at h ⊢
    rw [h]
    rfl
  takes_closed := fun _ => rfl
  busy := fun _ h => h
  rest_writes := fun _ => rfl
  rest_takes := fun _ => rfl
  failed_takes := fun _ h => h

/-!
## Links of the game server
-/

namespace GatewayLinkSession

/-- Closing empties the queue and lowers the flag. -/
def outlet : Outlet SessionState := SessionState.outlet true

theorem outlet_lawful : outlet.Lawful := SessionState.outlet_lawful true

end GatewayLinkSession

/-!
## Clients of the gateway
-/

namespace Csession

/-- Closing leaves the queue and the flag alone. -/
def outlet : Outlet SessionState := SessionState.outlet false

theorem outlet_lawful : outlet.Lawful := SessionState.outlet_lawful false

end Csession

/-!
## Connections of the pools
-/

namespace ClientSession

variable {packet : Type}

/-- Anything that happens to a session, or a call of `close`. -/
inductive ClientCall (packet : Type) where
  | event (input : ClientInput packet)
  | closes

def called (s : ClientSession packet) : ClientCall packet -> ClientSession packet
  | ClientCall.event input => s.next input
  | ClientCall.closes => s.close

/-- The packets that a call passes to `SendData`. -/
def posts (s : ClientSession packet) : ClientCall packet -> List packet
  | ClientCall.event (ClientInput.connectRuns _ hello ping) =>
      match s.connect with
      | ConnectPoint.connecting (Completion.ready _) => if s.isClosed then [] else [hello, ping]
      | _ => []
  | ClientCall.event (ClientInput.aliveRuns late ping) =>
      match s.alive with
      | AlivePoint.expired => if late then [] else [ping]
      | _ => []
  | ClientCall.event (ClientInput.sends p) => [p]
  | _ => []

theorem close_posted (s : ClientSession packet) : s.close.outbox.posted = s.outbox.posted := by
  unfold close
  split
  · rfl
  · exact Outlet.close_posted outlet s.outbox

theorem sendData_posted (s : ClientSession packet) (p : packet) :
    (s.sendData p).outbox.posted = s.outbox.posted ++ [p] :=
  Outlet.send_posted outlet s.outbox p

theorem handleconnect_posted (s : ClientSession packet) (config : ConfigResult)
    (hello ping : packet) :
    (s.handleconnect config hello ping).outbox.posted =
      s.outbox.posted ++
        s.posts (ClientCall.event (ClientInput.connectRuns config hello ping)) := by
  simp only [handleconnect, posts]
  cases s.connect with
  | spawned =>
      rw [List.append_nil]
      cases config with
      | usable => rfl
      | notLoaded => exact close_posted _
      | invalidPort => exact close_posted _
      | throws =>
          simp only [startConnect]
          split
          · rfl
          · exact close_posted _
  | returned => exact (List.append_nil _).symm
  | connecting completion =>
      cases completion with
      | waiting => exact (List.append_nil _).symm
      | failed =>
          simp only [finishConnect, List.append_nil]
          split
          · rfl
          · rw [if_neg Bool.false_ne_true]
            exact close_posted _
      | ready _ =>
          unfold finishConnect
          dsimp only
          split
          · exact (List.append_nil _).symm
          · rw [if_pos rfl]
            change (sendData (sendData _ hello) ping).outbox.posted = _
            rw [sendData_posted, sendData_posted, List.append_assoc]
            rfl

theorem called_posted (s : ClientSession packet) (call : ClientCall packet) :
    (s.called call).outbox.posted = s.outbox.posted ++ s.posts call := by
  have hnone : s.outbox.posted = s.outbox.posted ++ [] := (List.append_nil _).symm
  cases call with
  | closes => exact (close_posted s).trans hnone
  | event input =>
      cases input with
      | connectRuns config hello ping => exact handleconnect_posted s config hello ping
      | sends p => exact sendData_posted s p
      | aliveRuns late ping =>
          simp only [called, next, keepAlive, posts]
          cases s.alive with
          | expired =>
              dsimp only
              split
              · exact (close_posted _).trans hnone
              · exact sendData_posted s ping
          | failed => exact (close_posted _).trans hnone
          | dispatching =>
              dsimp only
              split
              · exact hnone
              · exact hnone
          | returned => exact hnone
          | waiting => exact hnone
          | aborted => exact hnone
      | connectEnds ok =>
          simp only [called, next, connectEnds, posts]
          split
          · exact hnone
          · exact hnone
      | timeoutRuns =>
          simp only [called, next, connectTimeout, posts]
          split
          · split
            · exact (close_posted _).trans hnone
            · exact hnone
          · exact hnone
          · exact hnone
      | headArrives header =>
          simp only [called, next, headArrives, posts]
          split
          · exact hnone
          · exact hnone
      | bodyArrives =>
          simp only [called, next, bodyArrives, posts]
          split
          · exact hnone
          · exact hnone
      | readRuns =>
          have hclose : s.close.outbox.posted = s.outbox.posted ++ [] :=
            (close_posted s).trans hnone
          simp only [called, next, handleReadTurn, readNext, readFails, posts]
          repeat' split
          all_goals first | exact hnone | exact hclose
      | writeRuns loop ok =>
          have hresume : (outlet.resume s.outbox loop ok).posted = s.outbox.posted ++ [] :=
            (Outlet.resume_posted outlet s.outbox loop ok).trans hnone
          simp only [called, next, writeLoop, posts]
          split
          · split
            · exact hresume
            · exact hresume
          · exact hresume
      | timerExpires => exact hnone
      | timerBreaks => exact hnone
      | readBreaks => exact hnone

/-- What a connection has posted is what its calls have passed to `SendData`. -/
theorem calls_posted (calls : List (ClientCall packet)) :
    (calls.foldl called create).outbox.posted = chronicle called posts create calls :=
  chronicle_invariant (fun (s : ClientSession packet) past => s.outbox.posted = past)
    (fun s call past hpast => by rw [called_posted, hpast]) rfl calls

theorem create_sending : Sending (create : ClientSession packet) :=
  ⟨Outlet.orderly_create outlet _, Outlet.served_create outlet _⟩

theorem calls_sending {s : ClientSession packet} (h : Sending s)
    (calls : List (ClientCall packet)) : Sending (calls.foldl called s) := by
  induction calls generalizing s with
  | nil =>
      exact h
  | cons call rest ih =>
      cases call with
      | event input => exact ih (h.next input)
      | closes => exact ih h.closeAny

end ClientSession

/--
Whatever is sent, completes, fails and closes in whatever order: each of the
three sessions has at most one write outstanding, keeps its queue short, hands
packets over in the order in which they were posted, and has a loop at work
whenever it can write and packets wait.  The packets that were posted are those
of the calls that sent some.
-/
theorem sessions_keep_send_protocol {packet : Type}
    (linkInputs clientInputs : List (Outlet.OutboxInput SessionState packet))
    (backendCalls : List (ClientSession.ClientCall packet)) :
    GatewayLinkSession.outlet.SendProtocol
        (runMachine GatewayLinkSession.outlet.step (Outbox.create SessionState.invalid)
          linkInputs).1 ∧
      Csession.outlet.SendProtocol
        (runMachine Csession.outlet.step (Outbox.create SessionState.invalid)
          clientInputs).1 ∧
      ClientSession.outlet.SendProtocol
        (backendCalls.foldl ClientSession.called ClientSession.create).outbox ∧
      (runMachine GatewayLinkSession.outlet.step (Outbox.create SessionState.invalid)
        linkInputs).1.posted = linkInputs.flatMap Outlet.OutboxInput.packets ∧
      (runMachine Csession.outlet.step (Outbox.create SessionState.invalid)
        clientInputs).1.posted = clientInputs.flatMap Outlet.OutboxInput.packets ∧
      (backendCalls.foldl ClientSession.called ClientSession.create).outbox.posted =
        chronicle ClientSession.called ClientSession.posts ClientSession.create
          backendCalls := by
  have hbackend := ClientSession.calls_sending ClientSession.create_sending backendCalls
  refine ⟨?_, ?_, hbackend.orderly.protocol ClientSession.outlet_lawful hbackend.served,
    Outlet.run_posted _ _ linkInputs, Outlet.run_posted _ _ clientInputs,
    ClientSession.calls_posted backendCalls⟩
  · exact (Outlet.run_orderly GatewayLinkSession.outlet_lawful _ linkInputs).protocol
      GatewayLinkSession.outlet_lawful
      (Outlet.run_served GatewayLinkSession.outlet_lawful rfl _ linkInputs)
  · exact (Outlet.run_orderly Csession.outlet_lawful _ clientInputs).protocol
      Csession.outlet_lawful
      (Outlet.run_served Csession.outlet_lawful rfl _ clientInputs)

/-!
## What a full queue loses
-/

/-- The ids of the notifications whose effect the next full snapshot restores. -/
def restoredBySnapshot (msgId : UInt16) : Bool :=
  msgId = ServerMsgId.entitySpawnNtf || msgId = ServerMsgId.entityDespawnNtf ||
    msgId = ServerMsgId.worldDeltaNtf || msgId = ServerMsgId.snapshotNtf

/--
A packet is an id, that of the message itself or of the one in its envelope,
with a body.  Each of the three sessions drops packets that the next snapshot
restores, and no others, if and only if no other packet still waits when as many
packets as fit into the queue have been posted after it.
-/
theorem sessions_drop_restored_iff {body : Type}
    (linkInputs clientInputs : List (Outlet.OutboxInput SessionState (UInt16 × body)))
    (backendInputs : List (Outlet.OutboxInput ClientSessionState (UInt16 × body))) :
    ((forall p, p ∈ (runMachine GatewayLinkSession.outlet.step
          (Outbox.create SessionState.invalid) linkInputs).1.dropped ->
        restoredBySnapshot p.1 = true) <->
      Along GatewayLinkSession.outlet.step
        (GatewayLinkSession.outlet.InTime fun p => restoredBySnapshot p.1)
        (Outbox.create SessionState.invalid) linkInputs) ∧
    ((forall p, p ∈ (runMachine Csession.outlet.step
          (Outbox.create SessionState.invalid) clientInputs).1.dropped ->
        restoredBySnapshot p.1 = true) <->
      Along Csession.outlet.step
        (Csession.outlet.InTime fun p => restoredBySnapshot p.1)
        (Outbox.create SessionState.invalid) clientInputs) ∧
    ((forall p, p ∈ (runMachine ClientSession.outlet.step
          (Outbox.create ClientSessionState.connecting) backendInputs).1.dropped ->
        restoredBySnapshot p.1 = true) <->
      Along ClientSession.outlet.step
        (ClientSession.outlet.InTime fun p => restoredBySnapshot p.1)
        (Outbox.create ClientSessionState.connecting) backendInputs) := by
  refine ⟨?_, ?_, ?_⟩
  · exact Outlet.run_drops_spare_iff GatewayLinkSession.outlet_lawful _ _ linkInputs
  · exact Outlet.run_drops_spare_iff Csession.outlet_lawful _ _ clientInputs
  · exact Outlet.run_drops_spare_iff ClientSession.outlet_lawful _ _ backendInputs

/-- A client is connected, and other packets wait while the first one is written. -/
def backlog (packets : List (UInt16 × Unit)) :
    List (Outlet.OutboxInput SessionState (UInt16 × Unit)) :=
  Outlet.OutboxInput.becomes SessionState.connected ::
    Outlet.OutboxInput.sends (ServerMsgId.snapshotNtf, ()) :: Outlet.OutboxInput.resumes 0 true ::
      packets.map Outlet.OutboxInput.sends

/-- The packet after those that fill the queue pushes out the first of them. -/
theorem first_dropped (oldest last : UInt16 × Unit) (others : List (UInt16 × Unit))
    (hfull : (oldest :: others).length = kMaxSendQueueDepth) :
    oldest ∈ (runMachine Csession.outlet.step (Outbox.create SessionState.invalid)
      (backlog (oldest :: others) ++ [Outlet.OutboxInput.sends last])).1.dropped := by
  let connected : Outbox SessionState (UInt16 × Unit) :=
    ⟨SessionState.connected, [], true, [LoopPoint.writing (ServerMsgId.snapshotNtf, ())],
      [(ServerMsgId.snapshotNtf, ())], [(Exit.handed, (ServerMsgId.snapshotNtf, ()))], []⟩
  have hfill : (runMachine Csession.outlet.step connected
        ((oldest :: others).map Outlet.OutboxInput.sends)).1.queue =
        oldest :: others ∧
      (runMachine Csession.outlet.step connected
        ((oldest :: others).map Outlet.OutboxInput.sends)).1.state =
        SessionState.connected :=
    Outlet.sends_fill connected rfl (oldest :: others)
      (Nat.le_of_eq ((Nat.zero_add _).trans hfull))
  rw [runMachine_append]
  change oldest ∈ (Csession.outlet.next (runMachine Csession.outlet.step connected
    ((oldest :: others).map Outlet.OutboxInput.sends)).1
    (Outlet.OutboxInput.sends last)).dropped
  generalize (runMachine Csession.outlet.step connected
    ((oldest :: others).map Outlet.OutboxInput.sends)).1 = b at hfill ⊢
  have htakes : Csession.outlet.takes b.state = true := by
    rw [hfill.right]
    rfl
  have hdepth : b.queue.length ≥ Csession.outlet.depth := by
    rw [hfill.left, hfull]
    exact Nat.le_refl kMaxSendQueueDepth
  rw [Outlet.next_dropped]
  simp only [Outlet.losses, Outlet.overflow]
  rw [if_pos htakes, if_pos hdepth, hfill.left]
  exact List.mem_append_right _ List.mem_cons_self

/-- Behind a queue full of snapshots, the end of a game is lost. -/
theorem gameOver_dropped :
    ¬ forall inputs : List (Outlet.OutboxInput SessionState (UInt16 × Unit)),
      forall p, p ∈ (runMachine Csession.outlet.step
        (Outbox.create SessionState.invalid) inputs).1.dropped ->
        restoredBySnapshot p.1 = true := by
  intro h
  have hlost := first_dropped (ServerMsgId.gameOverNtf, ()) (ServerMsgId.snapshotNtf, ())
    (List.replicate (kMaxSendQueueDepth - 1) (ServerMsgId.snapshotNtf, ()))
    (by rw [List.length_cons, List.length_replicate]; rfl)
  have hrestored := h _ _ hlost
  exact absurd hrestored (by decide)

end RtsGame
