import RtsGame.Gate.SendQueues
import RtsGame.Server.Routes

/-!
# The queue of a link

The model of a network shard has the queue of a link, its flag and the point of its one
loop among many other things.  Here it is shown that in every run this queue goes through a
run of the outlet of a link, so that the protocol of sending holds on every link.
-/

namespace RtsGame

namespace GatewayLinkSession

variable {B P : Type}

/-- The loops that a suspended write loop stands for. -/
def LoopsAt : WritePoint -> List (LoopPoint P) -> Prop
  | WritePoint.returned, loops => loops = []
  | WritePoint.spawned, loops => loops = [LoopPoint.spawned]
  | WritePoint.writing, loops => exists p, loops = [LoopPoint.writing p]

/-- The session of a network shard and the queue are in the same state. -/
structure Mirrors (session : GatewayLinkSession B P) (b : Outbox SessionState P) :
    Prop where
  state : b.state = session.state
  queue : b.queue = session.sendQue
  isWriting : b.isWriting = session.isWriting
  loops : LoopsAt session.write b.loops

theorem Mirrors.takes_iff {session : GatewayLinkSession B P}
    {b : Outbox SessionState P} (h : Mirrors session b) :
    outlet.takes b.state = true <-> NetworkShard.IsOpen session := by
  rw [h.state]
  unfold NetworkShard.IsOpen
  simp [outlet, SessionState.outlet]

theorem Mirrors.postSend {n : NetworkShard B P} {s : Nat} {b : Outbox SessionState P}
    (h : Mirrors (n.sessions s) b) (hb : outlet.Orderly b) (p : P) :
    Mirrors ((n.postSend s p).sessions s) (outlet.send b p) := by
  unfold NetworkShard.postSend Outlet.send
  dsimp only
  by_cases hopen : NetworkShard.IsOpen (n.sessions s)
  · have htakes := h.takes_iff.mpr hopen
    rw [if_pos hopen, if_pos htakes]
    simp only [NetworkShard.setSession, Function.update_self]
    refine ⟨h.state, ?_, rfl, ?_⟩
    · change (if b.queue.length ≥ kMaxSendQueueDepth then b.queue.tail else b.queue) ++
        [p] = _
      rw [h.queue]
    · change LoopsAt (if (n.sessions s).isWriting = true then (n.sessions s).write
        else WritePoint.spawned)
        (if b.isWriting = true then b.loops else b.loops ++ [LoopPoint.spawned])
      rw [← h.isWriting]
      split
      · exact h.loops
      · rename_i hidle
        rw [hb.quiet htakes (Bool.eq_false_iff.mpr hidle)]
        rfl
  · rw [if_neg hopen, if_neg (fun htakes => hopen (h.takes_iff.mp htakes))]
    exact ⟨h.state, h.queue, h.isWriting, h.loops⟩

theorem Mirrors.close {n : NetworkShard B P} {s : Nat} {b : Outbox SessionState P}
    (h : Mirrors (n.sessions s) b) :
    Mirrors ((n.close s).sessions s) (outlet.close b) := by
  unfold NetworkShard.close Outlet.close
  dsimp only
  by_cases hopen : NetworkShard.IsOpen (n.sessions s)
  · have hclosed : outlet.isClosed b.state = false := by
      have htakes := h.takes_iff.mpr hopen
      simpa [outlet, SessionState.outlet] using htakes
    have hclears : outlet.clears = true := rfl
    rw [if_pos hopen, if_neg (by rw [hclosed]; exact Bool.false_ne_true), if_pos hclears]
    have hsessions : (((n.setSession s (NetworkShard.shut (n.sessions s))).onSessionClosed
        (n.sessions s).slotId (n.sessions s).generation).sessions s) =
        NetworkShard.shut (n.sessions s) := by
      unfold NetworkShard.onSessionClosed
      split
      · exact Function.update_self _ _ _
      · split
        · exact Function.update_self _ _ _
        · exact Function.update_self _ _ _
    rw [hsessions]
    exact ⟨rfl, rfl, rfl, h.loops⟩
  · have hclosed : outlet.isClosed b.state = true := by
      by_contra hne
      exact hopen (h.takes_iff.mp (outlet_lawful.open_takes _ (Bool.eq_false_iff.mpr hne)))
    rw [if_neg hopen, if_pos hclosed]
    exact h

/-- The only loop of a session takes its turn. -/
theorem Mirrors.writeNext {n : NetworkShard B P} {s : Nat} {b : Outbox SessionState P}
    (h : Mirrors (n.sessions s) b) (hb : outlet.Orderly b) (hloop : b.loops ≠ []) :
    Mirrors ((n.writeNext s).sessions s) (outlet.turn b 0) := by
  have hone : exists point, b.loops = [point] := by
    cases hl : b.loops with
    | nil => exact absurd hl hloop
    | cons point rest =>
        have hsingle := hb.single
        rw [hl, List.length_cons] at hsingle
        rw [List.eq_nil_of_length_eq_zero (by lia : rest.length = 0)]
        exact ⟨point, rfl⟩
  rcases hone with ⟨point, hpoint⟩
  have hnil : b.loops.eraseIdx 0 = [] := by
    rw [hpoint]
    rfl
  cases hqueue : b.queue with
  | nil =>
      have hsend : (n.sessions s).sendQue = [] := h.queue.symm.trans hqueue
      simp only [NetworkShard.writeNext, Outlet.turn, hsend, hqueue,
        NetworkShard.setSession, Function.update_self]
      exact ⟨h.state, hqueue, rfl, hnil⟩
  | cons p rest =>
      have hsend : (n.sessions s).sendQue = p :: rest := h.queue.symm.trans hqueue
      simp only [NetworkShard.writeNext, Outlet.turn, hsend, hqueue]
      by_cases hopen : NetworkShard.IsOpen (n.sessions s)
      · have hwrites : outlet.writes b.state = true := h.takes_iff.mpr hopen
        rw [if_pos hopen, if_pos hwrites]
        simp only [NetworkShard.setSession, Function.update_self]
        refine ⟨h.state, rfl, h.isWriting, p, ?_⟩
        change b.loops.set 0 (LoopPoint.writing p) = _
        rw [hpoint]
        rfl
      · have hsilent : ¬ outlet.writes b.state = true :=
          fun hw => hopen (h.takes_iff.mp hw)
        rw [if_neg hopen, if_neg hsilent]
        simp only [NetworkShard.setSession, Function.update_self]
        exact ⟨h.state, hqueue, rfl, hnil⟩

theorem Mirrors.writeFails {n : NetworkShard B P} {s : Nat} {b : Outbox SessionState P}
    (h : Mirrors (n.sessions s) b) (hb : outlet.Orderly b) (hloop : b.loops ≠ []) :
    Mirrors ((n.writeFails s).sessions s) (outlet.fails b 0) := by
  unfold NetworkShard.writeFails Outlet.fails
  apply Mirrors.close
  simp only [NetworkShard.setSession, Function.update_self]
  refine ⟨h.state, h.queue, rfl, ?_⟩
  exact Outlet.eraseIdx_eq_nil hb.single (List.length_pos_iff.mpr hloop)

/-- A loop that is at work goes on. -/
theorem resume_turn {b : Outbox SessionState P} (hloop : b.loops ≠ []) :
    outlet.resume b 0 true = outlet.turn b 0 := by
  unfold Outlet.resume
  cases hl : b.loops with
  | nil => exact absurd hl hloop
  | cons point rest =>
      cases point with
      | spawned => rfl
      | writing p => rfl

theorem resume_fails {b : Outbox SessionState P} {p : P}
    (hloop : b.loops = [LoopPoint.writing p]) :
    outlet.resume b 0 false = outlet.fails b 0 := by
  unfold Outlet.resume
  rw [hloop]
  rfl

theorem LoopsAt.ne_nil {point : WritePoint} {loops : List (LoopPoint P)}
    (h : LoopsAt point loops) (hpoint : point ≠ WritePoint.returned) : loops ≠ [] := by
  cases point with
  | returned => exact absurd rfl hpoint
  | spawned =>
      rw [LoopsAt] at h
      rw [h]
      exact List.cons_ne_nil _ _
  | writing =>
      rcases h with ⟨p, h⟩
      rw [h]
      exact List.cons_ne_nil _ _

/-- The session is where some run of its outlet leads. -/
def OutletRun (session : GatewayLinkSession B P) : Prop :=
  exists inputs : List (Outlet.OutboxInput SessionState P),
    Mirrors session (runMachine outlet.step (Outbox.create SessionState.invalid) inputs).1

theorem outletRun_new (slotId generation : Nat) :
    OutletRun (NetworkShard.newSession slotId generation : GatewayLinkSession B P) :=
  ⟨[], rfl, rfl, rfl, rfl⟩

/-- One more input of the outlet. -/
theorem OutletRun.step {session session' : GatewayLinkSession B P} (h : OutletRun session)
    (hstep : forall b, outlet.Orderly b -> Mirrors session b ->
      exists input, Mirrors session' (outlet.next b input)) : OutletRun session' := by
  rcases h with ⟨inputs, h⟩
  rcases hstep _ (Outlet.run_orderly outlet_lawful _ inputs) h with ⟨input, hinput⟩
  refine ⟨inputs ++ [input], ?_⟩
  rw [runMachine_append]
  exact hinput

/-- What a session reads, and where it is bound, is of no account. -/
theorem OutletRun.same {session session' : GatewayLinkSession B P} (h : OutletRun session)
    (hstate : session'.state = session.state) (hqueue : session'.sendQue = session.sendQue)
    (hwriting : session'.isWriting = session.isWriting)
    (hwrite : session'.write = session.write) : OutletRun session' := by
  rcases h with ⟨inputs, h⟩
  refine ⟨inputs, h.state.trans hstate.symm, h.queue.trans hqueue.symm,
    h.isWriting.trans hwriting.symm, ?_⟩
  rw [hwrite]
  exact h.loops

/-- An open session is connected. -/
theorem OutletRun.connected {session : GatewayLinkSession B P} (h : OutletRun session)
    (hopen : NetworkShard.IsOpen session) (read : ReadPoint B) :
    OutletRun { session with state := SessionState.connected, read := read } := by
  refine h.step fun b _ hb => ⟨Outlet.OutboxInput.becomes SessionState.connected, ?_⟩
  have htakes : outlet.takes SessionState.connected = outlet.takes b.state :=
    (hb.takes_iff.mpr hopen).symm
  rw [Outlet.next, if_pos htakes]
  exact ⟨rfl, hb.queue, hb.isWriting, hb.loops⟩

end GatewayLinkSession

namespace NetworkShard

open GatewayLinkSession

variable {B P F : Type} {n n' : NetworkShard B P}

/-- Every session of a shard is where some run of its outlet leads. -/
def AllOutletRuns (n : NetworkShard B P) : Prop :=
  forall s, OutletRun (n.sessions s)

namespace AllOutletRuns

theorem of_sessions (h : AllOutletRuns n) (hsame : n'.sessions = n.sessions) :
    AllOutletRuns n' := by
  unfold AllOutletRuns
  rw [hsame]
  exact h

/-- Only one session has changed. -/
theorem one (h : AllOutletRuns n) {s : Nat} (hown : OutletRun (n'.sessions s))
    (hothers : forall t, t ≠ s -> n'.sessions t = n.sessions t) : AllOutletRuns n' := by
  intro t
  by_cases ht : t = s
  · rw [ht]
    exact hown
  · rw [hothers t ht]
    exact h t

theorem setSession (h : AllOutletRuns n) {s : Nat} {session : GatewayLinkSession B P}
    (hown : OutletRun session) : AllOutletRuns (n.setSession s session) := by
  refine h.one (s := s) ?_ fun t ht => Function.update_of_ne ht _ _
  change OutletRun (Function.update n.sessions s session s)
  rw [Function.update_self]
  exact hown

theorem setRead (h : AllOutletRuns n) (s : Nat) (point : ReadPoint B) :
    AllOutletRuns (n.setRead s point) :=
  h.setSession ((h s).same rfl rfl rfl rfl)

theorem close (h : AllOutletRuns n) (s : Nat) : AllOutletRuns (n.close s) := by
  refine h.one (s := s) ((h s).step fun b _ hb => ⟨Outlet.OutboxInput.closes, hb.close⟩) ?_
  intro t ht
  unfold NetworkShard.close onSessionClosed
  dsimp only
  split
  · split
    · exact Function.update_of_ne ht _ _
    · split
      · exact Function.update_of_ne ht _ _
      · exact Function.update_of_ne ht _ _
  · rfl

theorem closeSlot (h : AllOutletRuns n) (i : Nat) : AllOutletRuns (n.closeSlot i) := by
  unfold NetworkShard.closeSlot
  split
  · exact (h.close _).of_sessions rfl
  · exact h.of_sessions rfl

theorem doAccept (h : AllOutletRuns n) : AllOutletRuns n.doAccept := by
  unfold NetworkShard.doAccept
  split
  · exact h
  · split
    · exact h.of_sessions rfl
    · rename_i i _
      have hfresh : AllOutletRuns (n.setSession n.sessionCount
          (NetworkShard.newSession i ((n.slots i).generation + 1))) :=
        h.setSession (outletRun_new _ _)
      exact hfresh.of_sessions rfl

/-- The session of a slot is open when its accept ends. -/
theorem handleAccept (h : AllOutletRuns n) (hbound : Bound n) (i generation : Nat)
    (result : AcceptResult) : AllOutletRuns (n.handleAccept i generation result) := by
  rcases handleAccept_cases n i generation result with ⟨m, hm, hnext⟩
  have hruns : AllOutletRuns m := by
    rcases hm with hsame | hclosed | ⟨s, hsession, hconnected⟩
    · rw [hsame]
      exact h
    · rw [hclosed]
      exact h.closeSlot i
    · have hslot : AllOutletRuns
          (n.setSlot i { n.slots i with state := SlotState.connected }) :=
        h.of_sessions rfl
      rw [hconnected]
      exact hslot.setSession ((h s).connected (hbound.current i s hsession).right.right.right _)
  cases hnext with
  | inl hdone =>
      rw [hdone]
      exact hruns
  | inr haccept =>
      rw [haccept]
      exact hruns.doAccept

/-!
## Sending
-/

theorem postSend (h : AllOutletRuns n) (s : Nat) (packet : P) :
    AllOutletRuns (n.postSend s packet) := by
  refine h.one (s := s)
    ((h s).step fun b hb hm => ⟨Outlet.OutboxInput.sends packet, hm.postSend hb packet⟩) ?_
  intro t ht
  unfold NetworkShard.postSend
  dsimp only
  split
  · exact Function.update_of_ne ht _ _
  · rfl

theorem sendToGatewayLink (h : AllOutletRuns n) (linkId : Nat) (packet : P) :
    AllOutletRuns (n.sendToGatewayLink linkId packet) := by
  unfold NetworkShard.sendToGatewayLink
  split
  · exact h
  · split
    · exact h
    · exact h.postSend _ packet

theorem handleNetworkTask (h : AllOutletRuns n) (lc : LinkCodec B P F)
    (task : NetworkTask P) : AllOutletRuns (n.handleNetworkTask lc task).1 := by
  unfold NetworkShard.handleNetworkTask
  split
  · exact h
  · refine runMachine_invariant (fun _ m => AllOutletRuns m) ?_ [] n h task.targets
    intro _ m target hm
    unfold sendToTarget
    split
    · exact hm
    · split
      · exact hm
      · split
        · exact hm
        · split
          · exact hm
          · exact hm.postSend _ _

theorem writeNext (h : AllOutletRuns n) {s : Nat}
    (hwrite : (n.sessions s).write ≠ WritePoint.returned) : AllOutletRuns (n.writeNext s) := by
  refine h.one (s := s) ((h s).step fun b hb hm => ?_) ?_
  · have hloop := hm.loops.ne_nil hwrite
    refine ⟨Outlet.OutboxInput.resumes 0 true, ?_⟩
    rw [Outlet.next, resume_turn hloop]
    exact hm.writeNext hb hloop
  · intro t ht
    unfold NetworkShard.writeNext
    dsimp only
    split
    · exact Function.update_of_ne ht _ _
    · split
      · exact Function.update_of_ne ht _ _
      · exact Function.update_of_ne ht _ _

theorem writeFails (h : AllOutletRuns n) {s : Nat}
    (hwrite : (n.sessions s).write = WritePoint.writing) : AllOutletRuns (n.writeFails s) := by
  have hreturned : n.writeFails s = ((n.setSession s
      { n.sessions s with isWriting := false, write := WritePoint.returned }).close s) := rfl
  refine h.one (s := s) ((h s).step fun b hb hm => ?_) ?_
  · have hloops := hm.loops
    rw [hwrite] at hloops
    rcases hloops with ⟨p, hloop⟩
    refine ⟨Outlet.OutboxInput.resumes 0 false, ?_⟩
    rw [Outlet.next, resume_fails hloop]
    exact hm.writeFails hb (by rw [hloop]; exact List.cons_ne_nil _ _)
  · intro t ht
    rw [hreturned]
    unfold NetworkShard.close onSessionClosed
    dsimp only
    split
    · split
      · exact (Function.update_of_ne ht _ _).trans (Function.update_of_ne ht _ _)
      · split
        · exact (Function.update_of_ne ht _ _).trans (Function.update_of_ne ht _ _)
        · exact (Function.update_of_ne ht _ _).trans (Function.update_of_ne ht _ _)
    · exact Function.update_of_ne ht _ _

/-!
## Receiving
-/

theorem onPacket (h : AllOutletRuns n) (lc : LinkCodec B P F) (s linkId nowUnixMs : Nat)
    (msgId : MsgId) (seq : Nat) (body : B) :
    AllOutletRuns (n.onPacket lc s linkId nowUnixMs msgId seq body).1 := by
  have hping : AllOutletRuns (n.handlePingReq lc linkId nowUnixMs body) := by
    unfold handlePingReq
    split
    · exact h
    · split
      · exact h
      · exact h.sendToGatewayLink linkId _
  unfold NetworkShard.onPacket
  split
  · exact h
  · split
    · exact h
    · split
      · exact hping
      all_goals exact h

theorem readNext (h : AllOutletRuns n) (s : Nat) : AllOutletRuns (n.readNext s) := by
  unfold NetworkShard.readNext
  split
  · exact h.setRead s _
  · exact h.setRead s _

theorem deliver (h : AllOutletRuns n) (lc : LinkCodec B P F) (s nowUnixMs : Nat)
    (msgId : MsgId) (body : B) : AllOutletRuns (n.deliver lc s nowUnixMs msgId body).1 :=
  (h.onPacket lc s _ nowUnixMs msgId 0 body).readNext s

theorem readFails (h : AllOutletRuns n) (s : Nat) : AllOutletRuns (n.readFails s) :=
  (h.close s).setRead s _

theorem handleRead (h : AllOutletRuns n) (lc : LinkCodec B P F) (s nowUnixMs : Nat) :
    AllOutletRuns (n.handleRead lc s nowUnixMs).1 := by
  unfold NetworkShard.handleRead
  split
  · exact h
  · exact h.readNext s
  · exact h
  · exact h.readFails s
  · exact h.readFails s
  · split
    · exact h.setRead s _
    · split
      · exact h.deliver lc s nowUnixMs _ _
      · exact h.setRead s _
  · exact h
  · exact h.readFails s
  · exact h.deliver lc s nowUnixMs _ _

/-!
## Runs
-/

theorem handle (h : AllOutletRuns n) (hbound : Bound n) (lc : LinkCodec B P F)
    (input : LinkInput B P) : AllOutletRuns (NetworkShard.handle lc n input).1 := by
  cases input with
  | start => exact h.of_sessions rfl
  | stop =>
      simp only [NetworkShard.handle]
      split
      · exact h
      · exact h.of_sessions rfl
  | postedAccept =>
      simp only [NetworkShard.handle]
      split
      · have htaken : AllOutletRuns { n with acceptPosted := false } := h.of_sessions rfl
        exact htaken.doAccept
      · exact h
  | postedClose =>
      simp only [NetworkShard.handle]
      split
      · exact List.foldlRecOn _ _ (h.of_sessions rfl) fun m hm i _ => hm.closeSlot i
      · exact h
  | retry =>
      simp only [NetworkShard.handle]
      split
      · have hfired : AllOutletRuns { n with retryArmed := false } := h.of_sessions rfl
        split
        · exact hfired
        · exact hfired.doAccept
      · exact h
  | acceptEnds s result =>
      simp only [NetworkShard.handle]
      split
      · exact h
      · rename_i accept i generation _
        have htaken : AllOutletRuns { n with
            accepts := n.accepts.filter fun accept => accept.1 ≠ s } := h.of_sessions rfl
        have hsound : Sound n { n with
            accepts := n.accepts.filter fun accept => accept.1 ≠ s } :=
          sound_of_same rfl rfl rfl rfl rfl rfl
        exact htaken.handleAccept (hsound hbound).left i generation result
  | headArrives s header =>
      simp only [NetworkShard.handle]
      split
      · exact h.setRead s _
      · exact h
  | bodyArrives s body =>
      simp only [NetworkShard.handle]
      split
      · exact h.setRead s _
      · exact h
  | readBreaks s => exact h.setRead s _
  | readRuns s nowUnixMs => exact h.handleRead lc s nowUnixMs
  | writeRuns s =>
      simp only [NetworkShard.handle]
      split
      · rename_i hwrite
        exact h.writeNext (by rw [hwrite]; exact WritePoint.noConfusion)
      · exact h
  | writeEnds s ok =>
      simp only [NetworkShard.handle]
      split
      · rename_i hwrite
        split
        · exact h.writeNext (by rw [hwrite]; exact WritePoint.noConfusion)
        · exact h.writeFails hwrite
      · exact h
  | task task => exact h.handleNetworkTask lc task

end AllOutletRuns

/--
In every run of a network shard the queue of every link is where a run of the outlet of a
link leads.  So no queue is ever longer than its depth, and a link that is open and on which
packets wait has a loop at work.
-/
theorem run_queues_mirrored (lc : LinkCodec B P F) (shardId logicShardCount maxLinks : Nat)
    (inputs : List (LinkInput B P)) (s : Nat) :
    let session := (run lc shardId logicShardCount maxLinks inputs).1.sessions s
    OutletRun session ∧ session.sendQue.length ≤ kMaxSendQueueDepth ∧
      (IsOpen session -> session.sendQue ≠ [] -> session.write ≠ WritePoint.returned) := by
  intro session
  have hall : Bound (run lc shardId logicShardCount maxLinks inputs).1 ∧
      AllOutletRuns (run lc shardId logicShardCount maxLinks inputs).1 :=
    runMachine_invariant (fun _ m => Bound m ∧ AllOutletRuns m)
      (fun _ m input hm =>
        ⟨(handle_sound lc input hm.left).left, hm.right.handle hm.left lc input⟩) [] _
      ⟨bound_create shardId logicShardCount maxLinks, fun _ => outletRun_new 0 0⟩ inputs
  have hruns : OutletRun session := hall.right s
  refine ⟨hruns, ?_⟩
  rcases hruns with ⟨sends, hsession⟩
  have hprotocol := (Outlet.run_orderly outlet_lawful SessionState.invalid sends).protocol
    outlet_lawful (Outlet.run_served outlet_lawful rfl SessionState.invalid sends)
  constructor
  · rw [← hsession.queue]
    exact hprotocol.depth
  · intro hopen hwaits hreturned
    have hloops := hsession.loops
    rw [hreturned] at hloops
    refine hprotocol.loop (hsession.takes_iff.mpr hopen) ?_ hloops
    rw [hsession.queue]
    exact hwaits

end NetworkShard

end RtsGame
