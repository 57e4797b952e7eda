import RtsGame.Server.NetworkShard

/-!
# What is put on the links

A network shard puts a packet on a link when it answers a ping and when it
handles a task of a logic shard, and in no other case.  A property of the packets
that are built there is therefore a property of every packet that ever waits on
a link.
-/

namespace RtsGame

namespace NetworkShard

variable {B P F : Type} {good : P -> Prop} {n n' : NetworkShard B P}

/-- Every packet that waits on a link has the property. -/
def AllQueued (good : P -> Prop) (n : NetworkShard B P) : Prop :=
  forall s packet, packet ∈ (n.sessions s).sendQue -> good packet

/-- Every packet that is built for a task has the property. -/
def BuildsOnly (good : P -> Prop) (lc : LinkCodec B P F) (task : NetworkTask P) :
    Prop :=
  forall target packet, target ∈ task.targets ->
    lc.buildGameToGatewayEnvelope task target.uids = some packet -> good packet

/-- Every reply to a ping has the property. -/
def AnswersOnly (good : P -> Prop) (lc : LinkCodec B P F) : Prop :=
  forall clientTimeMs serverTimeMs packet,
    lc.buildPongRsp clientTimeMs serverTimeMs = some packet -> good packet

theorem allQueued_create (shardId logicShardCount maxLinks : Nat) :
    AllQueued good (create shardId logicShardCount maxLinks : NetworkShard B P) := by
  intro s packet hpacket
  cases hpacket

namespace AllQueued

theorem of_sessions (h : AllQueued good n) (hsame : n'.sessions = n.sessions) :
    AllQueued good n' := by
  unfold AllQueued
  rw [hsame]
  exact h

theorem setSession (h : AllQueued good n) {s : Nat}
    {session : GatewayLinkSession B P}
    (hsession : forall packet, packet ∈ session.sendQue -> good packet) :
    AllQueued good (n.setSession s session) := by
  intro t packet hpacket
  change packet ∈ (Function.update n.sessions s session t).sendQue at hpacket
  by_cases ht : t = s
  · rw [ht, Function.update_self] at hpacket
    exact hsession packet hpacket
  · rw [Function.update_of_ne ht] at hpacket
    exact h t packet hpacket

/-- Changes of a session that leave its queue. -/
theorem setSame (h : AllQueued good n) {s : Nat} {session : GatewayLinkSession B P}
    (hsame : session.sendQue = (n.sessions s).sendQue) :
    AllQueued good (n.setSession s session) := by
  refine h.setSession ?_
  rw [hsame]
  exact h s

theorem onSessionClosed (h : AllQueued good n) (slotId generation : Nat) :
    AllQueued good (n.onSessionClosed slotId generation) := by
  unfold NetworkShard.onSessionClosed
  split
  · exact h
  · split
    · exact h
    · exact h.of_sessions rfl

theorem close (h : AllQueued good n) (s : Nat) : AllQueued good (n.close s) := by
  unfold NetworkShard.close
  dsimp only
  split
  · refine (h.setSession ?_).onSessionClosed _ _
    intro packet hpacket
    cases hpacket
  · exact h

theorem closeSlot (h : AllQueued good n) (i : Nat) :
    AllQueued good (n.closeSlot i) := by
  unfold NetworkShard.closeSlot
  split
  · exact (h.close _).of_sessions rfl
  · exact h.of_sessions rfl

theorem closeSlots (ids : List Nat) (h : AllQueued good n) :
    AllQueued good (ids.foldl NetworkShard.closeSlot n) := by
  induction ids generalizing n with
  | nil =>
      exact h
  | cons i rest ih =>
      exact ih (h.closeSlot i)

theorem doAccept (h : AllQueued good n) : AllQueued good n.doAccept := by
  unfold NetworkShard.doAccept
  split
  · exact h
  · split
    · exact h.of_sessions rfl
    · rename_i i _
      have hfresh : AllQueued good (n.setSession n.sessionCount
          (NetworkShard.newSession i ((n.slots i).generation + 1))) := by
        refine h.setSession ?_
        intro packet hpacket
        cases hpacket
      exact hfresh.of_sessions rfl

theorem start (h : AllQueued good n) (s : Nat) : AllQueued good (n.start s) :=
  h.setSame rfl

theorem setRead (h : AllQueued good n) (s : Nat) (point : ReadPoint B) :
    AllQueued good (n.setRead s point) :=
  h.setSame rfl

theorem handleAccept (h : AllQueued good n) (i generation : Nat)
    (result : AcceptResult) : AllQueued good (n.handleAccept i generation result) := by
  rcases handleAccept_cases n i generation result with ⟨m, hm, hnext⟩
  have hqueued : AllQueued good m := by
    rcases hm with hsame | hclosed | ⟨s, _, hconnected⟩
    · rw [hsame]
      exact h
    · rw [hclosed]
      exact h.closeSlot i
    · have hslot : AllQueued good
          (n.setSlot i { n.slots i with state := SlotState.connected }) :=
        h.of_sessions rfl
      rw [hconnected]
      exact hslot.start s
  cases hnext with
  | inl hdone =>
      rw [hdone]
      exact hqueued
  | inr haccept =>
      rw [haccept]
      exact hqueued.doAccept

/-!
## Sending
-/

theorem postSend (h : AllQueued good n) (s : Nat) {packet : P} (hgood : good packet) :
    AllQueued good (n.postSend s packet) := by
  unfold NetworkShard.postSend
  dsimp only
  split
  · refine h.setSession ?_
    intro other hother
    rcases List.mem_append.mp hother with hkept | hnew
    · split at hkept
      · exact h s other (List.mem_of_mem_tail hkept)
      · exact h s other hkept
    · rw [List.mem_singleton.mp hnew]
      exact hgood
  · exact h

theorem sendToGatewayLink (h : AllQueued good n) (linkId : Nat) {packet : P}
    (hgood : good packet) : AllQueued good (n.sendToGatewayLink linkId packet) := by
  unfold NetworkShard.sendToGatewayLink
  split
  · exact h
  · split
    · exact h
    · exact h.postSend _ hgood

theorem handleNetworkTask {lc : LinkCodec B P F} {task : NetworkTask P}
    (h : AllQueued good n) (htask : BuildsOnly good lc task) :
    AllQueued good (n.handleNetworkTask lc task).1 := by
  have hloop : forall (targets : List NetworkSendTarget) (m : NetworkShard B P),
      (forall target, target ∈ targets -> target ∈ task.targets) ->
      AllQueued good m ->
      AllQueued good (runMachine (sendToTarget lc task) m targets).1 := by
    intro targets
    induction targets with
    | nil =>
        intro m _ hm
        exact hm
    | cons target rest ih =>
        intro m htargets hm
        refine ih _ (fun other hother =>
          htargets other (List.mem_cons_of_mem target hother)) ?_
        unfold sendToTarget
        split
        · exact hm
        · split
          · exact hm
          · split
            · exact hm
            · split
              · exact hm
              · rename_i packet hbuilt
                exact hm.postSend _
                  (htask target packet (htargets target List.mem_cons_self) hbuilt)
  unfold NetworkShard.handleNetworkTask
  split
  · exact h
  · exact hloop task.targets n (fun _ htarget => htarget) h

theorem writeNext (h : AllQueued good n) (s : Nat) :
    AllQueued good (n.writeNext s) := by
  unfold NetworkShard.writeNext
  dsimp only
  split
  · exact h.setSame rfl
  · rename_i packet rest hqueue
    split
    · refine h.setSession ?_
      intro other hother
      refine h s other ?_
      rw [hqueue]
      exact List.mem_cons_of_mem packet hother
    · exact h.setSame rfl

theorem writeFails (h : AllQueued good n) (s : Nat) :
    AllQueued good (n.writeFails s) := by
  have hreturned : AllQueued good (n.setSession s
      { n.sessions s with isWriting := false, write := WritePoint.returned }) :=
    h.setSame rfl
  exact hreturned.close s

/-!
## Receiving
-/

theorem handlePingReq {lc : LinkCodec B P F} (h : AllQueued good n)
    (hpong : AnswersOnly good lc) (linkId nowUnixMs : Nat) (body : B) :
    AllQueued good (n.handlePingReq lc linkId nowUnixMs body) := by
  unfold NetworkShard.handlePingReq
  split
  · exact h
  · split
    · exact h
    · rename_i packet hbuilt
      exact h.sendToGatewayLink linkId (hpong _ _ packet hbuilt)

theorem onPacket {lc : LinkCodec B P F} (h : AllQueued good n)
    (hpong : AnswersOnly good lc) (s linkId nowUnixMs : Nat) (msgId : MsgId)
    (seq : Nat) (body : B) :
    AllQueued good (n.onPacket lc s linkId nowUnixMs msgId seq body).1 := by
  unfold NetworkShard.onPacket
  split
  · exact h
  · split
    · exact h
    · split
      · exact h.handlePingReq hpong linkId nowUnixMs body
      all_goals exact h

theorem readNext (h : AllQueued good n) (s : Nat) :
    AllQueued good (n.readNext s) := by
  unfold NetworkShard.readNext
  split
  · exact h.setRead s _
  · exact h.setRead s _

theorem deliver {lc : LinkCodec B P F} (h : AllQueued good n)
    (hpong : AnswersOnly good lc) (s nowUnixMs : Nat) (msgId : MsgId) (body : B) :
    AllQueued good (n.deliver lc s nowUnixMs msgId body).1 :=
  (h.onPacket hpong s _ nowUnixMs msgId 0 body).readNext s

theorem readFails (h : AllQueued good n) (s : Nat) :
    AllQueued good (n.readFails s) :=
  (h.close s).setRead s _

theorem handleRead {lc : LinkCodec B P F} (h : AllQueued good n)
    (hpong : AnswersOnly good lc) (s nowUnixMs : Nat) :
    AllQueued good (n.handleRead lc s nowUnixMs).1 := by
  unfold NetworkShard.handleRead
  split
  · exact h
  · exact h.readNext s
  · exact h
  · exact h.readFails s
  · exact h.readFails s
  · split
    · exact h.setRead s _
    · split
      · exact h.deliver hpong s nowUnixMs _ _
      · exact h.setRead s _
  · exact h
  · exact h.readFails s
  · exact h.deliver hpong s nowUnixMs _ _

/-!
## Runs
-/

theorem handle {lc : LinkCodec B P F} (h : AllQueued good n)
    (hpong : AnswersOnly good lc) (input : LinkInput B P)
    (htask : forall task, input = LinkInput.task task -> BuildsOnly good lc task) :
    AllQueued good (NetworkShard.handle lc n input).1 := by
  cases input with
  | start => exact h.of_sessions rfl
  | stop =>
      simp only [NetworkShard.handle]
      split
      · exact h
      · exact h.of_sessions rfl
  | postedAccept =>
      simp only [NetworkShard.handle]
      split
      · have htaken : AllQueued good { n with acceptPosted := false } :=
          h.of_sessions rfl
        exact htaken.doAccept
      · exact h
  | postedClose =>
      simp only [NetworkShard.handle]
      split
      · exact closeSlots _ (h.of_sessions rfl)
      · exact h
  | retry =>
      simp only [NetworkShard.handle]
      split
      · have hfired : AllQueued good { n with retryArmed := false } :=
          h.of_sessions rfl
        split
        · exact hfired
        · exact hfired.doAccept
      · exact h
  | acceptEnds s result =>
      simp only [NetworkShard.handle]
      split
      · exact h
      · rename_i accept i generation _
        have htaken : AllQueued good { n with
            accepts := n.accepts.filter fun accept => accept.1 ≠ s } :=
          h.of_sessions rfl
        exact htaken.handleAccept i generation result
  | headArrives s header =>
      simp only [NetworkShard.handle]
      split
      · exact h.setRead s _
      · exact h
  | bodyArrives s body =>
      simp only [NetworkShard.handle]
      split
      · exact h.setRead s _
      · exact h
  | readBreaks s => exact h.setRead s _
  | readRuns s nowUnixMs => exact h.handleRead hpong s nowUnixMs
  | writeRuns s =>
      simp only [NetworkShard.handle]
      split
      · exact h.writeNext s
      · exact h
  | writeEnds s ok =>
      simp only [NetworkShard.handle]
      split
      · split
        · exact h.writeNext s
        · exact h.writeFails s
      · exact h
  | task task => exact h.handleNetworkTask (htask task rfl)

end AllQueued

/-- What is built is what waits on the links, in every run. -/
theorem run_allQueued {lc : LinkCodec B P F} (hpong : AnswersOnly good lc)
    (shardId logicShardCount maxLinks : Nat) (inputs : List (LinkInput B P))
    (htasks : forall task, LinkInput.task task ∈ inputs -> BuildsOnly good lc task) :
    AllQueued good (run lc shardId logicShardCount maxLinks inputs).1 := by
  have hrun : forall (inputs : List (LinkInput B P)) (m : NetworkShard B P),
      (forall task, LinkInput.task task ∈ inputs -> BuildsOnly good lc task) ->
      AllQueued good m ->
      AllQueued good (runMachine (NetworkShard.handle lc) m inputs).1 := by
    intro inputs
    induction inputs with
    | nil =>
        intro m _ hm
        exact hm
    | cons input rest ih =>
        intro m htasks hm
        refine ih _ (fun task htask =>
          htasks task (List.mem_cons_of_mem input htask)) ?_
        refine hm.handle hpong input ?_
        intro task htask
        exact htasks task (htask ▸ List.mem_cons_self)
  exact hrun inputs _ htasks (allQueued_create shardId logicShardCount maxLinks)

end NetworkShard

end RtsGame
