import RtsGame.Gate.Farewell
import RtsGame.Gate.Indexes
import RtsGame.Server.Posting

/-!
# Whom a task acts for

A client decides over every byte that it sends, but not over the uid of the
envelopes that the gateway writes.  Every packet to the game server is followed
back to the step that sent it: a request that was handled for a session with a
uid, or the close of such a session.  The tasks that a packet becomes keep the
uid and the message id.
-/

namespace RtsGame

namespace Cluster

variable {B F : Type} {s s' : Cluster B F}

/-!
## Steps that send nothing
-/

/-- Nothing new is under way or in a queue, and the uids are the same. -/
structure Silent (s s' : Cluster B F) : Prop where
  nextIndex : s'.nextIndex = s.nextIndex
  uid : forall c, (s'.sessions c).uid = (s.sessions c).uid
  travels : forall packet, Travels s' packet -> Travels s packet
  queues : forall k task, task ∈ s'.server.queues k -> task ∈ s.server.queues k

namespace Silent

theorem refl (s : Cluster B F) : Silent s s :=
  ⟨rfl, fun _ => rfl, fun _ h => h, fun _ _ h => h⟩

theorem trans {s'' : Cluster B F} (h : Silent s s') (h' : Silent s' s'') :
    Silent s s'' where
  nextIndex := h'.nextIndex.trans h.nextIndex
  uid := fun c => (h'.uid c).trans (h.uid c)
  travels := fun packet hpacket => h.travels packet (h'.travels packet hpacket)
  queues := fun k task htask => h.queues k task (h'.queues k task htask)

theorem of_same (h : SameInbound s s') (htables : SameTables s s') : Silent s s' where
  nextIndex := h.nextIndex
  uid := htables.uid
  travels := fun packet hpacket => (h.travels packet).mp hpacket
  queues := by
    intro k task htask
    rw [h.queues] at htask
    exact htask

/-- A connection loses packets or moves them along. -/
theorem of_setConn {c : Nat} {conn : Conn B F}
    (hconns : s'.conns = Function.update s.conns c conn)
    (hconn : forall packet, packet ∈ conn.wire ++ conn.sendQue ->
      packet ∈ (s.conns c).wire ++ (s.conns c).sendQue)
    (hsessions : s'.sessions = s.sessions) (hnext : s'.nextIndex = s.nextIndex)
    (hqueues : s'.server.queues = s.server.queues) : Silent s s' where
  nextIndex := hnext
  uid := fun d => by rw [hsessions]
  travels := by
    intro packet hpacket
    obtain ⟨d, hd⟩ := hpacket
    rw [hconns] at hd
    by_cases heq : d = c
    · subst heq
      rw [Function.update_self] at hd
      exact ⟨d, hconn packet hd⟩
    · rw [Function.update_of_ne heq] at hd
      exact ⟨d, hd⟩
  queues := by
    intro k task htask
    rw [hqueues] at htask
    exact htask

end Silent

theorem connect_silent (s : Cluster B F) (c net linkId : Nat) :
    Silent s (s.connect c net linkId) := by
  unfold connect
  split
  · exact Silent.of_setConn rfl (fun _ h => h) rfl rfl rfl
  · exact Silent.refl s

theorem breakConn_silent (s : Cluster B F) (c : Nat) : Silent s (s.breakConn c) :=
  Silent.of_setConn rfl (fun _ h => h) rfl rfl rfl

theorem cutConn_silent (s : Cluster B F) (c : Nat) : Silent s (s.cutConn c) := by
  unfold cutConn
  split
  · refine Silent.of_setConn rfl ?_ rfl rfl rfl
    intro packet hpacket
    exact List.mem_append_right _ hpacket
  · exact Silent.refl s

theorem rebuild_silent (w : Nat) (s : Cluster B F) (i : Nat) :
    Silent s (rebuild w s i) := by
  unfold rebuild
  split
  · exact Silent.refl s
  · refine Silent.of_setConn rfl ?_ rfl rfl rfl
    intro packet hpacket
    cases hpacket

theorem detect_silent (s : Cluster B F) (w : Nat) : Silent s (s.detect w) := by
  unfold detect
  split
  · exact foldl_rel Silent.refl Silent.trans (rebuild_silent w) s _
  · exact Silent.refl s

theorem write_silent (s : Cluster B F) (c : Nat) : Silent s (s.write c) := by
  unfold write
  split
  · exact Silent.refl s
  · next first rest hque =>
      split
      · refine Silent.of_setConn rfl ?_ rfl rfl rfl
        intro packet hpacket
        rw [hque]
        simpa using hpacket
      · exact Silent.refl s

theorem tick_silent [Scalar F] (s : Cluster B F) (shardId : Nat) (ω : Orders) :
    Silent s (s.tick shardId ω) :=
  Silent.of_same (tick_same s shardId ω) (tick_tables s shardId ω)

theorem work_silent [Scalar F] (codec : Codec B F) (s : Cluster B F) (shardId : Nat)
    (ω : Orders) : Silent s (s.work codec shardId ω) := by
  have hworked : Silent s
      { s with server := (GameServer.work codec.stamped ω s.server shardId).1 } := by
    refine ⟨rfl, fun _ => rfl, fun _ h => h, ?_⟩
    intro k task htask
    unfold GameServer.work at htask
    split at htask
    · exact htask
    · next first rest hqueue =>
        by_cases hk : k = shardId
        · subst hk
          rw [hqueue]
          simp only [Function.update_self] at htask
          exact List.mem_cons_of_mem first htask
        · simp only [Function.update_of_ne hk] at htask
          exact htask
  have hsent : forall (s : Cluster B F) (e : ShardEvent F),
      Silent s (sendEvent shardId s e) :=
    fun s e => Silent.of_same (sendEvent_same shardId s e) (sendEvent_tables shardId s e)
  exact hworked.trans (foldl_rel Silent.refl Silent.trans hsent _ _)

/-- What the cluster does without clients sends nothing; packets may arrive. -/
theorem backend_silent [Scalar F] {codec : Codec B F} (gc : GateCodec codec)
    (lh : LoginHash) (s : Cluster B F) (input : ClusterInput B)
    (h : Frontend.ofBackend input = true) :
    Silent s (next gc lh s input) ∨
      exists c, next gc lh s input = s.arrive codec c := by
  cases input with
  | accepts w => cases h
  | logsIn c account token => cases h
  | requests c msgId body => cases h
  | closes c => cases h
  | connects c net linkId => exact Or.inl (connect_silent s c net linkId)
  | breaks c => exact Or.inl (breakConn_silent s c)
  | cuts c => exact Or.inl (cutConn_silent s c)
  | detects w => exact Or.inl (detect_silent s w)
  | writes c => exact Or.inl (write_silent s c)
  | arrives c => exact Or.inr ⟨c, rfl⟩
  | works shardId ω => exact Or.inl (work_silent codec s shardId ω)
  | ticks shardId ω => exact Or.inl (tick_silent s shardId ω)
  | netWorks net => exact Or.inl (Silent.of_same (netWork_same s net) (netWork_tables s net))
  | writesBack c =>
      exact Or.inl (Silent.of_same (writeBack_same s c) (writeBack_tables s c))
  | arrivesBack c =>
      exact Or.inl (Silent.of_same (arriveBack_same s c) (arriveBack_tables s c))
  | postWorks w => exact Or.inl (Silent.of_same (postWork_same s w) (postWork_tables s w))

/-!
## Steps that send
-/

/-- A packet of a session is under way that was not before. -/
structure Posted (s s' : Cluster B F) (c : Nat) (msgId : MsgId) (body : B) : Prop where
  nextIndex : s'.nextIndex = s.nextIndex + 1
  uid : forall d, (s'.sessions d).uid = (s.sessions d).uid
  travels : forall packet, Travels s' packet ->
    Travels s packet ∨ packet.stamp.session = c ∧ packet.stamp.index = s.nextIndex ∧
      packet.msgId = msgId ∧ packet.body = body
  queues : forall k task, task ∈ s'.server.queues k -> task ∈ s.server.queues k

theorem Posted.after {first : Cluster B F} {c : Nat} {msgId : MsgId} {body : B}
    (h : Posted s s' c msgId body) (hfirst : Silent first s) :
    Posted first s' c msgId body where
  nextIndex := by rw [h.nextIndex, hfirst.nextIndex]
  uid := fun d => (h.uid d).trans (hfirst.uid d)
  travels := by
    intro packet hpacket
    cases h.travels packet hpacket with
    | inl hold => exact Or.inl (hfirst.travels packet hold)
    | inr hnew =>
        rw [hfirst.nextIndex] at hnew
        exact Or.inr hnew
  queues := fun k task htask => hfirst.queues k task (h.queues k task htask)

theorem Posted.before {last : Cluster B F} {c : Nat} {msgId : MsgId} {body : B}
    (h : Posted s s' c msgId body) (hlast : Silent s' last) :
    Posted s last c msgId body where
  nextIndex := hlast.nextIndex.trans h.nextIndex
  uid := fun d => (hlast.uid d).trans (h.uid d)
  travels := fun packet hpacket => h.travels packet (hlast.travels packet hpacket)
  queues := fun k task htask => h.queues k task (hlast.queues k task htask)

theorem sendData_new {c : Nat} {packet other : InPacket B}
    (h : Travels (s.sendData c packet) other) : Travels s other ∨ other = packet := by
  obtain ⟨conn, hconn⟩ := h
  by_cases hc : conn = c
  · subst hc
    simp only [sendData, setConn, Function.update_self] at hconn
    rw [← List.append_assoc, List.mem_append, List.mem_singleton] at hconn
    cases hconn with
    | inl hold =>
        refine Or.inl ⟨conn, ?_⟩
        split at hold
        · rw [List.mem_append] at hold ⊢
          exact hold.imp id List.mem_of_mem_tail
        · exact hold
    | inr hnew => exact Or.inr hnew
  · simp only [sendData, setConn, Function.update_of_ne hc] at hconn
    exact Or.inl ⟨conn, hconn⟩

theorem postMessage_posted (s : Cluster B F) (w c : Nat) (msgId : MsgId) (body : B) :
    Silent s (s.postMessage w c msgId body) ∨
      Posted s (s.postMessage w c msgId body) c msgId body := by
  have hselected : Silent s (selectConn w kGameServerConnCnt s).2 :=
    Silent.of_same (selectConn_spec w kGameServerConnCnt s).left
      (selectConn_tables w kGameServerConnCnt s)
  unfold postMessage
  dsimp only
  split
  · exact Or.inl hselected
  · right
    refine ⟨rfl, hselected.uid, ?_, hselected.queues⟩
    intro packet hpacket
    cases sendData_new hpacket with
    | inl hold => exact Or.inl (hselected.travels packet hold)
    | inr hnew =>
        rw [hnew]
        exact Or.inr ⟨rfl, rfl, rfl, rfl⟩

section Gate

variable {codec : Codec B F} (gc : GateCodec codec)

theorem setSession_silent {c : Nat} {session : Csession F}
    (huid : session.uid = (s.sessions c).uid) : Silent s (s.setSession c session) where
  nextIndex := rfl
  uid := by
    intro d
    by_cases hd : d = c
    · subst hd
      simp only [setSession, Function.update_self]
      exact huid
    · simp only [setSession, Function.update_of_ne hd]
  travels := fun _ h => h
  queues := fun _ _ h => h

/-- A request is sent under the uid of its session, if it has one. -/
theorem forward_posted (s : Cluster B F) (c : Nat) (msgId : MsgId) (body : B) :
    Silent s (forwardClientMsgToGame gc s c msgId body) ∨
      (s.sessions c).uid ≠ 0 ∧ exists envelope,
        gc.buildEnvelope (s.sessions c).uid msgId body = some envelope ∧
          Posted s (forwardClientMsgToGame gc s c msgId body) c
            MsgId.gateToGameEnvelope envelope := by
  unfold forwardClientMsgToGame
  dsimp only
  split
  · exact Or.inl (Silent.refl s)
  · next huid =>
      split
      · exact Or.inl (Silent.refl s)
      · next envelope henvelope =>
          have hsession : Silent s (s.setSession c
              { s.sessions c with
                sentAs := (s.sessions c).uid :: (s.sessions c).sentAs }) :=
            setSession_silent rfl
          cases postMessage_posted (s.setSession c
              { s.sessions c with
                sentAs := (s.sessions c).uid :: (s.sessions c).sentAs })
              (s.sessions c).shard c MsgId.gateToGameEnvelope envelope with
          | inl hsilent => exact Or.inl (hsession.trans hsilent)
          | inr hposted => exact Or.inr ⟨huid, envelope, henvelope, hposted.after hsession⟩

theorem unregister_silent (s : Cluster B F) (uid d : Nat) :
    Silent s (s.unregister uid d) := by
  unfold unregister
  split
  · exact Silent.refl s
  · split
    · exact Silent.refl s
    · split
      · exact Silent.refl s
      · exact ⟨rfl, fun _ => rfl, fun _ h => h, fun _ _ h => h⟩

/-- A session that is closed sends a notice, if it has a uid. -/
theorem closeSession_posted (s : Cluster B F) (c : Nat) :
    Silent s (closeSession gc s c) ∨
      (s.sessions c).isOpen = true ∧ (s.sessions c).uid ≠ 0 ∧
        Posted s (closeSession gc s c) c MsgId.clientDisconnectedNtf
          (gc.buildClientDisconnectedNtf (s.sessions c).uid) := by
  unfold closeSession
  dsimp only
  split
  · next hopen =>
      have hclosed : Silent s ((s.unregister (s.sessions c).uid c).setSession c
          { s.sessions c with isOpen := false }) := by
        apply (unregister_silent s (s.sessions c).uid c).trans
        apply setSession_silent
        rw [(unregister_tables s (s.sessions c).uid c).right.right.right.left]
      have hlater : forall t : Cluster B F,
          Silent t ((t.setUserId (s.sessions c).shard
            (s.sessions c).uid none).deleteUserSession c) :=
        fun t => ⟨rfl, fun _ => rfl, fun _ h => h, fun _ _ h => h⟩
      have huid : (((s.unregister (s.sessions c).uid c).setSession c
          { s.sessions c with isOpen := false }).sessions c).uid =
          (s.sessions c).uid := hclosed.uid c
      unfold notifyGameServerDisconnect
      dsimp only
      rw [huid]
      split
      · exact Or.inl (hclosed.trans (hlater _))
      · next hne =>
          cases postMessage_posted ((s.unregister (s.sessions c).uid c).setSession c
              { s.sessions c with isOpen := false })
              (((s.unregister (s.sessions c).uid c).setSession c
                { s.sessions c with isOpen := false }).sessions c).shard c
              MsgId.clientDisconnectedNtf
              (gc.buildClientDisconnectedNtf (s.sessions c).uid) with
          | inl hsilent => exact Or.inl ((hclosed.trans hsilent).trans (hlater _))
          | inr hposted =>
              exact Or.inr ⟨hopen, hne, (hposted.after hclosed).before (hlater _)⟩
  · exact Or.inl (Silent.refl s)

end Gate

end Cluster

/-!
## Tasks of a packet
-/

namespace GameServer

variable {B F : Type}

theorem dispatchTasks_forward (codec : Codec B F) (g : GameServer B F) (net : Nat)
    (route : GatewayRoute) {msgId : MsgId} (seq : Nat) (body : B) (i : Nat)
    (h : Cluster.registersForward msgId = true) :
    dispatchTasks codec g net route msgId seq body i =
      requestTasks codec g net route msgId seq body i := by
  cases msgId with
  | clientDisconnectedNtf => cases h
  | gateToGameEnvelope => cases h
  | pingReq => cases h
  | other => cases h
  | _ => rfl

/-- The task of a request acts for the uid of its envelope. -/
theorem packetTasks_request {codec : Codec B F} {g : GameServer B F} {net : Nat}
    {route : GatewayRoute} {msgId : MsgId} {seq uid i : Nat} {body payload : B}
    {task : LogicTask B} (hforward : Cluster.registersForward msgId = true)
    (hbody : codec.envelope body = some (buildGateToGameEnvelope uid msgId payload))
    (htask : task ∈ packetTasks codec g net route MsgId.gateToGameEnvelope seq body i) :
    task.msgId = msgId ∧ task.uid = uid ∧ task.body = body := by
  have hparsed : parseGateToGameEnvelope codec body =
      some (buildGateToGameEnvelope uid msgId payload, msgId) := by
    unfold parseGateToGameEnvelope
    rw [hbody]
    rfl
  unfold packetTasks at htask
  rw [if_pos rfl, hparsed] at htask
  dsimp only at htask
  rw [dispatchTasks_forward codec g net route _ body i hforward] at htask
  unfold requestTasks at htask
  rw [hparsed] at htask
  dsimp only at htask
  split at htask
  · cases htask
  · split at htask
    · cases htask
    · split at htask
      · rw [List.mem_singleton] at htask
        subst htask
        exact ⟨rfl, rfl, rfl⟩
      · cases htask

theorem packetTasks_notice {codec : Codec B F} {g : GameServer B F} {net : Nat}
    {route : GatewayRoute} {seq i : Nat} {body : B} {task : LogicTask B}
    (htask : task ∈
      packetTasks codec g net route MsgId.clientDisconnectedNtf seq body i) :
    task.msgId = MsgId.clientDisconnectedNtf ∧ task.body = body := by
  unfold packetTasks at htask
  rw [if_neg MsgId.noConfusion] at htask
  change task ∈ noticeTasks codec g body i at htask
  unfold noticeTasks at htask
  split at htask
  · cases htask
  · split at htask
    · cases htask
    · split at htask
      · rw [List.mem_singleton] at htask
        subst htask
        exact ⟨rfl, rfl⟩
      · cases htask

end GameServer

/-!
## Where packets and tasks come from
-/

namespace Frontend

variable {F : Type} {codec : Codec Bytes F}

/-- The step handles a request of the session, which is forwarded. -/
def Forwards (f : Frontend F) (input : FrontendInput) (c : Nat) (msgId : MsgId)
    (payload : Bytes) : Prop :=
  input = FrontendInput.readRuns c ∧ exists code,
    f.dispatched c = some (code, payload) ∧
      ClientIngressRouter.handler code = some (ClientHandler.forward msgId)

/-- The step closes the session. -/
def Closes (f : Frontend F) (input : FrontendInput) (c : Nat) : Prop :=
  f.isOpen c = true ∧
    (input = FrontendInput.closes c ∨
      input = FrontendInput.readRuns c ∧ f.dispatched c = none)

/--
A packet was sent by a step: it is a request that the step handled, or the notice
of a close, and it tells the uid that the session had before the step.
-/
structure SentBy (codec : Codec Bytes F) (lh : LoginHash) (f : Frontend F)
    (input : FrontendInput) (packet : InPacket Bytes) : Prop where
  index : f.cluster.nextIndex = packet.stamp.index
  bound : (f.cluster.sessions packet.stamp.session).uid ≠ 0
  own : Cluster.Owns lh packet.stamp.session
    (f.cluster.sessions packet.stamp.session).uid
  tells : (exists msgId payload, f.Forwards input packet.stamp.session msgId payload ∧
      packet.msgId = MsgId.gateToGameEnvelope ∧
        codec.envelope packet.body = some (buildGateToGameEnvelope
          (f.cluster.sessions packet.stamp.session).uid msgId payload)) ∨
    f.Closes input packet.stamp.session ∧
      packet.msgId = MsgId.clientDisconnectedNtf ∧
        codec.disconnectedUid packet.body =
          some (f.cluster.sessions packet.stamp.session).uid

/--
A task is caused by a step of a session: it acts for the uid that the session had
before the step, with the message id of the request that the step handled, or it
tells that the session with this uid is gone.
-/
structure CausedBy (codec : Codec Bytes F) (lh : LoginHash) (f : Frontend F)
    (input : FrontendInput) (task : LogicTask (Stamp × Bytes)) : Prop where
  index : f.cluster.nextIndex = task.body.1.index
  bound : (f.cluster.sessions task.body.1.session).uid ≠ 0
  own : forall c, Cluster.Owns lh c (f.cluster.sessions task.body.1.session).uid <->
    c = task.body.1.session
  acts : (exists msgId payload, f.Forwards input task.body.1.session msgId payload ∧
      Cluster.registersForward msgId = true ∧ task.msgId = msgId ∧
        task.uid = (f.cluster.sessions task.body.1.session).uid ∧
          codec.envelope task.body.2 = some (buildGateToGameEnvelope
            (f.cluster.sessions task.body.1.session).uid msgId payload)) ∨
    f.Closes input task.body.1.session ∧
      task.msgId = MsgId.clientDisconnectedNtf ∧
        codec.disconnectedUid task.body.2 =
          some (f.cluster.sessions task.body.1.session).uid

theorem Forwards.registersForward {f : Frontend F} {input : FrontendInput} {c : Nat}
    {msgId : MsgId} {payload : Bytes} (h : f.Forwards input c msgId payload) :
    Cluster.registersForward msgId = true := by
  obtain ⟨_, code, _, hhandler⟩ := h
  obtain ⟨front, back, hcallbacks, _⟩ := List.lookup_eq_some_iff.mp hhandler
  have hentry : (code, ClientHandler.forward msgId) ∈ ClientIngressRouter.callbacks := by
    rw [hcallbacks]
    exact List.mem_append_right _ List.mem_cons_self
  exact ClientIngressRouter.callbacks_forward _ hentry msgId rfl

/-- The tasks of a packet come from the step that sent it. -/
theorem SentBy.causes {lh : LoginHash} {f : Frontend F} {input : FrontendInput}
    {packet : InPacket Bytes} (h : SentBy codec lh f input packet)
    {g : GameServer (Stamp × Bytes) F} {net seq i : Nat} {route : GatewayRoute}
    {task : LogicTask (Stamp × Bytes)}
    (htask : task ∈ GameServer.packetTasks codec.stamped g net route packet.msgId seq
      (packet.stamp, packet.body) i) : CausedBy codec lh f input task := by
  have hown : forall c,
      Cluster.Owns lh c (f.cluster.sessions packet.stamp.session).uid <->
        c = packet.stamp.session := by
    intro c
    constructor
    · intro hc
      exact hc.session_eq h.own
    · intro hc
      rw [hc]
      exact h.own
  rcases h.tells with ⟨msgId, payload, hforwards, hid, henvelope⟩ | ⟨hcloses, hid, huid⟩
  · have hbody : codec.stamped.envelope (packet.stamp, packet.body) =
        some (buildGateToGameEnvelope (f.cluster.sessions packet.stamp.session).uid
          msgId (packet.stamp, payload)) := by
      change (codec.envelope packet.body).map _ = _
      rw [henvelope]
      rfl
    rw [hid] at htask
    obtain ⟨htaskId, htaskUid, htaskBody⟩ :=
      GameServer.packetTasks_request hforwards.registersForward hbody htask
    refine ⟨?_, ?_, ?_, Or.inl ⟨msgId, payload, ?_, hforwards.registersForward,
      htaskId, ?_, ?_⟩⟩
    all_goals rw [htaskBody]
    · exact h.index
    · exact h.bound
    · exact hown
    · exact hforwards
    · exact htaskUid
    · exact henvelope
  · rw [hid] at htask
    obtain ⟨htaskId, htaskBody⟩ := GameServer.packetTasks_notice htask
    refine ⟨?_, ?_, ?_, Or.inr ⟨?_, htaskId, ?_⟩⟩
    all_goals rw [htaskBody]
    · exact h.index
    · exact h.bound
    · exact hown
    · exact hcloses
    · exact huid

/-!
## Runs
-/

/-- Every packet and every task comes from the step that its stamp tells. -/
structure Traced (codec : Codec Bytes F) (lh : LoginHash)
    (past : List (Frontend F × FrontendInput)) (s : Cluster Bytes F) : Prop where
  length : past.length = s.nextIndex
  bound : forall c, (s.sessions c).uid ≠ 0 -> Cluster.Owns lh c (s.sessions c).uid
  packets : forall packet, Cluster.Travels s packet -> exists f input,
    past[packet.stamp.index]? = some (f, input) ∧ SentBy codec lh f input packet
  tasks : forall k task, task ∈ s.server.queues k -> exists f input,
    past[task.body.1.index]? = some (f, input) ∧ CausedBy codec lh f input task

section Steps

variable {lh : LoginHash} {past : List (Frontend F × FrontendInput)}
  {s s' : Cluster Bytes F}

theorem traced_create (codec : Codec Bytes F) (lh : LoginHash)
    (workShardCount netShardCount logicShardCount : Nat) :
    Traced codec lh []
      (Cluster.create workShardCount netShardCount logicShardCount) where
  length := rfl
  bound := fun _ h => absurd rfl h
  packets := fun packet h => absurd h (Cluster.travels_create _ _ _ packet)
  tasks := by
    intro k task htask
    cases htask

theorem Traced.silent (h : Traced codec lh past s) (hsilent : Cluster.Silent s s') :
    Traced codec lh past s' where
  length := h.length.trans hsilent.nextIndex.symm
  bound := by
    intro c
    rw [hsilent.uid]
    exact h.bound c
  packets := fun packet hpacket => h.packets packet (hsilent.travels packet hpacket)
  tasks := fun k task htask => h.tasks k task (hsilent.queues k task htask)

/-- Sessions come and take uids of their own. -/
theorem Traced.rebind (h : Traced codec lh past s) (hsame : Cluster.SameInbound s s')
    (hbound : forall c, (s'.sessions c).uid ≠ 0 ->
      Cluster.Owns lh c (s'.sessions c).uid) : Traced codec lh past s' where
  length := h.length.trans hsame.nextIndex.symm
  bound := hbound
  packets := fun packet hpacket => h.packets packet ((hsame.travels packet).mp hpacket)
  tasks := by
    intro k task htask
    rw [hsame.queues] at htask
    exact h.tasks k task htask

theorem Traced.accept (h : Traced codec lh past s) (w : Nat) :
    Traced codec lh past (s.accept w) := by
  apply h.rebind (Cluster.accept_same s w)
  intro c
  unfold Cluster.accept
  split
  · dsimp only
    by_cases hc : c = s.sessionCount
    · subst hc
      rw [Function.update_self]
      exact fun huid => absurd rfl huid
    · rw [Function.update_of_ne hc]
      exact h.bound c
  · exact h.bound c

theorem Traced.handleLoginReq (h : Traced codec lh past s) (c : Nat)
    (account token : String) :
    Traced codec lh past (s.handleLoginReq lh c account token) := by
  have hown : Cluster.Owns lh c (makeLoginUid lh.hash c account token) :=
    ⟨account, token, rfl⟩
  apply h.rebind (Cluster.bindUid_same s c _)
  intro d
  rw [(Cluster.bindUid_sessions s c hown.ne_zero).left]
  by_cases hd : d = c
  · subst hd
    rw [Function.update_self]
    exact fun _ => hown
  · rw [Function.update_of_ne hd]
    exact h.bound d

theorem Traced.arrive (h : Traced codec lh past s) (c : Nat) :
    Traced codec lh past (s.arrive codec c) := by
  unfold Cluster.arrive
  split
  · exact h
  · next packet rest hwire =>
      have hfirst : Cluster.Travels s packet := by
        refine ⟨c, ?_⟩
        rw [hwire]
        exact List.mem_cons_self
      have hpopped : Cluster.Silent s (s.setConn c { s.conns c with wire := rest }) := by
        refine Cluster.Silent.of_setConn rfl ?_ rfl rfl rfl
        intro other hother
        rw [hwire]
        exact List.mem_cons_of_mem packet hother
      have htraced := h.silent hpopped
      refine ⟨htraced.length, htraced.bound, htraced.packets, ?_⟩
      intro k task htask
      rw [GameServer.onPacket_queue, List.mem_append] at htask
      cases htask with
      | inl hold => exact h.tasks k task hold
      | inr hnew =>
          obtain ⟨f, input, hpast, hsent⟩ := h.packets packet hfirst
          have hbody := (GameServer.packetTasks_one _ _ _ _ _ _ _ k).body task hnew
          refine ⟨f, input, ?_, hsent.causes hnew⟩
          rw [hbody]
          exact hpast

/-- A packet is sent, and the step is remembered under its number. -/
theorem Traced.post {f : Frontend F} {input : FrontendInput}
    (h : Traced codec lh past f.cluster) {c : Nat} {msgId : MsgId} {body : Bytes}
    (hposted : Cluster.Posted f.cluster s' c msgId body)
    (hsent : forall packet : InPacket Bytes, packet.stamp.session = c ->
      packet.stamp.index = f.cluster.nextIndex -> packet.msgId = msgId ->
        packet.body = body -> SentBy codec lh f input packet) :
    Traced codec lh (past ++ [(f, input)]) s' := by
  have hold : forall {index : Nat} {step : Frontend F × FrontendInput},
      past[index]? = some step -> (past ++ [(f, input)])[index]? = some step := by
    intro index step hstep
    rw [List.getElem?_append_left (List.getElem?_eq_some_iff.mp hstep).1]
    exact hstep
  constructor
  · rw [List.length_append, h.length, hposted.nextIndex]
    rfl
  · intro d
    rw [hposted.uid]
    exact h.bound d
  · intro packet hpacket
    rcases hposted.travels packet hpacket with hbefore | ⟨hsession, hindex, hid, hbody⟩
    · obtain ⟨g, step, hpast, hgsent⟩ := h.packets packet hbefore
      exact ⟨g, step, hold hpast, hgsent⟩
    · refine ⟨f, input, ?_, hsent packet hsession hindex hid hbody⟩
      rw [hindex, ← h.length]
      exact List.getElem?_concat_length
  · intro k task htask
    obtain ⟨g, step, hpast, hcaused⟩ := h.tasks k task (hposted.queues k task htask)
    exact ⟨g, step, hold hpast, hcaused⟩

variable {cc : ClientCodec codec} {f : Frontend F} {c : Nat}

/-- A request that is handled is sent under the uid of the session, or not at all. -/
theorem Traced.forward {input : FrontendInput} {msgId : MsgId} {payload : Bytes}
    (h : Traced codec lh past f.cluster) (hforwards : f.Forwards input c msgId payload) :
    Cluster.Silent f.cluster
        (Cluster.forwardClientMsgToGame cc.toGateCodec f.cluster c msgId payload) ∨
      (Cluster.forwardClientMsgToGame cc.toGateCodec f.cluster c msgId
          payload).nextIndex ≠ f.cluster.nextIndex ∧
        Traced codec lh (past ++ [(f, input)])
          (Cluster.forwardClientMsgToGame cc.toGateCodec f.cluster c msgId payload) := by
  rcases Cluster.forward_posted cc.toGateCodec f.cluster c msgId payload with
    hsilent | ⟨huid, envelope, henvelope, hposted⟩
  · exact Or.inl hsilent
  · right
    constructor
    · rw [hposted.nextIndex]
      exact Nat.succ_ne_self _
    · apply h.post hposted
      intro packet hsession hindex hid hbody
      subst hsession
      refine ⟨hindex.symm, huid, h.bound _ huid, Or.inl ⟨msgId, payload, hforwards, hid, ?_⟩⟩
      rw [hbody]
      exact cc.envelope _ msgId payload envelope henvelope

/-- A session that is closed sends the notice with its uid, or nothing. -/
theorem Traced.close {input : FrontendInput} (h : Traced codec lh past f.cluster)
    (hcloses : f.isOpen c = true -> f.Closes input c) :
    Cluster.Silent f.cluster (Cluster.closeSession cc.toGateCodec f.cluster c) ∨
      (Cluster.closeSession cc.toGateCodec f.cluster c).nextIndex ≠
          f.cluster.nextIndex ∧
        Traced codec lh (past ++ [(f, input)])
          (Cluster.closeSession cc.toGateCodec f.cluster c) := by
  rcases Cluster.closeSession_posted cc.toGateCodec f.cluster c with
    hsilent | ⟨hopen, huid, hposted⟩
  · exact Or.inl hsilent
  · right
    constructor
    · rw [hposted.nextIndex]
      exact Nat.succ_ne_self _
    · apply h.post hposted
      intro packet hsession hindex hid hbody
      subst hsession
      refine ⟨hindex.symm, huid, h.bound _ huid, Or.inr ⟨hcloses hopen, hid, ?_⟩⟩
      rw [hbody]
      exact cc.disconnectedUid _

/-- The step is remembered exactly if a number was used up. -/
theorem Traced.emit {input : FrontendInput} (h : Traced codec lh past f.cluster)
    (hstep : Cluster.Silent f.cluster s' ∨
      s'.nextIndex ≠ f.cluster.nextIndex ∧
        Traced codec lh (past ++ [(f, input)]) s') :
    Traced codec lh
      (past ++ if s'.nextIndex = f.cluster.nextIndex then [] else [(f, input)]) s' := by
  rcases hstep with hsilent | ⟨hne, htraced⟩
  · rw [if_pos hsilent.nextIndex, List.append_nil]
    exact h.silent hsilent
  · rw [if_neg hne]
    exact htraced

theorem Traced.keep {input : FrontendInput} (h : Traced codec lh past f.cluster)
    (h' : Traced codec lh past s') :
    Traced codec lh
      (past ++ if s'.nextIndex = f.cluster.nextIndex then [] else [(f, input)]) s' := by
  have hsame : s'.nextIndex = f.cluster.nextIndex := h'.length.symm.trans h.length
  rw [if_pos hsame, List.append_nil]
  exact h'

theorem Traced.handleMsg (h : Traced codec lh past f.cluster) {msgId : UInt16}
    {body : Bytes} (hpacket : f.dispatched c = some (msgId, body)) :
    Traced codec lh
      (past ++
        if (handleMsg cc lh f c msgId body).cluster.nextIndex = f.cluster.nextIndex
        then [] else [(f, FrontendInput.readRuns c)])
      (handleMsg cc lh f c msgId body).cluster := by
  unfold Frontend.handleMsg
  split
  · exact h.keep h
  · exact h.keep h
  · split
    · exact h.keep h
    · next account token _ => exact h.keep (h.handleLoginReq c account token)
  · next forwarded hhandler =>
      exact h.emit (h.forward ⟨rfl, msgId, hpacket, hhandler⟩)

theorem Traced.readRuns (h : Traced codec lh past f.cluster) (c : Nat) :
    Traced codec lh
      (past ++
        if (handleRead cc lh f c).cluster.nextIndex = f.cluster.nextIndex then []
        else [(f, FrontendInput.readRuns c)])
      (handleRead cc lh f c).cluster := by
  rcases handleRead_cases cc lh f c with
    ⟨msgId, body, hpacket, hcluster⟩ | ⟨hnone, hsame | hclosed⟩
  · rw [hcluster]
    exact h.handleMsg hpacket
  · rw [hsame]
    exact h.keep h
  · rw [hclosed]
    exact h.emit (h.close fun hopen => ⟨hopen, Or.inr ⟨rfl, hnone⟩⟩)

variable [Scalar F]

theorem Traced.handle (h : Traced codec lh past f.cluster) (input : FrontendInput) :
    Traced codec lh (past ++ (handle cc lh f input).2)
      (handle cc lh f input).1.cluster := by
  unfold Frontend.handle
  cases input with
  | accepts w =>
      apply h.keep
      change Traced codec lh past (f.accept w).cluster
      unfold Frontend.accept
      split
      · exact h.accept w
      · exact h
  | sends c bytes => exact h.keep h
  | readEnds c =>
      apply h.keep
      change Traced codec lh past (f.readEnds c).cluster
      unfold Frontend.readEnds
      split
      · exact h
      · split
        · exact h
        · exact h
  | readBreaks c => exact h.keep h
  | readRuns c => exact h.readRuns c
  | closes c =>
      change Traced codec lh
        (past ++ if (Frontend.close cc f c).cluster.nextIndex = f.cluster.nextIndex
          then [] else [(f, FrontendInput.closes c)]) (Frontend.close cc f c).cluster
      rw [close_cluster]
      exact h.emit (h.close fun hopen => ⟨hopen, Or.inl rfl⟩)
  | backend input =>
      apply h.keep
      simp only [next]
      split
      · next hinput =>
          rcases Cluster.backend_silent cc.toGateCodec lh f.cluster input hinput with
            hsilent | ⟨c, harrive⟩
          · exact h.silent hsilent
          · rw [harrive]
            exact h.arrive c
      · exact h

end Steps

variable [Scalar F]

/--
Every task in a queue of the game server was caused by a step of the session that
its packet belongs to, and acts for the uid that this session alone can have.
-/
theorem run_tasks_authentic (cc : ClientCodec codec) (lh : LoginHash)
    (workShardCount netShardCount logicShardCount : Nat)
    (inputs : List FrontendInput) (k : Nat) (task : LogicTask (Stamp × Bytes))
    (htask : task ∈ (run cc lh workShardCount netShardCount logicShardCount
      inputs).1.cluster.server.queues k) :
    exists front input back, inputs = front ++ input :: back ∧
      CausedBy codec lh
        (run cc lh workShardCount netShardCount logicShardCount front).1 input
        task := by
  have hstep : forall past (f : Frontend F) input, Traced codec lh past f.cluster ->
      Traced codec lh (past ++ (handle cc lh f input).2)
        (handle cc lh f input).1.cluster :=
    fun _ _ input h => h.handle input
  have htraced := runMachine_invariant
    (fun past (f : Frontend F) => Traced codec lh past f.cluster) hstep []
    (create workShardCount netShardCount logicShardCount)
    (traced_create codec lh workShardCount netShardCount logicShardCount) inputs
  obtain ⟨f, input, hpast, hcaused⟩ := htraced.tasks k task htask
  obtain ⟨front, input', back, heq, hsent⟩ := mem_runMachine (List.mem_of_getElem? hpast)
  refine ⟨front, input', back, heq, ?_⟩
  unfold handle at hsent
  dsimp only at hsent
  split at hsent
  · cases hsent
  · rw [List.mem_singleton] at hsent
    cases hsent
    exact hcaused

/-- A client logs in and asks for a room; both packets arrive in one piece. -/
def createRoomBytes : List FrontendInput :=
  [FrontendInput.accepts 0,
    FrontendInput.backend (Cluster.ClusterInput.connects 0 0 0),
    FrontendInput.sends 0
      (loginPacket ++ [0x52, 0x54, 0x27, 0x75, 0, 0, 0, 0, 0, 2, 0x10, 2]),
    FrontendInput.readRuns 0, FrontendInput.readEnds 0,
    FrontendInput.readRuns 0, FrontendInput.readEnds 0,
    FrontendInput.readRuns 0, FrontendInput.readEnds 0,
    FrontendInput.readRuns 0, FrontendInput.readEnds 0, FrontendInput.readRuns 0,
    FrontendInput.backend (Cluster.ClusterInput.writes 0),
    FrontendInput.backend (Cluster.ClusterInput.arrives 0)]

theorem createRoomBytes_authentic :
    exists task, task ∈ (run (Proto.clientCodec (F := Rat)) LoginHash.byAccount 1 1 1
        createRoomBytes).1.cluster.server.queues 0 ∧
      task.msgId = MsgId.createRoomReq ∧ task.uid = 1 ∧
        exists front input back, createRoomBytes = front ++ input :: back ∧
          CausedBy Proto.codec LoginHash.byAccount
            (run (Proto.clientCodec (F := Rat)) LoginHash.byAccount 1 1 1 front).1 input
            task := by
  have hqueue : ((run (Proto.clientCodec (F := Rat)) LoginHash.byAccount 1 1 1
      createRoomBytes).1.cluster.server.queues 0).map
        (fun task => (task.msgId, task.uid)) = [(MsgId.createRoomReq, 1)] := by
    decide +kernel
  have hmem : (MsgId.createRoomReq, 1) ∈ ((run (Proto.clientCodec (F := Rat))
      LoginHash.byAccount 1 1 1 createRoomBytes).1.cluster.server.queues 0).map
        (fun task => (task.msgId, task.uid)) := by
    rw [hqueue]
    exact List.mem_cons_self
  obtain ⟨task, htask, heq⟩ := List.mem_map.mp hmem
  exact ⟨task, htask, congrArg Prod.fst heq, congrArg Prod.snd heq,
    run_tasks_authentic Proto.clientCodec LoginHash.byAccount 1 1 1 createRoomBytes 0
      task htask⟩

end Frontend

end RtsGame
