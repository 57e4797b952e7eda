import RtsGame.Server.Membership

/-!
# What a packet adds to the queues

A request is posted to one logic shard and a disconnect notice to all of them.
The tasks that a packet adds to a queue are given by one function, and `onPacket`
is described by it.
-/

namespace RtsGame

namespace GameServer

variable {B F : Type}

/-- The tasks that a request adds to the queue of a shard. -/
def requestTasks (codec : Codec B F) (g : GameServer B F) (net : Nat)
    (route : GatewayRoute) (msgId : MsgId) (seq : Nat) (body : B) (i : Nat) :
    List (LogicTask B) :=
  match parseGateToGameEnvelope codec body with
  | none => []
  | some (envelope, _) =>
      if envelope.uid = 0 then []
      else if g.logicShardCount = 0 then []
      else if i = (resolveLogicShard codec g net msgId envelope).1 then
        [⟨msgId, envelope.uid, seq, route, body⟩]
      else []

/-- The tasks that a disconnect notice adds to the queue of a shard. -/
def noticeTasks (codec : Codec B F) (g : GameServer B F) (body : B) (i : Nat) :
    List (LogicTask B) :=
  match codec.disconnectedUid body with
  | none => []
  | some uid =>
      if uid = 0 then []
      else if i < g.logicShardCount then [disconnectTask body]
      else []

def dispatchTasks (codec : Codec B F) (g : GameServer B F) (net : Nat)
    (route : GatewayRoute) (msgId : MsgId) (seq : Nat) (body : B) (i : Nat) :
    List (LogicTask B) :=
  match msgId with
  | MsgId.clientDisconnectedNtf => noticeTasks codec g body i
  | MsgId.gateToGameEnvelope => []
  | MsgId.pingReq => []
  | MsgId.other => []
  | _ => requestTasks codec g net route msgId seq body i

/-- The tasks that a packet adds to the queue of a shard. -/
def packetTasks (codec : Codec B F) (g : GameServer B F) (net : Nat)
    (route : GatewayRoute) (msgId : MsgId) (seq : Nat) (body : B) (i : Nat) :
    List (LogicTask B) :=
  if msgId = MsgId.gateToGameEnvelope then
    match parseGateToGameEnvelope codec body with
    | none => []
    | some (envelope, innerMsgId) =>
        dispatchTasks codec g net route innerMsgId envelope.clientSeq body i
  else dispatchTasks codec g net route msgId seq body i

/-!
## The queues
-/

theorem postToLogic_queue (g : GameServer B F) (shardId : Nat)
    (task : LogicTask B) (i : Nat) :
    (g.postToLogic shardId task).queues i =
      g.queues i ++
        if i = shardId ∧ shardId < g.logicShardCount then [task] else [] := by
  unfold postToLogic
  by_cases hlt : shardId < g.logicShardCount
  · rw [if_pos hlt]
    by_cases hi : i = shardId
    · subst hi
      simp [hlt]
    · simp [hi]
  · rw [if_neg hlt]
    simp [hlt]

theorem postToAll_queue (task : LogicTask B) (i : Nat) (ids : List Nat)
    (hnodup : ids.Nodup) (g : GameServer B F)
    (hids : forall j, j ∈ ids -> j < g.logicShardCount) :
    (ids.foldl (fun g shardId => g.postToLogic shardId task) g).queues i =
      g.queues i ++ if i ∈ ids then [task] else [] := by
  induction ids generalizing g with
  | nil =>
      simp
  | cons j rest ih =>
      have hj := hids j List.mem_cons_self
      have hcount := (postToLogic_same g j task).right
      have hrest : forall k, k ∈ rest ->
          k < (g.postToLogic j task).logicShardCount := by
        intro k hk
        rw [hcount]
        exact hids k (List.mem_cons_of_mem j hk)
      rw [List.nodup_cons] at hnodup
      rw [List.foldl_cons, ih hnodup.right _ hrest, postToLogic_queue]
      by_cases hi : i = j
      · subst hi
        simp [hj, hnodup.left]
      · simp [hi]

theorem resolveLogicShard_lt (codec : Codec B F) (g : GameServer B F) (net : Nat)
    (msgId : MsgId) (envelope : GateToGameEnvelope B)
    (hcount : g.logicShardCount ≠ 0) :
    (resolveLogicShard codec g net msgId envelope).1 < g.logicShardCount := by
  have hpos := Nat.pos_of_ne_zero hcount
  unfold resolveLogicShard pickLogicShard
  rw [if_neg hcount, if_neg hcount]
  split
  · exact Nat.mod_lt _ hpos
  · split
    · exact Nat.mod_lt _ hpos
    · exact hpos

theorem resolveLogicShard_queues (codec : Codec B F) (g : GameServer B F)
    (net : Nat) (msgId : MsgId) (envelope : GateToGameEnvelope B) :
    (resolveLogicShard codec g net msgId envelope).2.queues = g.queues := by
  unfold resolveLogicShard pickLogicShard
  split
  · rfl
  · split
    · rfl
    · split
      · rfl
      · rfl

theorem forwardToLogic_queue (codec : Codec B F) (g : GameServer B F) (net : Nat)
    (route : GatewayRoute) (msgId : MsgId) (seq : Nat) (body : B) (i : Nat) :
    (forwardToLogic codec g net route msgId seq body).queues i =
      g.queues i ++ requestTasks codec g net route msgId seq body i := by
  unfold forwardToLogic requestTasks
  cases parseGateToGameEnvelope codec body with
  | none =>
      simp
  | some parsed =>
      simp only
      split
      · simp
      · split
        · simp
        · rename_i hcount
          have hsame := resolveLogicShard_same codec g net msgId parsed.1
          have hlt := resolveLogicShard_lt codec g net msgId parsed.1 hcount
          rw [postToLogic_queue, resolveLogicShard_queues, hsame.right]
          simp [hlt]

theorem handleClientDisconnected_queue (codec : Codec B F) (g : GameServer B F)
    (body : B) (i : Nat) :
    (handleClientDisconnected codec g body).queues i =
      g.queues i ++ noticeTasks codec g body i := by
  unfold handleClientDisconnected noticeTasks
  cases codec.disconnectedUid body with
  | none =>
      simp
  | some uid =>
      simp only
      split
      · simp
      · rw [postToAll_queue _ _ _ List.nodup_range _ (fun j => List.mem_range.mp)]
        simp

theorem dispatchPacket_queue (codec : Codec B F) (g : GameServer B F) (net : Nat)
    (route : GatewayRoute) (msgId : MsgId) (seq : Nat) (body : B) (i : Nat) :
    (dispatchPacket codec g net route msgId seq body).queues i =
      g.queues i ++ dispatchTasks codec g net route msgId seq body i := by
  cases msgId with
  | clientDisconnectedNtf => exact handleClientDisconnected_queue codec g body i
  | gateToGameEnvelope => exact (List.append_nil _).symm
  | pingReq => exact (List.append_nil _).symm
  | other => exact (List.append_nil _).symm
  | _ => exact forwardToLogic_queue codec g net route _ seq body i

theorem onPacket_queue (codec : Codec B F) (g : GameServer B F) (net : Nat)
    (route : GatewayRoute) (msgId : MsgId) (seq : Nat) (body : B) (i : Nat) :
    (onPacket codec g net route msgId seq body).queues i =
      g.queues i ++ packetTasks codec g net route msgId seq body i := by
  unfold onPacket packetTasks
  split
  · cases parseGateToGameEnvelope codec body with
    | none => exact (List.append_nil _).symm
    | some parsed => exact dispatchPacket_queue codec g net route _ _ body i
  · exact dispatchPacket_queue codec g net route msgId seq body i

/-!
## The tasks
-/

/-- At most one task with the body of the packet, and only for a shard that exists. -/
structure OnePacket (g : GameServer B F) (body : B) (i : Nat)
    (tasks : List (LogicTask B)) : Prop where
  one : tasks = [] ∨ exists task, tasks = [task]
  body : forall task, task ∈ tasks -> task.body = body
  lt : tasks ≠ [] -> i < g.logicShardCount

theorem OnePacket.nil (g : GameServer B F) (body : B) (i : Nat) :
    OnePacket g body i [] :=
  ⟨Or.inl rfl, fun _ h => absurd h List.not_mem_nil, fun h => absurd rfl h⟩

theorem OnePacket.single {g : GameServer B F} {i : Nat} (task : LogicTask B)
    (hi : i < g.logicShardCount) : OnePacket g task.body i [task] where
  one := Or.inr ⟨task, rfl⟩
  body := by
    intro task' h
    rw [List.mem_singleton.mp h]
  lt := fun _ => hi

theorem requestTasks_one (codec : Codec B F) (g : GameServer B F) (net : Nat)
    (route : GatewayRoute) (msgId : MsgId) (seq : Nat) (body : B) (i : Nat) :
    OnePacket g body i (requestTasks codec g net route msgId seq body i) := by
  unfold requestTasks
  split
  · exact OnePacket.nil g body i
  · split
    · exact OnePacket.nil g body i
    · split
      · exact OnePacket.nil g body i
      · rename_i envelope _ _ _ hcount
        split
        · rename_i hi
          have hlt := resolveLogicShard_lt codec g net msgId envelope hcount
          rw [← hi] at hlt
          exact OnePacket.single ⟨msgId, envelope.uid, seq, route, body⟩ hlt
        · exact OnePacket.nil g body i

theorem noticeTasks_one (codec : Codec B F) (g : GameServer B F) (body : B)
    (i : Nat) : OnePacket g body i (noticeTasks codec g body i) := by
  unfold noticeTasks
  split
  · exact OnePacket.nil g body i
  · split
    · exact OnePacket.nil g body i
    · split
      · rename_i hi
        exact OnePacket.single (disconnectTask body) hi
      · exact OnePacket.nil g body i

theorem packetTasks_one (codec : Codec B F) (g : GameServer B F) (net : Nat)
    (route : GatewayRoute) (msgId : MsgId) (seq : Nat) (body : B) (i : Nat) :
    OnePacket g body i (packetTasks codec g net route msgId seq body i) := by
  have hdispatch : forall msgId seq, OnePacket g body i
      (dispatchTasks codec g net route msgId seq body i) := by
    intro msgId seq
    cases msgId with
    | clientDisconnectedNtf => exact noticeTasks_one codec g body i
    | gateToGameEnvelope => exact OnePacket.nil g body i
    | pingReq => exact OnePacket.nil g body i
    | other => exact OnePacket.nil g body i
    | _ => exact requestTasks_one codec g net route _ seq body i
  unfold packetTasks
  split
  · split
    · exact OnePacket.nil g body i
    · exact hdispatch _ _
  · exact hdispatch _ _

end GameServer

end RtsGame
