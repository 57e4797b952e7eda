import RtsGame.Server.Posting
import RtsGame.Shard.Presence

/-!
# What the logic shards will remember

The tasks in the queue of a shard determine which routes it has once it has
handled them.  Working through the queue does not change this, so it is a
function of the packets that have arrived.
-/

namespace RtsGame

namespace GameServer

variable {B F : Type}

/-- The routes of a shard once it has handled its queue. -/
def routesToBe (codec : Codec B F) (g : GameServer B F) (k : Nat) : Routes :=
  (g.queues k).foldl (LogicShard.routesAfter codec) (g.shards k).uidRoute

theorem onPacket_routesToBe (codec : Codec B F) (g : GameServer B F) (net : Nat)
    (route : GatewayRoute) (msgId : MsgId) (seq : Nat) (body : B) (k : Nat) :
    routesToBe codec (onPacket codec g net route msgId seq body) k =
      (packetTasks codec g net route msgId seq body k).foldl
        (LogicShard.routesAfter codec) (routesToBe codec g k) := by
  unfold routesToBe
  rw [onPacket_queue, (onPacket_same codec g net route msgId seq body).left,
    List.foldl_append]

/-- A request is remembered by the shard that it is posted to. -/
theorem mem_routesToBe_request {codec : Codec B F} {g : GameServer B F} {net : Nat}
    {route : GatewayRoute} {seq : Nat} {body : B}
    {envelope : GateToGameEnvelope B} {msgId : MsgId} (hn : 1 ≤ g.logicShardCount)
    (hparse : parseGateToGameEnvelope codec body = some (envelope, msgId))
    (huid : envelope.uid ≠ 0)
    (hrequest : dispatchTasks codec g net route msgId envelope.clientSeq body =
      requestTasks codec g net route msgId envelope.clientSeq body)
    (hmsg : msgId ≠ MsgId.clientDisconnectedNtf) :
    exists j, j < g.logicShardCount ∧ forall k u,
      u ∈ routesToBe codec
        (onPacket codec g net route MsgId.gateToGameEnvelope seq body) k <->
        u ∈ routesToBe codec g k ∨ (u = envelope.uid ∧ k = j) := by
  have hcount : g.logicShardCount ≠ 0 := Nat.one_le_iff_ne_zero.mp hn
  refine ⟨(resolveLogicShard codec g net msgId envelope).1,
    resolveLogicShard_lt codec g net msgId envelope hcount, ?_⟩
  intro k u
  rw [onPacket_routesToBe]
  unfold packetTasks
  rw [if_pos rfl, hparse]
  simp only
  rw [hrequest]
  unfold requestTasks
  rw [hparse]
  simp only
  rw [if_neg huid, if_neg hcount]
  split
  · rename_i hk
    have hafter : LogicShard.routesAfter codec (routesToBe codec g k)
        ⟨msgId, envelope.uid, envelope.clientSeq, route, body⟩ =
        (routesToBe codec g k).insert envelope.uid route := by
      unfold LogicShard.routesAfter
      rw [if_neg hmsg, if_pos huid]
    rw [List.foldl_cons, List.foldl_nil, hafter, AList.mem_insert]
    constructor
    · intro h
      cases h with
      | inl heq => exact Or.inr ⟨heq, hk⟩
      | inr hold => exact Or.inl hold
    · intro h
      cases h with
      | inl hold => exact Or.inr hold
      | inr heq => exact Or.inl heq.left
  · rename_i hk
    simp [hk]

/-- A notice makes every shard forget the player. -/
theorem mem_routesToBe_notice {codec : Codec B F} {g : GameServer B F} {net : Nat}
    {route : GatewayRoute} {seq : Nat} {body : B} {uid : Nat}
    (hparse : codec.disconnectedUid body = some uid) (huid : uid ≠ 0) (k u : Nat) :
    u ∈ routesToBe codec
      (onPacket codec g net route MsgId.clientDisconnectedNtf seq body) k <->
      u ∈ routesToBe codec g k ∧ ¬ (u = uid ∧ k < g.logicShardCount) := by
  rw [onPacket_routesToBe]
  have htasks : packetTasks codec g net route MsgId.clientDisconnectedNtf seq body k =
      noticeTasks codec g body k := by
    unfold packetTasks
    rw [if_neg (by decide)]
    rfl
  rw [htasks]
  unfold noticeTasks
  rw [hparse]
  simp only
  rw [if_neg huid]
  split
  · rename_i hk
    have hafter : LogicShard.routesAfter codec (routesToBe codec g k)
        (disconnectTask body) = (routesToBe codec g k).erase uid := by
      unfold LogicShard.routesAfter disconnectTask
      simp [hparse, huid]
    rw [List.foldl_cons, List.foldl_nil, hafter, AList.mem_erase]
    constructor
    · intro h
      exact ⟨h.right, fun hboth => h.left hboth.left⟩
    · intro h
      exact ⟨fun heq => h.right ⟨heq, hk⟩, h.left⟩
  · rename_i hk
    simp [hk]

variable [Scalar F]

theorem work_routesToBe (codec : Codec B F) (ω : Orders) (g : GameServer B F)
    (shardId k : Nat) :
    routesToBe codec (work codec ω g shardId).1 k = routesToBe codec g k := by
  unfold work
  cases hqueue : g.queues shardId with
  | nil =>
      rfl
  | cons task rest =>
      unfold routesToBe
      by_cases hk : k = shardId
      · subst hk
        simp [hqueue, LogicShard.handleTask_uidRoute]
      · simp [hk]

theorem tick_routesToBe (codec : Codec B F) (ω : Orders) (g : GameServer B F)
    (shardId k : Nat) :
    routesToBe codec (tick ω g shardId).1 k = routesToBe codec g k := by
  unfold tick routesToBe
  by_cases hk : k = shardId
  · subst hk
    simp [(LogicShard.tickRooms_index ω (g.shards k)).left]
  · simp [hk]

/-!
## Players whose route is forgotten
-/

/-- Every shard agrees with itself, and queues hold tasks of network shards only. -/
structure Mindful (g : GameServer B F) : Prop where
  indexed : forall k, WellIndexed (g.shards k)
  traced : forall k, LogicShard.Traced (g.shards k)
  posted : forall k task, task ∈ g.queues k -> LogicShard.Posted task

omit [Scalar F] in
theorem mindful_create (logicShardCount : Nat) :
    Mindful (create logicShardCount : GameServer B F) where
  indexed := fun k => WellIndexed.create k logicShardCount
  traced := by
    intro k u hu
    cases hu
  posted := by
    intro k task htask
    cases htask

omit [Scalar F] in
theorem packetTasks_posted (codec : Codec B F) (g : GameServer B F) (net : Nat)
    (route : GatewayRoute) (msgId : MsgId) (seq : Nat) (body : B) (k : Nat) :
    forall task, task ∈ packetTasks codec g net route msgId seq body k ->
      LogicShard.Posted task := by
  have hrequest : forall msgId seq task,
      task ∈ requestTasks codec g net route msgId seq body k ->
        LogicShard.Posted task := by
    intro msgId seq task htask
    unfold requestTasks at htask
    split at htask
    · cases htask
    · split at htask
      · cases htask
      · rename_i huid
        split at htask
        · cases htask
        · split at htask
          · rw [List.mem_singleton.mp htask]
            exact Or.inr huid
          · cases htask
  have hnotice : forall task, task ∈ noticeTasks codec g body k ->
      LogicShard.Posted task := by
    intro task htask
    unfold noticeTasks at htask
    split at htask
    · cases htask
    · split at htask
      · cases htask
      · split at htask
        · rw [List.mem_singleton.mp htask]
          exact Or.inl rfl
        · cases htask
  have hdispatch : forall msgId seq task,
      task ∈ dispatchTasks codec g net route msgId seq body k ->
        LogicShard.Posted task := by
    intro msgId seq task htask
    cases msgId with
    | clientDisconnectedNtf => exact hnotice task htask
    | gateToGameEnvelope => cases htask
    | pingReq => cases htask
    | other => cases htask
    | _ => exact hrequest _ seq task htask
  intro task htask
  unfold packetTasks at htask
  split at htask
  · split at htask
    · cases htask
    · exact hdispatch _ _ task htask
  · exact hdispatch _ _ task htask

omit [Scalar F] in
theorem Mindful.onPacket {g : GameServer B F} (h : Mindful g) (codec : Codec B F)
    (net : Nat) (route : GatewayRoute) (msgId : MsgId) (seq : Nat) (body : B) :
    Mindful (GameServer.onPacket codec g net route msgId seq body) where
  indexed := by
    rw [(onPacket_same codec g net route msgId seq body).left]
    exact h.indexed
  traced := by
    rw [(onPacket_same codec g net route msgId seq body).left]
    exact h.traced
  posted := by
    intro k task htask
    rw [onPacket_queue] at htask
    cases List.mem_append.mp htask with
    | inl hold => exact h.posted k task hold
    | inr hnew => exact packetTasks_posted codec g net route msgId seq body k task hnew

omit [Scalar F] in
/-- One shard moves on and takes at most some tasks from its queue. -/
theorem Mindful.update {g : GameServer B F} (h : Mindful g) {shardId : Nat}
    {s : LogicShard F} (hindexed : WellIndexed s) (htraced : LogicShard.Traced s)
    {queues : Nat -> List (LogicTask B)}
    (hqueues : forall k task, task ∈ queues k -> task ∈ g.queues k) :
    Mindful { g with shards := Function.update g.shards shardId s, queues := queues } where
  indexed := by
    intro k
    by_cases hk : k = shardId
    · subst hk
      simpa using hindexed
    · simpa [hk] using h.indexed k
  traced := by
    intro k
    by_cases hk : k = shardId
    · subst hk
      simpa using htraced
    · simpa [hk] using h.traced k
  posted := fun k task htask => h.posted k task (hqueues k task htask)

theorem Mindful.work {g : GameServer B F} (h : Mindful g) (codec : Codec B F)
    (ω : Orders) (shardId : Nat) : Mindful (GameServer.work codec ω g shardId).1 := by
  unfold GameServer.work
  cases hqueue : g.queues shardId with
  | nil =>
      exact h
  | cons task rest =>
      have hposted : LogicShard.Posted task := by
        apply h.posted shardId
        rw [hqueue]
        exact List.mem_cons_self
      have hindexed := (h.indexed shardId).moves
        ((h.indexed shardId).handle codec (LogicShard.ShardInput.task task ω)
          Policy.free_respected)
      apply h.update hindexed ((h.traced shardId).handleTask codec ω hposted)
      intro k task' htask'
      by_cases hk : k = shardId
      · subst hk
        rw [Function.update_self] at htask'
        rw [hqueue]
        exact List.mem_cons_of_mem task htask'
      · rw [Function.update_of_ne hk] at htask'
        exact htask'

theorem Mindful.tick {g : GameServer B F} (h : Mindful g) (codec : Codec B F)
    (ω : Orders) (shardId : Nat) : Mindful (GameServer.tick ω g shardId).1 := by
  have hindexed := (h.indexed shardId).moves
    ((h.indexed shardId).handle codec (LogicShard.ShardInput.tick ω)
      Policy.free_respected)
  exact h.update hindexed ((h.traced shardId).tickRooms ω) (fun _ _ htask => htask)

omit [Scalar F] in
/-- A player whose route is not known is not in any room. -/
theorem Mindful.forgotten {g : GameServer B F} (h : Mindful g) {k u : Nat}
    (hroute : u ∉ (g.shards k).uidRoute) :
    u ∉ (g.shards k).uidToRoom ∧
      forall roomId r, (g.shards k).rooms.lookup roomId = some r ->
        u ∉ r.players := by
  have hlisted : u ∉ (g.shards k).uidToRoom :=
    fun hu => hroute (h.traced k u hu)
  refine ⟨hlisted, ?_⟩
  intro roomId r hr hu
  exact hlisted (((h.indexed k).hasMember_iff u).mpr ⟨roomId, r, hr, hu⟩)

end GameServer

end RtsGame
