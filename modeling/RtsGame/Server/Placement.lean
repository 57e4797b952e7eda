import RtsGame.Server.Posting

/-!
# Which shard owns a room

A logic shard draws room ids from its own residue class, and a network shard
finds the owner of a room by its remainder.  The two agree for every message
whose first field is the room id, and so for all that the gateways forward.
-/

namespace RtsGame

variable {B F : Type}

/-!
## Messages and bytes

The generated protocol code is not part of the repository.  What is used of it
is that a parser returns what was written, that a message whose fields all have
default values takes no bytes, and that a route hint reads the first field of
whatever message the bytes are.
-/

/-- The envelope that a gateway builds: no room id and no sequence number. -/
def buildGateToGameEnvelope (uid : Nat) (innerMsgId : MsgId) (payload : B) :
    GateToGameEnvelope B where
  uid := uid
  roomId := 0
  innerMsgId := some innerMsgId
  clientSeq := 0
  payload := payload

/-- A serializer and the laws that tie the parsers to it. -/
structure Protobuf [Scalar F] (codec : Codec B F) where
  serialize : ClientRequest F -> B
  wrap : Nat -> MsgId -> B -> B
  envelope : forall uid msgId payload,
    codec.envelope (wrap uid msgId payload) =
      some (buildGateToGameEnvelope uid msgId payload)
  isEmpty : forall m, codec.isEmpty (serialize m) = true <-> m.AllDefault
  roomRouteHint : forall m, codec.roomRouteHint (serialize m) = some (m.varintField 1)
  leaveRoomReq : forall roomId,
    codec.leaveRoomReq (serialize (ClientRequest.leaveRoomReq roomId)) = some roomId
  playerReadyReq : forall roomId ready,
    codec.playerReadyReq (serialize (ClientRequest.playerReadyReq roomId ready)) =
      some ⟨roomId, ready⟩
  enterBattleReq : forall roomId,
    codec.enterBattleReq (serialize (ClientRequest.enterBattleReq roomId)) =
      some roomId
  moveCmd : forall roomId ids position attackMove path,
    codec.moveCmd (serialize
      (ClientRequest.moveCmd roomId ids position attackMove path)) =
      some ⟨ids, position, path⟩
  attackCmd : forall roomId ids entity,
    codec.attackCmd (serialize (ClientRequest.attackCmd roomId ids entity)) =
      some ⟨ids, entity.map fun ref => ref.id⟩
  harvestCmd : forall roomId ids field,
    codec.harvestCmd (serialize (ClientRequest.harvestCmd roomId ids field)) =
      some ⟨ids, field⟩
  storeResourceCmd : forall roomId ids camp,
    codec.storeResourceCmd
      (serialize (ClientRequest.storeResourceCmd roomId ids camp)) =
      some ⟨ids, camp⟩
  pickupResourceCmd : forall roomId ids drop,
    codec.pickupResourceCmd
      (serialize (ClientRequest.pickupResourceCmd roomId ids drop)) =
      some ⟨ids, drop⟩
  buildCmd : forall roomId ids type position yaw,
    codec.buildCmd (serialize (ClientRequest.buildCmd roomId ids type position yaw)) =
      some ⟨ids, type, position, yaw⟩
  constructCmd : forall roomId ids building,
    codec.constructCmd (serialize (ClientRequest.constructCmd roomId ids building)) =
      some ⟨ids, building⟩
  trainUnitCmd : forall roomId producer type,
    codec.trainUnitCmd (serialize (ClientRequest.trainUnitCmd roomId producer type)) =
      some ⟨producer, type⟩
  stopCmd : forall roomId ids,
    codec.stopCmd (serialize (ClientRequest.stopCmd roomId ids)) = some ids

namespace ClientRequest

/-- The first field of every request is the room id. -/
theorem varintField_one (m : ClientRequest F) : m.varintField 1 = m.roomId := by
  cases m with
  | _ => rfl

@[simp] theorem roomId_withRoom (m : ClientRequest F) (roomId : Nat) :
    (m.withRoom roomId).roomId = roomId := by
  cases m with
  | _ => rfl

@[simp] theorem msgId_withRoom (m : ClientRequest F) (roomId : Nat) :
    (m.withRoom roomId).msgId = m.msgId := by
  cases m with
  | _ => rfl

theorem msgId_ne_createRoomReq (m : ClientRequest F) :
    m.msgId ≠ MsgId.createRoomReq := by
  intro h
  cases m with
  | _ => cases h

end ClientRequest

variable [Scalar F]

/-!
## Room ids drawn by a shard
-/

namespace LogicShard

/-- The room id that a task makes the shard draw, if it creates a room. -/
def drawnRoomId (codec : Codec B F) (ω : Orders) (s : LogicShard F)
    (task : LogicTask B) : Option Nat :=
  if task.msgId = MsgId.createRoomReq then
    match parseRequest codec codec.createRoomReq task with
    | none => none
    | some _ =>
        some (s.shardId + s.shardCount * (leaveRoomInternal ω s task.uid).1.nextRoomId)
  else none

/-- The shard that handles a task, once the route of the sender is noted. -/
def routed (s : LogicShard F) (task : LogicTask B) : LogicShard F :=
  if task.uid ≠ 0 then
    { s with uidRoute := s.uidRoute.insert task.uid task.origin }
  else s

/-- At most the next room id is drawn, and no other room appears. -/
structure Draws (drawn : Option Nat) (s s' : LogicShard F) : Prop where
  shardId : s'.shardId = s.shardId
  shardCount : s'.shardCount = s.shardCount
  nextRoomId : s'.nextRoomId = s.nextRoomId + drawn.toList.length
  next : forall k, drawn = some k -> k = s.nextId
  rooms : forall k, k ∈ s'.rooms -> drawn = some k ∨ k ∈ s.rooms

namespace Draws

omit [Scalar F] in
theorem nothing {s s' : LogicShard F} (hshardId : s'.shardId = s.shardId)
    (hshardCount : s'.shardCount = s.shardCount)
    (hnextRoomId : s'.nextRoomId = s.nextRoomId)
    (hrooms : forall k, k ∈ s'.rooms -> k ∈ s.rooms) : Draws none s s' := by
  refine ⟨hshardId, hshardCount, hnextRoomId, ?_, ?_⟩
  · intro k hk
    cases hk
  · intro k hk
    exact Or.inr (hrooms k hk)

omit [Scalar F] in
theorem refl (s : LogicShard F) : Draws none s s :=
  nothing rfl rfl rfl fun _ hk => hk

omit [Scalar F] in
theorem after {drawn : Option Nat} {s t u : LogicShard F}
    (hst : Draws none s t) (htu : Draws drawn t u) : Draws drawn s u := by
  have hnext : t.nextRoomId = s.nextRoomId := hst.nextRoomId
  refine ⟨htu.shardId.trans hst.shardId, htu.shardCount.trans hst.shardCount,
    ?_, ?_, ?_⟩
  · rw [htu.nextRoomId, hnext]
  · intro k hk
    rw [htu.next k hk]
    unfold nextId
    rw [hst.shardId, hst.shardCount, hnext]
  · intro k hk
    rcases htu.rooms k hk with hdrawn | hold
    · exact Or.inl hdrawn
    · rcases hst.rooms k hold with hnone | hold
      · cases hnone
      · exact Or.inr hold

omit [Scalar F] in
/-- Writing a room that is there. -/
theorem write {s : LogicShard F} {roomId : Nat} {r r' : DungeonRoom F}
    (hr : s.rooms.lookup roomId = some r) (idx : Table Nat) :
    Draws none s
      { s with rooms := s.rooms.insert roomId r', uidToRoom := idx } := by
  refine nothing rfl rfl rfl ?_
  intro k hk
  rcases (AList.mem_insert s.rooms).mp hk with hk | hk
  · rw [hk]
    exact Table.mem_of_lookup hr
  · exact hk

end Draws

/-- Only in rooms that somebody is in, players take a seat. -/
def occupiedSeats : Policy F where
  seats := fun _ r => 0 < r.players.size
  parts := fun _ _ => True
  ticks := fun _ _ => True

theorem Draws.of_move {s s' : LogicShard F} {events : List (ShardEvent F)}
    (hmove : ShardMove occupiedSeats s events s') : Draws none s s' := by
  cases hmove with
  | route routes => exact Draws.nothing rfl rfl rfl fun _ hk => hk
  | talk _ => exact Draws.refl s
  | create roomName maxPlayers _ hseats => exact absurd hseats (Nat.lt_irrefl 0)
  | enter _ hr _ _ => exact Draws.write hr _
  | touch _ hr => exact Draws.write hr _
  | refresh hr => exact Draws.write hr _
  | inner hr _ => exact Draws.write hr _
  | leave _ hr _ _ _ => exact Draws.write hr _
  | vanish _ _ _ =>
      refine Draws.nothing rfl rfl rfl ?_
      intro k hk
      exact ((AList.mem_erase).mp hk).right

theorem Draws.of_moves {s s' : LogicShard F} {events : List (ShardEvent F)}
    (hmoves : Moves (ShardMove occupiedSeats) s events s') : Draws none s s' := by
  induction hmoves with
  | nil s =>
      exact Draws.refl s
  | cons hfirst _ ih =>
      exact (Draws.of_move hfirst).after ih

theorem handleCreateRoom_draws {s : LogicShard F} (h : WellIndexed s)
    (codec : Codec B F) (ω : Orders) {task : LogicTask B}
    (hmsg : task.msgId = MsgId.createRoomReq) :
    Draws (s.drawnRoomId codec ω task) s (handleCreateRoom codec ω s task).1 := by
  unfold drawnRoomId handleCreateRoom
  rw [if_pos hmsg]
  cases parseRequest codec codec.createRoomReq task with
  | none => exact Draws.refl s
  | some parsed =>
      have hleft : Draws none s (leaveRoomInternal ω s task.uid).1 :=
        Draws.of_moves (h.leaveRoomInternal ω task.uid fun _ _ _ _ => trivial)
      have hnext : (leaveRoomInternal ω s task.uid).1.nextRoomId = s.nextRoomId :=
        hleft.nextRoomId
      dsimp only
      generalize leaveRoomInternal ω s task.uid = left at *
      rw [hnext]
      refine ⟨hleft.shardId, hleft.shardCount, rfl, ?_, ?_⟩
      · intro k hk
        injection hk with hk
        exact hk.symm
      · intro k hk
        rcases (AList.mem_insert left.1.rooms).mp hk with hk | hk
        · exact Or.inl (congrArg some hk.symm)
        · rcases hleft.rooms k hk with hnone | hold
          · cases hnone
          · exact Or.inr hold

/-- Every task but a create request leaves the room ids alone. -/
theorem dispatch_draws {s : LogicShard F} (h : WellIndexed s)
    (codec : Codec B F) (ω : Orders) {task : LogicTask B}
    (hmsg : task.msgId ≠ MsgId.createRoomReq) :
    Draws none s (dispatch codec ω s task).1 := by
  have hrespects : occupiedSeats.RespectedBy codec s task := by
    constructor
    · intro uid r hseating
      cases hseating with
      | create hcreate _ => exact absurd hcreate hmsg
      | join _ _ hr _ _ => exact (h.shapes _ r hr).occupied
    · intro _ _ _
      trivial
  exact Draws.of_moves (h.dispatch codec ω task hrespects)

theorem routed_moves (p : Policy F) (s : LogicShard F) (task : LogicTask B) :
    Moves (ShardMove p) s [] (s.routed task) := by
  unfold routed
  split
  · exact Moves.single (ShardMove.route _)
  · exact Moves.nil s

theorem handleTask_draws {s : LogicShard F} (h : WellIndexed s)
    (codec : Codec B F) (ω : Orders) (task : LogicTask B) :
    Draws ((s.routed task).drawnRoomId codec ω task) s
      (handleTask codec ω s task).1 := by
  have hrouted := routed_moves occupiedSeats s task
  have hindexed : WellIndexed (s.routed task) := h.moves hrouted
  apply (Draws.of_moves hrouted).after
  show Draws _ (s.routed task) (dispatch codec ω (s.routed task) task).1
  by_cases hmsg : task.msgId = MsgId.createRoomReq
  · have hdispatch : dispatch codec ω (s.routed task) task =
        handleCreateRoom codec ω (s.routed task) task := by
      unfold dispatch
      rw [hmsg]
    rw [hdispatch]
    exact handleCreateRoom_draws hindexed codec ω hmsg
  · have hnone : (s.routed task).drawnRoomId codec ω task = none := by
      unfold drawnRoomId
      rw [if_neg hmsg]
    rw [hnone]
    exact dispatch_draws hindexed codec ω hmsg

theorem tickRooms_draws {s : LogicShard F} (h : WellIndexed s) (ω : Orders) :
    Draws none s (tickRooms ω s).1 :=
  Draws.of_moves (h.tickRooms ω fun _ _ _ _ => trivial)

end LogicShard

/-!
## Rooms created in a run of the server
-/

namespace GameServer

/-- The rooms that are created at a step: the shard and the room id. -/
def roomsCreated (codec : Codec B F) (g : GameServer B F) :
    ServerInput B -> List (Nat × Nat)
  | ServerInput.work shardId ω =>
      match g.queues shardId with
      | [] => []
      | task :: _ =>
          (((g.shards shardId).routed task).drawnRoomId codec ω task).toList.map
            fun roomId => (shardId, roomId)
  | _ => []

/-- All rooms that are created in a run, in order. -/
def createdRooms (codec : Codec B F) (logicShardCount : Nat)
    (inputs : List (ServerInput B)) : List (Nat × Nat) :=
  (runMachine (fun g i => ((handle codec g i).1, roomsCreated codec g i))
    (create logicShardCount) inputs).2

theorem createdRooms_state (codec : Codec B F) (g : GameServer B F)
    (inputs : List (ServerInput B)) :
    (runMachine (fun g i => ((handle codec g i).1, roomsCreated codec g i)) g
      inputs).1 = (runMachine (handle codec) g inputs).1 := by
  induction inputs generalizing g with
  | nil =>
      rfl
  | cons i rest ih =>
      exact ih (handle codec g i).1

/--
Every shard draws from its own residue class, what it has drawn lies below its
counter, and its rooms are among what it has drawn.
-/
structure Placed (n : Nat) (made : List (Nat × Nat)) (g : GameServer B F) :
    Prop where
  count : g.logicShardCount = n
  indexed : forall i, WellIndexed (g.shards i)
  shardId : forall i, (g.shards i).shardId = i
  shardCount : forall i, (g.shards i).shardCount = n
  nextRoomId : forall i, 1 ≤ (g.shards i).nextRoomId
  queues : forall i, n ≤ i -> g.queues i = []
  drawn : forall i k, (i, k) ∈ made -> i < n ∧ exists j, 1 ≤ j ∧
    j < (g.shards i).nextRoomId ∧ k = i + n * j
  nodup : (made.map Prod.snd).Nodup
  rooms : forall i k, k ∈ (g.shards i).rooms -> (i, k) ∈ made

/-!
## Packets reach existing shards only
-/

omit [Scalar F] in
theorem onPacket_queues (codec : Codec B F) (g : GameServer B F) (net : Nat)
    (route : GatewayRoute) (msgId : MsgId) (seq : Nat) (body : B) (i : Nat)
    (hi : g.logicShardCount ≤ i) :
    (onPacket codec g net route msgId seq body).queues i = g.queues i := by
  have hone := packetTasks_one codec g net route msgId seq body i
  have hnone : packetTasks codec g net route msgId seq body i = [] := by
    by_contra hne
    exact Nat.not_lt.mpr hi (hone.lt hne)
  rw [onPacket_queue, hnone, List.append_nil]

namespace Placed

variable {n : Nat} {made : List (Nat × Nat)} {g : GameServer B F}

omit [Scalar F] in
/-- Packets fill the queues of existing shards and change nothing else. -/
theorem same {g' : GameServer B F} (h : Placed n made g)
    (hsame : SameShards g g') (hqueues : forall i, n ≤ i -> g'.queues i = []) :
    Placed n made g' := by
  rcases hsame with ⟨hshards, hcount⟩
  constructor
  · exact hcount.trans h.count
  · rw [hshards]
    exact h.indexed
  · rw [hshards]
    exact h.shardId
  · rw [hshards]
    exact h.shardCount
  · rw [hshards]
    exact h.nextRoomId
  · exact hqueues
  · rw [hshards]
    exact h.drawn
  · exact h.nodup
  · rw [hshards]
    exact h.rooms

omit [Scalar F] in
/-- An id that a shard draws was never drawn before. -/
theorem fresh (h : Placed n made g) (hn : 1 ≤ n) {i : Nat} (hi : i < n) :
    (g.shards i).nextId ∉ made.map Prod.snd := by
  intro hmem
  rcases List.mem_map.mp hmem with ⟨⟨j, k⟩, hjk, hk⟩
  rcases h.drawn j k hjk with ⟨hj, m, _, hm, heq⟩
  dsimp only at hk
  unfold LogicShard.nextId at hk
  rw [heq, h.shardId i, h.shardCount i] at hk
  have hmod : j % n = i % n := by
    have hrem := congrArg (· % n) hk
    simpa [Nat.add_mul_mod_self_left] using hrem
  rw [Nat.mod_eq_of_lt hj, Nat.mod_eq_of_lt hi] at hmod
  subst hmod
  have hmul : n * m = n * (g.shards j).nextRoomId := by omega
  have heqm : m = (g.shards j).nextRoomId := Nat.eq_of_mul_eq_mul_left hn hmul
  omega

omit [Scalar F] in
/-- A shard moves and draws at most one id. -/
theorem update (h : Placed n made g) (hn : 1 ≤ n) {i : Nat} {s' : LogicShard F}
    {drawn : Option Nat} {queues : Nat -> List (LogicTask B)}
    (hindexed : WellIndexed s') (hdraws : (g.shards i).Draws drawn s')
    (hi : drawn ≠ none -> i < n) (hqueues : forall j, n ≤ j -> queues j = []) :
    Placed n (made ++ drawn.toList.map fun k => (i, k))
      { g with shards := Function.update g.shards i s', queues := queues } := by
  have hcases : forall (P : Nat -> LogicShard F -> Prop), P i s' ->
      (forall j, P j (g.shards j)) ->
      forall j, P j (Function.update g.shards i s' j) := by
    intro P hi hall j
    by_cases hj : j = i
    · rw [hj, Function.update_self]
      exact hi
    · rw [Function.update_of_ne hj]
      exact hall j
  have hgrows : (g.shards i).nextRoomId ≤ s'.nextRoomId := by
    rw [hdraws.nextRoomId]
    omega
  constructor
  · exact h.count
  · exact hcases (fun _ s => WellIndexed s) hindexed h.indexed
  · exact hcases (fun j s => s.shardId = j) (hdraws.shardId.trans (h.shardId i))
      h.shardId
  · exact hcases (fun _ s => s.shardCount = n)
      (hdraws.shardCount.trans (h.shardCount i)) h.shardCount
  · exact hcases (fun _ s => 1 ≤ s.nextRoomId)
      (Nat.le_trans (h.nextRoomId i) hgrows) h.nextRoomId
  · exact hqueues
  · intro j k hjk
    rcases List.mem_append.mp hjk with hold | hlast
    · refine ⟨(h.drawn j k hold).left, ?_⟩
      apply hcases (fun j s => (j, k) ∈ made -> exists m, 1 ≤ m ∧
        m < s.nextRoomId ∧ k = j + n * m) _ _ j hold
      · intro hik
        rcases (h.drawn i k hik).right with ⟨m, hpos, hlt, heq⟩
        exact ⟨m, hpos, Nat.lt_of_lt_of_le hlt hgrows, heq⟩
      · intro j hjk
        exact (h.drawn j k hjk).right
    · rcases List.mem_map.mp hlast with ⟨k', hk', hpair⟩
      rw [Option.mem_toList] at hk'
      injection hpair with hij hkk
      subst hij
      subst hkk
      refine ⟨hi (by rw [hk']; exact Option.some_ne_none k'), ?_⟩
      refine ⟨(g.shards i).nextRoomId, h.nextRoomId i, ?_, ?_⟩
      · show (g.shards i).nextRoomId < (Function.update g.shards i s' i).nextRoomId
        rw [Function.update_self, hdraws.nextRoomId, hk']
        exact Nat.lt_succ_self _
      · rw [hdraws.next k' hk']
        unfold LogicShard.nextId
        rw [h.shardId i, h.shardCount i]
  · rw [List.map_append, List.nodup_append']
    refine ⟨h.nodup, ?_, ?_⟩
    · cases drawn with
      | none => exact List.nodup_nil
      | some k => exact List.nodup_singleton k
    · intro k hk hlast
      rcases List.mem_map.mp hlast with ⟨pair, hpair, hsnd⟩
      rcases List.mem_map.mp hpair with ⟨k', hk', heq⟩
      rw [Option.mem_toList] at hk'
      have hin : i < n := hi (by rw [hk']; exact Option.some_ne_none k')
      apply h.fresh hn hin
      rw [← hdraws.next k' hk']
      rw [← heq] at hsnd
      dsimp only at hsnd
      rw [hsnd]
      exact hk
  · apply hcases (fun j s => forall k, k ∈ s.rooms ->
      (j, k) ∈ made ++ drawn.toList.map fun k => (i, k))
    · intro k hk
      rcases hdraws.rooms k hk with hdrawn | hold
      · rw [hdrawn]
        exact List.mem_append_right _ (List.mem_singleton_self _)
      · exact List.mem_append_left _ (h.rooms i k hold)
    · intro j k hk
      exact List.mem_append_left _ (h.rooms j k hk)

theorem handle (h : Placed n made g) (hn : 1 ≤ n) (codec : Codec B F)
    (i : ServerInput B) :
    Placed n (made ++ roomsCreated codec g i) (GameServer.handle codec g i).1 := by
  cases i with
  | packet net route msgId seq body =>
      have hqueues := onPacket_queues codec g net route msgId seq body
      rw [h.count] at hqueues
      have hsame := h.same (onPacket_same codec g net route msgId seq body)
        fun i hi => (hqueues i hi).trans (h.queues i hi)
      show Placed n (made ++ []) (onPacket codec g net route msgId seq body)
      rw [List.append_nil]
      exact hsame
  | work shardId ω =>
      unfold GameServer.handle work roomsCreated
      dsimp only
      cases hqueue : g.queues shardId with
      | nil =>
          rw [List.append_nil]
          exact h
      | cons task rest =>
          have hlt : shardId < n := by
            by_contra hge
            rw [h.queues shardId (Nat.le_of_not_lt hge)] at hqueue
            cases hqueue
          have hindexed := h.indexed shardId
          apply h.update hn
            (hindexed.moves (p := Policy.free)
              (hindexed.handleTask codec ω task
                ⟨fun _ _ _ => trivial, fun _ _ _ => trivial⟩))
            (LogicShard.handleTask_draws hindexed codec ω task) fun _ => hlt
          intro j hj
          rw [Function.update_of_ne (by omega)]
          exact h.queues j hj
  | tick shardId ω =>
      have hindexed := h.indexed shardId
      exact h.update hn
        (hindexed.moves (p := Policy.free)
          (hindexed.tickRooms ω fun _ _ _ _ => trivial))
        (LogicShard.tickRooms_draws hindexed ω) (fun hne => absurd rfl hne)
        h.queues

end Placed

omit [Scalar F] in
theorem placed_create {n : Nat} (hn : 1 ≤ n) :
    Placed n [] (create n : GameServer B F) := by
  constructor
  · rfl
  · intro i
    exact WellIndexed.create i n
  · intro i
    rfl
  · intro i
    show (if n = 0 then 1 else n) = n
    rw [if_neg (by omega)]
  · intro i
    exact Nat.le_refl 1
  · intro i _
    rfl
  · intro i k hik
    cases hik
  · exact List.nodup_nil
  · intro i k hk
    cases hk

theorem run_placed (codec : Codec B F) {n : Nat} (hn : 1 ≤ n)
    (inputs : List (ServerInput B)) :
    Placed n (createdRooms codec n inputs) (run codec n inputs).1 := by
  have hstep : forall made (g : GameServer B F) i, Placed n made g ->
      Placed n (made ++ ((handle codec g i).1, roomsCreated codec g i).2)
        ((handle codec g i).1, roomsCreated codec g i).1 :=
    fun made g i h => h.handle hn codec i
  have hall := runMachine_invariant (fun made g => Placed n made g) hstep []
    (create n) (placed_create hn) inputs
  rw [createdRooms_state, List.nil_append] at hall
  exact hall

/-!
## Routing
-/

omit [Scalar F] in
theorem resolveLogicShard_hinted (codec : Codec B F) {g : GameServer B F}
    (hcount : g.logicShardCount ≠ 0) (net : Nat) {msgId : MsgId}
    (hmsg : msgId ≠ MsgId.createRoomReq) (envelope : GateToGameEnvelope B) :
    (resolveLogicShard codec g net msgId envelope).1 =
      if hintedRoom codec envelope ≠ 0 then
        hintedRoom codec envelope % g.logicShardCount
      else 0 := by
  unfold resolveLogicShard
  rw [if_neg hcount, if_neg hmsg]
  split
  · rfl
  · rfl

/-- The room that a request names, with or without the help of the envelope. -/
theorem hintedRoom_serialize {codec : Codec B F} (pb : Protobuf codec)
    {m : ClientRequest F} {envelope : GateToGameEnvelope B}
    (hpayload : envelope.payload = pb.serialize m)
    (henvelope : envelope.roomId = 0 ∨ envelope.roomId = m.roomId) :
    hintedRoom codec envelope = m.roomId := by
  unfold hintedRoom
  split
  · rw [hpayload, pb.roomRouteHint, ClientRequest.varintField_one]
  · rename_i hne
    exact henvelope.resolve_left hne

/--
Room ids are not zero, lie in the residue class of the shard that creates them
and are never created twice; a room is found only in the shard that created it,
and every request that names it is sent there.
-/
theorem run_rooms_routed (codec : Codec B F) (pb : Protobuf codec) {n : Nat}
    (hn : 1 ≤ n) (inputs : List (ServerInput B)) :
    ((createdRooms codec n inputs).map Prod.snd).Nodup ∧
      (forall i k, k ∈ ((run codec n inputs).1.shards i).rooms ->
        (i, k) ∈ createdRooms codec n inputs) ∧
      forall i k, (i, k) ∈ createdRooms codec n inputs ->
        i < n ∧ k ≠ 0 ∧ k % n = i ∧
          forall (g : GameServer B F) (net : Nat) (m : ClientRequest F)
            (envelope : GateToGameEnvelope B),
            g.logicShardCount = n -> m.roomId = k ->
            envelope.payload = pb.serialize m ->
            envelope.roomId = 0 ∨ envelope.roomId = k ->
            (resolveLogicShard codec g net m.msgId envelope).1 = i := by
  have hplaced := run_placed codec hn inputs
  refine ⟨hplaced.nodup, hplaced.rooms, ?_⟩
  intro i k hik
  rcases hplaced.drawn i k hik with ⟨hi, j, hj, _, hk⟩
  have hpos : 1 ≤ n * j := Nat.mul_pos hn hj
  have hne : k ≠ 0 := by omega
  have hmod : k % n = i := by
    rw [hk, Nat.add_mul_mod_self_left, Nat.mod_eq_of_lt hi]
  refine ⟨hi, hne, hmod, ?_⟩
  intro g net m envelope hcount hm hpayload henvelope
  have hhint : hintedRoom codec envelope = k := by
    rw [hintedRoom_serialize pb hpayload (by rw [hm]; exact henvelope), hm]
  rw [resolveLogicShard_hinted codec (by omega) net m.msgId_ne_createRoomReq,
    hhint, if_pos hne, hcount, hmod]

end GameServer

/-!
## Bodies that are not turned into bytes
-/

namespace Wire

instance decidableIsDefault [DecidableEq F] (v : FieldValue F) :
    Decidable v.IsDefault :=
  match v with
  | FieldValue.varint n => inferInstanceAs (Decidable (n = 0))
  | FieldValue.varints ns => inferInstanceAs (Decidable (ns = []))
  | FieldValue.float x => inferInstanceAs (Decidable (x = Scalar.lit 0))
  | FieldValue.position v => inferInstanceAs (Decidable (v = none))
  | FieldValue.positions vs => inferInstanceAs (Decidable (vs = []))
  | FieldValue.entity ref => inferInstanceAs (Decidable (ref = none))

instance decidableAllDefault [DecidableEq F] (m : ClientRequest F) :
    Decidable m.AllDefault :=
  inferInstanceAs (Decidable (forall field, field ∈ m.fields -> field.2.IsDefault))

/-- A message without bytes is empty. -/
def serialize [DecidableEq F] (m : ClientRequest F) : Wire F :=
  if m.AllDefault then empty else request m

/-- A parser that knows a message and its default knows what is serialized. -/
theorem parse_serialize [DecidableEq F] {alpha : Type}
    (parse : Wire F -> Option alpha) {m : ClientRequest F} {x : alpha} (hrequest : parse (request m) = some x)
    (hempty : m.AllDefault -> parse empty = some x) :
    parse (serialize m) = some x := by
  unfold serialize
  split
  · rename_i h
    exact hempty h
  · exact hrequest

/-- The laws of the parsers for bodies that are not turned into bytes. -/
def protobuf [DecidableEq F] : Protobuf (codec (F := F)) where
  serialize := serialize
  wrap := envelope
  envelope := by
    intro uid msgId payload
    rfl
  isEmpty := by
    intro m
    unfold serialize
    split
    · rename_i h
      exact iff_of_true rfl h
    · rename_i h
      exact iff_of_false Bool.false_ne_true h
  roomRouteHint := by
    intro m
    apply parse_serialize codec.roomRouteHint rfl
    intro h
    have hmem : (1, FieldValue.varint m.roomId) ∈ m.fields := by
      cases m with
      | _ => exact List.mem_cons_self
    have hroom : m.roomId = 0 := h _ hmem
    rw [ClientRequest.varintField_one, hroom]
    rfl
  leaveRoomReq := by
    intro roomId
    apply parse_serialize codec.leaveRoomReq rfl
    intro h
    simp [ClientRequest.AllDefault, ClientRequest.fields, FieldValue.IsDefault] at h
    simp [codec, h]
  playerReadyReq := by
    intro roomId ready
    apply parse_serialize codec.playerReadyReq rfl
    intro h
    simp [ClientRequest.AllDefault, ClientRequest.fields, FieldValue.IsDefault] at h
    simp [codec, h]
  enterBattleReq := by
    intro roomId
    apply parse_serialize codec.enterBattleReq rfl
    intro h
    simp [ClientRequest.AllDefault, ClientRequest.fields, FieldValue.IsDefault] at h
    simp [codec, h]
  moveCmd := by
    intro roomId ids position attackMove path
    apply parse_serialize codec.moveCmd rfl
    intro h
    simp [ClientRequest.AllDefault, ClientRequest.fields, FieldValue.IsDefault] at h
    simp [codec, h]
  attackCmd := by
    intro roomId ids entity
    apply parse_serialize codec.attackCmd rfl
    intro h
    simp [ClientRequest.AllDefault, ClientRequest.fields, FieldValue.IsDefault] at h
    simp [codec, h]
  harvestCmd := by
    intro roomId ids field
    apply parse_serialize codec.harvestCmd rfl
    intro h
    simp [ClientRequest.AllDefault, ClientRequest.fields, FieldValue.IsDefault] at h
    simp [codec, targetCmd, h]
  storeResourceCmd := by
    intro roomId ids camp
    apply parse_serialize codec.storeResourceCmd rfl
    intro h
    simp [ClientRequest.AllDefault, ClientRequest.fields, FieldValue.IsDefault] at h
    simp [codec, targetCmd, h]
  pickupResourceCmd := by
    intro roomId ids drop
    apply parse_serialize codec.pickupResourceCmd rfl
    intro h
    simp [ClientRequest.AllDefault, ClientRequest.fields, FieldValue.IsDefault] at h
    simp [codec, targetCmd, h]
  buildCmd := by
    intro roomId ids type position yaw
    apply parse_serialize codec.buildCmd rfl
    intro h
    simp [ClientRequest.AllDefault, ClientRequest.fields, FieldValue.IsDefault] at h
    simp [codec, h]
  constructCmd := by
    intro roomId ids building
    apply parse_serialize codec.constructCmd rfl
    intro h
    simp [ClientRequest.AllDefault, ClientRequest.fields, FieldValue.IsDefault] at h
    simp [codec, targetCmd, h]
  trainUnitCmd := by
    intro roomId producer type
    apply parse_serialize codec.trainUnitCmd rfl
    intro h
    simp [ClientRequest.AllDefault, ClientRequest.fields, FieldValue.IsDefault] at h
    simp [codec, h]
  stopCmd := by
    intro roomId ids
    apply parse_serialize codec.stopCmd rfl
    intro h
    simp [ClientRequest.AllDefault, ClientRequest.fields, FieldValue.IsDefault] at h
    simp [codec, h]

end Wire

/-- An order to a unit in room 3. -/
def orderInThree : ClientRequest Rat :=
  ClientRequest.moveCmd 3 [1] none false []

/-- A player creates a room in each of two shards. -/
theorem GameServer.createTwice_routed :
    (1, 3) ∈ createdRooms Wire.codec 2 createTwice ∧
      (resolveLogicShard Wire.codec (create 2) 0 MsgId.moveCmd
        (buildGateToGameEnvelope 1 MsgId.moveCmd
          (Wire.serialize orderInThree))).1 = 1 := by
  have hmem : (1, 3) ∈ createdRooms Wire.codec 2 createTwice := by
    decide +kernel
  have hrouted := run_rooms_routed Wire.codec Wire.protobuf (n := 2) (by decide)
    createTwice
  rcases hrouted.right.right 1 3 hmem with ⟨_, _, _, hresolve⟩
  exact ⟨hmem, hresolve (create 2) 0 orderInThree _ rfl rfl rfl (Or.inl rfl)⟩

end RtsGame
