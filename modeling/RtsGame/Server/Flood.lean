import RtsGame.Room.Standstill
import RtsGame.Server.Packets

/-!
# A snapshot that the gateway refuses

A building of a type that the table of costs does not know is free, and nothing
limits how many commands a player may send between two ticks.  A player who is
alone in a room asks for many such buildings before the tick that announces a
full snapshot.
-/

namespace RtsGame

namespace Flood

open GameServer DungeonRoom OneLink

/-- One more building, which is not in the table of costs. -/
def buildFree : List (ServerInput (Wire Rat)) :=
  [request MsgId.buildCmd (Wire.build ⟨[], 99, none, 0⟩),
    ServerInput.work 0 Orders.stored]

/-- The command as it waits in the room. -/
def freeBuild : PendingCommand Rat :=
  ⟨CommandType.build, 7, 0, [], Vec3f.zero, [], 0, 99, 0⟩

theorem freeBuild_free : FreeBuild 7 freeBuild where
  type := rfl
  owner := rfl
  noCrystal := by decide
  cost := by decide
  units := rfl
  alive := by
    intro id ownerUid team pos yaw
    change ¬ (Scalar.max (Scalar.lit 1) (buildingMaxHp 99 * Scalar.lit 0.05) : Rat) ≤
      Scalar.lit 0
    decide +kernel

/-!
## Before the last tick
-/

/-- The room of the player, with so many commands that wait. -/
structure Waiting (n : Nat) (r : DungeonRoom Rat)
    (g : GameServer (Wire Rat) Rat) : Prop where
  count : g.logicShardCount = 1
  queue : g.queues 0 = []
  rooms : (g.shards 0).rooms.keys = [1]
  room : (g.shards 0).rooms.lookup 1 =
    some { r with pending := List.replicate n freeBuild }
  index : (g.shards 0).uidToRoom.lookup 7 = some 1
  route : (g.shards 0).uidRoute.lookup 7 = some ⟨0, 0, 1⟩

/-- A small room at a standstill whose next tick announces a full snapshot. -/
structure Quiet (r : DungeonRoom Rat) : Prop where
  built : Built 0 7 0 r r
  active : LogicShard.isActive r = true
  players : r.players.keys = [7]
  serverTick : r.serverTick = 19
  units : r.units.size ≤ 6
  buildings : r.buildings.size = 1
  fields : r.fields.size ≤ 8
  drops : r.drops.size = 0
  ledgers : r.playerRes.size ≤ 1

/-- The facts about the room that evaluation settles. -/
def quietFacts (r : DungeonRoom Rat) : Prop :=
  (r.units.AllAt fun _ u => u.team = 0 ∧ ¬ u.hp ≤ Scalar.lit 0 ∧ u.attackTarget = 0 ∧
      u.task = WorkerTask.none ∧ u.hasTarget = false) ∧
    (r.buildings.AllAt fun id b => ¬ b.hp ≤ Scalar.lit 0 ∧ b.trainQueue = [] ∧
      id < r.nextEntityId) ∧
    7 ∈ r.playerRes ∧ LogicShard.isActive r = true ∧ r.players.keys = [7] ∧
    r.serverTick = 19 ∧ r.units.size ≤ 6 ∧ r.buildings.size = 1 ∧
    r.fields.size ≤ 8 ∧ r.drops.size = 0 ∧ r.playerRes.size ≤ 1 ∧ r.pending = []

instance (r : DungeonRoom Rat) : Decidable (quietFacts r) :=
  inferInstanceAs (Decidable (_ ∧ _))

theorem quiet_of_facts {r : DungeonRoom Rat} (h : quietFacts r) : Quiet r := by
  rcases h with ⟨hunits, hbuildings, hledger, hactive, hplayers, htick, hu, hb, hf, hd,
    hl, _⟩
  refine ⟨⟨⟨?_, ?_⟩, hledger, ?_, rfl, rfl, rfl, rfl, rfl, fun _ => Iff.rfl, rfl⟩,
    hactive, hplayers, htick, hu, hb, hf, hd, hl⟩
  · exact hunits.mono fun _ u hu => ⟨hu.1, hu.2.1, hu.2.2.1, hu.2.2.2.1, hu.2.2.2.2⟩
  · exact hbuildings.mono fun _ b hb => ⟨hb.1, hb.2.1⟩
  · intro id hid
    rcases Table.mem_iff_lookup.mp hid with ⟨b, hb⟩
    exact (hbuildings id b hb).2.2

theorem opening_waiting :
    exists r, Quiet r ∧ Waiting 0 r (run Wire.codec 1 opening).1 := by
  generalize hg : (run Wire.codec 1 opening).1 = g
  have hroom : ((g.shards 0).rooms.lookup 1).any (fun r => decide (quietFacts r)) =
      true := by
    rw [← hg]
    decide +kernel
  rcases (Option.any_eq_true _ _).mp hroom with ⟨r, hr, hfacts⟩
  have hquiet := of_decide_eq_true hfacts
  refine ⟨r, quiet_of_facts hquiet, ?_, ?_, ?_, ?_, ?_, ?_⟩
  · rw [← hg]
    decide +kernel
  · have hempty : (g.queues 0).isEmpty = true := by
      rw [← hg]
      decide +kernel
    exact List.isEmpty_iff.mp hempty
  · rw [← hg]
    decide +kernel
  · rw [hr]
    rcases hquiet with ⟨_, _, _, _, _, _, _, _, _, _, _, hpending⟩
    rw [List.replicate_zero, ← hpending]
  · rw [← hg]
    decide +kernel
  · rw [← hg]
    decide +kernel

/-!
## The commands
-/

/-- The task that carries one of the commands. -/
def buildTask : LogicTask (Wire Rat) :=
  ⟨MsgId.buildCmd, 7, 0, ⟨0, 0, 1⟩,
    Wire.envelope 7 MsgId.buildCmd (Wire.build ⟨[], 99, none, 0⟩)⟩

def buildEnvelope : GateToGameEnvelope (Wire Rat) :=
  ⟨7, 0, some MsgId.buildCmd, 0, Wire.build ⟨[], 99, none, 0⟩⟩

theorem request_queued {n : Nat} {r : DungeonRoom Rat}
    {g : GameServer (Wire Rat) Rat} (h : Waiting n r g) :
    (handle Wire.codec g
      (request MsgId.buildCmd (Wire.build ⟨[], 99, none, 0⟩))).1 =
      { g with queues := Function.update g.queues 0 [buildTask] } := by
  have hone : (0 : Nat) < g.logicShardCount := by
    rw [h.count]
    exact Nat.one_pos
  change onPacket Wire.codec g 0 ⟨0, 0, 1⟩ MsgId.gateToGameEnvelope 0
    (Wire.envelope 7 MsgId.buildCmd (Wire.build ⟨[], 99, none, 0⟩)) = _
  change forwardToLogic Wire.codec g 0 ⟨0, 0, 1⟩ MsgId.buildCmd 0 buildTask.body = _
  unfold forwardToLogic
  have hresolve : resolveLogicShard Wire.codec g 0 MsgId.buildCmd
      buildEnvelope = (0, g) := by
    unfold resolveLogicShard
    rw [if_neg (Nat.ne_of_gt hone)]
    rfl
  change (if (7 : Nat) = 0 then g else if g.logicShardCount = 0 then g
    else (resolveLogicShard Wire.codec g 0 MsgId.buildCmd buildEnvelope).2.postToLogic
      (resolveLogicShard Wire.codec g 0 MsgId.buildCmd buildEnvelope).1 buildTask) = _
  rw [hresolve, if_neg (by decide), if_neg (Nat.ne_of_gt hone)]
  unfold postToLogic
  dsimp only
  rw [if_pos hone, h.queue]
  rfl

/-- A command that can be read waits in the room of the sender. -/
theorem handlePlayerCommand_enqueues {B F : Type} [Scalar F] {codec : Codec B F}
    {s : LogicShard F} {task : LogicTask B} {envelope : GateToGameEnvelope B}
    {k : Nat} {room : DungeonRoom F} {cmd : PendingCommand F}
    (henvelope : codec.envelope task.body = some envelope)
    (hresolve : LogicShard.resolveRoomId envelope s.uidToRoom task.uid = k)
    (hk : k ≠ 0) (hroom : s.rooms.lookup k = some room)
    (hmember : room.hasPlayer task.uid = true)
    (hpayload : codec.isEmpty envelope.payload = false)
    (hread : LogicShard.readCommand codec task.msgId task.uid envelope =
      LogicShard.CommandReading.command cmd) :
    LogicShard.handlePlayerCommand codec s task =
      (s.putRoom k (room.enqueueCommand cmd), []) := by
  unfold LogicShard.handlePlayerCommand
  rw [henvelope]
  dsimp only
  rw [hresolve, if_neg hk, hroom]
  dsimp only
  rw [hmember, hpayload, if_neg (by decide), if_neg (by decide), hread]

theorem handleTask_waits {n : Nat} {r : DungeonRoom Rat}
    {s : LogicShard Rat} (hr : s.rooms.lookup 1 =
      some { r with pending := List.replicate n freeBuild })
    (hplayer : r.players.keys = [7]) (hindex : s.uidToRoom.lookup 7 = some 1) :
    LogicShard.handleTask Wire.codec Orders.stored s buildTask =
      ({ s with uidRoute := s.uidRoute.insert 7 ⟨0, 0, 1⟩ }.putRoom 1
        { r with pending := List.replicate (n + 1) freeBuild }, []) := by
  have hmember : r.hasPlayer 7 = true := by
    refine AList.lookup_isSome.mpr ?_
    change 7 ∈ r.players.keys
    rw [hplayer]
    exact List.mem_singleton_self 7
  have hresolve : LogicShard.resolveRoomId buildEnvelope s.uidToRoom 7 = 1 := by
    unfold LogicShard.resolveRoomId
    rw [hindex]
    rfl
  have henqueued : ({ r with pending := List.replicate n freeBuild } :
      DungeonRoom Rat).enqueueCommand freeBuild =
        { r with pending := List.replicate (n + 1) freeBuild } := by
    unfold enqueueCommand
    rw [List.replicate_succ']
  have henvelope : Wire.codec.envelope buildTask.body = some buildEnvelope := rfl
  have hread : LogicShard.readCommand Wire.codec buildTask.msgId buildTask.uid
      buildEnvelope = LogicShard.CommandReading.command freeBuild := rfl
  change LogicShard.handlePlayerCommand Wire.codec
    { s with uidRoute := s.uidRoute.insert 7 ⟨0, 0, 1⟩ } buildTask = _
  rw [← henqueued]
  exact handlePlayerCommand_enqueues henvelope hresolve Nat.one_ne_zero hr hmember rfl
    hread

/-- One more command waits. -/
theorem Waiting.next {n : Nat} {r : DungeonRoom Rat} {g : GameServer (Wire Rat) Rat}
    (h : Waiting n r g) (hplayers : r.players.keys = [7]) :
    Waiting (n + 1) r (runMachine (handle Wire.codec) g buildFree).1 := by
  have hworked : (runMachine (handle Wire.codec) g buildFree).1 =
      { g with
        shards := Function.update g.shards 0
          ({ g.shards 0 with
            uidRoute := (g.shards 0).uidRoute.insert 7 ⟨0, 0, 1⟩ }.putRoom 1
            { r with pending := List.replicate (n + 1) freeBuild })
        queues := Function.update (Function.update g.queues 0 [buildTask]) 0 [] } := by
    change (work Wire.codec Orders.stored (handle Wire.codec g (request MsgId.buildCmd
      (Wire.build ⟨[], 99, none, 0⟩))).1 0).1 = _
    rw [request_queued h]
    unfold work
    dsimp only
    rw [Function.update_self]
    dsimp only
    rw [handleTask_waits h.room hplayers h.index]
  rw [hworked]
  constructor
  · exact h.count
  · change Function.update (Function.update g.queues 0 [buildTask]) 0 [] 0 = []
    rw [Function.update_self]
  · change ((Function.update g.shards 0 _ 0).rooms.keys) = [1]
    rw [Function.update_self]
    change (AList.insert 1 _ (g.shards 0).rooms).keys = [1]
    rw [AList.keys_insert, h.rooms]
    rfl
  · change (Function.update g.shards 0 _ 0).rooms.lookup 1 = _
    rw [Function.update_self]
    exact AList.lookup_insert _
  · change (Function.update g.shards 0 _ 0).uidToRoom.lookup 7 = _
    rw [Function.update_self]
    exact h.index
  · change (Function.update g.shards 0 _ 0).uidRoute.lookup 7 = _
    rw [Function.update_self]
    exact AList.lookup_insert _

theorem Waiting.commands {r : DungeonRoom Rat} (hplayers : r.players.keys = [7])
    {g : GameServer (Wire Rat) Rat} (h : Waiting 0 r g) (n : Nat) :
    Waiting n r (runMachine (handle Wire.codec) g
      (List.replicate n buildFree).flatten).1 := by
  induction n with
  | zero =>
      exact h
  | succ n ih =>
      rw [List.replicate_succ', List.flatten_append, runMachine_append]
      simp only [List.flatten_cons, List.flatten_nil, List.append_nil]
      exact ih.next hplayers

/-- All that happens before the last tick. -/
def flood (n : Nat) : List (ServerInput (Wire Rat)) :=
  opening ++ (List.replicate n buildFree).flatten

theorem flood_waiting (n : Nat) :
    exists r, Quiet r ∧ Waiting n r (run Wire.codec 1 (flood n)).1 := by
  rcases opening_waiting with ⟨r, hquiet, hopening⟩
  have hcommands := hopening.commands hquiet.players n
  have hsplit : (run Wire.codec 1 (flood n)).1 =
      (runMachine (handle Wire.codec) (run Wire.codec 1 opening).1
        (List.replicate n buildFree).flatten).1 := by
    unfold run flood
    rw [runMachine_append]
  rw [← hsplit] at hcommands
  exact ⟨r, hquiet, hcommands⟩

/-!
## The last tick
-/

/-- In the order in which they are stored, the values of a table are all there. -/
theorem values_stored_length {alpha : Type} (m : Table alpha) :
    (IterOrder.stored.values m).length = m.size := by
  have hall : forall k, k ∈ m.keys -> exists v, m.lookup k = some v :=
    fun k hk => Table.mem_iff_lookup.mp hk
  change (m.keys.filterMap m.lookup).length = m.size
  rw [List.length_filterMap_eq_countP, ← Table.keys_length, List.countP_eq_length]
  intro k hk
  rcases hall k hk with ⟨v, hv⟩
  rw [hv]
  rfl

theorem tick_events {r : DungeonRoom Rat} {g : GameServer (Wire Rat) Rat}
    (hrooms : (g.shards 0).rooms.keys = [1])
    (hr : (g.shards 0).rooms.lookup 1 = some r)
    (hactive : LogicShard.isActive r = true) :
    (tick Orders.stored g 0).2 =
      (tickRoom (g.shards 0).uidRoute (Orders.stored.room 1) 1 r).2 := by
  have hvisit : Orders.stored.rooms.visit (g.shards 0).rooms = [1] := hrooms
  unfold tick LogicShard.tickRooms
  rw [hvisit]
  change (LogicShard.tickOne Orders.stored (g.shards 0, []) 1).2 = _
  unfold LogicShard.tickOne
  rw [hr]
  dsimp only
  rw [if_pos hactive, List.nil_append]

theorem syncEvents_mem (routes : Routes) (ω : RoomOrders) (roomId : Nat)
    (r : DungeonRoom Rat) {e : ShardEvent Rat}
    (he : e ∈ syncEvents routes ω (r.afterStep ω)) :
    e ∈ (tickRoom routes ω roomId r).2 := by
  unfold tickRoom
  dsimp only
  split
  · exact List.mem_append_right _ he
  · exact List.mem_append_left _ (List.mem_append_right _ he)

/-- The snapshot that is sent to the player, and how long it is. -/
theorem tick_snapshot {n : Nat} {r : DungeonRoom Rat} {g : GameServer (Wire Rat) Rat}
    (h : Waiting n r g) (hquiet : Quiet r) :
    exists snapshot : SnapshotNtf Rat,
      ShardEvent.sent [7] [(7, ⟨0, 0, 1⟩)] (ServerMsg.snapshotNtf snapshot) 20 ∈
        (tick Orders.stored g 0).2 ∧
      snapshot.buildings.length = n + 1 ∧ snapshot.units.length ≤ 6 ∧
      snapshot.resourceFields.length ≤ 8 ∧ snapshot.resourceDrops.length = 0 ∧
      snapshot.resources.length ≤ 1 := by
  have hbuilt : Built 0 7 0 { r with pending := List.replicate n freeBuild }
      { r with pending := List.replicate n freeBuild } :=
    ⟨⟨hquiet.built.still.units, hquiet.built.still.buildings⟩,
      hquiet.built.ledger, hquiet.built.below, rfl, rfl, rfl, rfl, rfl,
      fun _ => Iff.rfl, rfl⟩
  rcases step_built freeBuild_free hbuilt rfl (Orders.stored.room 1).world
    kTickSeconds with
    ⟨s, hs, hunits, hbuildings, hfields, hdrops, hplayers, hledgers, htick⟩
  have hafter : DungeonRoom.afterStep (Orders.stored.room 1)
      { r with pending := List.replicate n freeBuild } = s.nextServerTick := by
    unfold DungeonRoom.afterStep DungeonRoom.beforeStep
    rw [hs]
  have hserver : s.nextServerTick.serverTick = 20 := by
    change s.serverTick + 1 = 20
    rw [htick, hquiet.serverTick]
  have hplayer : s.nextServerTick.playerUids (Orders.stored.room 1).players = [7] := by
    change s.players.keys = [7]
    rw [hplayers]
    exact hquiet.players
  refine ⟨snapshotOf (Orders.stored.room 1) s.nextServerTick, ?_, ?_, ?_, ?_, ?_, ?_⟩
  · rw [tick_events h.rooms h.room hquiet.active]
    refine syncEvents_mem _ _ _ _ ?_
    rw [hafter]
    unfold syncEvents
    rw [hserver, if_pos (by decide)]
    unfold sendFullSnapshot
    rw [hplayer, hserver]
    unfold sendToPlayers
    simp [h.route]
  · change (List.map _ (IterOrder.stored.values s.buildings)).length = n + 1
    rw [List.length_map, values_stored_length, hbuildings, Nat.add_comm]
    exact congrArg (n + ·) hquiet.buildings
  · change (List.map _ (IterOrder.stored.values s.units)).length ≤ 6
    rw [List.length_map, values_stored_length, hunits]
    exact hquiet.units
  · change (List.map _ (IterOrder.stored.values s.fields)).length ≤ 8
    rw [List.length_map, values_stored_length, hfields]
    exact hquiet.fields
  · change (List.map _ (IterOrder.stored.values s.drops)).length = 0
    rw [List.length_map, values_stored_length, hdrops]
    exact hquiet.drops
  · change (List.filterMap _ s.playerRes.keys).length ≤ 1
    refine Nat.le_trans (List.length_filterMap_le _ _) ?_
    rw [Table.keys_length, hledgers]
    exact hquiet.ledgers

/-!
## The packet
-/

/-- The network shard accepts the link and is handed one task. -/
def linkInputs (task : NetworkTask MsgNode) :
    List (NetworkShard.LinkInput (Wire Rat) MsgNode) :=
  linkOpens ++ [NetworkShard.LinkInput.task task]

/-- The packet of a task for the link waits on the link. -/
theorem linkInputs_queued (lc : LinkCodec (Wire Rat) MsgNode Rat) {msgId : UInt16}
    {seq : Nat} {body packet : MsgNode}
    (hbuilt : lc.buildGameToGatewayEnvelope
      ⟨msgId, seq, [⟨0, 1, [7]⟩], body⟩ [7] = some packet) :
    packet ∈ ((NetworkShard.run lc 0 1 1
      (linkInputs ⟨msgId, seq, [⟨0, 1, [7]⟩], body⟩)).1.sessions 0).sendQue := by
  have hopened : forall task, (NetworkShard.run lc 0 1 1 (linkInputs task)).1 =
      ((NetworkShard.run lc 0 1 1 linkOpens).1.handleNetworkTask lc task).1 := by
    intro task
    unfold NetworkShard.run linkInputs
    rw [runMachine_append]
    rfl
  rw [hopened]
  generalize hlinked : (NetworkShard.run lc 0 1 1 linkOpens).1 = m
  have hopen : m.stopping = false ∧ m.slotCount = 1 ∧
      m.slots 0 = ⟨SlotState.connected, 0, 1, some 0⟩ ∧
      m.sessions 0 = ⟨0, 1, SessionState.connected, ReadPoint.spawned, [], false,
        WritePoint.returned⟩ := by
    rw [← hlinked]
    exact ⟨rfl, rfl, rfl, rfl⟩
  rcases hopen with ⟨hstopping, hslots, hslot, hsession⟩
  have hsender : m.sender 0 = some 0 := by
    unfold NetworkShard.sender
    rw [hslot]
    dsimp only
    rw [hsession]
    rfl
  unfold NetworkShard.handleNetworkTask
  rw [hstopping]
  change packet ∈ ((NetworkShard.sendToTarget lc
    ⟨msgId, seq, [⟨0, 1, [7]⟩], body⟩ m ⟨0, 1, [7]⟩).1.sessions 0).sendQue
  unfold NetworkShard.sendToTarget
  dsimp only
  rw [hslots, hslot, hsender, hbuilt]
  change packet ∈ ((m.postSend 0 packet).sessions 0).sendQue
  unfold NetworkShard.postSend
  dsimp only
  rw [hsession, if_pos (by decide)]
  change packet ∈ (Function.update m.sessions 0 _ 0).sendQue
  rw [Function.update_self]
  exact List.mem_singleton_self packet

theorem flood_refused :
    ¬ forall (bits : Rat -> UInt32) (codec : Codec (Wire Rat) Rat) (noBody : Wire Rat)
      (logicShardCount : Nat) (inputs : List (ServerInput (Wire Rat)))
      (netShard maxLinks : Nat)
      (links : List (NetworkShard.LinkInput (Wire Rat) MsgNode)),
      Posted bits (run codec logicShardCount inputs).2 netShard links ->
      NetworkShard.AllQueued Accepted
        (NetworkShard.run (LinkCodec.bytes codec noBody) netShard logicShardCount
          maxLinks links).1 := by
  intro h
  rcases flood_waiting 16384 with ⟨r, hquiet, hwaiting⟩
  rcases tick_snapshot hwaiting hquiet with
    ⟨snapshot, hsent, hbuildings, hunits, hfields, hdrops, hresources⟩
  have hevent : ShardEvent.sent [7] [(7, ⟨0, 0, 1⟩)] (ServerMsg.snapshotNtf snapshot) 20 ∈
      (run Wire.codec 1 (flood 16384 ++ [ServerInput.tick 0 Orders.stored])).2 := by
    unfold run
    rw [runMachine_append]
    refine List.mem_append_right _ ?_
    change _ ∈ (tick Orders.stored (run Wire.codec 1 (flood 16384)).1 0).2 ++ []
    rw [List.append_nil]
    exact hsent
  have hupper := SnapshotNtf.fields_le (fun _ => 0) snapshot
  have hlower := SnapshotNtf.le_fields (fun _ => 0) snapshot
  rw [hbuildings] at hlower hupper
  rw [hdrops] at hupper
  have hpacket : packetOf (fun _ => 0) (ServerMsg.snapshotNtf snapshot) =
      some (buildPacket ServerMsgId.snapshotNtf (encodeFields (snapshot.fields fun _ => 0))) := by
    unfold packetOf serializeProtoToString
    change Option.map _ (if (encodeFields (snapshot.fields fun _ => 0)).length < 2 ^ 31
      then some (encodeFields (snapshot.fields fun _ => 0)) else none) = _
    rw [if_pos (by omega)]
    rfl
  have hpayload := packetOf_payload hpacket
  generalize buildPacket ServerMsgId.snapshotNtf (encodeFields (snapshot.fields fun _ => 0)) = body
    at hpacket hpayload
  change _ = encodeFields (snapshot.fields fun _ => 0) at hpayload
  have hshort : (encodeFields (snapshot.fields fun _ => 0)).length < 128 ^ (2 + 1) := by
    omega
  have henvelope := GameToGateEnvelope.fields_le
    (show [7].length ≤ 4 by decide) ServerMsgId.snapshotNtf 20 hshort
  have hlonger := GameToGateEnvelope.le_fields [7] ServerMsgId.snapshotNtf 20
    (encodeFields (snapshot.fields fun _ => 0))
  have hbuilt : (LinkCodec.bytes Wire.codec Wire.empty :
      LinkCodec (Wire Rat) MsgNode Rat).buildGameToGatewayEnvelope
        ⟨ServerMsgId.snapshotNtf, 20, [⟨0, 1, [7]⟩], body⟩ [7] =
      some (buildPacket 20002 (encodeFields (GameToGateEnvelope.fields [7]
        ServerMsgId.snapshotNtf 20 (encodeFields (snapshot.fields fun _ => 0))))) := by
    change NetworkShard.buildGameToGatewayEnvelope _ [7] = _
    unfold NetworkShard.buildGameToGatewayEnvelope serializeProtoToString
    dsimp only
    rw [hpayload, if_pos (by omega)]
    rfl
  have hqueued := h (fun _ => 0) Wire.codec Wire.empty 1
    (flood 16384 ++ [ServerInput.tick 0 Orders.stored]) 0 1
    (linkInputs ⟨ServerMsgId.snapshotNtf, 20, [⟨0, 1, [7]⟩], body⟩) ?_ 0 _
    (linkInputs_queued _ hbuilt)
  · rcases hqueued.read [] with ⟨node, hread⟩
    rw [buildPacket_refused 20002 (by simp only [kMaxPacketBodyLen]; omega)
      (Nat.lt_trans (show _ < 2 ^ 31 by omega) (by decide))] at hread
    cases hread
  · intro task htask
    have hsame : task = ⟨ServerMsgId.snapshotNtf, 20, [⟨0, 1, [7]⟩], body⟩ := by
      simp only [linkInputs, linkOpens, List.mem_append, List.mem_cons,
        List.not_mem_nil, or_false] at htask
      rcases htask with (hfalse | hfalse | hfalse) | hlast
      · cases hfalse
      · cases hfalse
      · cases hfalse
      · cases hlast
        rfl
    refine ⟨_, SendToPlayers.storedOrders, hevent, ?_⟩
    simp only [ShardEvent.networkTasks, hpacket]
    rw [hsame]
    exact List.mem_singleton_self _

end Flood

end RtsGame
