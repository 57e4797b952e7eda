import RtsGame.Server.Placement

/-!
# The room that a request is for

A network shard picks the logic shard from the room id in the payload.  The
logic shard then picks the room again: from the payload for three of the
requests, and from its own index for all commands.
-/

namespace RtsGame

variable {B F : Type}

namespace ClientRequest

/-- The requests that `HandlePlayerCommand` serves. -/
def isCommand : ClientRequest F -> Bool
  | joinRoomReq _ => false
  | leaveRoomReq _ => false
  | playerReadyReq _ _ => false
  | enterBattleReq _ => false
  | _ => true

def isSkill : ClientRequest F -> Bool
  | skillCmd _ _ _ _ _ => true
  | _ => false

def isJoin : ClientRequest F -> Bool
  | joinRoomReq _ => true
  | _ => false

variable [Scalar F]

/-- A request that names a room takes some bytes. -/
theorem not_allDefault {m : ClientRequest F} (h : m.roomId ≠ 0) :
    ¬ m.AllDefault := by
  intro hdefault
  have hmem : (1, FieldValue.varint m.roomId) ∈ m.fields := by
    cases m with
    | _ => exact List.mem_cons_self
  exact h (hdefault _ hmem)

end ClientRequest

variable [Scalar F]

namespace LogicShard

/-- A task that carries a request in an envelope. -/
structure Carries {codec : Codec B F} (pb : Protobuf codec) (task : LogicTask B)
    (envelope : GateToGameEnvelope B) (m : ClientRequest F) : Prop where
  parsed : codec.envelope task.body = some envelope
  payload : envelope.payload = pb.serialize m
  msgId : task.msgId = m.msgId

variable {codec : Codec B F} {pb : Protobuf codec}

/-- The payload of a command that is not a skill is read as a command. -/
theorem readCommand_serialize {m : ClientRequest F} (hcommand : m.isCommand = true)
    (hskill : m.isSkill = false) {envelope : GateToGameEnvelope B}
    (hpayload : envelope.payload = pb.serialize m) (uid : Nat) :
    exists cmd, readCommand codec m.msgId uid envelope = CommandReading.command cmd := by
  cases m with
  | joinRoomReq _ => cases hcommand
  | leaveRoomReq _ => cases hcommand
  | playerReadyReq _ _ => cases hcommand
  | enterBattleReq _ => cases hcommand
  | skillCmd _ _ _ _ _ => cases hskill
  | moveCmd _ _ _ _ _ =>
      simp [readCommand, ClientRequest.msgId, hpayload, pb.moveCmd]
  | attackCmd _ _ _ =>
      simp [readCommand, ClientRequest.msgId, hpayload, pb.attackCmd]
  | harvestCmd _ _ _ =>
      simp [readCommand, readTargetCmd, ClientRequest.msgId, hpayload, pb.harvestCmd]
  | storeResourceCmd _ _ _ =>
      simp [readCommand, readTargetCmd, ClientRequest.msgId, hpayload,
        pb.storeResourceCmd]
  | pickupResourceCmd _ _ _ =>
      simp [readCommand, readTargetCmd, ClientRequest.msgId, hpayload,
        pb.pickupResourceCmd]
  | buildCmd _ _ _ _ _ =>
      simp [readCommand, ClientRequest.msgId, hpayload, pb.buildCmd]
  | constructCmd _ _ _ =>
      simp [readCommand, readTargetCmd, ClientRequest.msgId, hpayload,
        pb.constructCmd]
  | trainUnitCmd _ _ _ =>
      simp [readCommand, ClientRequest.msgId, hpayload, pb.trainUnitCmd]
  | stopCmd _ _ =>
      simp [readCommand, ClientRequest.msgId, hpayload, pb.stopCmd]

theorem readCommand_skill {m : ClientRequest F} (hskill : m.isSkill = true)
    (uid : Nat) (envelope : GateToGameEnvelope B) :
    readCommand codec m.msgId uid envelope = CommandReading.notSimulated := by
  cases m with
  | skillCmd _ _ _ _ _ => rfl
  | _ => cases hskill

theorem dispatch_command {m : ClientRequest F} (hcommand : m.isCommand = true)
    {task : LogicTask B} (hmsg : task.msgId = m.msgId) (ω : Orders)
    (s : LogicShard F) : dispatch codec ω s task = handlePlayerCommand codec s task := by
  unfold dispatch
  rw [hmsg]
  cases m with
  | joinRoomReq _ => cases hcommand
  | leaveRoomReq _ => cases hcommand
  | playerReadyReq _ _ => cases hcommand
  | enterBattleReq _ => cases hcommand
  | _ => rfl

/-!
## Where a command lands
-/

/-- The sender's room, unless the envelope names another one. -/
def addressedRoom (s : LogicShard F) (envelope : GateToGameEnvelope B)
    (uid : Nat) : Option Nat :=
  (s.uidToRoom.lookup uid).filter fun k =>
    decide (envelope.roomId = 0 ∨ envelope.roomId = k)

/-- The command is rejected, and the sender is told. -/
def Answered (s s' : LogicShard F) (task : LogicTask B)
    (events : List (ShardEvent F)) : Prop :=
  s' = s.routed task ∧ exists roomId clientSeq code reason,
    events = [ShardEvent.sent [task.uid] [(task.uid, task.origin)]
      (ServerMsg.commandRejectedNtf roomId clientSeq code reason) 0]

/-- The command is queued in the room, and nothing else happens. -/
def EnqueuedIn (roomId : Nat) (s s' : LogicShard F) (task : LogicTask B)
    (events : List (ShardEvent F)) : Prop :=
  exists room cmd, s.rooms.lookup roomId = some room ∧
    s' = (s.routed task).putRoom roomId (room.enqueueCommand cmd) ∧ events = []

omit [Scalar F] in
theorem routed_rooms (s : LogicShard F) (task : LogicTask B) :
    (s.routed task).rooms = s.rooms := by
  unfold routed
  split
  · rfl
  · rfl

omit [Scalar F] in
theorem routed_uidToRoom (s : LogicShard F) (task : LogicTask B) :
    (s.routed task).uidToRoom = s.uidToRoom := by
  unfold routed
  split
  · rfl
  · rfl

omit [Scalar F] in
theorem routed_route (s : LogicShard F) {task : LogicTask B} (h : task.uid ≠ 0) :
    (s.routed task).uidRoute.lookup task.uid = some task.origin := by
  unfold routed
  rw [if_pos h]
  exact AList.lookup_insert _

/-- Nobody is in the room that the command would go to. -/
theorem handleTask_answered {s : LogicShard F} (hs : WellIndexed s)
    {task : LogicTask B} (huid : task.uid ≠ 0)
    {envelope : GateToGameEnvelope B} {m : ClientRequest F}
    (hcarries : Carries pb task envelope m) (hcommand : m.isCommand = true)
    (haddressed : s.addressedRoom envelope task.uid = none) (ω : Orders) :
    Answered s (handleTask codec ω s task).1 task (handleTask codec ω s task).2 := by
  have hsend : forall roomId code reason,
      Answered s (s.routed task) task
        (sendCommandRejected (s.routed task).uidRoute task.uid roomId
          envelope.clientSeq code reason : List (ShardEvent F)) := by
    intro roomId code reason
    refine ⟨rfl, roomId, envelope.clientSeq, code, reason, ?_⟩
    simp [sendCommandRejected, sendToPlayer, sendToPlayers, routed_route s huid]
  have hstranger : forall room,
      s.rooms.lookup (resolveRoomId envelope s.uidToRoom task.uid) = some room ->
      resolveRoomId envelope s.uidToRoom task.uid ≠ 0 ->
      room.hasPlayer task.uid = false := by
    intro room hroom hne
    by_contra hplayer
    rw [Bool.not_eq_false] at hplayer
    have hmem : task.uid ∈ room.players := AList.lookup_isSome.mp hplayer
    have hidx := (hs.member hroom task.uid).mp hmem
    unfold addressedRoom at haddressed
    rw [hidx, Option.filter_eq_none_iff] at haddressed
    have hother := haddressed _ rfl
    simp only [decide_eq_true_eq, not_or] at hother
    apply hother.right
    unfold resolveRoomId
    rw [if_pos hother.left]
  show Answered s (dispatch codec ω (s.routed task) task).1 task
    (dispatch codec ω (s.routed task) task).2
  rw [dispatch_command hcommand hcarries.msgId]
  unfold handlePlayerCommand
  rw [hcarries.parsed]
  dsimp only
  rw [routed_rooms, routed_uidToRoom]
  split
  · exact hsend _ _ _
  · rename_i hne
    split
    · exact hsend _ _ _
    · rename_i room hroom
      rw [hstranger room hroom hne]
      exact hsend _ _ _

/-- What becomes of a command once the room of its sender is found. -/
def commandOutcome (s : LogicShard F) (uid k clientSeq : Nat)
    (room : DungeonRoom F) (empty : Bool) (reading : CommandReading F) :
    LogicShard F × List (ShardEvent F) :=
  if empty then
    (s, sendCommandRejected s.uidRoute uid k clientSeq ErrorCode.invalidRequest
      "empty command payload")
  else
    match reading with
    | CommandReading.malformed reason =>
        (s, sendCommandRejected s.uidRoute uid k clientSeq
          ErrorCode.invalidRequest reason)
    | CommandReading.notSimulated => (s, [])
    | CommandReading.command cmd => (s.putRoom k (room.enqueueCommand cmd), [])

/-- The command goes to the sender's room, whatever room the payload names. -/
theorem handleTask_addressed {s : LogicShard F} (hs : WellIndexed s)
    {task : LogicTask B} {envelope : GateToGameEnvelope B} {m : ClientRequest F}
    (hcarries : Carries pb task envelope m) (hcommand : m.isCommand = true)
    {k : Nat} (hk : k ≠ 0) (haddressed : s.addressedRoom envelope task.uid = some k)
    (ω : Orders) :
    exists room, s.rooms.lookup k = some room ∧
      handleTask codec ω s task =
        (s.routed task).commandOutcome task.uid k envelope.clientSeq room
          (codec.isEmpty envelope.payload)
          (readCommand codec task.msgId task.uid envelope) := by
  unfold addressedRoom at haddressed
  rw [Option.filter_eq_some_iff] at haddressed
  rcases haddressed with ⟨hidx, henvelope⟩
  rcases (hs.index task.uid k).mp hidx with ⟨room, hroom, hmem⟩
  have hplayer : room.hasPlayer task.uid = true := AList.lookup_isSome.mpr hmem
  have hresolve : resolveRoomId envelope s.uidToRoom task.uid = k := by
    unfold resolveRoomId
    rw [hidx]
    rcases of_decide_eq_true henvelope with hzero | hsame
    · rw [if_neg (not_not.mpr hzero)]
    · rw [if_pos (by rw [hsame]; exact hk)]
      exact hsame
  refine ⟨room, hroom, ?_⟩
  show dispatch codec ω (s.routed task) task = _
  rw [dispatch_command hcommand hcarries.msgId]
  unfold handlePlayerCommand
  rw [hcarries.parsed]
  dsimp only
  rw [routed_rooms, routed_uidToRoom, hresolve, if_neg hk, hroom]
  dsimp only
  rw [hplayer]
  rfl

omit [Scalar F] in
/-- A room is not the same once a command is queued in it. -/
theorem enqueueCommand_ne (room : DungeonRoom F) (cmd : PendingCommand F) :
    room.enqueueCommand cmd ≠ room := by
  intro h
  have hlength := congrArg (fun r : DungeonRoom F => r.pending.length) h
  simp [DungeonRoom.enqueueCommand] at hlength

/-- A command lands in the room it names, or its sender is told. -/
def LandsInNamedRoom (codec : Codec B F) (ω : Orders) (s : LogicShard F)
    (task : LogicTask B) (m : ClientRequest F) : Prop :=
  EnqueuedIn m.roomId s (handleTask codec ω s task).1 task
      (handleTask codec ω s task).2 ∨
    Answered s (handleTask codec ω s task).1 task (handleTask codec ω s task).2

theorem landsInNamedRoom_iff {s : LogicShard F} (hs : WellIndexed s)
    (hzero : 0 ∉ s.rooms) {task : LogicTask B} (huid : task.uid ≠ 0)
    {envelope : GateToGameEnvelope B} {m : ClientRequest F}
    (hcarries : Carries pb task envelope m) (hcommand : m.isCommand = true)
    (hroom : m.roomId ≠ 0) (ω : Orders) :
    LandsInNamedRoom codec ω s task m <->
      forall k, s.addressedRoom envelope task.uid = some k ->
        k = m.roomId ∧ m.isSkill = false := by
  cases haddressed : s.addressedRoom envelope task.uid with
  | none =>
      constructor
      · intro _ k hk
        cases hk
      · intro _
        exact Or.inr (handleTask_answered hs huid hcarries hcommand haddressed ω)
  | some k =>
      have hk : k ≠ 0 := by
        intro hk
        unfold addressedRoom at haddressed
        rw [Option.filter_eq_some_iff] at haddressed
        rcases (hs.index task.uid k).mp haddressed.left with ⟨room, hr, _⟩
        exact hzero (hk ▸ Table.mem_of_lookup hr)
      have hnonempty : codec.isEmpty envelope.payload = false := by
        rw [hcarries.payload, Bool.eq_false_iff]
        intro hempty
        exact ClientRequest.not_allDefault hroom ((pb.isEmpty m).mp hempty)
      rcases handleTask_addressed hs hcarries hcommand hk haddressed ω with
        ⟨room, hr, hout⟩
      rw [hnonempty, hcarries.msgId] at hout
      have hsilent : (handleTask codec ω s task).2 = [] ->
          ¬ Answered s (handleTask codec ω s task).1 task
            (handleTask codec ω s task).2 := by
        rintro hnil ⟨_, roomId, clientSeq, code, reason, hevents⟩
        rw [hnil] at hevents
        cases hevents
      cases hskill : m.isSkill with
      | true =>
          rw [readCommand_skill hskill] at hout
          change handleTask codec ω s task = (s.routed task, []) at hout
          constructor
          · rintro (⟨room', cmd, hr', hstate, _⟩ | hanswered)
            · rw [hout] at hstate
              have hlook := congrArg (fun t => t.rooms.lookup m.roomId) hstate
              change (s.routed task).rooms.lookup m.roomId =
                ((s.routed task).rooms.insert m.roomId _).lookup m.roomId at hlook
              rw [AList.lookup_insert, routed_rooms, hr'] at hlook
              injection hlook with hsame
              exact absurd hsame.symm (enqueueCommand_ne room' cmd)
            · exact absurd hanswered (hsilent (by rw [hout]))
          · intro h
            exact absurd (h k rfl).right Bool.noConfusion
      | false =>
          rcases readCommand_serialize hcommand hskill hcarries.payload task.uid with
            ⟨cmd, hcmd⟩
          rw [hcmd] at hout
          change handleTask codec ω s task =
            ((s.routed task).putRoom k (room.enqueueCommand cmd), []) at hout
          constructor
          · rintro (⟨room', cmd', hr', hstate, _⟩ | hanswered)
            · intro j hj
              injection hj with hkj
              refine ⟨?_, rfl⟩
              by_contra hne
              have hne' : k ≠ m.roomId := by
                rw [hkj]
                exact hne
              rw [hout] at hstate
              have hlook := congrArg (fun t => t.rooms.lookup k) hstate
              change ((s.routed task).rooms.insert k _).lookup k =
                ((s.routed task).rooms.insert m.roomId _).lookup k at hlook
              rw [AList.lookup_insert, AList.lookup_insert_ne hne', routed_rooms,
                hr] at hlook
              injection hlook with hsame
              exact enqueueCommand_ne room cmd hsame
            · exact absurd hanswered (hsilent (by rw [hout]))
          · intro h
            rcases h k rfl with ⟨hsame, _⟩
            refine Or.inl ⟨room, cmd, ?_, ?_, ?_⟩
            · rw [← hsame]
              exact hr
            · rw [hout, hsame]
            · rw [hout]

end LogicShard

namespace GameServer

/--
In every state that the server can reach, a command is queued in the room that
its payload names or its sender is told, exactly if the sender is in no room of
the shard, or the envelope names another room than the sender's, or the
sender's room is the named one and the command is not a skill.
-/
theorem run_command_lands_iff (codec : Codec B F) (pb : Protobuf codec) {n : Nat}
    (hn : 1 ≤ n) (inputs : List (ServerInput B)) (i : Nat) {task : LogicTask B}
    (huid : task.uid ≠ 0) {envelope : GateToGameEnvelope B} {m : ClientRequest F}
    (hcarries : LogicShard.Carries pb task envelope m)
    (hcommand : m.isCommand = true) (hroom : m.roomId ≠ 0) (ω : Orders) :
    let s := (run codec n inputs).1.shards i
    LogicShard.LandsInNamedRoom codec ω s task m <->
      forall k, s.uidToRoom.lookup task.uid = some k ->
        (envelope.roomId ≠ 0 ∧ envelope.roomId ≠ k) ∨
          (k = m.roomId ∧ m.isSkill = false) := by
  intro s
  have hplaced := run_placed codec hn inputs
  have hzero : 0 ∉ s.rooms := by
    intro hmem
    rcases hplaced.drawn i 0 (hplaced.rooms i 0 hmem) with ⟨_, j, hj, _, hk⟩
    have hpos : 1 ≤ n * j := Nat.mul_pos hn hj
    omega
  rw [LogicShard.landsInNamedRoom_iff (hplaced.indexed i) hzero huid hcarries
    hcommand hroom ω]
  unfold LogicShard.addressedRoom
  constructor
  · intro h k hk
    by_cases henvelope : envelope.roomId = 0 ∨ envelope.roomId = k
    · right
      apply h k
      rw [Option.filter_eq_some_iff]
      exact ⟨hk, decide_eq_true henvelope⟩
    · left
      rw [not_or] at henvelope
      exact henvelope
  · intro h k hk
    rw [Option.filter_eq_some_iff] at hk
    rcases hk with ⟨hidx, henvelope⟩
    rcases h k hidx with hother | hnamed
    · rcases of_decide_eq_true henvelope with hzero | hsame
      · exact absurd hzero hother.left
      · exact absurd hsame hother.right
    · exact hnamed

/-- A player creates a room and then another one, all on one shard. -/
def createAgain : List (ServerInput (Wire Rat)) :=
  [request MsgId.createRoomReq 1 (Wire.createRoom ⟨"", 2⟩),
    ServerInput.work 0 Orders.stored,
    request MsgId.createRoomReq 1 (Wire.createRoom ⟨"", 2⟩),
    ServerInput.work 0 Orders.stored]

/-- An order to the first unit of a room. -/
def orderIn (roomId : Nat) : ClientRequest Rat :=
  ClientRequest.moveCmd roomId [1] none false []

theorem orderIn_carries (roomId : Nat) :
    LogicShard.Carries Wire.protobuf
      (Wire.task MsgId.moveCmd 1 (Wire.serialize (orderIn roomId)))
      (buildGateToGameEnvelope 1 MsgId.moveCmd (Wire.serialize (orderIn roomId)))
      (orderIn roomId) :=
  ⟨rfl, rfl, rfl⟩

theorem createAgain_order_lands :
    LogicShard.LandsInNamedRoom Wire.codec Orders.stored
      ((run Wire.codec 1 createAgain).1.shards 0)
      (Wire.task MsgId.moveCmd 1 (Wire.serialize (orderIn 2))) (orderIn 2) := by
  have hidx : ((run Wire.codec 1 createAgain).1.shards 0).uidToRoom.lookup 1 =
      some 2 := by
    decide +kernel
  apply (run_command_lands_iff Wire.codec Wire.protobuf (n := 1) (by decide)
    createAgain 0 (by decide) (orderIn_carries 2) rfl (by decide) Orders.stored).mpr
  intro k hk
  change ((run Wire.codec 1 createAgain).1.shards 0).uidToRoom.lookup 1 = some k at hk
  rw [hidx] at hk
  injection hk with hk
  exact Or.inr ⟨hk.symm, rfl⟩

theorem createAgain_order_strays :
    ¬ forall (n i : Nat) (inputs : List (ServerInput (Wire Rat)))
      (task : LogicTask (Wire Rat)) (envelope : GateToGameEnvelope (Wire Rat))
      (m : ClientRequest Rat), 1 ≤ n -> task.uid ≠ 0 ->
      LogicShard.Carries Wire.protobuf task envelope m -> m.isCommand = true ->
      m.roomId ≠ 0 ->
      LogicShard.LandsInNamedRoom Wire.codec Orders.stored
        ((run Wire.codec n inputs).1.shards i) task m := by
  intro h
  have hlands := h 1 0 createAgain
    (Wire.task MsgId.moveCmd 1 (Wire.serialize (orderIn 1))) _ (orderIn 1)
    (by decide) (by decide) (orderIn_carries 1) rfl (by decide)
  have hplaced := run_placed Wire.codec (n := 1) (by decide) createAgain
  have hzero : 0 ∉ ((run Wire.codec 1 createAgain).1.shards 0).rooms := by
    decide +kernel
  have hidx : ((run Wire.codec 1 createAgain).1.shards 0).uidToRoom.lookup 1 =
      some 2 := by
    decide +kernel
  have haddressed : ((run Wire.codec 1 createAgain).1.shards 0).addressedRoom
      (buildGateToGameEnvelope 1 MsgId.moveCmd (Wire.serialize (orderIn 1))) 1 =
      some 2 := by
    unfold LogicShard.addressedRoom
    rw [hidx]
    rfl
  have hnamed := (LogicShard.landsInNamedRoom_iff (hplaced.indexed 0) hzero
    (by decide) (orderIn_carries 1) rfl (by decide) Orders.stored).mp hlands 2
    haddressed
  cases hnamed.left

end GameServer

/-!
## Requests that name no room

The logic shard falls back to its index.  But which shard is asked was decided
before, and without a room id it is always the first one.
-/

namespace LogicShard

variable {codec : Codec B F} {pb : Protobuf codec}

/-- The task that a network shard makes of a request. -/
def requestTask (pb : Protobuf codec) (uid : Nat) (route : GatewayRoute)
    (m : ClientRequest F) : LogicTask B :=
  ⟨m.msgId, uid, 0, route, pb.wrap uid m.msgId (pb.serialize m)⟩

omit [Scalar F] in
/-- In the shard of the sender's room, the room id makes no difference. -/
theorem requestedRoomId_eq {s : LogicShard F} {uid r : Nat} (hr : r ≠ 0)
    (hidx : s.uidToRoom.lookup uid = some r) {roomId : Nat}
    (hroom : roomId = 0 ∨ roomId = r) (msgId : MsgId) (payload : B) :
    s.requestedRoomId (buildGateToGameEnvelope uid msgId payload) uid roomId = r := by
  unfold requestedRoomId
  rcases hroom with hzero | hsame
  · rw [if_pos hzero]
    unfold resolveRoomId buildGateToGameEnvelope
    simp [hidx]
  · rw [if_neg (by rw [hsame]; exact hr)]
    exact hsame

/-- Reading a command does not look at the room id. -/
theorem readCommand_withRoom (pb : Protobuf codec) (m : ClientRequest F)
    (uid roomId : Nat) :
    readCommand codec m.msgId uid
        (buildGateToGameEnvelope uid m.msgId (pb.serialize (m.withRoom roomId))) =
      readCommand codec m.msgId uid
        (buildGateToGameEnvelope uid m.msgId (pb.serialize m)) := by
  cases m with
  | moveCmd _ _ _ _ _ =>
      simp [readCommand, ClientRequest.msgId, ClientRequest.withRoom,
        buildGateToGameEnvelope, pb.moveCmd]
  | attackCmd _ _ _ =>
      simp [readCommand, ClientRequest.msgId, ClientRequest.withRoom,
        buildGateToGameEnvelope, pb.attackCmd]
  | harvestCmd _ _ _ =>
      simp [readCommand, ClientRequest.msgId, ClientRequest.withRoom,
        buildGateToGameEnvelope, pb.harvestCmd]
  | storeResourceCmd _ _ _ =>
      simp [readCommand, ClientRequest.msgId, ClientRequest.withRoom,
        buildGateToGameEnvelope, pb.storeResourceCmd]
  | pickupResourceCmd _ _ _ =>
      simp [readCommand, ClientRequest.msgId, ClientRequest.withRoom,
        buildGateToGameEnvelope, pb.pickupResourceCmd]
  | buildCmd _ _ _ _ _ =>
      simp [readCommand, ClientRequest.msgId, ClientRequest.withRoom,
        buildGateToGameEnvelope, pb.buildCmd]
  | constructCmd _ _ _ =>
      simp [readCommand, ClientRequest.msgId, ClientRequest.withRoom,
        buildGateToGameEnvelope, pb.constructCmd]
  | trainUnitCmd _ _ _ =>
      simp [readCommand, ClientRequest.msgId, ClientRequest.withRoom,
        buildGateToGameEnvelope, pb.trainUnitCmd]
  | stopCmd _ _ =>
      simp [readCommand, ClientRequest.msgId, ClientRequest.withRoom,
        buildGateToGameEnvelope, pb.stopCmd]
  | _ => rfl

theorem parseRequest_wrap {alpha : Type} {parse : B -> Option alpha} {uid : Nat}
    {route : GatewayRoute} {m : ClientRequest F} {x : alpha}
    (hparse : parse (pb.serialize m) = some x) :
    parseRequest codec parse (requestTask pb uid route m) =
      some (buildGateToGameEnvelope uid m.msgId (pb.serialize m), x) := by
  unfold parseRequest requestTask
  dsimp only
  rw [pb.envelope]
  dsimp only [buildGateToGameEnvelope]
  rw [hparse]

/-- Leave, Ready and EnterBattle requests with and without the room id. -/
theorem dispatch_withRoom {s : LogicShard F} {uid r : Nat} (hr : r ≠ 0)
    (hidx : s.uidToRoom.lookup uid = some r) {m : ClientRequest F}
    (hroom : m.roomId = 0) (hjoin : m.isJoin = false) (hcommand : m.isCommand = false)
    (ω : Orders) (route : GatewayRoute) :
    dispatch codec ω s (requestTask pb uid route m) =
      dispatch codec ω s (requestTask pb uid route (m.withRoom r)) := by
  cases m with
  | joinRoomReq _ => cases hjoin
  | leaveRoomReq roomId =>
      change roomId = 0 at hroom
      show handleLeaveRoom codec ω s _ = handleLeaveRoom codec ω s _
      unfold handleLeaveRoom
      rw [parseRequest_wrap (pb.leaveRoomReq _), ClientRequest.withRoom,
        parseRequest_wrap (pb.leaveRoomReq _)]
      dsimp only [requestTask]
      rw [requestedRoomId_eq hr hidx (Or.inl hroom),
        requestedRoomId_eq hr hidx (Or.inr rfl)]
  | playerReadyReq roomId ready =>
      change roomId = 0 at hroom
      show handlePlayerReady codec ω s _ = handlePlayerReady codec ω s _
      unfold handlePlayerReady
      rw [parseRequest_wrap (pb.playerReadyReq _ _), ClientRequest.withRoom,
        parseRequest_wrap (pb.playerReadyReq _ _)]
      dsimp only [requestTask]
      rw [requestedRoomId_eq hr hidx (Or.inl hroom),
        requestedRoomId_eq hr hidx (Or.inr rfl)]
  | enterBattleReq roomId =>
      change roomId = 0 at hroom
      show handleEnterBattle codec s _ = handleEnterBattle codec s _
      unfold handleEnterBattle
      rw [parseRequest_wrap (pb.enterBattleReq _), ClientRequest.withRoom,
        parseRequest_wrap (pb.enterBattleReq _)]
      dsimp only [requestTask]
      rw [requestedRoomId_eq hr hidx (Or.inl hroom),
        requestedRoomId_eq hr hidx (Or.inr rfl)]
      rfl
  | _ => cases hcommand

/-- Requests with and without the room id, in the shard of the sender's room. -/
theorem handleTask_withRoom_iff {s : LogicShard F} (hs : WellIndexed s)
    {uid r : Nat} (hr : r ≠ 0) (hidx : s.uidToRoom.lookup uid = some r)
    {m : ClientRequest F} (hroom : m.roomId = 0) (hjoin : m.isJoin = false)
    (ω : Orders) (route : GatewayRoute) :
    handleTask codec ω s (requestTask pb uid route m) =
        handleTask codec ω s (requestTask pb uid route (m.withRoom r)) <->
      (m.isCommand = true -> ¬ m.AllDefault) := by
  have hmsg : (m.withRoom r).msgId = m.msgId := ClientRequest.msgId_withRoom m r
  cases hcommand : m.isCommand with
  | false =>
      apply iff_of_true
      · have hrouted : (s.routed (requestTask pb uid route m)).uidToRoom.lookup uid =
            some r := by
          rw [routed_uidToRoom]
          exact hidx
        exact dispatch_withRoom hr hrouted hroom hjoin hcommand ω route
      · intro h
        cases h
  | true =>
      have hcommand' : (m.withRoom r).isCommand = true := by
        cases m with
        | joinRoomReq _ => cases hcommand
        | leaveRoomReq _ => cases hcommand
        | playerReadyReq _ _ => cases hcommand
        | enterBattleReq _ => cases hcommand
        | _ => rfl
      have hcarries : forall m' : ClientRequest F, Carries pb
          (requestTask pb uid route m')
          (buildGateToGameEnvelope uid m'.msgId (pb.serialize m')) m' :=
        fun m' => ⟨pb.envelope _ _ _, rfl, rfl⟩
      have haddressed : forall m' : ClientRequest F, s.addressedRoom
          (buildGateToGameEnvelope uid m'.msgId (pb.serialize m')) uid = some r := by
        intro m'
        unfold addressedRoom
        rw [hidx]
        rfl
      rcases handleTask_addressed hs (hcarries m) hcommand hr (haddressed m) ω with
        ⟨room, hlook, hout⟩
      rcases handleTask_addressed hs (hcarries (m.withRoom r)) hcommand' hr
        (haddressed (m.withRoom r)) ω with ⟨room', hlook', hout'⟩
      have hrooms : room' = room := by
        rw [hlook] at hlook'
        injection hlook' with h
        exact h.symm
      have hnonempty : codec.isEmpty (pb.serialize (m.withRoom r)) = false := by
        rw [Bool.eq_false_iff]
        intro hempty
        exact ClientRequest.not_allDefault
          (by rw [ClientRequest.roomId_withRoom]; exact hr)
          ((pb.isEmpty _).mp hempty)
      have hread := readCommand_withRoom pb m uid r
      have hreading : forall reason, readCommand codec m.msgId uid
          (buildGateToGameEnvelope uid m.msgId (pb.serialize m)) ≠
            CommandReading.malformed reason := by
        intro reason hmalformed
        cases hskill : m.isSkill with
        | true =>
            rw [readCommand_skill hskill] at hmalformed
            cases hmalformed
        | false =>
            have hpayload : (buildGateToGameEnvelope uid m.msgId
                (pb.serialize m)).payload = pb.serialize m := rfl
            rcases readCommand_serialize hcommand hskill hpayload uid with
              ⟨cmd, hcmd⟩
            rw [hcmd] at hmalformed
            cases hmalformed
      have houtcome' : handleTask codec ω s (requestTask pb uid route (m.withRoom r)) =
          (s.routed (requestTask pb uid route m)).commandOutcome uid r 0 room false
            (readCommand codec m.msgId uid
              (buildGateToGameEnvelope uid m.msgId (pb.serialize m))) := by
        rw [hout', ← hread, ← hrooms, ← hnonempty, ← hmsg]
        rfl
      have houtcome : handleTask codec ω s (requestTask pb uid route m) =
          (s.routed (requestTask pb uid route m)).commandOutcome uid r 0 room
            (codec.isEmpty (pb.serialize m))
            (readCommand codec m.msgId uid
              (buildGateToGameEnvelope uid m.msgId (pb.serialize m))) := hout
      rw [houtcome, houtcome']
      constructor
      · intro heq _ hdefault
        rw [(pb.isEmpty m).mpr hdefault] at heq
        have hevents := congrArg Prod.snd heq
        unfold commandOutcome at hevents
        generalize readCommand codec m.msgId uid
          (buildGateToGameEnvelope uid m.msgId (pb.serialize m)) = reading at *
        cases reading with
        | malformed reason => exact hreading reason rfl
        | notSimulated => cases hevents
        | command cmd => cases hevents
      · intro h
        have hfull : codec.isEmpty (pb.serialize m) = false := by
          rw [Bool.eq_false_iff]
          intro hempty
          exact h rfl ((pb.isEmpty m).mp hempty)
        rw [hfull]

end LogicShard

namespace GameServer

/-- The logic shard to which a request is sent. -/
def shardOf (codec : Codec B F) (pb : Protobuf codec) (g : GameServer B F)
    (net uid : Nat) (m : ClientRequest F) : Nat :=
  (resolveLogicShard codec g net m.msgId
    (buildGateToGameEnvelope uid m.msgId (pb.serialize m))).1

/--
A request without a room id goes to the shard that owns the room, is for that
room there, and is handled exactly as if it had named the room.
-/
structure FallsBack {codec : Codec B F} (pb : Protobuf codec)
    (g : GameServer B F) (net uid r : Nat) (m : ClientRequest F) : Prop where
  shard : shardOf codec pb g net uid m = shardOf codec pb g net uid (m.withRoom r)
  owner : r ∈ (g.shards (shardOf codec pb g net uid m)).rooms
  room : (g.shards (shardOf codec pb g net uid m)).requestedRoomId
    (buildGateToGameEnvelope uid m.msgId (pb.serialize m)) uid 0 = r
  outcome : forall ω route,
    LogicShard.handleTask codec ω (g.shards (shardOf codec pb g net uid m))
        (LogicShard.requestTask pb uid route m) =
      LogicShard.handleTask codec ω (g.shards (shardOf codec pb g net uid m))
        (LogicShard.requestTask pb uid route (m.withRoom r))

theorem shardOf_eq {codec : Codec B F} (pb : Protobuf codec) {n : Nat}
    (hn : 1 ≤ n) {g : GameServer B F} (hcount : g.logicShardCount = n)
    (net uid : Nat) (m : ClientRequest F) :
    shardOf codec pb g net uid m = m.roomId % n := by
  unfold shardOf
  rw [resolveLogicShard_hinted codec (by omega) net m.msgId_ne_createRoomReq,
    hintedRoom_serialize pb rfl (Or.inl rfl), hcount]
  split
  · rfl
  · rename_i hzero
    rw [not_not.mp hzero, Nat.zero_mod]

/--
In every state that the server can reach, the fallback works exactly for the
rooms of the first shard, and among the commands for those that are not empty.
-/
theorem run_fallback_iff (codec : Codec B F) (pb : Protobuf codec) {n : Nat}
    (hn : 1 ≤ n) (inputs : List (ServerInput B)) {i r uid : Nat}
    {room : DungeonRoom F}
    (hroom : ((run codec n inputs).1.shards i).rooms.lookup r = some room)
    (hplayer : uid ∈ room.players) (net : Nat) {m : ClientRequest F}
    (hzero : m.roomId = 0) (hjoin : m.isJoin = false) :
    FallsBack pb (run codec n inputs).1 net uid r m <->
      r % n = 0 ∧ (m.isCommand = true -> ¬ m.AllDefault) := by
  have hplaced := run_placed codec hn inputs
  generalize (run codec n inputs).1 = g at *
  rcases hplaced.drawn i r (hplaced.rooms i r (Table.mem_of_lookup hroom)) with
    ⟨hi, j, hj, _, hr⟩
  have hpos : 1 ≤ n * j := Nat.mul_pos hn hj
  have hne : r ≠ 0 := by omega
  have hmod : r % n = i := by
    rw [hr, Nat.add_mul_mod_self_left, Nat.mod_eq_of_lt hi]
  have hfirst : shardOf codec pb g net uid m = 0 := by
    rw [shardOf_eq pb hn hplaced.count, hzero, Nat.zero_mod]
  have hnamed : shardOf codec pb g net uid (m.withRoom r) = i := by
    rw [shardOf_eq pb hn hplaced.count, ClientRequest.roomId_withRoom, hmod]
  rw [hmod]
  constructor
  · intro h
    have hi0 : i = 0 := by
      have hshard := h.shard
      rw [hfirst, hnamed] at hshard
      exact hshard.symm
    subst hi0
    have hidx := ((hplaced.indexed 0).member hroom uid).mp hplayer
    have hout := h.outcome Orders.stored ⟨0, 0, 0⟩
    rw [hfirst] at hout
    exact ⟨rfl, (LogicShard.handleTask_withRoom_iff (hplaced.indexed 0) hne hidx
      hzero hjoin Orders.stored ⟨0, 0, 0⟩).mp hout⟩
  · rintro ⟨hi0, hcommand⟩
    subst hi0
    have hidx := ((hplaced.indexed 0).member hroom uid).mp hplayer
    constructor
    · rw [hfirst, hnamed]
    · rw [hfirst]
      exact Table.mem_of_lookup hroom
    · rw [hfirst]
      exact LogicShard.requestedRoomId_eq hne hidx (Or.inl rfl) _ _
    · intro ω route
      rw [hfirst]
      exact (LogicShard.handleTask_withRoom_iff (hplaced.indexed 0) hne hidx hzero
        hjoin ω route).mpr hcommand

/-- Two players create a room each; the second room is in the second shard. -/
def createEach : List (ServerInput (Wire Rat)) :=
  [request MsgId.createRoomReq 1 (Wire.createRoom ⟨"", 2⟩),
    ServerInput.work 0 Orders.stored,
    request MsgId.createRoomReq 2 (Wire.createRoom ⟨"", 2⟩),
    ServerInput.work 1 Orders.stored]

/-- The players of a room. -/
theorem lookup_of_member {n i r uid : Nat} {inputs : List (ServerInput (Wire Rat))}
    (h : (((run Wire.codec n inputs).1.shards i).rooms.lookup r).map
      (fun room => decide (uid ∈ room.players)) = some true) :
    exists room, ((run Wire.codec n inputs).1.shards i).rooms.lookup r = some room ∧
      uid ∈ room.players := by
  rcases Option.map_eq_some_iff.mp h with ⟨room, hroom, hplayer⟩
  exact ⟨room, hroom, of_decide_eq_true hplayer⟩

theorem createEach_first_falls_back :
    FallsBack Wire.protobuf (run Wire.codec 2 createEach).1 0 1 2
      (ClientRequest.leaveRoomReq 0) := by
  have hmember : (((run Wire.codec 2 createEach).1.shards 0).rooms.lookup 2).map
      (fun room => decide (1 ∈ room.players)) = some true := by
    decide +kernel
  rcases lookup_of_member hmember with ⟨room, hroom, hplayer⟩
  apply (run_fallback_iff Wire.codec Wire.protobuf (n := 2) (by decide) createEach
    hroom hplayer 0 rfl rfl).mpr
  constructor
  · decide
  · intro h
    cases h

theorem createEach_second_is_lost :
    ¬ forall (n i r uid net : Nat) (inputs : List (ServerInput (Wire Rat)))
      (room : DungeonRoom Rat) (m : ClientRequest Rat), 1 ≤ n ->
      ((run Wire.codec n inputs).1.shards i).rooms.lookup r = some room ->
      uid ∈ room.players -> m.roomId = 0 -> m.isJoin = false ->
      FallsBack Wire.protobuf (run Wire.codec n inputs).1 net uid r m := by
  intro h
  have hmember : (((run Wire.codec 2 createEach).1.shards 1).rooms.lookup 3).map
      (fun room => decide (2 ∈ room.players)) = some true := by
    decide +kernel
  rcases lookup_of_member hmember with ⟨room, hroom, hplayer⟩
  have hshard := (h 2 1 3 2 0 createEach room (ClientRequest.leaveRoomReq 0)
    (by decide) hroom hplayer rfl rfl).shard
  have hcount := (run_placed Wire.codec (n := 2) (by decide) createEach).count
  rw [shardOf_eq Wire.protobuf (by decide) hcount,
    shardOf_eq Wire.protobuf (by decide) hcount] at hshard
  cases hshard

end GameServer

end RtsGame
