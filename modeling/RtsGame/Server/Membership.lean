import RtsGame.Server.GameServer
import RtsGame.Shard.RoomRules

/-!
# Who is where

Inside one logic shard a player is in at most one room, because the index is a
function.  Between shards nothing prevents a second membership but the routing.
-/

namespace RtsGame

variable {B F : Type} [Scalar F]

/-!
## Members of one shard
-/

def LogicShard.hasMember (s : LogicShard F) (uid : Nat) : Prop :=
  uid ∈ s.uidToRoom

omit [Scalar F] in
theorem WellIndexed.hasMember_iff {s : LogicShard F} (h : WellIndexed s)
    (uid : Nat) :
    s.hasMember uid <->
      exists roomId r, s.rooms.lookup roomId = some r ∧ uid ∈ r.players := by
  unfold LogicShard.hasMember
  rw [Table.mem_iff_lookup]
  constructor
  · rintro ⟨roomId, hidx⟩
    exact ⟨roomId, (h.index uid roomId).mp hidx⟩
  · rintro ⟨roomId, hr⟩
    exact ⟨roomId, (h.index uid roomId).mpr hr⟩

omit [Scalar F] in
/-- In one shard, a player is in one room. -/
theorem WellIndexed.room_unique {s : LogicShard F} (h : WellIndexed s)
    {uid k k' : Nat} {r r' : DungeonRoom F} (hr : s.rooms.lookup k = some r)
    (hr' : s.rooms.lookup k' = some r') (huid : uid ∈ r.players)
    (huid' : uid ∈ r'.players) : k = k' := by
  have hidx := (h.index uid k).mpr ⟨r, hr, huid⟩
  have hidx' := (h.index uid k').mpr ⟨r', hr', huid'⟩
  rw [hidx] at hidx'
  injection hidx'

/-- A new member was seated as the policy asks. -/
theorem ShardMove.members {p : Policy F}
    {s s' : LogicShard F} {events : List (ShardEvent F)}
    (hmove : ShardMove p s events s') {uid : Nat} (h : s'.hasMember uid) :
    s.hasMember uid ∨ exists r, p.seats uid r := by
  cases hmove with
  | route routes => exact Or.inl h
  | talk _ => exact Or.inl h
  | @create joined roomName maxPlayers _ hseats =>
      rcases (AList.mem_insert _).mp h with heq | hold
      · rw [heq]
        exact Or.inr ⟨_, hseats⟩
      · exact Or.inl hold
  | @enter joined roomId r _ _ _ hseats =>
      rcases (AList.mem_insert _).mp h with heq | hold
      · rw [heq]
        exact Or.inr ⟨_, hseats⟩
      · exact Or.inl hold
  | @touch joined roomId r hidx _ =>
      rcases (AList.mem_insert _).mp h with heq | hold
      · rw [heq]
        exact Or.inl (Table.mem_of_lookup hidx)
      · exact Or.inl hold
  | refresh _ => exact Or.inl h
  | inner _ _ => exact Or.inl h
  | leave _ _ _ _ _ => exact Or.inl (AList.mem_erase.mp h).2
  | vanish _ _ _ => exact Or.inl (AList.mem_erase.mp h).2

theorem moves_members {p : Policy F}
    {s s' : LogicShard F} {events : List (ShardEvent F)}
    (hmoves : Moves (ShardMove p) s events s') {uid : Nat}
    (h : s'.hasMember uid) : s.hasMember uid ∨ exists r, p.seats uid r := by
  induction hmoves with
  | nil _ => exact Or.inl h
  | cons hmove _ ih =>
      rcases ih h with hmid | hseats
      · exact hmove.members hmid
      · exact Or.inr hseats

/-!
## Members of the server
-/

namespace GameServer

/-- A player is in at most one room of all the shards together. -/
def OneRoomEach (g : GameServer B F) : Prop :=
  forall uid i j k k' r r', i < g.logicShardCount -> j < g.logicShardCount ->
    (g.shards i).rooms.lookup k = some r -> uid ∈ r.players ->
    (g.shards j).rooms.lookup k' = some r' -> uid ∈ r'.players ->
    i = j ∧ k = k'

/--
The next task of a shard does not seat a player who is in a room of another
shard.
-/
def SeatsNewcomers (codec : Codec B F) (g : GameServer B F) :
    ServerInput B -> Prop
  | ServerInput.work i _ =>
      match g.queues i with
      | [] => True
      | task :: _ =>
          forall uid r, Seating codec (g.shards i) task uid r ->
            forall j, j < g.logicShardCount -> j ≠ i ->
              ¬ (g.shards j).hasMember uid
  | _ => True

instance decidableHasMember (s : LogicShard F) (uid : Nat) :
    Decidable (s.hasMember uid) :=
  inferInstanceAs (Decidable (uid ∈ s.uidToRoom))

omit [Scalar F] in
theorem seatsNewcomers_of_stranger {codec : Codec B F} {g : GameServer B F}
    {i : Nat} {ω : Orders}
    (h : forall task, task ∈ g.queues i -> forall j, j < g.logicShardCount ->
      j ≠ i -> ¬ (g.shards j).hasMember task.uid) :
    SeatsNewcomers codec g (ServerInput.work i ω) := by
  unfold SeatsNewcomers
  dsimp only
  split
  · trivial
  · rename_i task rest hqueue
    have hmine : task ∈ g.queues i := by
      rw [hqueue]
      exact List.mem_cons_self
    intro uid r hseating
    cases hseating with
    | create _ _ => exact h task hmine
    | join _ _ _ _ _ => exact h task hmine

/-- Those who are seated in a shard are not members of another one. -/
def newcomers (g : GameServer B F) (i : Nat) : Policy F where
  seats := fun uid _ => forall j, j < g.logicShardCount -> j ≠ i ->
    ¬ (g.shards j).hasMember uid
  parts := fun _ _ => True
  ticks := fun _ _ => True

/-- Every index is right, and nobody is a member of two shards. -/
structure Separate (g : GameServer B F) : Prop where
  indexed : forall i, WellIndexed (g.shards i)
  apart : forall uid i j, i < g.logicShardCount -> j < g.logicShardCount ->
    (g.shards i).hasMember uid -> (g.shards j).hasMember uid -> i = j

omit [Scalar F] in
theorem Separate.oneRoomEach {g : GameServer B F} (h : Separate g) :
    OneRoomEach g := by
  intro uid i j k k' r r' hi hj hr huid hr' huid'
  have hmember := ((h.indexed i).hasMember_iff uid).mpr ⟨k, r, hr, huid⟩
  have hmember' := ((h.indexed j).hasMember_iff uid).mpr ⟨k', r', hr', huid'⟩
  have hij := h.apart uid i j hi hj hmember hmember'
  subst hij
  exact ⟨rfl, (h.indexed i).room_unique hr hr' huid huid'⟩

/-!
## Packets only fill the queues
-/

/-- Shards are the same. -/
def SameShards (g g' : GameServer B F) : Prop :=
  g'.shards = g.shards ∧ g'.logicShardCount = g.logicShardCount

omit [Scalar F] in
theorem SameShards.separate {g g' : GameServer B F} (hsame : SameShards g g')
    (h : Separate g) : Separate g' := by
  rcases hsame with ⟨hshards, hcount⟩
  constructor
  · rw [hshards]
    exact h.indexed
  · rw [hshards, hcount]
    exact h.apart

omit [Scalar F] in
theorem postToLogic_same (g : GameServer B F) (shardId : Nat)
    (task : LogicTask B) : SameShards g (g.postToLogic shardId task) := by
  unfold postToLogic
  split
  · exact ⟨rfl, rfl⟩
  · exact ⟨rfl, rfl⟩

omit [Scalar F] in
theorem SameShards.trans {g g' g'' : GameServer B F} (h : SameShards g g')
    (h' : SameShards g' g'') : SameShards g g'' :=
  ⟨h'.1.trans h.1, h'.2.trans h.2⟩

omit [Scalar F] in
theorem resolveLogicShard_same (codec : Codec B F) (g : GameServer B F)
    (net : Nat) (msgId : MsgId) (envelope : GateToGameEnvelope B) :
    SameShards g (resolveLogicShard codec g net msgId envelope).2 := by
  unfold resolveLogicShard pickLogicShard
  split
  · exact ⟨rfl, rfl⟩
  · split
    · exact ⟨rfl, rfl⟩
    · split
      · exact ⟨rfl, rfl⟩
      · exact ⟨rfl, rfl⟩

omit [Scalar F] in
theorem dispatchPacket_same (codec : Codec B F) (g : GameServer B F)
    (net : Nat) (route : GatewayRoute) (msgId : MsgId) (seq : Nat) (body : B) :
    SameShards g (dispatchPacket codec g net route msgId seq body) := by
  have hforward : SameShards g (forwardToLogic codec g net route msgId seq body) := by
    unfold forwardToLogic
    split
    · exact ⟨rfl, rfl⟩
    · rename_i envelope _ _
      split
      · exact ⟨rfl, rfl⟩
      · split
        · exact ⟨rfl, rfl⟩
        · exact (resolveLogicShard_same codec g net msgId envelope).trans
            (postToLogic_same _ _ _)
  have hfan : forall (ids : List Nat) (g' : GameServer B F), SameShards g g' ->
      SameShards g (ids.foldl
        (fun g shardId => g.postToLogic shardId (disconnectTask body)) g') := by
    intro ids
    induction ids with
    | nil =>
        intro g' hg'
        exact hg'
    | cons i rest ih =>
        intro g' hg'
        exact ih _ (hg'.trans (postToLogic_same g' i _))
  unfold dispatchPacket
  split
  · unfold handleClientDisconnected
    split
    · exact ⟨rfl, rfl⟩
    · split
      · exact ⟨rfl, rfl⟩
      · exact hfan _ g ⟨rfl, rfl⟩
  · exact ⟨rfl, rfl⟩
  · exact ⟨rfl, rfl⟩
  · exact ⟨rfl, rfl⟩
  · exact hforward

omit [Scalar F] in
theorem onPacket_same (codec : Codec B F) (g : GameServer B F) (net : Nat)
    (route : GatewayRoute) (msgId : MsgId) (seq : Nat) (body : B) :
    SameShards g (onPacket codec g net route msgId seq body) := by
  unfold onPacket
  split
  · split
    · exact ⟨rfl, rfl⟩
    · exact dispatchPacket_same _ _ _ _ _ _ _
  · exact dispatchPacket_same _ _ _ _ _ _ _

theorem handle_logicShardCount (codec : Codec B F) (g : GameServer B F)
    (input : ServerInput B) :
    (handle codec g input).1.logicShardCount = g.logicShardCount := by
  cases input with
  | packet net route msgId seq body => exact (onPacket_same codec g net route msgId seq body).2
  | tick shardId ω => rfl
  | work shardId ω =>
      unfold GameServer.handle work
      dsimp only
      split
      · rfl
      · rfl

theorem run_logicShardCount (codec : Codec B F) (g : GameServer B F)
    (inputs : List (ServerInput B)) :
    (runMachine (handle codec) g inputs).1.logicShardCount = g.logicShardCount :=
  runMachine_invariant (fun _ g' => g'.logicShardCount = g.logicShardCount)
    (fun _ g' input h => (handle_logicShardCount codec g' input).trans h) [] g rfl inputs

/-!
## Separation over runs
-/

/-- One shard moves and seats nobody who is a member elsewhere. -/
theorem Separate.update {g : GameServer B F} (h : Separate g) {i : Nat}
    {s' : LogicShard F} {events : List (ShardEvent F)}
    (hmoves : Moves (ShardMove (g.newcomers i)) (g.shards i) events s')
    (queues : Nat -> List (LogicTask B)) :
    Separate
      { g with
        shards := Function.update g.shards i s'
        queues := queues } := by
  have hmember : forall uid j, j < g.logicShardCount -> j ≠ i ->
      s'.hasMember uid -> i < g.logicShardCount ->
      ¬ (g.shards j).hasMember uid := by
    intro uid j hj hji hnew hi
    rcases moves_members hmoves hnew with hold | ⟨_, hseats⟩
    · intro hother
      exact hji (h.apart uid j i hj hi hother hold)
    · exact hseats j hj hji
  constructor
  · intro k
    change WellIndexed (Function.update g.shards i s' k)
    by_cases hk : k = i
    · rw [hk, Function.update_self]
      exact (h.indexed i).moves hmoves
    · rw [Function.update_of_ne hk]
      exact h.indexed k
  · intro uid a b ha hb
    change (Function.update g.shards i s' a).hasMember uid ->
      (Function.update g.shards i s' b).hasMember uid -> a = b
    change a < g.logicShardCount at ha
    change b < g.logicShardCount at hb
    intro hina hinb
    by_cases hai : a = i
    · by_cases hbi : b = i
      · exact hai.trans hbi.symm
      · rw [hai, Function.update_self] at hina
        rw [Function.update_of_ne hbi] at hinb
        exact absurd hinb (hmember uid b hb hbi hina (hai ▸ ha))
    · rw [Function.update_of_ne hai] at hina
      by_cases hbi : b = i
      · rw [hbi, Function.update_self] at hinb
        exact absurd hina (hmember uid a ha hai hinb (hbi ▸ hb))
      · rw [Function.update_of_ne hbi] at hinb
        exact h.apart uid a b ha hb hina hinb

theorem Separate.handle {g : GameServer B F} (h : Separate g)
    (codec : Codec B F) (i : ServerInput B) (hseats : SeatsNewcomers codec g i) :
    Separate (GameServer.handle codec g i).1 := by
  cases i with
  | packet net route msgId seq body =>
      exact (onPacket_same codec g net route msgId seq body).separate h
  | work shardId ω =>
      unfold SeatsNewcomers at hseats
      dsimp only at hseats
      unfold GameServer.handle work
      dsimp only
      cases hqueue : g.queues shardId with
      | nil => exact h
      | cons task rest =>
          rw [hqueue] at hseats
          exact h.update ((h.indexed shardId).handleTask codec ω task
            ⟨hseats, fun _ _ _ => trivial⟩) _
  | tick shardId ω =>
      exact h.update
        ((h.indexed shardId).tickRooms ω fun _ _ _ _ => trivial) g.queues

/--
For every number of shards and every interleaving in which no task seats a
player who is in a room of another shard at that moment, every player is in at
most one room of the server.
-/
theorem run_one_room_each (codec : Codec B F) (logicShardCount : Nat)
    (inputs : List (ServerInput B))
    (hseats : Along (GameServer.handle codec) (SeatsNewcomers codec)
      (create logicShardCount) inputs) :
    OneRoomEach (run codec logicShardCount inputs).1 := by
  have hinit : Separate (create logicShardCount : GameServer B F) := by
    constructor
    · intro i
      exact WellIndexed.create i logicShardCount
    · intro uid i j _ _ hmember
      cases hmember
  have hall := runMachine_along (fun _ g => Separate g)
    (fun past g i h hcond => h.handle codec i hcond) [] _ hinit inputs hseats
  exact hall.oneRoomEach

/-- A request that arrives over the first gateway link. -/
def request (msgId : MsgId) (uid : Nat) (payload : Wire Rat) :
    ServerInput (Wire Rat) :=
  ServerInput.packet 0 ⟨0, 0, 0⟩ MsgId.gateToGameEnvelope 0
    (Wire.envelope uid msgId payload)

/-- A player creates a room, loses the connection and creates another one. -/
def createTwiceWithBreak : List (ServerInput (Wire Rat)) :=
  [request MsgId.createRoomReq 1 (Wire.createRoom ⟨"", 2⟩),
    ServerInput.work 0 Orders.stored,
    ServerInput.packet 0 ⟨0, 0, 0⟩ MsgId.clientDisconnectedNtf 0
      (Wire.disconnected 1),
    ServerInput.work 1 Orders.stored,
    ServerInput.work 0 Orders.stored,
    request MsgId.createRoomReq 1 (Wire.createRoom ⟨"", 2⟩),
    ServerInput.work 1 Orders.stored]

/-- The same without losing the connection in between. -/
def createTwice : List (ServerInput (Wire Rat)) :=
  [request MsgId.createRoomReq 1 (Wire.createRoom ⟨"", 2⟩),
    ServerInput.work 0 Orders.stored,
    request MsgId.createRoomReq 1 (Wire.createRoom ⟨"", 2⟩),
    ServerInput.work 1 Orders.stored]

theorem createTwiceWithBreak_one_room_each :
    OneRoomEach (run Wire.codec 2 createTwiceWithBreak).1 := by
  apply run_one_room_each
  refine ⟨trivial, ?_, trivial, ?_, ?_, trivial, ?_, trivial⟩
  · apply seatsNewcomers_of_stranger
    decide +kernel
  · apply seatsNewcomers_of_stranger
    decide +kernel
  · apply seatsNewcomers_of_stranger
    decide +kernel
  · apply seatsNewcomers_of_stranger
    decide +kernel

theorem createTwice_two_rooms :
    ¬ forall (logicShardCount : Nat) (inputs : List (ServerInput (Wire Rat))),
      OneRoomEach (run Wire.codec logicShardCount inputs).1 := by
  intro h
  have hone := h 2 createTwice 1 0 1
  generalize hg : (run Wire.codec 2 createTwice).1 = g at hone
  have hfirst : ((g.shards 0).rooms.lookup 2).map
      (fun r => decide (1 ∈ r.players)) = some true := by
    rw [← hg]
    decide +kernel
  have hsecond : ((g.shards 1).rooms.lookup 3).map
      (fun r => decide (1 ∈ r.players)) = some true := by
    rw [← hg]
    decide +kernel
  have hcount : g.logicShardCount = 2 := by
    rw [← hg]
    decide +kernel
  rcases Option.map_eq_some_iff.mp hfirst with ⟨r, hr, hplayer⟩
  rcases Option.map_eq_some_iff.mp hsecond with ⟨r', hr', hplayer'⟩
  have hsame := hone 2 3 r r' (by lia) (by lia) hr (of_decide_eq_true hplayer)
    hr' (of_decide_eq_true hplayer')
  cases hsame.1

end GameServer

end RtsGame
