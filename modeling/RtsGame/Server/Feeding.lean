import RtsGame.Server.Membership
import RtsGame.Server.Routes

/-!
# A server and its network shards

The game server is given the packets that arrive on its links.  In a process
they come from network shards: sessions read them, and what a shard makes of a
packet is posted to the queues of the logic shards.  Such a server runs as the
game server does on the packets that its sessions complete, whichever tasks its
network shards get and whenever they get them.
-/

namespace RtsGame

namespace NetworkShard

variable {B P F : Type} {n : NetworkShard B P} {g : GameServer B F}

/-!
## The queues behind a shard
-/

/-- What an event does to the queues of the logic shards. -/
def post (codec : Codec B F) (net : Nat) (g : GameServer B F) :
    LinkEvent B P -> GameServer B F
  | LinkEvent.forwarded _ task =>
      match GameServer.parseGateToGameEnvelope codec task.body with
      | none => g
      | some (envelope, _) =>
          let resolved := GameServer.resolveLogicShard codec g net task.msgId envelope
          resolved.2.postToLogic resolved.1 task
  | LinkEvent.disconnected body =>
      (List.range g.logicShardCount).foldl
        (fun g shardId => g.postToLogic shardId (GameServer.disconnectTask body)) g
  | LinkEvent.enqueued _ _ _ => g

theorem forwardToLogic_posts (hcount : g.logicShardCount = n.logicShardCount)
    (lc : LinkCodec B P F)
    (s linkId : Nat) (msgId : MsgId) (seq : Nat) (body : B) :
    (n.forwardToLogic lc s linkId msgId seq body).foldl (post lc.codec n.shardId) g =
      GameServer.forwardToLogic lc.codec g n.shardId (n.makeRoute linkId) msgId seq
        body := by
  unfold forwardToLogic GameServer.forwardToLogic
  rw [hcount]
  cases hparse : GameServer.parseGateToGameEnvelope lc.codec body with
  | none =>
      rfl
  | some parsed =>
      simp only
      split
      · rfl
      · split
        · rfl
        · simp [post, hparse]

theorem handleClientDisconnected_posts (lc : LinkCodec B P F) (net : Nat) (body : B) :
    (handleClientDisconnected lc body : List (LinkEvent B P)).foldl
        (post lc.codec net) g =
      GameServer.handleClientDisconnected lc.codec g body := by
  unfold handleClientDisconnected GameServer.handleClientDisconnected
  cases hnotice : lc.codec.disconnectedUid body with
  | none =>
      rfl
  | some uid =>
      simp only
      split
      · rfl
      · rfl

theorem dispatched_posts (hcount : g.logicShardCount = n.logicShardCount)
    (hstop : n.stopping = false) {lc : LinkCodec B P F} {msgId dispatchMsgId : MsgId}
    {seq dispatchSeq : Nat} {body : B}
    (hdispatched : dispatched lc msgId seq body = some (dispatchMsgId, dispatchSeq))
    (s linkId nowUnixMs : Nat) :
    (n.onPacket lc s linkId nowUnixMs msgId seq body).2.foldl
        (post lc.codec n.shardId) g =
      GameServer.dispatchPacket lc.codec g n.shardId (n.makeRoute linkId) dispatchMsgId
        dispatchSeq body := by
  unfold onPacket
  rw [hstop, hdispatched]
  cases dispatchMsgId with
  | pingReq => rfl
  | gateToGameEnvelope => rfl
  | other => rfl
  | clientDisconnectedNtf => exact handleClientDisconnected_posts lc n.shardId body
  | _ => exact forwardToLogic_posts hcount lc s linkId _ dispatchSeq body

/-- A packet does to the logic shards what the game server says, with the route of its link. -/
theorem onPacket_posts (hcount : g.logicShardCount = n.logicShardCount)
    (hstop : n.stopping = false) (lc : LinkCodec B P F) (s linkId nowUnixMs : Nat)
    (msgId : MsgId) (seq : Nat) (body : B) :
    (n.onPacket lc s linkId nowUnixMs msgId seq body).2.foldl
        (post lc.codec n.shardId) g =
      GameServer.onPacket lc.codec g n.shardId (n.makeRoute linkId) msgId seq
        body := by
  unfold GameServer.onPacket
  by_cases hmsg : msgId = MsgId.gateToGameEnvelope
  · rw [if_pos hmsg]
    cases hparse : GameServer.parseGateToGameEnvelope lc.codec body with
    | none =>
        have hnothing : dispatched lc msgId seq body = none := by
          simp [dispatched, hmsg, hparse]
        unfold onPacket
        rw [hstop, hnothing]
        rfl
    | some parsed =>
        have hsome : dispatched lc msgId seq body =
            some (parsed.2, parsed.1.clientSeq) := by
          simp [dispatched, hmsg, hparse]
        exact dispatched_posts hcount hstop hsome s linkId nowUnixMs
  · rw [if_neg hmsg]
    have hsome : dispatched lc msgId seq body = some (msgId, seq) := by
      simp [dispatched, hmsg]
    exact dispatched_posts hcount hstop hsome s linkId nowUnixMs

/-- The packet that a session has completed when `handle_read` continues. -/
def completed (lc : LinkCodec B P F) (n : NetworkShard B P) (s : Nat) :
    Option (MsgId × B) :=
  match (n.sessions s).read with
  | ReadPoint.head (Completion.ready (some (msgId, len))) =>
      if IsOpen (n.sessions s) ∧ len = 0 then some (msgId, lc.noBody) else none
  | ReadPoint.body msgId (Completion.ready body) => some (msgId, body)
  | _ => none

/-- The packet that an input completes, with the route of its link. -/
def arrived (lc : LinkCodec B P F) (n : NetworkShard B P) :
    LinkInput B P -> List (GameServer.ServerInput B)
  | LinkInput.readRuns s _ =>
      if n.stopping then []
      else
        match n.completed lc s with
        | none => []
        | some (msgId, body) =>
            [GameServer.ServerInput.packet n.shardId
              (n.makeRoute (n.sessions s).slotId) msgId 0 body]
  | _ => []

theorem deliver_posts (hcount : g.logicShardCount = n.logicShardCount)
    (lc : LinkCodec B P F) (s nowUnixMs : Nat) (msgId : MsgId) (body : B) :
    (n.deliver lc s nowUnixMs msgId body).2.foldl (post lc.codec n.shardId) g =
      if n.stopping then g
      else GameServer.onPacket lc.codec g n.shardId
        (n.makeRoute (n.sessions s).slotId) msgId 0 body := by
  by_cases hstop : n.stopping = true
  · rw [if_pos hstop]
    have hnothing : (n.deliver lc s nowUnixMs msgId body).2 = [] := by
      simp [deliver, onPacket, hstop]
    rw [hnothing]
    rfl
  · rw [if_neg hstop]
    exact onPacket_posts hcount (Bool.eq_false_iff.mpr hstop) lc s _ nowUnixMs msgId 0
      body

/-- Packets for targets leave the queues alone. -/
theorem handleNetworkTask_posts (lc : LinkCodec B P F) (task : NetworkTask P) :
    (n.handleNetworkTask lc task).2.foldl (post lc.codec n.shardId) g = g := by
  have hone : forall (n' : NetworkShard B P) target,
      (sendToTarget lc task n' target).2.foldl (post lc.codec n.shardId) g = g := by
    intro n' target
    unfold sendToTarget
    split
    · rfl
    · split
      · rfl
      · split
        · rfl
        · split
          · rfl
          · rfl
  unfold handleNetworkTask
  split
  · rfl
  · refine runMachine_invariant
      (fun past _ => past.foldl (post lc.codec n.shardId) g = g)
      (fun past n' target hpast => ?_) [] n rfl task.targets
    rw [List.foldl_append, hpast, hone]

variable [Scalar F]

theorem handleRead_posts (hcount : g.logicShardCount = n.logicShardCount)
    (lc : LinkCodec B P F) (s nowUnixMs : Nat) :
    runMachine (GameServer.handle lc.codec) g
        (n.arrived lc (LinkInput.readRuns s nowUnixMs)) =
      ((n.handleRead lc s nowUnixMs).2.foldl (post lc.codec n.shardId) g, []) := by
  have hsilent : n.completed lc s = none ->
      runMachine (GameServer.handle lc.codec) g
        (n.arrived lc (LinkInput.readRuns s nowUnixMs)) = (g, []) := by
    intro hnone
    simp only [arrived, hnone]
    split
    · rfl
    · rfl
  have hpacket : forall msgId body, n.completed lc s = some (msgId, body) ->
      runMachine (GameServer.handle lc.codec) g
        (n.arrived lc (LinkInput.readRuns s nowUnixMs)) =
      ((n.deliver lc s nowUnixMs msgId body).2.foldl (post lc.codec n.shardId) g,
        []) := by
    intro msgId body hsome
    rw [deliver_posts hcount]
    simp only [arrived, hsome]
    split
    · rfl
    · rfl
  unfold handleRead
  split
  · rename_i hread
    exact hsilent (by simp [completed, hread])
  · rename_i hread
    exact hsilent (by simp [completed, hread])
  · rename_i hread
    exact hsilent (by simp [completed, hread])
  · rename_i hread
    exact hsilent (by simp [completed, hread])
  · rename_i hread
    exact hsilent (by simp [completed, hread])
  · rename_i msgId len hread
    split
    · rename_i hclosed
      exact hsilent (by simp [completed, hread, hclosed])
    · rename_i hopen
      split
      · rename_i hlen
        exact hpacket msgId lc.noBody
          (by simp [completed, hread, not_not.mp hopen, hlen])
      · rename_i hlen
        exact hsilent (by simp [completed, hread, hlen])
  · rename_i hread
    exact hsilent (by simp [completed, hread])
  · rename_i hread
    exact hsilent (by simp [completed, hread])
  · rename_i msgId body hread
    exact hpacket msgId body (by simp [completed, hread])

/-- An input of a shard does to the server what the packet does that it completes. -/
theorem handle_posts (hcount : g.logicShardCount = n.logicShardCount)
    (lc : LinkCodec B P F) (input : LinkInput B P) :
    runMachine (GameServer.handle lc.codec) g (n.arrived lc input) =
      ((n.handle lc input).2.foldl (post lc.codec n.shardId) g, []) := by
  cases input with
  | readRuns s nowUnixMs => exact handleRead_posts hcount lc s nowUnixMs
  | task task =>
      exact congrArg (fun g' => (g', [])) (handleNetworkTask_posts lc task).symm
  | _ =>
      rw [handle_silent lc (by simp) (by simp)]
      rfl

end NetworkShard

/-!
## The process
-/

structure ServerProcess (B P F : Type) where
  nets : Nat -> NetworkShard B P
  server : GameServer B F

namespace ServerProcess

variable {B P F : Type}

/-- What can happen next: something on the links of a shard, or a logic shard works or ticks. -/
inductive ProcessInput (B P : Type) where
  | link (net : Nat) (input : NetworkShard.LinkInput B P)
  | work (shardId : Nat) (ω : Orders)
  | tick (shardId : Nat) (ω : Orders)

def create (logicShardCount maxLinks : Nat) : ServerProcess B P F where
  nets := fun net => NetworkShard.create net logicShardCount maxLinks
  server := GameServer.create logicShardCount

/-- The shards have their sessions bound and know how many logic shards there are. -/
def Attached (p : ServerProcess B P F) : Prop :=
  forall net, NetworkShard.Bound (p.nets net) ∧
    (p.nets net).logicShardCount = p.server.logicShardCount

theorem attached_create (logicShardCount maxLinks : Nat) :
    Attached (create logicShardCount maxLinks : ServerProcess B P F) :=
  fun net => ⟨NetworkShard.bound_create net logicShardCount maxLinks, rfl⟩

variable [Scalar F]

def handle (lc : LinkCodec B P F) (p : ServerProcess B P F) :
    ProcessInput B P -> ServerProcess B P F × List (ShardEvent F)
  | ProcessInput.link net input =>
      let handled := (p.nets net).handle lc input
      (⟨Function.update p.nets net handled.1,
        handled.2.foldl (NetworkShard.post lc.codec (p.nets net).shardId) p.server⟩, [])
  | ProcessInput.work shardId ω =>
      let worked := GameServer.work lc.codec ω p.server shardId
      ({ p with server := worked.1 }, worked.2)
  | ProcessInput.tick shardId ω =>
      let ticked := GameServer.tick ω p.server shardId
      ({ p with server := ticked.1 }, ticked.2)

def run (lc : LinkCodec B P F) (logicShardCount maxLinks : Nat)
    (inputs : List (ProcessInput B P)) :
    ServerProcess B P F × List (ShardEvent F) :=
  runMachine (handle lc) (create logicShardCount maxLinks) inputs

/-- What an input is for the game server alone. -/
def serverInputs (lc : LinkCodec B P F) (p : ServerProcess B P F) :
    ProcessInput B P -> List (GameServer.ServerInput B)
  | ProcessInput.link net input => (p.nets net).arrived lc input
  | ProcessInput.work shardId ω => [GameServer.ServerInput.work shardId ω]
  | ProcessInput.tick shardId ω => [GameServer.ServerInput.tick shardId ω]

/-- A step does to the server what its inputs do. -/
theorem handle_server (lc : LinkCodec B P F) (p : ServerProcess B P F)
    (input : ProcessInput B P) (h : Attached p) :
    runMachine (GameServer.handle lc.codec) p.server (p.serverInputs lc input) =
      ((p.handle lc input).1.server, (p.handle lc input).2) := by
  cases input with
  | link net input => exact NetworkShard.handle_posts (h net).right.symm lc input
  | work shardId ω =>
      simp [serverInputs, handle, runMachine, GameServer.handle]
  | tick shardId ω =>
      simp [serverInputs, handle, runMachine, GameServer.handle]

theorem handle_attached (lc : LinkCodec B P F) (p : ServerProcess B P F)
    (input : ProcessInput B P) (h : Attached p) : Attached (p.handle lc input).1 := by
  have hcount : (p.handle lc input).1.server.logicShardCount =
      p.server.logicShardCount := by
    have hrun := GameServer.run_logicShardCount lc.codec p.server (p.serverInputs lc input)
    rw [handle_server lc p input h] at hrun
    exact hrun
  intro net
  rw [hcount]
  cases input with
  | work shardId ω => exact h net
  | tick shardId ω => exact h net
  | link source input =>
      by_cases hnet : net = source
      · subst hnet
        have hsound := NetworkShard.handle_sound lc input (h net).left
        change NetworkShard.Bound (Function.update p.nets net _ net) ∧
          (Function.update p.nets net _ net).logicShardCount = _
        rw [Function.update_self]
        exact ⟨hsound.left, hsound.right.logicShardCount.trans (h net).right⟩
      · change NetworkShard.Bound (Function.update p.nets source _ net) ∧
          (Function.update p.nets source _ net).logicShardCount = _
        rw [Function.update_of_ne hnet]
        exact h net

/--
In every run of the process the server is where the game server is after the
packets that its sessions have completed, and the logic shards have sent the
same.
-/
theorem run_feeds (lc : LinkCodec B P F) (logicShardCount maxLinks : Nat)
    (inputs : List (ProcessInput B P)) :
    GameServer.run lc.codec logicShardCount
        (driven (handle lc) (serverInputs lc) (create logicShardCount maxLinks) inputs) =
      ((run lc logicShardCount maxLinks inputs).1.server,
        (run lc logicShardCount maxLinks inputs).2) :=
  runMachine_driven (handle_attached lc) (handle_server lc)
    (attached_create logicShardCount maxLinks) inputs

/-- The input of a shard, as that of the process. -/
def linkInput (net : Nat) : ProcessInput B P -> Option (NetworkShard.LinkInput B P)
  | ProcessInput.link source input => if source = net then some input else none
  | _ => none

/-- Every shard of a process runs on its own inputs. -/
theorem run_nets (lc : LinkCodec B P F) (logicShardCount maxLinks net : Nat)
    (inputs : List (ProcessInput B P)) :
    (run lc logicShardCount maxLinks inputs).1.nets net =
      (NetworkShard.run lc net logicShardCount maxLinks
        (inputs.filterMap (linkInput net))).1 := by
  have hfrom : forall p : ServerProcess B P F,
      (runMachine (handle lc) p inputs).1.nets net =
        (runMachine (NetworkShard.handle lc) (p.nets net)
          (inputs.filterMap (linkInput net))).1 := by
    induction inputs with
    | nil =>
        intro p
        rfl
    | cons input rest ih =>
        intro p
        change (runMachine (handle lc) (p.handle lc input).1 rest).1.nets net = _
        rw [ih]
        cases input with
        | work shardId ω => rfl
        | tick shardId ω => rfl
        | link source input =>
            by_cases hnet : source = net
            · subst hnet
              simp [linkInput, handle, runMachine]
            · simp [linkInput, handle, hnet, Function.update_of_ne (Ne.symm hnet)]
  exact hfrom (create logicShardCount maxLinks)

end ServerProcess

end RtsGame
