import RtsGame.Library.RoundRobin
import RtsGame.Server.Posting

/-!
# New rooms are spread over the logic shards

A network shard deals out the requests to create a room to the logic shards in turn.  Requests
to other rooms come in between, go wherever their rooms are, and do not move the cursor.
-/

namespace RtsGame

namespace GameServer

variable {B F : Type}

/-- What a packet does to the cursor of its network shard, and the requests that it brings. -/
inductive Deals (net : Nat) (g g' : GameServer B F) (tasks : Nat -> List (LogicTask B)) :
    Prop where
  | nothing : g'.nextLogicIdx = g.nextLogicIdx ->
      (forall i task, task ∈ tasks i -> task.msgId ≠ MsgId.createRoomReq) -> Deals net g g' tasks
  | request {task : LogicTask B} : task.msgId = MsgId.createRoomReq ->
      g'.nextLogicIdx =
        Function.update g.nextLogicIdx net ((g.nextLogicIdx net + 1) % 2 ^ 64) ->
      (forall i, tasks i =
        if i = g.nextLogicIdx net % g.logicShardCount then [task] else []) ->
      Deals net g g' tasks

section Packets

variable {net : Nat} {g : GameServer B F}

theorem Deals.silent {g' : GameServer B F} (hidx : g'.nextLogicIdx = g.nextLogicIdx) :
    Deals net g g' fun _ => [] :=
  Deals.nothing hidx fun _ _ h => absurd h List.not_mem_nil

theorem postToLogic_nextLogicIdx (g : GameServer B F) (shardId : Nat) (task : LogicTask B) :
    (g.postToLogic shardId task).nextLogicIdx = g.nextLogicIdx := by
  unfold postToLogic
  split
  · rfl
  · rfl

theorem resolveLogicShard_nextLogicIdx (codec : Codec B F) (g : GameServer B F) (net : Nat)
    {msgId : MsgId} (h : msgId ≠ MsgId.createRoomReq) (envelope : GateToGameEnvelope B) :
    (resolveLogicShard codec g net msgId envelope).2.nextLogicIdx = g.nextLogicIdx := by
  unfold resolveLogicShard
  rw [if_neg h]
  split
  · rfl
  · split
    · rfl
    · rfl

/-- Requests to create a room are dealt out in turn. -/
theorem forwardToLogic_deals (codec : Codec B F) (g : GameServer B F) (net : Nat)
    (route : GatewayRoute) (msgId : MsgId) (seq : Nat) (body : B) :
    Deals net g (forwardToLogic codec g net route msgId seq body)
      (requestTasks codec g net route msgId seq body) := by
  unfold forwardToLogic requestTasks
  cases parseGateToGameEnvelope codec body with
  | none => exact Deals.silent rfl
  | some parsed =>
      dsimp only
      by_cases huid : parsed.1.uid = 0
      · simp only [huid, if_true]
        exact Deals.silent rfl
      · by_cases hcount : g.logicShardCount = 0
        · simp only [huid, hcount, if_true, if_false]
          exact Deals.silent rfl
        · simp only [huid, hcount, if_false]
          by_cases hcreate : msgId = MsgId.createRoomReq
          · subst hcreate
            have hpick : resolveLogicShard codec g net MsgId.createRoomReq parsed.1 =
                (g.nextLogicIdx net % g.logicShardCount,
                  { g with
                    nextLogicIdx := Function.update g.nextLogicIdx net
                      ((g.nextLogicIdx net + 1) % 2 ^ 64) }) := by
              unfold resolveLogicShard pickLogicShard
              rw [if_neg hcount, if_pos rfl, if_neg hcount]
            rw [hpick]
            exact Deals.request rfl (postToLogic_nextLogicIdx _ _ _) fun _ => rfl
          · refine Deals.nothing ?_ ?_
            · rw [postToLogic_nextLogicIdx, resolveLogicShard_nextLogicIdx codec g net hcreate]
            · intro i task htask
              split at htask
              · rw [List.mem_singleton.mp htask]
                exact hcreate
              · cases htask

/-- A notice is no request. -/
theorem handleClientDisconnected_deals (codec : Codec B F) (g : GameServer B F) (net : Nat)
    (body : B) :
    Deals net g (handleClientDisconnected codec g body) (noticeTasks codec g body) := by
  have hfan : forall ids : List Nat, (ids.foldl
      (fun g shardId => g.postToLogic shardId (disconnectTask body)) g).nextLogicIdx =
        g.nextLogicIdx := fun ids =>
    List.foldlRecOn (motive := fun g' : GameServer B F => g'.nextLogicIdx = g.nextLogicIdx) ids _
      rfl fun g' hg' i _ => (postToLogic_nextLogicIdx g' i _).trans hg'
  refine Deals.nothing ?_ ?_
  · unfold handleClientDisconnected
    split
    · rfl
    · split
      · rfl
      · exact hfan _
  · intro i task htask
    unfold noticeTasks at htask
    split at htask
    · cases htask
    · split at htask
      · cases htask
      · split at htask
        · rw [List.mem_singleton.mp htask]
          intro hmsg
          cases hmsg
        · cases htask

theorem onPacket_deals (codec : Codec B F) (g : GameServer B F) (net : Nat)
    (route : GatewayRoute) (msgId : MsgId) (seq : Nat) (body : B) :
    Deals net g (onPacket codec g net route msgId seq body)
      (packetTasks codec g net route msgId seq body) := by
  have hdispatch : forall msgId seq,
      Deals net g (dispatchPacket codec g net route msgId seq body)
        (dispatchTasks codec g net route msgId seq body) := by
    intro msgId seq
    cases msgId with
    | clientDisconnectedNtf => exact handleClientDisconnected_deals codec g net body
    | gateToGameEnvelope => exact Deals.silent rfl
    | pingReq => exact Deals.silent rfl
    | other => exact Deals.silent rfl
    | _ => exact forwardToLogic_deals codec g net route _ seq body
  unfold onPacket packetTasks
  by_cases henvelope : msgId = MsgId.gateToGameEnvelope
  · simp only [henvelope, if_true]
    cases parseGateToGameEnvelope codec body with
    | none => exact Deals.silent rfl
    | some parsed => exact hdispatch parsed.2 parsed.1.clientSeq
  · simp only [henvelope, if_false]
    exact hdispatch msgId seq

end Packets

/-!
## Runs
-/

/-- The requests to create a room that a network shard adds to the queue of a logic shard. -/
def creations (codec : Codec B F) (net i : Nat) (g : GameServer B F) : ServerInput B -> Nat
  | ServerInput.packet source route msgId seq body =>
      if source = net then
        (packetTasks codec g net route msgId seq body i).countP fun task =>
          task.msgId = MsgId.createRoomReq
      else 0
  | _ => 0

variable [Scalar F]

/-- All of them in a run. -/
def dealt (codec : Codec B F) (net i : Nat) : GameServer B F -> List (ServerInput B) -> Nat
  | _, [] => 0
  | g, input :: rest =>
      creations codec net i g input + dealt codec net i (handle codec g input).1 rest

section Runs

variable {n : Nat} {g : GameServer B F}

/-- One input moves the cursor of a network shard by the requests that it deals out. -/
theorem handle_deals (codec : Codec B F) (net : Nat) (g : GameServer B F)
    (input : ServerInput B) :
    (handle codec g input).1.logicShardCount = g.logicShardCount ∧
      exists moved, moved ≤ 1 ∧
        (g.nextLogicIdx net + 1 < 2 ^ 64 ->
          (handle codec g input).1.nextLogicIdx net = g.nextLogicIdx net + moved) ∧
        forall i, turnsAt g.logicShardCount i (g.nextLogicIdx net) + creations codec net i g input =
          turnsAt g.logicShardCount i (g.nextLogicIdx net + moved) := by
  cases input with
  | work shardId ω =>
      change (work codec ω g shardId).1.logicShardCount = _ ∧ _
      have hsame : (work codec ω g shardId).1.logicShardCount = g.logicShardCount ∧
          (work codec ω g shardId).1.nextLogicIdx = g.nextLogicIdx := by
        unfold work
        split
        · exact ⟨rfl, rfl⟩
        · exact ⟨rfl, rfl⟩
      refine ⟨hsame.left, 0, Nat.zero_le 1, fun _ => congrFun hsame.right net, fun _ => rfl⟩
  | tick shardId ω => exact ⟨rfl, 0, Nat.zero_le 1, fun _ => rfl, fun _ => rfl⟩
  | packet source route msgId seq body =>
      have hsame := onPacket_same codec g source route msgId seq body
      refine ⟨hsame.right, ?_⟩
      cases onPacket_deals codec g source route msgId seq body with
      | nothing hidx hnone =>
          refine ⟨0, Nat.zero_le 1, fun _ => congrFun hidx net, ?_⟩
          intro i
          have hzero : creations codec net i g
              (ServerInput.packet source route msgId seq body) = 0 := by
            unfold creations
            dsimp only
            split
            · rename_i hnet
              subst hnet
              rw [List.countP_eq_zero]
              intro task htask hcreate
              exact hnone i task htask (of_decide_eq_true hcreate)
            · rfl
          rw [hzero]
          rfl
      | @request task hcreate hidx htasks =>
          by_cases hnet : source = net
          · subst hnet
            refine ⟨1, Nat.le_refl 1, ?_, ?_⟩
            · intro hbound
              change (onPacket codec g source route msgId seq body).nextLogicIdx source = _
              rw [hidx, Function.update_self, Nat.mod_eq_of_lt hbound]
            · intro i
              rw [turnsAt_succ]
              unfold creations
              dsimp only
              rw [if_pos rfl, htasks i]
              by_cases hi : i = g.nextLogicIdx source % g.logicShardCount
              · rw [if_pos hi, if_pos hi.symm]
                simp [hcreate]
              · rw [if_neg hi, if_neg (Ne.symm hi)]
                rfl
          · refine ⟨0, Nat.zero_le 1, ?_, ?_⟩
            · intro _
              change (onPacket codec g source route msgId seq body).nextLogicIdx net = _
              rw [hidx, Function.update_of_ne (Ne.symm hnet)]
              rfl
            · intro i
              unfold creations
              dsimp only
              rw [if_neg hnet]
              rfl

/-- What a run deals out is where the cursor has been. -/
theorem dealt_turns (codec : Codec B F) (net : Nat) (inputs : List (ServerInput B))
    (g : GameServer B F) (hbound : g.nextLogicIdx net + inputs.length < 2 ^ 64) :
    (runMachine (handle codec) g inputs).1.logicShardCount = g.logicShardCount ∧
      (runMachine (handle codec) g inputs).1.nextLogicIdx net ≤
        g.nextLogicIdx net + inputs.length ∧
      forall i, turnsAt g.logicShardCount i (g.nextLogicIdx net) + dealt codec net i g inputs =
        turnsAt g.logicShardCount i ((runMachine (handle codec) g inputs).1.nextLogicIdx net) := by
  induction inputs generalizing g with
  | nil => exact ⟨rfl, Nat.le_refl _, fun _ => rfl⟩
  | cons input rest ih =>
      rw [List.length_cons] at hbound
      rcases handle_deals codec net g input with ⟨hcount, moved, hmoved, hnext, hturns⟩
      have hidx := hnext (by lia)
      rcases ih (handle codec g input).1 (by lia) with ⟨hcounts, hle, hlater⟩
      rw [List.length_cons]
      refine ⟨hcounts.trans hcount, ?_, ?_⟩
      · change (runMachine (handle codec) (handle codec g input).1 rest).1.nextLogicIdx net ≤ _
        lia
      · intro i
        have hrest := hlater i
        rw [hcount, hidx, ← hturns i] at hrest
        change _ + (creations codec net i g input +
          dealt codec net i (handle codec g input).1 rest) = turnsAt _ i
            ((runMachine (handle codec) (handle codec g input).1 rest).1.nextLogicIdx net)
        lia

end Runs

/--
In every run of a server, over any window of it, whatever other packets come in between: of the
requests to create a room that one network shard hands on in the window, no logic shard gets
more than one more than any other.
-/
theorem run_spreads (codec : Codec B F) (n : Nat) (before window : List (ServerInput B))
    (hlength : before.length + window.length < 2 ^ 64) (net a b : Nat) (ha : a < n) (hb : b < n) :
    dealt codec net b (run codec n before).1 window ≤
      dealt codec net a (run codec n before).1 window + 1 := by
  have hstart : (create n : GameServer B F).nextLogicIdx net = 0 := rfl
  have hbefore := dealt_turns codec net before (create n) (by lia)
  have hroom : (run codec n before).1.nextLogicIdx net + window.length < 2 ^ 64 := by
    have hle := hbefore.right.left
    change (run codec n before).1.nextLogicIdx net ≤ _ at hle
    lia
  have hwindow := dealt_turns codec net window (run codec n before).1 hroom
  have hcount : (run codec n before).1.logicShardCount = n := hbefore.left
  rw [hcount] at hwindow
  have hturns := hwindow.right.right
  have hbalanced := turnsAt_balanced ha hb ((run codec n before).1.nextLogicIdx net)
    ((runMachine (handle codec) (run codec n before).1 window).1.nextLogicIdx net)
  rw [← hturns a, ← hturns b] at hbalanced
  lia

/-- After two rooms in two shards, there are four more. -/
theorem createTwice_spreads :
    dealt Wire.codec 0 0 (run Wire.codec 2 createTwice).1 (createTwice ++ createTwice) = 2 ∧
      dealt Wire.codec 0 1 (run Wire.codec 2 createTwice).1 (createTwice ++ createTwice) ≤
        dealt Wire.codec 0 0 (run Wire.codec 2 createTwice).1 (createTwice ++ createTwice) + 1 :=
  ⟨by decide +kernel,
    run_spreads Wire.codec 2 createTwice (createTwice ++ createTwice) (by decide) 0 0 1
      (by decide) (by decide)⟩

end GameServer

end RtsGame
