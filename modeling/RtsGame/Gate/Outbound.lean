import RtsGame.Gate.Lines
import Mathlib.Data.List.Dedup

/-!
# The order of notifications

A message of a logic shard goes to the link on which the shard has last heard the
player, and every command can move the player to another link.  Each link has a
line of its own to the session, and the lines do not wait for each other.
-/

namespace RtsGame

namespace Cluster

variable {B F : Type} {s s' : Cluster B F} {lh : LoginHash}

/-!
## A logic shard sends a message
-/

/-- Every message on its way is among those that a new one is told of. -/
theorem Outbound.mem_outFlight (h : Outbound lh [] [] s) {c : Nat}
    {r : GatewayRoute} {stamp : OutStamp} (hstamp : stamp ∈ s.line [] [] c r) :
    stamp.index ∈ s.outFlight := by
  unfold line at hstamp
  rw [List.append_nil, List.append_nil] at hstamp
  unfold outFlight
  rw [List.mem_append, List.mem_append]
  cases List.mem_append.mp hstamp with
  | inl hfront =>
      cases List.mem_append.mp hfront with
      | inl hpost =>
          right
          unfold postsTo at hpost
          rcases List.mem_map.mp hpost with ⟨post, hmem, rfl⟩
          have hposted := (List.mem_filter.mp hmem).left
          rcases h.posts _ post hposted with ⟨hlt, hw, _⟩
          rw [List.mem_flatMap]
          refine ⟨(s.sessions c).shard, ?_, List.mem_map_of_mem hposted⟩
          rw [List.mem_range, ← hw]
          exact h.registered.made _ hlt
      | inr hback =>
          left
          right
          unfold backAt at hback
          split at hback
          · cases hback
          · rename_i conn hconn
            unfold connAt at hconn
            rw [List.mem_flatMap]
            refine ⟨conn, List.mem_of_find?_eq_some hconn, ?_⟩
            rcases List.mem_flatMap.mp hback with ⟨envelope, henvelope, htarget⟩
            exact List.mem_flatMap.mpr
              ⟨envelope, henvelope, List.mem_map_of_mem htarget⟩
  | inr htask =>
      left
      left
      unfold taskStamps at htask
      rcases List.mem_flatMap.mp htask with ⟨task, hmem, hstamp'⟩
      rcases List.mem_flatMap.mp hstamp' with ⟨target, htarget, huid⟩
      have hnet : r.netShard < s.netShardCount := by
        by_contra hge
        rw [h.linked.nets _ (Nat.not_lt.mp hge)] at hmem
        cases hmem
      rw [List.mem_flatMap]
      refine ⟨r.netShard, List.mem_range.mpr hnet, ?_⟩
      exact List.mem_flatMap.mpr ⟨task, hmem,
        List.mem_flatMap.mpr ⟨target, htarget, List.mem_map_of_mem huid⟩⟩

/-- Stamps are numbered and know what is on its way and what is sent with them. -/
theorem stampTargets_getElem (s : Cluster B F) (shardId : Nat)
    (targets : List (Nat × GatewayRoute)) (i : Nat) (stamp : OutStamp)
    (h : (s.stampTargets shardId targets)[i]? = some stamp) :
    stamp.index = s.nextOut + i ∧ forall n,
      n ∈ s.outFlight ∨ (s.nextOut ≤ n ∧ n < s.nextOut + i) ->
        n ∈ stamp.inFlight := by
  unfold stampTargets at h
  rw [List.getElem?_map, List.getElem?_zipIdx] at h
  cases htarget : targets[i]? with
  | none =>
      rw [htarget] at h
      cases h
  | some target =>
      rw [htarget] at h
      cases h
      simp only [Nat.zero_add]
      refine ⟨trivial, ?_⟩
      intro n hn
      rw [List.mem_append, List.mem_map]
      rcases hn with hold | ⟨hle, hlt⟩
      · exact Or.inl hold
      · refine Or.inr ⟨n - s.nextOut, ?_, ?_⟩
        · rw [List.mem_range]
          omega
        · omega

theorem stampTargets_length (s : Cluster B F) (shardId : Nat)
    (targets : List (Nat × GatewayRoute)) :
    (s.stampTargets shardId targets).length = targets.length := by
  unfold stampTargets
  rw [List.length_map, List.length_zipIdx]

/-- Only one of several different groups has anything. -/
theorem flatMap_sublist_of_nodup {α β : Type} {groups : List α} (hnodup : groups.Nodup)
    {members : α -> List β} {a : α} {all : List β} (hown : (members a).Sublist all)
    (hother : forall b, b ≠ a -> members b = []) :
    (groups.flatMap members).Sublist all := by
  induction groups with
  | nil =>
      exact List.nil_sublist _
  | cons b rest ih =>
      rw [List.nodup_cons] at hnodup
      rw [List.flatMap_cons]
      by_cases hb : b = a
      · subst hb
        have hrest : rest.flatMap members = [] := by
          rw [List.flatMap_eq_nil_iff]
          intro b' hb'
          apply hother
          intro heq
          rw [heq] at hb'
          exact hnodup.left hb'
        rw [hrest, List.append_nil]
        exact hown
      · rw [hother b hb]
        exact ih hnodup.right

/-- Of the groups of a network shard, one holds what is wanted on a route. -/
theorem wanted_groupTargets (k u : Nat) (r : GatewayRoute) (stamps : List OutStamp) :
    (wanted k u r ((groupTargets stamps r.netShard).flatMap OutTarget.uids)).Sublist
      (wanted k u r stamps) := by
  unfold groupTargets wanted
  simp only
  rw [List.flatMap_map, List.filter_flatMap]
  apply flatMap_sublist_of_nodup (List.nodup_dedup _)
    (a := (r.linkId, r.generation))
  · apply List.Sublist.filter
    exact List.filter_sublist.trans List.filter_sublist
  · intro link hlink
    rw [List.filter_eq_nil_iff]
    intro stamp hstamp hwanted
    have hsame := of_decide_eq_true (List.mem_filter.mp hstamp).right
    rw [Bool.and_eq_true] at hwanted
    have hroute : stamp.route = r := of_decide_eq_true hwanted.right
    rw [hroute] at hsame
    exact hlink hsame.symm

/-- What the loop over the network shards leaves alone. -/
theorem postLoop_same (stamps : List OutStamp) (msg : ServerMsg F) (seq : Nat)
    (nets : List Nat) (s : Cluster B F) :
    (nets.foldl (fun s net =>
        s.postToNetwork net ⟨groupTargets stamps net, msg, seq⟩) s).posts = s.posts ∧
      (nets.foldl (fun s net =>
        s.postToNetwork net ⟨groupTargets stamps net, msg, seq⟩) s).sessions =
        s.sessions ∧
      (nets.foldl (fun s net =>
        s.postToNetwork net ⟨groupTargets stamps net, msg, seq⟩) s).conns = s.conns ∧
      (nets.foldl (fun s net =>
        s.postToNetwork net ⟨groupTargets stamps net, msg, seq⟩) s).connCount =
        s.connCount := by
  induction nets generalizing s with
  | nil =>
      exact ⟨rfl, rfl, rfl, rfl⟩
  | cons net rest ih =>
      rcases ih (s.postToNetwork net ⟨groupTargets stamps net, msg, seq⟩) with
        ⟨hposts, hsessions, hconns, hcount⟩
      rw [List.foldl_cons, hposts, hsessions, hconns, hcount]
      unfold postToNetwork
      split
      · exact ⟨rfl, rfl, rfl, rfl⟩
      · exact ⟨rfl, rfl, rfl, rfl⟩

/-- Every network shard gets at most one task, with its own groups. -/
theorem postLoop_queue (stamps : List OutStamp) (msg : ServerMsg F) (seq : Nat)
    {nets : List Nat} (hnodup : nets.Nodup) (s : Cluster B F) (net : Nat) :
    ((nets.foldl (fun s net =>
      s.postToNetwork net ⟨groupTargets stamps net, msg, seq⟩) s).netQueues
        net).Sublist
      (s.netQueues net ++ if net ∈ nets then [⟨groupTargets stamps net, msg, seq⟩]
        else []) := by
  induction nets generalizing s with
  | nil =>
      simp
  | cons net' rest ih =>
      rw [List.nodup_cons] at hnodup
      rw [List.foldl_cons]
      have hrest := ih hnodup.right
        (s.postToNetwork net' ⟨groupTargets stamps net', msg, seq⟩)
      have hpost : (s.postToNetwork net'
          ⟨groupTargets stamps net', msg, seq⟩).netQueues net =
          s.netQueues net ++ if net = net' ∧ net' < s.netShardCount then
            [⟨groupTargets stamps net', msg, seq⟩] else [] := by
        unfold postToNetwork
        by_cases hge : s.netShardCount ≤ net'
        · rw [if_pos hge]
          simp [Nat.not_lt.mpr hge]
        · rw [if_neg hge]
          by_cases hnet : net = net'
          · subst hnet
            simp [Nat.not_le.mp hge]
          · simp [hnet]
      rw [hpost] at hrest
      by_cases hnet : net = net'
      · subst hnet
        rw [if_neg hnodup.left, List.append_nil] at hrest
        rw [if_pos List.mem_cons_self]
        apply hrest.trans
        apply List.Sublist.append_left
        split
        · exact List.Sublist.refl _
        · exact List.nil_sublist _
      · rw [if_neg (fun hboth => hnet hboth.left), List.append_nil] at hrest
        simpa [hnet] using hrest

theorem backAt_congr (hconns : s'.conns = s.conns) (hcount : s'.connCount = s.connCount)
    (r : GatewayRoute) : s'.backAt r = s.backAt r := by
  unfold backAt connAt
  rw [hconns, hcount]

/-- What is wanted of the queue of a network shard after a message was posted. -/
theorem wanted_sent (k u : Nat) (r : GatewayRoute) {stamps : List OutStamp}
    {msg : ServerMsg F} {seq : Nat} {nets : List Nat} {before after : List (OutTask F)}
    (h : after.Sublist (before ++ if r.netShard ∈ nets then
      [⟨groupTargets stamps r.netShard, msg, seq⟩] else [])) :
    (wanted k u r (taskStamps after)).Sublist
      (wanted k u r (taskStamps before) ++ wanted k u r stamps) := by
  have hstamps : (wanted k u r (taskStamps after)).Sublist
      (wanted k u r (taskStamps (before ++ if r.netShard ∈ nets then
        [⟨groupTargets stamps r.netShard, msg, seq⟩] else []))) :=
    (h.flatMap _).filter _
  apply hstamps.trans
  unfold taskStamps
  rw [List.flatMap_append, wanted_append]
  apply List.Sublist.append_left
  split
  · rw [List.flatMap_singleton]
    exact wanted_groupTargets k u r stamps
  · exact List.nil_sublist _

theorem Outbound.sendEvent (h : Outbound lh [] [] s) (shardId : Nat)
    (e : ShardEvent F) : Outbound lh [] [] (sendEvent shardId s e) := by
  have hlinked := sendEvent_linked h.linked shardId e
  have htables := sendEvent_tables shardId s e
  cases e with
  | ran call room =>
      exact h
  | sent uids targets msg seq =>
      have hlength := stampTargets_length s shardId targets
      rcases postLoop_same (s.stampTargets shardId targets) msg seq
        ((s.stampTargets shardId targets).map fun stamp =>
          stamp.route.netShard).dedup s with ⟨hposts, hsessions, hconns, hcount⟩
      have hqueue := postLoop_queue (s.stampTargets shardId targets) msg seq
        (List.nodup_dedup ((s.stampTargets shardId targets).map fun stamp =>
          stamp.route.netShard)) s
      refine ⟨hlinked, htables.registered h.registered, ?_, ?_⟩
      · intro w post hpost
        have hold := h.posts w post (by
          rw [← hposts]
          exact hpost)
        have hconns' : (Cluster.sendEvent shardId s
            (ShardEvent.sent uids targets msg seq)).conns = s.conns := hconns
        rw [htables.sessionCount, htables.shard, hconns']
        exact hold
      · intro k u c
        have hsent := (h.lanes k u c).sendAll
          (fun stamp => decide (stamp.shardId = k ∧ stamp.uid = u)) s.outFlight
          (s.stampTargets shardId targets) ?_ ?_ ?_
        · have hreceived : (Cluster.sendEvent shardId s
              (ShardEvent.sent uids targets msg seq)).receivedFrom k u c =
              s.receivedFrom k u c := by
            unfold receivedFrom
            rw [show (Cluster.sendEvent shardId s
              (ShardEvent.sent uids targets msg seq)).sessions = s.sessions
              from hsessions]
          have hnext : (Cluster.sendEvent shardId s
              (ShardEvent.sent uids targets msg seq)).nextOut =
              s.nextOut + targets.length := rfl
          rw [hreceived, hnext]
          rw [hlength] at hsent
          apply hsent.lose _ (Nat.le_refl _)
          intro r
          have hto : (Cluster.sendEvent shardId s
              (ShardEvent.sent uids targets msg seq)).postsTo c = s.postsTo c :=
            htables.postsTo hposts c
          have hback : (Cluster.sendEvent shardId s
              (ShardEvent.sent uids targets msg seq)).backAt r = s.backAt r :=
            backAt_congr hconns hcount r
          show (wanted k u r (Cluster.line _ [] [] c r)).Sublist
            (wanted k u r (s.line [] [] c r) ++
              wanted k u r (s.stampTargets shardId targets))
          unfold line
          rw [hto, hback]
          simp only [wanted_append]
          rw [List.append_assoc _ (wanted k u r (taskStamps _))]
          apply List.Sublist.append_left
          exact wanted_sent k u r (hqueue r.netShard)
        · intro r stamp hstamp
          exact h.mem_outFlight (List.mem_filter.mp hstamp).left
        · intro i stamp hstamp
          exact (stampTargets_getElem s shardId targets i stamp hstamp).left
        · intro i stamp hstamp
          exact (stampTargets_getElem s shardId targets i stamp hstamp).right

/-!
## Steps on the way to the game server
-/

/-- The queues of the work shards and what was received stay as they are. -/
structure SamePosts (s s' : Cluster B F) : Prop where
  posts : s'.posts = s.posts
  nextOut : s'.nextOut = s.nextOut
  received : forall c, (s'.sessions c).received = (s.sessions c).received
  shard : forall c, (s'.sessions c).shard = (s.sessions c).shard

namespace SamePosts

theorem trans {s'' : Cluster B F} (h : SamePosts s s') (h' : SamePosts s' s'') :
    SamePosts s s'' where
  posts := h'.posts.trans h.posts
  nextOut := h'.nextOut.trans h.nextOut
  received := fun c => (h'.received c).trans (h.received c)
  shard := fun c => (h'.shard c).trans (h.shard c)

theorem of_sessions (hposts : s'.posts = s.posts) (hnext : s'.nextOut = s.nextOut)
    (hsessions : s'.sessions = s.sessions) : SamePosts s s' where
  posts := hposts
  nextOut := hnext
  received := fun c => by rw [hsessions]
  shard := fun c => by rw [hsessions]

theorem refl (s : Cluster B F) : SamePosts s s := of_sessions rfl rfl rfl

theorem setSession {d : Nat} {session : Csession F}
    (hreceived : session.received = (s.sessions d).received)
    (hshard : session.shard = (s.sessions d).shard) :
    SamePosts s (s.setSession d session) where
  posts := rfl
  nextOut := rfl
  received := by
    intro c
    by_cases hc : c = d
    · subst hc
      simp [Cluster.setSession, hreceived]
    · simp [Cluster.setSession, hc]
  shard := by
    intro c
    by_cases hc : c = d
    · subst hc
      simp [Cluster.setSession, hshard]
    · simp [Cluster.setSession, hc]

end SamePosts

theorem selectConn_posts (w rounds : Nat) (s : Cluster B F) :
    SamePosts s (selectConn w rounds s).2 := by
  induction rounds generalizing s with
  | zero =>
      exact SamePosts.refl s
  | succ rounds ih =>
      unfold selectConn
      simp only
      split
      · exact SamePosts.of_sessions rfl rfl rfl
      · refine SamePosts.trans ?_ (ih _)
        exact SamePosts.of_sessions rfl rfl rfl

theorem postMessage_posts (s : Cluster B F) (w d : Nat) (msgId : MsgId) (body : B) :
    SamePosts s (s.postMessage w d msgId body) := by
  have hselected := selectConn_posts w kGameServerConnCnt s
  unfold postMessage
  simp only
  split
  · exact hselected
  · exact hselected.trans (SamePosts.of_sessions rfl rfl rfl)

theorem request_posts {codec : Codec B F} (gc : GateCodec codec) (s : Cluster B F)
    (d : Nat) (msgId : MsgId) (body : B) :
    SamePosts s (request gc s d msgId body) := by
  unfold request forwardClientMsgToGame
  split
  · simp only
    split
    · exact SamePosts.refl s
    · split
      · exact SamePosts.refl s
      · have hsession : SamePosts s (s.setSession d
            { s.sessions d with
              sentAs := (s.sessions d).uid :: (s.sessions d).sentAs }) :=
          SamePosts.setSession rfl rfl
        exact hsession.trans (postMessage_posts _ _ _ _ _)
  · exact SamePosts.refl s

theorem unregister_posts (s : Cluster B F) (uid d : Nat) :
    SamePosts s (s.unregister uid d) := by
  unfold unregister
  split
  · exact SamePosts.refl s
  · split
    · exact SamePosts.refl s
    · split
      · exact SamePosts.refl s
      · exact SamePosts.of_sessions rfl rfl rfl

theorem login_posts (lh : LoginHash) (s : Cluster B F) (d : Nat)
    (account token : String) : SamePosts s (s.login lh d account token) := by
  have hset : forall t : Cluster B F, SamePosts s t -> SamePosts s (t.setSession d
      { s.sessions d with
        uid := makeLoginUid lh.hash d account token
        boundUids := makeLoginUid lh.hash d account token ::
          (s.sessions d).boundUids }) := by
    intro t ht
    apply ht.trans
    apply SamePosts.setSession
    · exact (ht.received d).symm
    · exact (ht.shard d).symm
  unfold login handleLoginReq bindUid
  split
  · split
    · exact SamePosts.refl s
    · simp only
      split
      · have hreleased : SamePosts s
            ((s.unregister (s.sessions d).uid d).setUserId (s.sessions d).shard
              (s.sessions d).uid none) :=
          (unregister_posts s _ d).trans (SamePosts.of_sessions rfl rfl rfl)
        exact (hset _ hreleased).trans (SamePosts.of_sessions rfl rfl rfl)
      · exact (hset s (SamePosts.refl s)).trans (SamePosts.of_sessions rfl rfl rfl)
  · exact SamePosts.refl s

theorem login_sessionCount (lh : LoginHash) (s : Cluster B F) (d : Nat)
    (account token : String) :
    (s.login lh d account token).sessionCount = s.sessionCount := by
  have hcount := (unregister_tables s (s.sessions d).uid d).left
  unfold login handleLoginReq bindUid
  split
  · split
    · rfl
    · simp only
      split
      · exact hcount
      · rfl
  · rfl

theorem closeSession_sessionCount {codec : Codec B F} (gc : GateCodec codec)
    (s : Cluster B F) (d : Nat) :
    (closeSession gc s d).sessionCount = s.sessionCount := by
  have hcount := (unregister_tables s (s.sessions d).uid d).left
  unfold closeSession
  simp only
  split
  · exact (notifyGameServerDisconnect_tables gc _ d).sessionCount.trans hcount
  · rfl

theorem closeSession_posts {codec : Codec B F} (gc : GateCodec codec)
    (s : Cluster B F) (d : Nat) : SamePosts s (closeSession gc s d) := by
  have hunregistered := unregister_posts s (s.sessions d).uid d
  have hclosed : SamePosts s ((s.unregister (s.sessions d).uid d).setSession d
      { s.sessions d with isOpen := false }) := by
    apply hunregistered.trans
    apply SamePosts.setSession
    · exact (hunregistered.received d).symm
    · exact (hunregistered.shard d).symm
  have hnotified : forall t : Cluster B F,
      SamePosts t (notifyGameServerDisconnect gc t d) := by
    intro t
    unfold notifyGameServerDisconnect
    simp only
    split
    · exact SamePosts.refl t
    · exact postMessage_posts _ _ _ _ _
  unfold closeSession
  simp only
  split
  · refine (hclosed.trans (hnotified _)).trans ?_
    exact SamePosts.of_sessions rfl rfl rfl
  · exact SamePosts.refl s

theorem outbound_create (lh : LoginHash)
    (workShardCount netShardCount logicShardCount : Nat) :
    Outbound lh [] [] (create workShardCount netShardCount logicShardCount :
      Cluster B F) where
  linked := linked_create workShardCount netShardCount logicShardCount
  registered := registered_create lh workShardCount netShardCount logicShardCount
  posts := by
    intro w post hpost
    cases hpost
  lanes := by
    intro k u c
    have hnone : forall r, (create workShardCount netShardCount logicShardCount :
        Cluster B F).line [] [] c r = [] := by
      intro r
      have hback : (create workShardCount netShardCount logicShardCount :
          Cluster B F).backAt r = [] :=
        (linked_create workShardCount netShardCount logicShardCount).backAt_nil
          (fun _ h => absurd rfl h)
      unfold line
      rw [hback]
      rfl
    simp only [hnone]
    exact Lanes.empty outLabels 0

theorem Outbound.events (h : Outbound lh [] [] s) (shardId : Nat)
    (events : List (ShardEvent F)) :
    Outbound lh [] [] (events.foldl (Cluster.sendEvent shardId) s) := by
  induction events generalizing s with
  | nil =>
      exact h
  | cons e rest ih =>
      exact ih (h.sendEvent shardId e)

variable [Scalar F]

theorem Outbound.handle {codec : Codec B F} (h : Outbound lh [] [] s)
    (gc : GateCodec codec) (input : ClusterInput B) :
    Outbound lh [] [] (handle gc lh s input).1 := by
  have hserver : forall server : GameServer (Stamp × B) F,
      Outbound lh [] [] { s with server := server } := fun server =>
    h.same (SameLinks.of_conns rfl rfl rfl rfl rfl)
      (SameTables.of_sessions rfl rfl rfl rfl rfl) rfl rfl (fun _ => rfl)
  cases input with
  | accepts w => exact h.accept w
  | logsIn d account token =>
      have hsame := login_posts lh s d account token
      exact h.retable (login_links lh s d account token)
        (login_registered h.registered d account token) hsame.posts hsame.nextOut
        (login_sessionCount lh s d account token)
        (fun c => ⟨hsame.shard c, hsame.received c⟩)
  | requests d msgId body =>
      have hsame := request_posts gc s d msgId body
      exact h.same (request_links gc s d msgId body) (request_tables gc s d msgId body)
        hsame.posts hsame.nextOut hsame.received
  | closes d =>
      have hsame := closeSession_posts gc s d
      exact h.retable (closeSession_links gc s d)
        (closeSession_registered h.registered gc d) hsame.posts hsame.nextOut
        (closeSession_sessionCount gc s d)
        (fun c => ⟨hsame.shard c, hsame.received c⟩)
  | connects c net linkId => exact h.connect c net linkId
  | breaks c => exact h.breakConn c
  | cuts c => exact h.cutConn c
  | detects w => exact h.detect w
  | writes c =>
      have hsame : SamePosts s (s.write c) := by
        unfold write
        split
        · exact SamePosts.refl s
        · split
          · exact SamePosts.of_sessions rfl rfl rfl
          · exact SamePosts.refl s
      exact h.same (write_links s c) (write_tables s c) hsame.posts hsame.nextOut
        hsame.received
  | arrives c =>
      have hsame : SamePosts s (s.arrive codec c) := by
        unfold arrive
        split
        · exact SamePosts.refl s
        · exact SamePosts.of_sessions rfl rfl rfl
      exact h.same (arrive_links codec s c) (arrive_tables codec s c) hsame.posts
        hsame.nextOut hsame.received
  | works shardId ω => exact (hserver _).events shardId _
  | ticks shardId ω => exact (hserver _).events shardId _
  | netWorks net => exact h.netWork net
  | writesBack c => exact h.writeBack c
  | arrivesBack c => exact h.arriveBack c
  | postWorks w => exact h.postWork w

theorem run_outbound {codec : Codec B F} (gc : GateCodec codec) (lh : LoginHash)
    (workShardCount netShardCount logicShardCount : Nat)
    (inputs : List (ClusterInput B)) :
    Outbound lh [] []
      (run gc lh workShardCount netShardCount logicShardCount inputs).1 :=
  runMachine_invariant (fun _ => Outbound lh [] [])
    (fun _ _ input h => h.handle gc input) []
    _ (outbound_create lh workShardCount netShardCount logicShardCount) inputs

/-!
## The order in which messages are received
-/

/--
In every run, a session receives the messages of a logic shard to a player in the
order in which they were sent, but for messages to different links of which the
earlier one was still on its way when the later one was sent.
-/
theorem run_notifications_in_order {codec : Codec B F} (gc : GateCodec codec)
    (lh : LoginHash) (workShardCount netShardCount logicShardCount : Nat)
    (inputs : List (ClusterInput B)) (k u c : Nat) :
    ((run gc lh workShardCount netShardCount logicShardCount
      inputs).1.receivedFrom k u c).Pairwise
      fun first second => second.index < first.index ->
        second.route ≠ first.route ∧ second.index ∈ first.inFlight :=
  ((run_outbound gc lh workShardCount netShardCount logicShardCount
    inputs).lanes k u c).order

/-- A packet is sent over a connection, arrives, and is handled by the shard. -/
def handsOver (conn : Nat) : List (ClusterInput (Wire Rat)) :=
  [ClusterInput.writes conn, ClusterInput.arrives conn,
    ClusterInput.works 0 Orders.stored]

/--
A player alone in a room sends a worker to a tree.  The two orders go over two
connections, and what the room says after the second one is received first.
-/
def sendsWorkerTwice : List (ClusterInput (Wire Rat)) :=
  [ClusterInput.accepts 0, ClusterInput.logsIn 0 "account" "token",
    ClusterInput.connects 0 0 0, ClusterInput.connects 1 0 1,
    ClusterInput.requests 0 MsgId.createRoomReq (Wire.createRoom ⟨"", 1⟩)] ++
    handsOver 0 ++
  [ClusterInput.requests 0 MsgId.playerReadyReq (Wire.playerReady ⟨1, true⟩)] ++
    handsOver 1 ++
  [ClusterInput.requests 0 MsgId.moveCmd
    (Wire.move ⟨[7], none, [⟨33.8, 0, 50.71⟩, ⟨37.1, 0, 50.71⟩]⟩)] ++
    handsOver 0 ++ [ClusterInput.ticks 0 Orders.stored] ++
  [ClusterInput.requests 0 MsgId.moveCmd
    (Wire.move ⟨[7], none, [⟨33.8, 0, 50.71⟩, ⟨37.1, 0, 50.71⟩]⟩)] ++
    handsOver 1 ++ [ClusterInput.ticks 0 Orders.stored] ++
  List.replicate 7 (ClusterInput.netWorks 0) ++
  List.replicate 4 (ClusterInput.writesBack 1) ++
  List.replicate 4 (ClusterInput.arrivesBack 1) ++
  List.replicate 3 (ClusterInput.writesBack 0) ++
  List.replicate 3 (ClusterInput.arrivesBack 0)

/-- The numbers of the deltas that a session has received. -/
def deltasReceived (s : Cluster B F) (c : Nat) : List Nat :=
  (s.sessions c).received.filterMap fun entry =>
    match entry.2 with
    | ServerMsg.worldDeltaNtf _ => some entry.1.index
    | _ => none

theorem sendsWorkerTwice_out_of_order :
    ¬ ((run Wire.gateCodec LoginHash.byAccount 1 1 1
      sendsWorkerTwice).1.deltasReceived 0).Pairwise (fun first second =>
        first < second) := by
  decide +kernel

end Cluster

end RtsGame
