import RtsGame.Gate.Outbound
import RtsGame.Gate.Zombies
import RtsGame.Shard.Audience
import Mathlib.Data.List.Induction

/-!
# What reaches a client

Between the logic shards and the clients messages are queued, grouped, put into envelopes,
handed over and dropped, but none is made up and none is given to anybody else: whatever a
session receives was sent by a logic shard to a uid that only this session can have.
-/

namespace RtsGame

namespace Cluster

variable {B F : Type} {lh : LoginHash} {P : OutStamp -> ServerMsg F -> Prop}
  {s s' : Cluster B F}

/--
Every message that is on its way to a client is as required and names somebody it is for,
and from the work shards on it is for the session that owns the uid.
-/
structure Carries (lh : LoginHash) (P : OutStamp -> ServerMsg F -> Prop)
    (s : Cluster B F) : Prop where
  queued : forall net task, task ∈ s.netQueues net -> forall target, target ∈ task.targets ->
    forall stamp, stamp ∈ target.uids -> P stamp task.msg
  back : forall c envelope, envelope ∈ (s.conns c).backQue ∨
    envelope ∈ (s.conns c).backWire -> forall stamp, stamp ∈ envelope.targets ->
      P stamp envelope.msg
  named : forall net task, task ∈ s.netQueues net -> forall target, target ∈ task.targets ->
    target.uids ≠ []
  addressed : forall c envelope, envelope ∈ (s.conns c).backQue ∨
    envelope ∈ (s.conns c).backWire -> envelope.targets ≠ []
  posted : forall w post, post ∈ s.posts w ->
    P post.stamp post.msg ∧ Owns lh post.session post.stamp.uid
  received : forall c entry, entry ∈ (s.sessions c).received ->
    P entry.1 entry.2 ∧ Owns lh c entry.1.uid
  listed : forall w u c, s.userIdMgr w u = some c -> Owns lh c u

/-- Nothing is added to what is on its way. -/
structure AddsNothing (s s' : Cluster B F) : Prop where
  queues : forall net task, task ∈ s'.netQueues net -> task ∈ s.netQueues net
  back : forall c envelope, envelope ∈ (s'.conns c).backQue ∨
    envelope ∈ (s'.conns c).backWire -> envelope ∈ (s.conns c).backQue ∨
      envelope ∈ (s.conns c).backWire
  posts : forall w post, post ∈ s'.posts w -> post ∈ s.posts w
  received : forall c entry, entry ∈ (s'.sessions c).received ->
    entry ∈ (s.sessions c).received

theorem Carries.create (workShardCount netShardCount logicShardCount : Nat) :
    Carries lh P (create workShardCount netShardCount logicShardCount : Cluster B F) where
  queued := by
    intro net task h
    cases h
  back := by
    intro c envelope h
    rcases h with h | h
    · cases h
    · cases h
  named := by
    intro net task h
    cases h
  addressed := by
    intro c envelope h
    rcases h with h | h
    · cases h
    · cases h
  posted := by
    intro w post h
    cases h
  received := by
    intro c entry h
    cases h
  listed := by
    intro w u c h
    cases h

theorem Carries.subset (h : Carries lh P s) (hsub : AddsNothing s s')
    (hlisted : forall w u c, s'.userIdMgr w u = some c ->
      s.userIdMgr w u = some c ∨ Owns lh c u) : Carries lh P s' where
  queued := fun net task htask => h.queued net task (hsub.queues net task htask)
  back := fun c envelope hback => h.back c envelope (hsub.back c envelope hback)
  named := fun net task htask => h.named net task (hsub.queues net task htask)
  addressed := fun c envelope hback => h.addressed c envelope (hsub.back c envelope hback)
  posted := fun w post hpost => h.posted w post (hsub.posts w post hpost)
  received := fun c entry hentry => h.received c entry (hsub.received c entry hentry)
  listed := fun w u c hc => (hlisted w u c hc).elim (h.listed w u c) id

/-- More is required of the messages to come. -/
theorem Carries.mono {Q : OutStamp -> ServerMsg F -> Prop} (h : Carries lh P s)
    (himp : forall stamp msg, P stamp msg -> Q stamp msg) : Carries lh Q s where
  queued := fun net task htask target htarget stamp hstamp =>
    himp _ _ (h.queued net task htask target htarget stamp hstamp)
  back := fun c envelope hback stamp hstamp =>
    himp _ _ (h.back c envelope hback stamp hstamp)
  named := h.named
  addressed := h.addressed
  posted := fun w post hpost =>
    ⟨himp _ _ (h.posted w post hpost).left, (h.posted w post hpost).right⟩
  received := fun c entry hentry =>
    ⟨himp _ _ (h.received c entry hentry).left, (h.received c entry hentry).right⟩
  listed := h.listed

/-!
## Steps that send nothing
-/

theorem SameLinks.addsNothing (h : SameLinks s s') (hposts : s'.posts = s.posts)
    (hreceived : forall c, (s'.sessions c).received = (s.sessions c).received) :
    AddsNothing s s' where
  queues := by
    intro net task htask
    rw [h.netQueues] at htask
    exact htask
  back := by
    intro c envelope hback
    rw [h.backQue, h.backWire] at hback
    exact hback
  posts := by
    intro w post hpost
    rw [hposts] at hpost
    exact hpost
  received := by
    intro c entry hentry
    rw [hreceived] at hentry
    exact hentry

/-- A connection keeps, moves or loses what it carries to a gateway. -/
theorem addsNothing_setConn {c : Nat} {conn : Conn B F}
    (h : forall envelope, envelope ∈ conn.backQue ∨ envelope ∈ conn.backWire ->
      envelope ∈ (s.conns c).backQue ∨ envelope ∈ (s.conns c).backWire) :
    AddsNothing s (s.setConn c conn) where
  queues := fun _ _ htask => htask
  back := by
    intro d envelope hback
    by_cases hd : d = c
    · subst hd
      unfold Cluster.setConn at hback
      simp only [Function.update_self] at hback
      exact h envelope hback
    · unfold Cluster.setConn at hback
      simp only [Function.update_of_ne hd] at hback
      exact hback
  posts := fun _ _ hpost => hpost
  received := fun _ _ hentry => hentry

theorem Carries.setConn (h : Carries lh P s) {c : Nat} {conn : Conn B F}
    (hback : forall envelope, envelope ∈ conn.backQue ∨ envelope ∈ conn.backWire ->
      envelope ∈ (s.conns c).backQue ∨ envelope ∈ (s.conns c).backWire) :
    Carries lh P (s.setConn c conn) :=
  h.subset (addsNothing_setConn hback) fun _ _ _ hc => Or.inl hc

/-- Everything but the slots, the game server and the ways to it. -/
theorem Carries.congr (h : Carries lh P s) (hqueues : s'.netQueues = s.netQueues)
    (hconns : s'.conns = s.conns) (hposts : s'.posts = s.posts)
    (hsessions : s'.sessions = s.sessions) (hmgr : s'.userIdMgr = s.userIdMgr) :
    Carries lh P s' where
  queued := by rw [hqueues]; exact h.queued
  back := by rw [hconns]; exact h.back
  named := by rw [hqueues]; exact h.named
  addressed := by rw [hconns]; exact h.addressed
  posted := by rw [hposts]; exact h.posted
  received := by rw [hsessions]; exact h.received
  listed := by rw [hmgr]; exact h.listed

theorem Carries.accept (h : Carries lh P s) (w : Nat) : Carries lh P (s.accept w) := by
  unfold Cluster.accept
  split
  · refine h.subset ⟨fun _ _ ht => ht, fun _ _ hb => hb, fun _ _ hp => hp, ?_⟩ fun _ _ _ hc =>
      Or.inl hc
    intro c entry hentry
    by_cases hc : c = s.sessionCount
    · subst hc
      simp only [Function.update_self] at hentry
      cases hentry
    · simp only [Function.update_of_ne hc] at hentry
      exact hentry
  · exact h

theorem login_listed {d : Nat} {account token : String} {w u c : Nat}
    (hc : (s.login lh d account token).userIdMgr w u = some c) :
    s.userIdMgr w u = some c ∨ Owns lh c u := by
  unfold login handleLoginReq bindUid at hc
  split at hc
  · split at hc
    · exact Or.inl hc
    · dsimp only at hc
      rw [setUserId_apply] at hc
      split at hc
      · rename_i hnew
        injection hc with hd
        rw [← hd, hnew.right]
        exact Or.inr ⟨account, token, rfl⟩
      · left
        change (if _ then _ else s).userIdMgr w u = some c at hc
        split at hc
        · exact (released s d (s.sessions d).shard (s.sessions d).uid 0).older w u c hc
        · exact hc
  · exact Or.inl hc

theorem Carries.login (h : Carries lh P s) (d : Nat) (account token : String) :
    Carries lh P (s.login lh d account token) := by
  have hposts := login_posts lh s d account token
  exact h.subset ((login_links lh s d account token).addsNothing hposts.posts hposts.received)
    fun _ _ _ hc => login_listed hc

theorem Carries.request {codec : Codec B F} (h : Carries lh P s) (gc : GateCodec codec)
    (d : Nat) (msgId : MsgId) (body : B) : Carries lh P (request gc s d msgId body) := by
  have hposts := request_posts gc s d msgId body
  refine h.subset ((request_links gc s d msgId body).addsNothing hposts.posts hposts.received) ?_
  intro w u c hc
  rw [(request_tables gc s d msgId body).userIdMgr] at hc
  exact Or.inl hc

theorem Carries.closeSession {codec : Codec B F} (h : Carries lh P s)
    (gc : GateCodec codec) (d : Nat) : Carries lh P (closeSession gc s d) := by
  cases hopen : (s.sessions d).isOpen with
  | false =>
      rw [closeSession_idle gc hopen]
      exact h
  | true =>
      have hposts := closeSession_posts gc s d
      refine h.subset ((closeSession_links gc s d).addsNothing hposts.posts hposts.received) ?_
      intro w u c hc
      rw [closeSession_userIdMgr gc hopen] at hc
      split at hc
      · cases hc
      · exact Or.inl hc

theorem Carries.connect (h : Carries lh P s) (c net linkId : Nat) :
    Carries lh P (s.connect c net linkId) := by
  unfold Cluster.connect
  split
  · have hconn : Carries lh P (s.setConn c { s.conns c with
        state := ConnState.connected
        route := ⟨net, linkId, (s.slots net linkId).1 + 1⟩ }) :=
      h.setConn fun _ hback => hback
    exact hconn.congr rfl rfl rfl rfl rfl
  · exact h

theorem Carries.breakConn (h : Carries lh P s) (c : Nat) : Carries lh P (s.breakConn c) := by
  refine h.setConn fun envelope hback => ?_
  rcases hback with hqueue | hwire
  · cases hqueue
  · exact Or.inr hwire

theorem Carries.cutConn (h : Carries lh P s) (c : Nat) : Carries lh P (s.cutConn c) := by
  unfold Cluster.cutConn
  split
  · refine h.setConn fun envelope hback => ?_
    rcases hback with hqueue | hwire
    · exact Or.inl hqueue
    · cases hwire
  · exact h

theorem Carries.rebuild (h : Carries lh P s) (w i : Nat) : Carries lh P (rebuild w s i) := by
  unfold Cluster.rebuild
  split
  · exact h
  · have hconn : Carries lh P (s.setConn s.connCount (newConn w)) := by
      refine h.setConn fun envelope hback => ?_
      rcases hback with hqueue | hwire
      · cases hqueue
      · cases hwire
    exact hconn.congr rfl rfl rfl rfl rfl

theorem Carries.detect (h : Carries lh P s) (w : Nat) : Carries lh P (s.detect w) := by
  unfold Cluster.detect
  split
  · exact List.foldlRecOn _ _ h fun t ht i _ => ht.rebuild w i
  · exact h

theorem Carries.write (h : Carries lh P s) (c : Nat) : Carries lh P (s.write c) := by
  unfold Cluster.write
  split
  · exact h
  · split
    · exact h.setConn fun _ hback => hback
    · exact h

theorem Carries.arrive (h : Carries lh P s) (codec : Codec B F) (c : Nat) :
    Carries lh P (s.arrive codec c) := by
  unfold Cluster.arrive
  split
  · exact h
  · rename_i packet rest _
    have hconn : Carries lh P (s.setConn c { s.conns c with wire := rest }) :=
      h.setConn fun _ hback => hback
    exact hconn.congr rfl rfl rfl rfl rfl

theorem Carries.writeBack (h : Carries lh P s) (c : Nat) : Carries lh P (s.writeBack c) := by
  unfold Cluster.writeBack
  split
  · exact h
  · rename_i envelope rest hqueue
    refine h.setConn fun other hback => ?_
    rw [hqueue]
    rcases hback with hrest | hwire
    · exact Or.inl (List.mem_cons_of_mem envelope hrest)
    · rcases List.mem_append.mp hwire with hold | hnew
      · exact Or.inr hold
      · rw [List.mem_singleton.mp hnew]
        exact Or.inl List.mem_cons_self

/-!
## Steps that hand messages on
-/

theorem Carries.receive (h : Carries lh P s) {c : Nat} {stamp : OutStamp}
    {msg : ServerMsg F} (hmsg : P stamp msg) (howns : Owns lh c stamp.uid) :
    Carries lh P (s.receive c stamp msg) := by
  unfold Cluster.receive
  dsimp only
  split
  · refine ⟨h.queued, h.back, h.named, h.addressed, h.posted, ?_, h.listed⟩
    intro d entry hentry
    by_cases hd : d = c
    · subst hd
      unfold Cluster.setSession at hentry
      simp only [Function.update_self] at hentry
      rcases List.mem_append.mp hentry with hold | hnew
      · exact h.received d entry hold
      · rw [List.mem_singleton.mp hnew]
        exact ⟨hmsg, howns⟩
    · unfold Cluster.setSession at hentry
      simp only [Function.update_of_ne hd] at hentry
      exact h.received d entry hentry
  · exact h

/-- A message for a uid is handed to its owner, or to the work shard of its owner. -/
theorem Carries.sendToUid (h : Carries lh P s) (hs : Registered lh s) (w : Nat)
    {msg : ServerMsg F} {stamp : OutStamp} (hmsg : P stamp msg) :
    Carries lh P (sendToUid w msg s stamp) := by
  unfold Cluster.sendToUid
  split
  · rename_i c hfound
    refine h.receive hmsg (h.listed w stamp.uid c ?_)
    unfold findSessionByUid at hfound
    split at hfound
    · cases hfound
    · rename_i d hd
      split at hfound
      · injection hfound with heq
        rw [← heq]
        exact hd
      · cases hfound
  · split
    · exact h
    · rename_i target c hentry
      rcases hs.entry stamp.uid target c hentry with ⟨hne, _, huid, _, _⟩
      have howns : Owns lh c stamp.uid := by
        have hbound := hs.bound c
        rw [huid] at hbound
        exact hbound hne
      refine ⟨h.queued, h.back, h.named, h.addressed, ?_, h.received, h.listed⟩
      intro v post hpost
      by_cases hv : v = target
      · subst hv
        simp only [Function.update_self] at hpost
        rcases List.mem_append.mp hpost with hold | hnew
        · exact h.posted v post hold
        · rw [List.mem_singleton.mp hnew]
          exact ⟨hmsg, howns⟩
      · simp only [Function.update_of_ne hv] at hpost
        exact h.posted v post hpost

theorem Carries.arriveBack (h : Carries lh P s) (hs : Registered lh s) (c : Nat) :
    Carries lh P (s.arriveBack c) := by
  unfold Cluster.arriveBack
  split
  · exact h
  · rename_i envelope rest hwire
    have hstamps : forall stamp, stamp ∈ envelope.targets -> P stamp envelope.msg :=
      h.back c envelope (Or.inr (by rw [hwire]; exact List.mem_cons_self))
    have hconn : Carries lh P (s.setConn c { s.conns c with backWire := rest }) := by
      refine h.setConn fun other hback => ?_
      rw [hwire]
      exact hback.imp_right (List.mem_cons_of_mem envelope)
    have htables : SameTables s (s.setConn c { s.conns c with backWire := rest }) :=
      SameTables.of_sessions rfl rfl rfl rfl rfl
    unfold forwardGameToClients
    have hall : Carries lh P (envelope.targets.foldl (Cluster.sendToUid (s.conns c).shard
        envelope.msg) (s.setConn c { s.conns c with backWire := rest })) ∧
        Registered lh (envelope.targets.foldl (Cluster.sendToUid (s.conns c).shard
          envelope.msg) (s.setConn c { s.conns c with backWire := rest })) := by
      refine List.foldlRecOn (motive := fun t => Carries lh P t ∧ Registered lh t) _ _
        ⟨hconn, htables.registered hs⟩ ?_
      intro t ht stamp hstamp
      exact ⟨ht.left.sendToUid ht.right _ (hstamps stamp hstamp),
        (sendToUid_tables _ _ t stamp).registered ht.right⟩
    exact hall.left

theorem Carries.postWork (h : Carries lh P s) (w : Nat) : Carries lh P (s.postWork w) := by
  unfold Cluster.postWork
  split
  · exact h
  · rename_i post rest hposts
    have hpost := h.posted w post (by rw [hposts]; exact List.mem_cons_self)
    have hpopped : Carries lh P { s with posts := Function.update s.posts w rest } := by
      refine h.subset ⟨fun _ _ ht => ht, fun _ _ hb => hb, ?_, fun _ _ he => he⟩
        fun _ _ _ hc => Or.inl hc
      intro v other hother
      by_cases hv : v = w
      · subst hv
        simp only [Function.update_self] at hother
        rw [hposts]
        exact List.mem_cons_of_mem post hother
      · simp only [Function.update_of_ne hv] at hother
        exact hother
    exact hpopped.receive hpost.left hpost.right

/-- A connection has been given one more envelope, and may have lost some. -/
theorem mem_enqueued {c d : Nat} {kept : List (OutEnvelope F)} {new envelope : OutEnvelope F}
    (hkept : forall other, other ∈ kept -> other ∈ (s.conns c).backQue)
    (h : envelope ∈ ((s.setConn c { s.conns c with backQue := kept ++ [new] }).conns
        d).backQue ∨
      envelope ∈ ((s.setConn c { s.conns c with backQue := kept ++ [new] }).conns
        d).backWire) :
    envelope = new ∨ envelope ∈ (s.conns d).backQue ∨ envelope ∈ (s.conns d).backWire := by
  unfold Cluster.setConn at h
  by_cases hd : d = c
  · subst hd
    simp only [Function.update_self] at h
    rcases h with hqueue | hwire
    · rcases List.mem_append.mp hqueue with hold | hnew
      · exact Or.inr (Or.inl (hkept envelope hold))
      · exact Or.inl (List.mem_singleton.mp hnew)
    · exact Or.inr (Or.inr hwire)
  · simp only [Function.update_of_ne hd] at h
    exact Or.inr h

theorem Carries.sendToTarget (h : Carries lh P s) (net : Nat) {task : OutTask F}
    {target : OutTarget} (hstamps : forall stamp, stamp ∈ target.uids -> P stamp task.msg)
    (hsome : target.uids ≠ []) : Carries lh P (sendToTarget net task s target) := by
  unfold Cluster.sendToTarget
  dsimp only
  split
  · exact h
  · split
    · exact h
    · rename_i c _
      split
      · have hkept : forall other, other ∈ (if (s.conns c).backQue.length ≥ kMaxSendQueueDepth
            then (s.conns c).backQue.tail else (s.conns c).backQue) ->
              other ∈ (s.conns c).backQue := by
          intro other hother
          split at hother
          · exact List.mem_of_mem_tail hother
          · exact hother
        refine ⟨h.queued, ?_, h.named, ?_, h.posted, h.received, h.listed⟩
        · intro d envelope hback
          rcases mem_enqueued hkept hback with rfl | hold
          · exact hstamps
          · exact h.back d envelope hold
        · intro d envelope hback
          rcases mem_enqueued hkept hback with rfl | hold
          · exact hsome
          · exact h.addressed d envelope hold
      · exact h

theorem Carries.netWork (h : Carries lh P s) (net : Nat) : Carries lh P (s.netWork net) := by
  unfold Cluster.netWork
  split
  · exact h
  · rename_i task rest hqueue
    have htask : task ∈ s.netQueues net := by
      rw [hqueue]
      exact List.mem_cons_self
    have hpopped : Carries lh P { s with netQueues := Function.update s.netQueues net rest } := by
      refine h.subset ⟨?_, fun _ _ hb => hb, fun _ _ hp => hp, fun _ _ he => he⟩
        fun _ _ _ hc => Or.inl hc
      intro other t ht
      by_cases hnet : other = net
      · subst hnet
        simp only [Function.update_self] at ht
        rw [hqueue]
        exact List.mem_cons_of_mem task ht
      · simp only [Function.update_of_ne hnet] at ht
        exact ht
    exact List.foldlRecOn _ _ hpopped fun t ht target htarget =>
      ht.sendToTarget net (h.queued net task htask target htarget)
        (h.named net task htask target htarget)

/-!
## Steps of the logic shards
-/

theorem mem_stampTargets {shardId : Nat} {targets : List (Nat × GatewayRoute)}
    {stamp : OutStamp} (h : stamp ∈ s.stampTargets shardId targets) :
    stamp.shardId = shardId ∧ stamp.uid ∈ targets.map Prod.fst := by
  unfold stampTargets at h
  rcases List.mem_map.mp h with ⟨entry, hentry, rfl⟩
  exact ⟨rfl, List.mem_map_of_mem (List.fst_mem_of_mem_zipIdx hentry)⟩

theorem mem_groupTargets {stamps : List OutStamp} {net : Nat} {target : OutTarget}
    (h : target ∈ groupTargets stamps net) {stamp : OutStamp} (hstamp : stamp ∈ target.uids) :
    stamp ∈ stamps := by
  unfold groupTargets at h
  rcases List.mem_map.mp h with ⟨link, _, rfl⟩
  exact List.mem_of_mem_filter (List.mem_of_mem_filter hstamp)

/-- A link is sent to only if there is somebody behind it. -/
theorem groupTargets_named {stamps : List OutStamp} {net : Nat} {target : OutTarget}
    (h : target ∈ groupTargets stamps net) : target.uids ≠ [] := by
  unfold groupTargets at h
  rcases List.mem_map.mp h with ⟨link, hlink, rfl⟩
  rcases List.mem_map.mp (List.mem_dedup.mp hlink) with ⟨stamp, hstamp, heq⟩
  exact List.ne_nil_of_mem (List.mem_filter.mpr ⟨hstamp, decide_eq_true heq⟩)

theorem Carries.sendEvent (h : Carries lh P s) (shardId : Nat) {e : ShardEvent F}
    (hsent : forall uids targets msg seq, e = ShardEvent.sent uids targets msg seq ->
      forall stamp : OutStamp, stamp.shardId = shardId -> stamp.uid ∈ targets.map Prod.fst ->
        P stamp msg) : Carries lh P (sendEvent shardId s e) := by
  cases e with
  | ran call room => exact h
  | sent uids targets msg seq =>
      have hstamps : forall stamp, stamp ∈ s.stampTargets shardId targets -> P stamp msg := by
        intro stamp hstamp
        rcases mem_stampTargets hstamp with ⟨hshard, huid⟩
        exact hsent uids targets msg seq rfl stamp hshard huid
      rcases postLoop_same (s.stampTargets shardId targets) msg seq
        ((s.stampTargets shardId targets).map fun stamp => stamp.route.netShard).dedup s with
        ⟨hposts, hsessions, hconns, _⟩
      have hmgr := (sendEvent_tables shardId s (ShardEvent.sent uids targets msg seq)).userIdMgr
      unfold Cluster.sendEvent sendToNetwork at hmgr ⊢
      dsimp only at hmgr ⊢
      have hqueue := fun net => (postLoop_queue (s.stampTargets shardId targets) msg seq
        (List.nodup_dedup ((s.stampTargets shardId targets).map fun stamp =>
          stamp.route.netShard)) s net).subset
      refine ⟨?_, ?_, ?_, ?_, ?_, ?_, ?_⟩
      · intro net task htask target htarget stamp hstamp
        rcases List.mem_append.mp (hqueue net htask) with hold | hnew
        · exact h.queued net task hold target htarget stamp hstamp
        · split at hnew
          · rw [List.mem_singleton.mp hnew] at htarget ⊢
            exact hstamps stamp (mem_groupTargets htarget hstamp)
          · cases hnew
      · intro c envelope hback
        rw [hconns] at hback
        exact h.back c envelope hback
      · intro net task htask target htarget
        rcases List.mem_append.mp (hqueue net htask) with hold | hnew
        · exact h.named net task hold target htarget
        · split at hnew
          · rw [List.mem_singleton.mp hnew] at htarget
            exact groupTargets_named htarget
          · cases hnew
      · intro c envelope hback
        rw [hconns] at hback
        exact h.addressed c envelope hback
      · intro w post hpost
        rw [hposts] at hpost
        exact h.posted w post hpost
      · intro c entry hentry
        rw [hsessions] at hentry
        exact h.received c entry hentry
      · intro w u c hc
        have hold : s.userIdMgr w u = some c := by
          rw [← hmgr]
          exact hc
        exact h.listed w u c hold

/-- What a logic shard has to say goes on its way. -/
theorem Carries.events (h : Carries lh P s) (shardId : Nat) {events : List (ShardEvent F)}
    (hsent : forall uids targets msg seq, ShardEvent.sent uids targets msg seq ∈ events ->
      forall stamp : OutStamp, stamp.shardId = shardId -> stamp.uid ∈ targets.map Prod.fst ->
        P stamp msg) : Carries lh P (events.foldl (Cluster.sendEvent shardId) s) := by
  refine List.foldlRecOn _ _ h fun t ht e he => ht.sendEvent shardId ?_
  intro uids targets msg seq heq
  rw [heq] at he
  exact hsent uids targets msg seq he

/-!
## Runs
-/

section Runs

variable [Scalar F] {codec : Codec B F}

/-- What the logic shards say in a step. -/
def said (codec : Codec B F) (s : Cluster B F) :
    ClusterInput B -> List (Nat × ShardEvent F)
  | ClusterInput.works shardId ω =>
      (GameServer.work codec.stamped ω s.server shardId).2.map fun e => (shardId, e)
  | ClusterInput.ticks shardId ω =>
      (GameServer.tick ω s.server shardId).2.map fun e => (shardId, e)
  | _ => []

/-- What is required of every message need only be shown of those that are sent. -/
theorem Carries.next (h : Carries lh P s) (hs : Registered lh s) (gc : GateCodec codec)
    (input : ClusterInput B)
    (hsent : forall uids targets msg seq (stamp : OutStamp),
      (stamp.shardId, ShardEvent.sent uids targets msg seq) ∈ said codec s input ->
        stamp.uid ∈ targets.map Prod.fst -> P stamp msg) :
    Carries lh P (next gc lh s input) := by
  have hserver : forall server : GameServer (Stamp × B) F,
      Carries lh P { s with server := server } := fun _ => h.congr rfl rfl rfl rfl rfl
  cases input with
  | accepts w => exact h.accept w
  | logsIn d account token => exact h.login d account token
  | requests d msgId body => exact h.request gc d msgId body
  | closes d => exact h.closeSession gc d
  | connects c net linkId => exact h.connect c net linkId
  | breaks c => exact h.breakConn c
  | cuts c => exact h.cutConn c
  | detects w => exact h.detect w
  | writes c => exact h.write c
  | arrives c => exact h.arrive codec c
  | works shardId ω =>
      refine (hserver _).events shardId ?_
      intro uids targets msg seq he stamp hshard huid
      refine hsent uids targets msg seq stamp ?_ huid
      rw [hshard]
      exact List.mem_map_of_mem he
  | ticks shardId ω =>
      refine (hserver _).events shardId ?_
      intro uids targets msg seq he stamp hshard huid
      refine hsent uids targets msg seq stamp ?_ huid
      rw [hshard]
      exact List.mem_map_of_mem he
  | netWorks net => exact h.netWork net
  | writesBack c => exact h.writeBack c
  | arrivesBack c => exact h.arriveBack hs c
  | postWorks w => exact h.postWork w

/-- Whatever is said is said to the players of the room that it is about. -/
theorem said_inside (h : GameServer.Mindful s.server) (gc : GateCodec codec)
    (lh : LoginHash) (input : ClusterInput B) {shardId : Nat} {e : ShardEvent F}
    (he : (shardId, e) ∈ said codec s input) :
    e.Inside ((next gc lh s input).server.shards shardId).rooms := by
  rw [next_server]
  cases input with
  | works k ω =>
      unfold said at he
      rcases List.mem_map.mp he with ⟨e', he', heq⟩
      injection heq with hk he''
      subst hk he''
      show e'.Inside ((GameServer.work codec.stamped ω s.server k).1.shards k).rooms
      unfold GameServer.work at he' ⊢
      split at he'
      · cases he'
      · simp only [Function.update_self]
        exact handleTask_inside (h.indexed k) codec.stamped ω _ e' he'
  | ticks k ω =>
      unfold said at he
      rcases List.mem_map.mp he with ⟨e', he', heq⟩
      injection heq with hk he''
      subst hk he''
      show e'.Inside ((GameServer.tick ω s.server k).1.shards k).rooms
      unfold GameServer.tick at he' ⊢
      simp only [Function.update_self]
      exact tickRooms_inside (h.indexed k) ω e' he'
  | _ => cases he

/--
In the run a logic shard has sent the message to the uid, who, if the message tells about
a room of the shard, was a player of the room.
-/
def WasSent (gc : GateCodec codec) (lh : LoginHash) (start : Cluster B F)
    (inputs : List (ClusterInput B)) (stamp : OutStamp) (msg : ServerMsg F) : Prop :=
  exists earlier input later uids targets seq, inputs = earlier ++ input :: later ∧
    (stamp.shardId, ShardEvent.sent uids targets msg seq) ∈
      said codec (runMachine (handle gc lh) start earlier).1 input ∧
    stamp.uid ∈ uids ∧
    forall roomId, msg.roomOf = some roomId ->
      exists r, ((runMachine (handle gc lh) start (earlier ++ [input])).1.server.shards
        stamp.shardId).rooms.lookup roomId = some r ∧ stamp.uid ∈ r.players

theorem run_carries (gc : GateCodec codec) (lh : LoginHash)
    (workShardCount netShardCount logicShardCount : Nat) (inputs : List (ClusterInput B)) :
    Carries lh (WasSent gc lh (create workShardCount netShardCount logicShardCount) inputs)
        (run gc lh workShardCount netShardCount logicShardCount inputs).1 ∧
      GameServer.Mindful
        (run gc lh workShardCount netShardCount logicShardCount inputs).1.server := by
  induction inputs using List.reverseRecOn with
  | nil =>
      exact ⟨Carries.create workShardCount netShardCount logicShardCount,
        GameServer.mindful_create logicShardCount⟩
  | append_singleton inputs input ih =>
      have hregistered := (run_outbound gc lh workShardCount netShardCount logicShardCount
        inputs).registered
      have hlast : (run gc lh workShardCount netShardCount logicShardCount
          (inputs ++ [input])).1 =
          next gc lh (run gc lh workShardCount netShardCount logicShardCount inputs).1
            input := by
        unfold run
        rw [runMachine_append]
        rfl
      rw [hlast]
      constructor
      · refine (ih.left.mono ?_).next hregistered gc input ?_
        · rintro stamp msg ⟨earlier, i, later, uids, targets, seq, rfl, hsent⟩
          exact ⟨earlier, i, later ++ [input], uids, targets, seq, by simp, hsent⟩
        · intro uids targets msg seq stamp hsaid huid
          have hinside := said_inside ih.right gc lh input hsaid
          rcases List.mem_map.mp huid with ⟨target, htarget, heq⟩
          have hamong := hinside.left target htarget
          rw [heq] at hamong
          refine ⟨inputs, input, [], uids, targets, seq, rfl, hsaid, hamong, ?_⟩
          intro roomId hroom
          rcases hinside.right roomId hroom with ⟨r, hr, hplayers⟩
          refine ⟨r, ?_, hplayers stamp.uid hamong⟩
          rw [← hlast] at hr
          exact hr
      · rw [next_server]
        exact (serverAfter_mindful ih.right input).left

/--
In every run an envelope that a gateway may read names somebody it is for: it is never
broadcast.
-/
theorem run_addressed (gc : GateCodec codec) (lh : LoginHash)
    (workShardCount netShardCount logicShardCount : Nat) (inputs : List (ClusterInput B))
    (c : Nat) {envelope : OutEnvelope F}
    (h : envelope ∈ ((run gc lh workShardCount netShardCount logicShardCount inputs).1.conns
      c).backWire) : envelope.targets ≠ [] :=
  (run_carries gc lh workShardCount netShardCount logicShardCount inputs).left.addressed c
    envelope (Or.inr h)

/--
In every run, over whatever connections and work shards it has come, a message that a
session receives was sent by a logic shard to a uid that no other session can have; and if
it tells about a room then the uid was one of the players of the room.
-/
theorem run_received_sent (gc : GateCodec codec) (lh : LoginHash)
    (workShardCount netShardCount logicShardCount : Nat) (inputs : List (ClusterInput B))
    (c : Nat) (stamp : OutStamp) (msg : ServerMsg F)
    (h : (stamp, msg) ∈ ((run gc lh workShardCount netShardCount logicShardCount
      inputs).1.sessions c).received) :
    Owns lh c stamp.uid ∧
      WasSent gc lh (create workShardCount netShardCount logicShardCount) inputs stamp msg :=
  ((run_carries gc lh workShardCount netShardCount logicShardCount inputs).left.received c
    (stamp, msg) h).symm

end Runs

/-- A client creates a room; all that the room has to say comes back. -/
def opensRoom : List (ClusterInput (Wire Rat)) :=
  [ClusterInput.accepts 0, ClusterInput.logsIn 0 "account" "token",
    ClusterInput.connects 0 0 0,
    ClusterInput.requests 0 MsgId.createRoomReq (Wire.createRoom ⟨"", 2⟩)] ++ handsOver 0 ++
  List.replicate 2 (ClusterInput.netWorks 0) ++
  List.replicate 2 (ClusterInput.writesBack 0) ++
  List.replicate 2 (ClusterInput.arrivesBack 0)

theorem opensRoom_received_sent :
    exists stamp msg, (msg : ServerMsg Rat).roomOf = some 1 ∧
      Owns LoginHash.byAccount 0 stamp.uid ∧
      WasSent Wire.gateCodec LoginHash.byAccount (create 1 1 1) opensRoom stamp msg := by
  have hany : ((run Wire.gateCodec LoginHash.byAccount 1 1 1 opensRoom).1.sessions
      0).received.any (fun entry => entry.2.roomOf == some 1) = true := by decide +kernel
  rcases List.any_eq_true.mp hany with ⟨⟨stamp, msg⟩, hreceived, hroom⟩
  exact ⟨stamp, msg, beq_iff_eq.mp hroom, run_received_sent Wire.gateCodec
    LoginHash.byAccount 1 1 1 opensRoom 0 stamp msg hreceived⟩

end Cluster

end RtsGame
