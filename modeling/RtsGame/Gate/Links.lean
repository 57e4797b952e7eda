import RtsGame.Gate.Cluster

/-!
# What comes back over the links

Every accepted connection has a route of its own, since the generation of a slot
grows with each connection.  What waits for a network shard, and what a
connection brings back, has been addressed to the route that it is found at.
-/

namespace RtsGame

namespace Cluster

variable {B F : Type} {s s' : Cluster B F}

/-- Connections have been accepted once, and carry what is addressed to them. -/
structure Linked (s : Cluster B F) : Prop where
  slots : forall net linkId conn, (s.slots net linkId).2 = some conn ->
    (s.slots net linkId).1 ≠ 0 ∧
      (s.conns conn).route = ⟨net, linkId, (s.slots net linkId).1⟩
  bound : forall conn, (s.conns conn).route.generation ≠ 0 ->
    conn < s.connCount ∧ (s.conns conn).state ≠ ConnState.connecting ∧
      (s.conns conn).route.generation ≤
        (s.slots (s.conns conn).route.netShard (s.conns conn).route.linkId).1
  unique : forall conn conn', (s.conns conn).route.generation ≠ 0 ->
    (s.conns conn').route = (s.conns conn).route -> conn' = conn
  idle : forall conn, (s.conns conn).route.generation = 0 ->
    (s.conns conn).backWire = [] ∧ (s.conns conn).backQue = []
  carried : forall conn envelope stamp,
    envelope ∈ (s.conns conn).backWire ++ (s.conns conn).backQue ->
      stamp ∈ envelope.targets -> stamp.route = (s.conns conn).route
  posted : forall net task target stamp, task ∈ s.netQueues net ->
    target ∈ task.targets -> stamp ∈ target.uids ->
      stamp.route = ⟨net, target.linkId, target.generation⟩
  nets : forall net, s.netShardCount ≤ net -> s.netQueues net = []

theorem linked_create (workShardCount netShardCount logicShardCount : Nat) :
    Linked (create workShardCount netShardCount logicShardCount : Cluster B F) where
  slots := by
    intro net linkId conn hconn
    cases hconn
  bound := fun _ h => absurd rfl h
  unique := fun _ _ h => absurd rfl h
  idle := fun _ _ => ⟨rfl, rfl⟩
  carried := by
    intro conn envelope stamp henvelope
    cases henvelope
  posted := by
    intro net task target stamp htask
    cases htask
  nets := fun _ _ => rfl

/-!
## Steps that leave the links alone
-/

/-- Nothing on the way back has changed, up to the work shards. -/
structure SameLinks (s s' : Cluster B F) : Prop where
  connCount : s'.connCount = s.connCount
  netShardCount : s'.netShardCount = s.netShardCount
  slots : s'.slots = s.slots
  netQueues : s'.netQueues = s.netQueues
  shard : forall conn, (s'.conns conn).shard = (s.conns conn).shard
  state : forall conn, (s'.conns conn).state = (s.conns conn).state
  route : forall conn, (s'.conns conn).route = (s.conns conn).route
  backWire : forall conn, (s'.conns conn).backWire = (s.conns conn).backWire
  backQue : forall conn, (s'.conns conn).backQue = (s.conns conn).backQue

namespace SameLinks

theorem refl (s : Cluster B F) : SameLinks s s :=
  ⟨rfl, rfl, rfl, rfl, fun _ => rfl, fun _ => rfl, fun _ => rfl, fun _ => rfl,
    fun _ => rfl⟩

theorem trans {s'' : Cluster B F} (h : SameLinks s s') (h' : SameLinks s' s'') :
    SameLinks s s'' where
  connCount := h'.connCount.trans h.connCount
  netShardCount := h'.netShardCount.trans h.netShardCount
  slots := h'.slots.trans h.slots
  netQueues := h'.netQueues.trans h.netQueues
  shard := fun conn => (h'.shard conn).trans (h.shard conn)
  state := fun conn => (h'.state conn).trans (h.state conn)
  route := fun conn => (h'.route conn).trans (h.route conn)
  backWire := fun conn => (h'.backWire conn).trans (h.backWire conn)
  backQue := fun conn => (h'.backQue conn).trans (h.backQue conn)

/-- Connections are untouched altogether. -/
theorem of_conns (hcount : s'.connCount = s.connCount)
    (hnets : s'.netShardCount = s.netShardCount) (hslots : s'.slots = s.slots)
    (hqueues : s'.netQueues = s.netQueues) (hconns : s'.conns = s.conns) :
    SameLinks s s' where
  connCount := hcount
  netShardCount := hnets
  slots := hslots
  netQueues := hqueues
  shard := fun conn => by rw [hconns]
  state := fun conn => by rw [hconns]
  route := fun conn => by rw [hconns]
  backWire := fun conn => by rw [hconns]
  backQue := fun conn => by rw [hconns]

/-- A connection changes only in what it carries to the game server. -/
theorem setConn {c : Nat} (sendQue wire : List (InPacket B)) :
    SameLinks s (s.setConn c { s.conns c with sendQue := sendQue, wire := wire }) := by
  have hsame : forall conn, (s.setConn c
      { s.conns c with sendQue := sendQue, wire := wire }).conns conn =
      if conn = c then { s.conns c with sendQue := sendQue, wire := wire }
      else s.conns conn := by
    intro conn
    unfold Cluster.setConn
    exact Function.update_apply _ _ _ _
  constructor
  · rfl
  · rfl
  · rfl
  · rfl
  all_goals
    intro conn
    rw [hsame]
    split
    · rename_i h
      rw [h]
    · rfl

theorem linked (h : SameLinks s s') (hs : Linked s) : Linked s' where
  slots := by
    rw [h.slots]
    intro net linkId conn hconn
    rw [h.route]
    exact hs.slots net linkId conn hconn
  bound := by
    intro conn
    rw [h.route, h.connCount, h.state, h.slots]
    exact hs.bound conn
  unique := by
    intro conn conn'
    rw [h.route, h.route]
    exact hs.unique conn conn'
  idle := by
    intro conn
    rw [h.route, h.backWire, h.backQue]
    exact hs.idle conn
  carried := by
    intro conn envelope stamp
    rw [h.route, h.backWire, h.backQue]
    exact hs.carried conn envelope stamp
  posted := by
    rw [h.netQueues]
    exact hs.posted
  nets := by
    rw [h.netQueues, h.netShardCount]
    exact hs.nets

end SameLinks

theorem selectConn_links (w rounds : Nat) (s : Cluster B F) :
    SameLinks s (selectConn w rounds s).2 := by
  induction rounds generalizing s with
  | zero =>
      exact SameLinks.refl s
  | succ rounds ih =>
      unfold selectConn
      simp only
      split
      · exact SameLinks.of_conns rfl rfl rfl rfl rfl
      · refine SameLinks.trans ?_ (ih _)
        exact SameLinks.of_conns rfl rfl rfl rfl rfl

theorem sendData_links (s : Cluster B F) (c : Nat) (packet : InPacket B) :
    SameLinks s (s.sendData c packet) :=
  SameLinks.setConn _ _

theorem postMessage_links (s : Cluster B F) (w d : Nat) (msgId : MsgId) (body : B) :
    SameLinks s (s.postMessage w d msgId body) := by
  have hselected := selectConn_links w kGameServerConnCnt s
  unfold postMessage
  simp only
  split
  · exact hselected
  · rename_i c _
    have hsent := sendData_links (selectConn w kGameServerConnCnt s).2 c
      ⟨⟨d, s.nextIndex, c, s.inFlight⟩, msgId, body⟩
    exact (hselected.trans hsent).trans (SameLinks.of_conns rfl rfl rfl rfl rfl)

theorem unregister_links (s : Cluster B F) (uid d : Nat) :
    SameLinks s (s.unregister uid d) := by
  unfold unregister
  split
  · exact SameLinks.refl s
  · split
    · exact SameLinks.refl s
    · split
      · exact SameLinks.refl s
      · exact SameLinks.of_conns rfl rfl rfl rfl rfl

theorem login_links (lh : LoginHash) (s : Cluster B F) (d : Nat)
    (account token : String) : SameLinks s (s.login lh d account token) := by
  unfold login handleLoginReq bindUid
  split
  · split
    · exact SameLinks.refl s
    · simp only
      split
      · exact (unregister_links s _ d).trans
          (SameLinks.of_conns rfl rfl rfl rfl rfl)
      · exact SameLinks.of_conns rfl rfl rfl rfl rfl
  · exact SameLinks.refl s

theorem request_links {codec : Codec B F} (gc : GateCodec codec) (s : Cluster B F)
    (d : Nat) (msgId : MsgId) (body : B) :
    SameLinks s (request gc s d msgId body) := by
  unfold request forwardClientMsgToGame
  split
  · simp only
    split
    · exact SameLinks.refl s
    · split
      · exact SameLinks.refl s
      · have hsession : SameLinks s (s.setSession d
            { s.sessions d with
              sentAs := (s.sessions d).uid :: (s.sessions d).sentAs }) :=
          SameLinks.of_conns rfl rfl rfl rfl rfl
        exact hsession.trans (postMessage_links _ _ _ _ _)
  · exact SameLinks.refl s

theorem closeSession_links {codec : Codec B F} (gc : GateCodec codec)
    (s : Cluster B F) (d : Nat) : SameLinks s (closeSession gc s d) := by
  have hclosed : SameLinks s ((s.unregister (s.sessions d).uid d).setSession d
      { s.sessions d with isOpen := false }) :=
    (unregister_links s _ d).trans (SameLinks.of_conns rfl rfl rfl rfl rfl)
  have hnotified : forall t : Cluster B F,
      SameLinks t (notifyGameServerDisconnect gc t d) := by
    intro t
    unfold notifyGameServerDisconnect
    simp only
    split
    · exact SameLinks.refl t
    · exact postMessage_links _ _ _ _ _
  unfold closeSession
  simp only
  split
  · refine (hclosed.trans (hnotified _)).trans ?_
    exact SameLinks.of_conns rfl rfl rfl rfl rfl
  · exact SameLinks.refl s

theorem accept_links (s : Cluster B F) (w : Nat) : SameLinks s (s.accept w) := by
  unfold accept
  split
  · exact SameLinks.of_conns rfl rfl rfl rfl rfl
  · exact SameLinks.refl s

theorem write_links (s : Cluster B F) (c : Nat) : SameLinks s (s.write c) := by
  unfold write
  split
  · exact SameLinks.refl s
  · split
    · exact SameLinks.setConn _ _
    · exact SameLinks.refl s

theorem arrive_links (codec : Codec B F) (s : Cluster B F) (c : Nat) :
    SameLinks s (s.arrive codec c) := by
  unfold arrive
  split
  · exact SameLinks.refl s
  · rename_i packet rest _
    exact (SameLinks.setConn (s := s) (c := c) (s.conns c).sendQue rest).trans
      (SameLinks.of_conns rfl rfl rfl rfl rfl)

theorem receive_links (s : Cluster B F) (c : Nat) (stamp : OutStamp)
    (msg : ServerMsg F) : SameLinks s (s.receive c stamp msg) := by
  unfold receive
  simp only
  split
  · exact SameLinks.of_conns rfl rfl rfl rfl rfl
  · exact SameLinks.refl s

theorem sendToUid_links (w : Nat) (msg : ServerMsg F) (s : Cluster B F)
    (stamp : OutStamp) : SameLinks s (sendToUid w msg s stamp) := by
  unfold sendToUid
  split
  · exact receive_links s _ stamp msg
  · split
    · exact SameLinks.refl s
    · exact SameLinks.of_conns rfl rfl rfl rfl rfl

/-!
## Steps of the connections
-/

/-- A connection keeps its route and carries what is addressed to it. -/
theorem Linked.setConn (h : Linked s) {c : Nat} {conn : Conn B F}
    (hroute : conn.route = (s.conns c).route)
    (hstate : conn.state = ConnState.connecting ->
      (s.conns c).state = ConnState.connecting)
    (hidle : conn.route.generation = 0 -> conn.backWire = [] ∧ conn.backQue = [])
    (hcarried : forall envelope stamp, envelope ∈ conn.backWire ++ conn.backQue ->
      stamp ∈ envelope.targets -> stamp.route = conn.route) :
    Linked (s.setConn c conn) := by
  have hroutes : forall c', ((s.setConn c conn).conns c').route =
      (s.conns c').route := by
    intro c'
    unfold Cluster.setConn
    by_cases hc : c' = c
    · subst hc
      simp [hroute]
    · simp [hc]
  constructor
  · intro net linkId c' hc'
    rw [hroutes]
    exact h.slots net linkId c' hc'
  · intro c' hgeneration
    rw [hroutes] at hgeneration ⊢
    rcases h.bound c' hgeneration with ⟨hlt, hconnected, hle⟩
    refine ⟨hlt, ?_, hle⟩
    by_cases hc : c' = c
    · subst hc
      simp only [Cluster.setConn, Function.update_self]
      exact fun hconnecting => hconnected (hstate hconnecting)
    · simp only [Cluster.setConn, Function.update_of_ne hc]
      exact hconnected
  · intro c₁ c₂
    rw [hroutes, hroutes]
    exact h.unique c₁ c₂
  · intro c' hgeneration
    by_cases hc : c' = c
    · subst hc
      simp only [Cluster.setConn, Function.update_self] at hgeneration ⊢
      exact hidle hgeneration
    · simp only [Cluster.setConn, Function.update_of_ne hc] at hgeneration ⊢
      exact h.idle c' hgeneration
  · intro c' envelope stamp
    by_cases hc : c' = c
    · subst hc
      simp only [Cluster.setConn, Function.update_self]
      exact hcarried envelope stamp
    · simp only [Cluster.setConn, Function.update_of_ne hc]
      exact h.carried c' envelope stamp
  · exact h.posted
  · exact h.nets

theorem breakConn_linked (h : Linked s) (c : Nat) : Linked (s.breakConn c) := by
  apply h.setConn
  · rfl
  · intro hconnecting
    cases hconnecting
  · intro hgeneration
    exact ⟨(h.idle c hgeneration).left, rfl⟩
  · intro envelope stamp henvelope
    apply h.carried c envelope stamp
    rw [List.append_nil] at henvelope
    exact List.mem_append_left _ henvelope

theorem cutConn_linked (h : Linked s) (c : Nat) : Linked (s.cutConn c) := by
  unfold cutConn
  split
  · apply h.setConn
    · rfl
    · exact id
    · intro hgeneration
      exact ⟨rfl, (h.idle c hgeneration).right⟩
    · intro envelope stamp henvelope
      apply h.carried c envelope stamp
      rw [List.nil_append] at henvelope
      exact List.mem_append_right _ henvelope
  · exact h

theorem writeBack_linked (h : Linked s) (c : Nat) : Linked (s.writeBack c) := by
  unfold writeBack
  split
  · exact h
  · rename_i envelope rest hque
    apply h.setConn
    · rfl
    · exact id
    · intro hgeneration
      have hnone := (h.idle c hgeneration).right
      rw [hque] at hnone
      cases hnone
    · intro envelope' stamp henvelope
      apply h.carried c envelope' stamp
      rw [hque]
      simpa using henvelope

/-- The gateway takes the first envelope from the wire. -/
theorem popBack_linked (h : Linked s) {c : Nat} {envelope : OutEnvelope F}
    {rest : List (OutEnvelope F)} (hwire : (s.conns c).backWire = envelope :: rest) :
    Linked (s.setConn c { s.conns c with backWire := rest }) := by
  apply h.setConn
  · rfl
  · exact id
  · intro hgeneration
    have hnone := (h.idle c hgeneration).left
    rw [hwire] at hnone
    cases hnone
  · intro envelope' stamp henvelope
    apply h.carried c envelope' stamp
    rw [hwire]
    exact List.mem_cons_of_mem envelope henvelope

/-- A network shard hands a target over to the connection that it is addressed to. -/
theorem sendToTarget_linked (h : Linked s) {net : Nat} (task : OutTask F)
    {target : OutTarget} (htarget : forall stamp, stamp ∈ target.uids ->
      stamp.route = ⟨net, target.linkId, target.generation⟩) :
    Linked (sendToTarget net task s target) := by
  unfold sendToTarget
  simp only
  split
  · exact h
  · rename_i hgeneration
    rw [ne_eq, not_not] at hgeneration
    split
    · exact h
    · rename_i c hc
      have hslot := h.slots net target.linkId c hc
      split
      · apply h.setConn
        · rfl
        · exact id
        · intro hzero
          rw [hslot.right] at hzero
          exact absurd hzero hslot.left
        · intro envelope stamp henvelope hstamp
          have hkept : forall e, e ∈ (if (s.conns c).backQue.length ≥
              kMaxSendQueueDepth then (s.conns c).backQue.tail
              else (s.conns c).backQue) -> e ∈ (s.conns c).backQue := by
            intro e he
            split at he
            · exact List.mem_of_mem_tail he
            · exact he
          rw [← List.append_assoc] at henvelope
          cases List.mem_append.mp henvelope with
          | inl hold =>
              apply h.carried c envelope stamp _ hstamp
              cases List.mem_append.mp hold with
              | inl hwire => exact List.mem_append_left _ hwire
              | inr hque => exact List.mem_append_right _ (hkept _ hque)
          | inr hnew =>
              rw [List.mem_singleton.mp hnew] at hstamp
              rw [htarget stamp hstamp, hslot.right, hgeneration]
      · exact h

theorem connect_linked (h : Linked s) (c net linkId : Nat) :
    Linked (s.connect c net linkId) := by
  unfold connect
  split
  · rename_i hfree
    rcases hfree with ⟨hlt, hconnecting, hnet, _⟩
    have hunbound : (s.conns c).route.generation = 0 := by
      by_contra hgeneration
      exact (h.bound c hgeneration).right.left hconnecting
    -- No connection has the route with the next generation.
    have hnew : forall c', (s.conns c').route ≠
        ⟨net, linkId, (s.slots net linkId).1 + 1⟩ := by
      intro c' hroute
      have hbound := h.bound c' (by
        rw [hroute]
        exact Nat.succ_ne_zero _)
      rw [hroute] at hbound
      exact Nat.not_succ_le_self _ hbound.right.right
    have hslot : forall net' linkId', (s.slots net' linkId').1 ≤
        (Function.update s.slots net (Function.update (s.slots net) linkId
          ((s.slots net linkId).1 + 1, some c)) net' linkId').1 := by
      intro net' linkId'
      by_cases hn : net' = net
      · subst hn
        rw [Function.update_self]
        by_cases hl : linkId' = linkId
        · subst hl
          rw [Function.update_self]
          exact Nat.le_succ _
        · rw [Function.update_of_ne hl]
      · rw [Function.update_of_ne hn]
    constructor
    · intro net' linkId' c' hc'
      simp only [setConn] at hc' ⊢
      by_cases hsame : net' = net ∧ linkId' = linkId
      · rcases hsame with ⟨rfl, rfl⟩
        simp only [Function.update_self] at hc' ⊢
        cases hc'
        rw [Function.update_self]
        exact ⟨Nat.succ_ne_zero _, rfl⟩
      · have hold : Function.update s.slots net (Function.update (s.slots net) linkId
            ((s.slots net linkId).1 + 1, some c)) net' linkId' =
            s.slots net' linkId' := by
          by_cases hn : net' = net
          · subst hn
            have hl : linkId' ≠ linkId := fun heq => hsame ⟨rfl, heq⟩
            rw [Function.update_self, Function.update_of_ne hl]
          · rw [Function.update_of_ne hn]
        rw [hold] at hc' ⊢
        have hbefore := h.slots net' linkId' c' hc'
        have hne : c' ≠ c := by
          intro heq
          rw [heq] at hbefore
          rw [hbefore.right] at hunbound
          exact hbefore.left hunbound
        rw [Function.update_of_ne hne]
        exact hbefore
    · intro c' hgeneration
      by_cases hc : c' = c
      · subst hc
        simp only [setConn, Function.update_self] at hgeneration ⊢
        exact ⟨hlt, by decide, Nat.le_refl _⟩
      · simp only [setConn, Function.update_of_ne hc] at hgeneration ⊢
        rcases h.bound c' hgeneration with ⟨hlt', hstate, hle⟩
        exact ⟨hlt', hstate, Nat.le_trans hle (hslot _ _)⟩
    · intro c₁ c₂ hgeneration heq
      by_cases h₁ : c₁ = c
      · subst h₁
        by_cases h₂ : c₂ = c₁
        · exact h₂
        · simp only [setConn, Function.update_self, Function.update_of_ne h₂] at heq
          exact absurd heq (hnew c₂)
      · by_cases h₂ : c₂ = c
        · subst h₂
          simp only [setConn, Function.update_self, Function.update_of_ne h₁] at heq
          exact absurd heq.symm (hnew c₁)
        · simp only [setConn, Function.update_of_ne h₁,
            Function.update_of_ne h₂] at hgeneration heq
          exact h.unique c₁ c₂ hgeneration heq
    · intro c' hgeneration
      by_cases hc : c' = c
      · subst hc
        simp only [setConn, Function.update_self]
        exact h.idle c' hunbound
      · simp only [setConn, Function.update_of_ne hc] at hgeneration ⊢
        exact h.idle c' hgeneration
    · intro c' envelope stamp henvelope
      by_cases hc : c' = c
      · subst hc
        simp only [setConn, Function.update_self] at henvelope
        rw [(h.idle c' hunbound).left, (h.idle c' hunbound).right] at henvelope
        cases henvelope
      · simp only [setConn, Function.update_of_ne hc] at henvelope ⊢
        exact h.carried c' envelope stamp henvelope
    · exact h.posted
    · exact h.nets
  · exact h

theorem rebuild_linked (h : Linked s) (w i : Nat) : Linked (rebuild w s i) := by
  unfold rebuild
  split
  · exact h
  · have hunbound : (s.conns s.connCount).route.generation = 0 := by
      by_contra hgeneration
      exact Nat.lt_irrefl _ (h.bound _ hgeneration).left
    have hother : forall c, (Function.update s.conns s.connCount (newConn w)
        c).route.generation ≠ 0 -> c ≠ s.connCount := by
      intro c hgeneration heq
      rw [heq, Function.update_self] at hgeneration
      exact hgeneration rfl
    constructor
    · intro net linkId c hc
      have hslot := h.slots net linkId c hc
      have hne : c ≠ s.connCount := by
        intro heq
        rw [← heq, hslot.right] at hunbound
        exact hslot.left hunbound
      simp only [Function.update_of_ne hne]
      exact hslot
    · intro c hgeneration
      have hne := hother c hgeneration
      simp only [Function.update_of_ne hne] at hgeneration ⊢
      rcases h.bound c hgeneration with ⟨hlt, hrest⟩
      exact ⟨Nat.lt_succ_of_lt hlt, hrest⟩
    · intro c₁ c₂ hgeneration heq
      have h₁ := hother c₁ hgeneration
      have h₂ := hother c₂ (by
        rw [heq]
        exact hgeneration)
      simp only [Function.update_of_ne h₁, Function.update_of_ne h₂] at hgeneration heq
      exact h.unique c₁ c₂ hgeneration heq
    · intro c hgeneration
      by_cases hc : c = s.connCount
      · simp only [hc, Function.update_self]
        exact ⟨rfl, rfl⟩
      · simp only [Function.update_of_ne hc] at hgeneration ⊢
        exact h.idle c hgeneration
    · intro c envelope stamp henvelope
      by_cases hc : c = s.connCount
      · simp only [hc, Function.update_self] at henvelope
        cases henvelope
      · simp only [Function.update_of_ne hc] at henvelope ⊢
        exact h.carried c envelope stamp henvelope
    · exact h.posted
    · exact h.nets

/-- A task for a network shard joins its queue. -/
theorem postToNetwork_linked (h : Linked s) {net : Nat} {task : OutTask F}
    (htask : forall target stamp, target ∈ task.targets -> stamp ∈ target.uids ->
      stamp.route = ⟨net, target.linkId, target.generation⟩) :
    Linked (s.postToNetwork net task) := by
  unfold postToNetwork
  split
  · exact h
  · rename_i hnet
    constructor
    · exact h.slots
    · exact h.bound
    · exact h.unique
    · exact h.idle
    · exact h.carried
    · intro net' task' target stamp htask'
      by_cases hn : net' = net
      · subst hn
        simp only [Function.update_self] at htask'
        cases List.mem_append.mp htask' with
        | inl hold =>
            exact h.posted net' task' target stamp hold
        | inr hnew =>
            rw [List.mem_singleton.mp hnew]
            exact htask target stamp
      · simp only [Function.update_of_ne hn] at htask'
        exact h.posted net' task' target stamp htask'
    · intro net' hge
      have hn : net' ≠ net := by
        intro heq
        rw [heq] at hge
        exact hnet hge
      simp only [Function.update_of_ne hn]
      exact h.nets net' hge

/-- The stamps of a target are those of its link. -/
theorem groupTargets_route {stamps : List OutStamp} {net : Nat}
    {target : OutTarget} (htarget : target ∈ groupTargets stamps net)
    {stamp : OutStamp} (hstamp : stamp ∈ target.uids) :
    stamp.route = ⟨net, target.linkId, target.generation⟩ := by
  unfold groupTargets at htarget
  simp only at htarget
  rcases List.mem_map.mp htarget with ⟨link, _, rfl⟩
  have hboth := List.mem_filter.mp hstamp
  have hlink : (stamp.route.linkId, stamp.route.generation) = link :=
    of_decide_eq_true hboth.right
  have hnet : stamp.route.netShard = net :=
    of_decide_eq_true (List.mem_filter.mp hboth.left).right
  rw [← hlink, ← hnet]

theorem postLoop_linked (h : Linked s) (stamps : List OutStamp) (msg : ServerMsg F)
    (seq : Nat) (nets : List Nat) :
    Linked (nets.foldl
      (fun s net => s.postToNetwork net ⟨groupTargets stamps net, msg, seq⟩) s) := by
  induction nets generalizing s with
  | nil =>
      exact h
  | cons net rest ih =>
      apply ih
      apply postToNetwork_linked h
      intro target stamp htarget hstamp
      exact groupTargets_route htarget hstamp

theorem sendEvent_linked (h : Linked s) (shardId : Nat) (e : ShardEvent F) :
    Linked (sendEvent shardId s e) := by
  cases e with
  | sent uids targets msg seq =>
      have hposted := postLoop_linked h (s.stampTargets shardId targets) msg seq
        ((s.stampTargets shardId targets).map fun stamp =>
          stamp.route.netShard).dedup
      refine SameLinks.linked ?_ hposted
      exact SameLinks.of_conns rfl rfl rfl rfl rfl
  | ran call room =>
      exact h

end Cluster

end RtsGame
