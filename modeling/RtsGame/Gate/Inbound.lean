import RtsGame.Gate.Cluster
import RtsGame.Library.Lanes

/-!
# The order of requests

The packets of a client go round the connections of a pool.  Each connection
keeps its packets in order and a logic shard handles its tasks in the order in
which they were posted, but a packet can be faster than an earlier one on
another connection.
-/

namespace RtsGame

namespace Cluster

variable {B F : Type} {s s' : Cluster B F}

/-!
## Packets as items on lanes
-/

def inLabels : Labels Stamp Nat := ⟨Stamp.index, Stamp.conn, Stamp.inFlight⟩

/-- What a connection carries, the next to arrive first. -/
def flight (s : Cluster B F) (c : Nat) : List Stamp :=
  ((s.conns c).wire ++ (s.conns c).sendQue).map InPacket.stamp

/-- The stamps of the tasks that a logic shard has not handled. -/
def queued (s : Cluster B F) (k : Nat) : List Stamp :=
  (s.server.queues k).map fun task => task.body.1

/-- The stamps of the tasks that a logic shard has handled. -/
def handledAt (k : Nat) (past : List Handled) : List Stamp :=
  (past.filter fun handled => handled.shardId = k).map Handled.stamp

structure Inbound (past : List Handled) (s : Cluster B F) : Prop where
  lanes : forall k,
    Lanes inLabels s.flight (handledAt k past ++ s.queued k) s.nextIndex
  unmade : forall c, s.connCount ≤ c ->
    (s.conns c).state ≠ ConnState.connected ∧ s.flight c = []

theorem inbound_create (workShardCount netShardCount logicShardCount : Nat) :
    Inbound [] (create workShardCount netShardCount logicShardCount :
      Cluster B F) where
  lanes := fun _ => Lanes.empty inLabels 0
  unmade := fun _ _ => ⟨by simp [create, newConn], rfl⟩

theorem mem_inFlight {past : List Handled} (h : Inbound past s) {c : Nat}
    {stamp : Stamp} (hstamp : stamp ∈ s.flight c) : stamp.index ∈ s.inFlight := by
  have hlt : c < s.connCount := by
    by_contra hge
    rw [(h.unmade c (Nat.not_lt.mp hge)).right] at hstamp
    cases hstamp
  unfold inFlight
  rw [List.mem_flatMap]
  refine ⟨c, List.mem_range.mpr hlt, ?_⟩
  unfold flight at hstamp
  rw [List.mem_map] at hstamp ⊢
  rcases hstamp with ⟨packet, hpacket, rfl⟩
  exact ⟨packet, hpacket, rfl⟩

/-!
## Steps that send and deliver nothing
-/

/-- Nothing on the way to the logic shards has changed. -/
structure SameInbound (s s' : Cluster B F) : Prop where
  connCount : s'.connCount = s.connCount
  nextIndex : s'.nextIndex = s.nextIndex
  wire : forall c, (s'.conns c).wire = (s.conns c).wire
  sendQue : forall c, (s'.conns c).sendQue = (s.conns c).sendQue
  state : forall c, (s'.conns c).state = (s.conns c).state
  queues : s'.server.queues = s.server.queues

namespace SameInbound

theorem refl (s : Cluster B F) : SameInbound s s :=
  ⟨rfl, rfl, fun _ => rfl, fun _ => rfl, fun _ => rfl, rfl⟩

theorem trans {s'' : Cluster B F} (h : SameInbound s s')
    (h' : SameInbound s' s'') : SameInbound s s'' where
  connCount := h'.connCount.trans h.connCount
  nextIndex := h'.nextIndex.trans h.nextIndex
  wire := fun c => (h'.wire c).trans (h.wire c)
  sendQue := fun c => (h'.sendQue c).trans (h.sendQue c)
  state := fun c => (h'.state c).trans (h.state c)
  queues := h'.queues.trans h.queues

/-- Connections are untouched altogether. -/
theorem of_conns (hcount : s'.connCount = s.connCount)
    (hnext : s'.nextIndex = s.nextIndex) (hconns : s'.conns = s.conns)
    (hqueues : s'.server.queues = s.server.queues) : SameInbound s s' where
  connCount := hcount
  nextIndex := hnext
  wire := fun c => by rw [hconns]
  sendQue := fun c => by rw [hconns]
  state := fun c => by rw [hconns]
  queues := hqueues

/-- A connection changes only in what it brings back. -/
theorem setConn {c : Nat} {conn : Conn B F} (hwire : conn.wire = (s.conns c).wire)
    (hque : conn.sendQue = (s.conns c).sendQue)
    (hstate : conn.state = (s.conns c).state) : SameInbound s (s.setConn c conn) := by
  have hsame : forall c', (s.setConn c conn).conns c' =
      if c' = c then conn else s.conns c' := by
    intro c'
    unfold Cluster.setConn
    exact Function.update_apply _ _ _ _
  constructor
  · rfl
  · rfl
  · intro c'
    rw [hsame]
    split
    · rename_i h
      rw [h]
      exact hwire
    · rfl
  · intro c'
    rw [hsame]
    split
    · rename_i h
      rw [h]
      exact hque
    · rfl
  · intro c'
    rw [hsame]
    split
    · rename_i h
      rw [h]
      exact hstate
    · rfl
  · rfl

theorem flight (h : SameInbound s s') : s'.flight = s.flight := by
  funext c
  unfold Cluster.flight
  rw [h.wire, h.sendQue]

theorem inFlight (h : SameInbound s s') : s'.inFlight = s.inFlight := by
  unfold Cluster.inFlight
  rw [h.connCount]
  apply List.flatMap_congr
  intro c _
  rw [h.wire, h.sendQue]

theorem inbound {past : List Handled} (h : SameInbound s s')
    (hs : Inbound past s) : Inbound past s' where
  lanes := by
    intro k
    have hqueued : s'.queued k = s.queued k := by
      unfold queued
      rw [h.queues]
    rw [h.flight, h.nextIndex, hqueued]
    exact hs.lanes k
  unmade := by
    intro c hc
    rw [h.connCount] at hc
    rw [h.state, h.flight]
    exact hs.unmade c hc

end SameInbound

theorem Inbound.silent {past : List Handled} (h : Inbound past s) :
    Inbound (past ++ []) s := by
  rw [List.append_nil]
  exact h

/-!
## Sending
-/

/-- The pool turns, and a connection that it finds is available. -/
theorem selectConn_spec (w : Nat) (rounds : Nat) (s : Cluster B F) :
    SameInbound s (selectConn w rounds s).2 ∧
      forall c, (selectConn w rounds s).1 = some c ->
        (s.conns c).state = ConnState.connected := by
  induction rounds generalizing s with
  | zero =>
      exact ⟨SameInbound.refl s, fun _ h => by cases h⟩
  | succ rounds ih =>
      have hmoved : SameInbound s
          { s with
            rrIdx := Function.update s.rrIdx w ((s.rrIdx w + 1) % 2 ^ 64) } :=
        SameInbound.of_conns rfl rfl rfl rfl
      unfold selectConn
      simp only
      split
      · rename_i havailable
        refine ⟨hmoved, ?_⟩
        intro c hc
        cases hc
        simpa [isConnAvailable] using havailable
      · have hnext := ih
          { s with
            rrIdx := Function.update s.rrIdx w ((s.rrIdx w + 1) % 2 ^ 64) }
        exact ⟨hmoved.trans hnext.left, hnext.right⟩

/-- A packet joins the connection that it is stamped with. -/
theorem sendData_inbound {past : List Handled} (h : Inbound past s) {c : Nat}
    (hstate : (s.conns c).state = ConnState.connected) (packet : InPacket B)
    (hconn : packet.stamp.conn = c) (hindex : packet.stamp.index = s.nextIndex)
    (hseen : packet.stamp.inFlight = s.inFlight) :
    Inbound past { s.sendData c packet with nextIndex := s.nextIndex + 1 } := by
  have hlane : ((s.sendData c packet).flight c).Sublist
      (s.flight c ++ [packet.stamp]) := by
    have hkept : (if (s.conns c).sendQue.length ≥ kMaxSendQueueDepth then
        (s.conns c).sendQue.tail else (s.conns c).sendQue).Sublist
        (s.conns c).sendQue := by
      split
      · exact List.tail_sublist _
      · exact List.Sublist.refl _
    unfold flight sendData setConn
    simp only [Function.update_self]
    rw [← List.append_assoc, List.map_append]
    exact ((List.Sublist.append_left hkept _).map _).append_right _
  have hother : forall c', c' ≠ c ->
      (s.sendData c packet).flight c' = s.flight c' := by
    intro c' hc'
    simp [flight, sendData, setConn, hc']
  constructor
  · intro k
    apply (h.lanes k).send hindex
    · intro c' stamp hstamp
      show stamp.index ∈ packet.stamp.inFlight
      rw [hseen]
      exact mem_inFlight h hstamp
    · show ((s.sendData c packet).flight packet.stamp.conn).Sublist
        (s.flight packet.stamp.conn ++ [packet.stamp])
      rw [hconn]
      exact hlane
    · intro c' hc'
      rw [show inLabels.lane packet.stamp = c from hconn] at hc'
      show ((s.sendData c packet).flight c').Sublist (s.flight c')
      rw [hother c' hc']
  · intro c' hc'
    have hne : c' ≠ c := by
      intro heq
      rw [heq] at hc'
      exact (h.unmade c hc').left hstate
    constructor
    · simp only [sendData, setConn, Function.update_of_ne hne]
      exact (h.unmade c' hc').left
    · show (s.sendData c packet).flight c' = []
      rw [hother c' hne]
      exact (h.unmade c' hc').right

theorem postMessage_inbound {past : List Handled} (h : Inbound past s)
    (w session : Nat) (msgId : MsgId) (body : B) :
    Inbound past (s.postMessage w session msgId body) := by
  have hspec := selectConn_spec w kGameServerConnCnt s
  have hselected := hspec.left.inbound h
  unfold postMessage
  simp only
  split
  · exact hselected
  · rename_i c hc
    have hstate := hspec.right c hc
    rw [← hspec.left.state] at hstate
    have hsent := sendData_inbound hselected hstate
      ⟨⟨session, s.nextIndex, c, s.inFlight⟩, msgId, body⟩ rfl
      hspec.left.nextIndex.symm hspec.left.inFlight.symm
    rw [hspec.left.nextIndex] at hsent
    exact hsent

theorem unregister_same (s : Cluster B F) (uid c : Nat) :
    SameInbound s (s.unregister uid c) := by
  unfold unregister
  split
  · exact SameInbound.refl s
  · split
    · exact SameInbound.refl s
    · split
      · exact SameInbound.refl s
      · exact SameInbound.of_conns rfl rfl rfl rfl

theorem bindUid_same (s : Cluster B F) (c uid : Nat) :
    SameInbound s (s.bindUid c uid) := by
  unfold bindUid
  split
  · exact SameInbound.refl s
  · simp only
    split
    · exact (unregister_same s _ c).trans (SameInbound.of_conns rfl rfl rfl rfl)
    · exact SameInbound.of_conns rfl rfl rfl rfl

theorem forwardClientMsgToGame_inbound {past : List Handled}
    (h : Inbound past s) {codec : Codec B F} (gc : GateCodec codec) (c : Nat)
    (msgId : MsgId) (body : B) :
    Inbound past (forwardClientMsgToGame gc s c msgId body) := by
  unfold forwardClientMsgToGame
  simp only
  split
  · exact h
  · split
    · exact h
    · have hsame : SameInbound s (s.setSession c
          { s.sessions c with
            sentAs := (s.sessions c).uid :: (s.sessions c).sentAs }) :=
        SameInbound.of_conns rfl rfl rfl rfl
      exact postMessage_inbound (hsame.inbound h) _ _ _ _

theorem notifyGameServerDisconnect_inbound {past : List Handled}
    (h : Inbound past s) {codec : Codec B F} (gc : GateCodec codec) (c : Nat) :
    Inbound past (notifyGameServerDisconnect gc s c) := by
  unfold notifyGameServerDisconnect
  simp only
  split
  · exact h
  · exact postMessage_inbound h _ _ _ _

theorem closeSession_inbound {past : List Handled} (h : Inbound past s)
    {codec : Codec B F} (gc : GateCodec codec) (c : Nat) :
    Inbound past (closeSession gc s c) := by
  unfold closeSession
  simp only
  split
  · have hclosed : SameInbound s
        ((s.unregister (s.sessions c).uid c).setSession c
          { s.sessions c with isOpen := false }) :=
      (unregister_same s _ c).trans (SameInbound.of_conns rfl rfl rfl rfl)
    have hnotified :=
      notifyGameServerDisconnect_inbound (hclosed.inbound h) gc c
    apply SameInbound.inbound _ hnotified
    exact SameInbound.of_conns rfl rfl rfl rfl
  · exact h

/-!
## What comes back leaves the way in alone
-/

theorem receive_same (s : Cluster B F) (c : Nat) (stamp : OutStamp)
    (msg : ServerMsg F) : SameInbound s (s.receive c stamp msg) := by
  unfold receive
  simp only
  split
  · exact SameInbound.of_conns rfl rfl rfl rfl
  · exact SameInbound.refl s

theorem sendToUid_same (w : Nat) (msg : ServerMsg F) (s : Cluster B F)
    (stamp : OutStamp) : SameInbound s (sendToUid w msg s stamp) := by
  unfold sendToUid
  split
  · exact receive_same s _ stamp msg
  · split
    · exact SameInbound.refl s
    · exact SameInbound.of_conns rfl rfl rfl rfl

theorem postToNetwork_same (s : Cluster B F) (net : Nat) (task : OutTask F) :
    SameInbound s (s.postToNetwork net task) := by
  unfold postToNetwork
  split
  · exact SameInbound.refl s
  · exact SameInbound.of_conns rfl rfl rfl rfl

theorem sendEvent_same (shardId : Nat) (s : Cluster B F) (e : ShardEvent F) :
    SameInbound s (sendEvent shardId s e) := by
  cases e with
  | sent uids targets msg seq =>
      have hposted : forall stamps : List OutStamp, SameInbound s
          ((stamps.map fun stamp => stamp.route.netShard).dedup.foldl
            (fun s net => s.postToNetwork net ⟨groupTargets stamps net, msg, seq⟩)
            s) := by
        intro stamps
        apply foldl_rel SameInbound.refl SameInbound.trans
        intro s net
        exact postToNetwork_same s net _
      exact (hposted (s.stampTargets shardId targets)).trans
        (SameInbound.of_conns rfl rfl rfl rfl)
  | ran call room =>
      exact SameInbound.refl s

theorem sendToTarget_same (net : Nat) (task : OutTask F) (s : Cluster B F)
    (target : OutTarget) : SameInbound s (sendToTarget net task s target) := by
  unfold sendToTarget
  simp only
  split
  · exact SameInbound.refl s
  · split
    · exact SameInbound.refl s
    · split
      · exact SameInbound.setConn rfl rfl rfl
      · exact SameInbound.refl s

/-!
## Every step
-/

theorem rebuild_inbound {past : List Handled} (h : Inbound past s) (w i : Nat) :
    Inbound past (rebuild w s i) := by
  unfold rebuild
  split
  · exact h
  · have hflight : forall c, Cluster.flight
        { s with
          conns := Function.update s.conns s.connCount (newConn w)
          connCount := s.connCount + 1
          pool := Function.update s.pool w
            (Function.update (s.pool w) i s.connCount) } c = s.flight c := by
      intro c
      by_cases hc : c = s.connCount
      · subst hc
        rw [(h.unmade s.connCount (Nat.le_refl _)).right]
        simp [flight, newConn]
      · simp [flight, hc]
    constructor
    · intro k
      apply (h.lanes k).lose _ (Nat.le_refl _)
      intro c
      rw [hflight]
    · intro c hc
      have hlt : s.connCount < c := hc
      rw [hflight]
      refine ⟨?_, (h.unmade c (Nat.le_of_lt hlt)).right⟩
      simp only [Function.update_of_ne (Nat.ne_of_gt hlt)]
      exact (h.unmade c (Nat.le_of_lt hlt)).left

theorem handledAt_append (k : Nat) (past now : List Handled) :
    handledAt k (past ++ now) = handledAt k past ++ handledAt k now := by
  unfold handledAt
  rw [List.filter_append, List.map_append]

theorem accept_same (s : Cluster B F) (w : Nat) : SameInbound s (s.accept w) := by
  unfold accept
  split
  · exact SameInbound.of_conns rfl rfl rfl rfl
  · exact SameInbound.refl s

theorem login_same (lh : LoginHash) (s : Cluster B F) (c : Nat)
    (account token : String) : SameInbound s (s.login lh c account token) := by
  unfold login
  split
  · exact bindUid_same s c _
  · exact SameInbound.refl s

theorem request_inbound {past : List Handled} (h : Inbound past s)
    {codec : Codec B F} (gc : GateCodec codec) (c : Nat) (msgId : MsgId) (body : B) :
    Inbound past (request gc s c msgId body) := by
  unfold request
  split
  · exact forwardClientMsgToGame_inbound h gc c msgId body
  · exact h

/-- A connection changes, but carries at most what it carried. -/
theorem setConn_inbound {past : List Handled} (h : Inbound past s) (c : Nat)
    (conn : Conn B F)
    (hsub : ((conn.wire ++ conn.sendQue).map InPacket.stamp).Sublist (s.flight c))
    (hstate : conn.state = ConnState.connected -> c < s.connCount) :
    Inbound past (s.setConn c conn) := by
  have hflight : forall c', ((s.setConn c conn).flight c').Sublist (s.flight c') := by
    intro c'
    by_cases hc' : c' = c
    · subst hc'
      simpa [flight, setConn] using hsub
    · have hsame : (s.setConn c conn).flight c' = s.flight c' := by
        simp [flight, setConn, hc']
      rw [hsame]
  constructor
  · intro k
    exact (h.lanes k).lose hflight (Nat.le_refl _)
  · intro c' hc'
    have hunmade := h.unmade c' hc'
    constructor
    · by_cases heq : c' = c
      · subst heq
        intro hconnected
        simp only [setConn, Function.update_self] at hconnected
        exact Nat.not_lt.mpr hc' (hstate hconnected)
      · simp only [setConn, Function.update_of_ne heq]
        exact hunmade.left
    · have hnone := hflight c'
      rw [hunmade.right] at hnone
      exact List.sublist_nil.mp hnone

theorem connect_inbound {past : List Handled} (h : Inbound past s)
    (c net linkId : Nat) : Inbound past (s.connect c net linkId) := by
  unfold connect
  split
  · rename_i hfree
    have hconn := setConn_inbound h c
      { s.conns c with
        state := ConnState.connected
        route := ⟨net, linkId, (s.slots net linkId).1 + 1⟩ }
      (List.Sublist.refl _) (fun _ => hfree.left)
    apply SameInbound.inbound _ hconn
    exact SameInbound.of_conns rfl rfl rfl rfl
  · exact h

theorem breakConn_inbound {past : List Handled} (h : Inbound past s) (c : Nat) :
    Inbound past (s.breakConn c) := by
  apply setConn_inbound h
  · exact List.Sublist.refl _
  · intro hconnected
    cases hconnected

theorem cutConn_inbound {past : List Handled} (h : Inbound past s) (c : Nat) :
    Inbound past (s.cutConn c) := by
  unfold cutConn
  split
  · rename_i hclosed
    apply setConn_inbound h
    · unfold flight
      rw [List.nil_append, List.map_append]
      exact List.sublist_append_right _ _
    · intro hconnected
      rw [hclosed] at hconnected
      cases hconnected
  · exact h

theorem detect_inbound {past : List Handled} (h : Inbound past s) (w : Nat) :
    Inbound past (s.detect w) := by
  have hloop : forall (ids : List Nat) (s' : Cluster B F),
      Inbound past s' -> Inbound past (ids.foldl (rebuild w) s') := by
    intro ids
    induction ids with
    | nil =>
        intro s' hs'
        exact hs'
    | cons i rest ih =>
        intro s' hs'
        exact ih _ (rebuild_inbound hs' w i)
  unfold detect
  split
  · exact hloop _ s h
  · exact h

theorem write_inbound {past : List Handled} (h : Inbound past s) (c : Nat) :
    Inbound past (s.write c) := by
  unfold write
  split
  · exact h
  · rename_i packet rest hque
    split
    · apply setConn_inbound h
      · unfold flight
        rw [hque]
        simp
      · intro hconnected
        by_contra hge
        exact (h.unmade c (Nat.not_lt.mp hge)).left hconnected
    · exact h

theorem arrive_inbound {past : List Handled} (h : Inbound past s)
    (codec : Codec B F) (c : Nat) : Inbound past (s.arrive codec c) := by
  unfold arrive
  split
  · exact h
  rename_i packet rest hwire
  have hlane : s.flight c = packet.stamp ::
      (s.setConn c { s.conns c with wire := rest }).flight c := by
    simp [flight, setConn, hwire]
  have hother : forall c', c' ≠ c ->
      (s.setConn c { s.conns c with wire := rest }).flight c' = s.flight c' := by
    intro c' hc'
    simp [flight, setConn, hc']
  constructor
  · intro k
    have hone := GameServer.packetTasks_one codec.stamped s.server
      (s.conns c).route.netShard (s.conns c).route packet.msgId 0
      (packet.stamp, packet.body) k
    unfold queued
    rw [GameServer.onPacket_queue, List.map_append, ← List.append_assoc]
    cases hone.one with
    | inl hnone =>
        rw [hnone, List.map_nil, List.append_nil]
        apply (h.lanes k).lose _ (Nat.le_refl _)
        intro c'
        by_cases hc' : c' = c
        · subst hc'
          rw [hlane]
          exact List.sublist_cons_self _ _
        · exact (hother c' hc').symm ▸ List.Sublist.refl _
    | inr hsome =>
        rcases hsome with ⟨task, htask⟩
        have hbody : task.body = (packet.stamp, packet.body) := by
          apply hone.body
          rw [htask]
          exact List.mem_singleton.mpr rfl
        rw [htask, List.map_singleton, hbody]
        apply (h.lanes k).deliver hlane
        · exact List.Sublist.refl _
        · intro c' hc'
          exact (hother c' hc').symm ▸ List.Sublist.refl _
  · intro c' hc'
    have hne : c' ≠ c := by
      intro heq
      have hnone := (h.unmade c' hc').right
      rw [heq, hlane] at hnone
      cases hnone
    constructor
    · simp only [setConn, Function.update_of_ne hne]
      exact (h.unmade c' hc').left
    · show (s.setConn c { s.conns c with wire := rest }).flight c' = []
      rw [hother c' hne]
      exact (h.unmade c' hc').right

theorem netWork_same (s : Cluster B F) (net : Nat) : SameInbound s (s.netWork net) := by
  unfold netWork
  split
  · exact SameInbound.refl s
  · rename_i task rest _
    have hpopped : SameInbound s
        { s with netQueues := Function.update s.netQueues net rest } :=
      SameInbound.of_conns rfl rfl rfl rfl
    exact hpopped.trans (foldl_rel SameInbound.refl SameInbound.trans (sendToTarget_same net task) _ _)

theorem writeBack_same (s : Cluster B F) (c : Nat) : SameInbound s (s.writeBack c) := by
  unfold writeBack
  split
  · exact SameInbound.refl s
  · exact SameInbound.setConn rfl rfl rfl

theorem arriveBack_same (s : Cluster B F) (c : Nat) :
    SameInbound s (s.arriveBack c) := by
  unfold arriveBack
  split
  · exact SameInbound.refl s
  · rename_i envelope rest _
    have hpopped : SameInbound s
        (s.setConn c { s.conns c with backWire := rest }) :=
      SameInbound.setConn rfl rfl rfl
    exact hpopped.trans (foldl_rel SameInbound.refl SameInbound.trans (sendToUid_same _ envelope.msg) _ _)

theorem postWork_same (s : Cluster B F) (w : Nat) : SameInbound s (s.postWork w) := by
  unfold postWork
  split
  · exact SameInbound.refl s
  · rename_i post rest _
    have hpopped : SameInbound s
        { s with posts := Function.update s.posts w rest } :=
      SameInbound.of_conns rfl rfl rfl rfl
    exact hpopped.trans (receive_same _ _ _ _)

variable [Scalar F]

/-- What a shard has handled and has yet to handle is the same after it has worked. -/
theorem work_queued (codec : Codec (Stamp × B) F) (ω : Orders)
    (g : GameServer (Stamp × B) F) (shardId k : Nat) :
    handledAt k (((g.queues shardId).take 1).map fun task =>
        (⟨shardId, task.body.1⟩ : Handled)) ++
      (((GameServer.work codec ω g shardId).1.queues k).map
        fun task => task.body.1) =
      (g.queues k).map fun task => task.body.1 := by
  unfold GameServer.work
  cases hqueue : g.queues shardId with
  | nil =>
      rfl
  | cons task rest =>
      by_cases hk : k = shardId
      · subst hk
        simp [handledAt, hqueue]
      · simp [handledAt, hk, Ne.symm hk]

theorem work_inbound {past : List Handled} (h : Inbound past s)
    (codec : Codec B F) (shardId : Nat) (ω : Orders) :
    Inbound (past ++ ((s.server.queues shardId).take 1).map fun task =>
      ⟨shardId, task.body.1⟩) (s.work codec shardId ω) := by
  unfold work
  simp only
  apply SameInbound.inbound (foldl_rel SameInbound.refl SameInbound.trans (sendEvent_same shardId) _ _)
  constructor
  · intro k
    have hqueued := work_queued codec.stamped ω s.server shardId k
    unfold queued
    rw [handledAt_append, List.append_assoc, hqueued]
    exact h.lanes k
  · exact h.unmade

theorem tick_same (s : Cluster B F) (shardId : Nat) (ω : Orders) :
    SameInbound s (s.tick shardId ω) := by
  have hticked : SameInbound s
      { s with server := (GameServer.tick ω s.server shardId).1 } :=
    SameInbound.of_conns rfl rfl rfl rfl
  exact hticked.trans (foldl_rel SameInbound.refl SameInbound.trans (sendEvent_same shardId) _ _)

theorem handle_inbound {codec : Codec B F} (gc : GateCodec codec) (lh : LoginHash)
    {past : List Handled} (h : Inbound past s) (input : ClusterInput B) :
    Inbound (past ++ (handle gc lh s input).2) (handle gc lh s input).1 := by
  cases input with
  | accepts w => exact ((accept_same s w).inbound h).silent
  | logsIn c account token => exact ((login_same lh s c account token).inbound h).silent
  | requests c msgId body => exact (request_inbound h gc c msgId body).silent
  | closes c => exact (closeSession_inbound h gc c).silent
  | connects c net linkId => exact (connect_inbound h c net linkId).silent
  | breaks c => exact (breakConn_inbound h c).silent
  | cuts c => exact (cutConn_inbound h c).silent
  | detects w => exact (detect_inbound h w).silent
  | writes c => exact (write_inbound h c).silent
  | arrives c => exact (arrive_inbound h codec c).silent
  | works shardId ω => exact work_inbound h codec shardId ω
  | ticks shardId ω => exact ((tick_same s shardId ω).inbound h).silent
  | netWorks net => exact ((netWork_same s net).inbound h).silent
  | writesBack c => exact ((writeBack_same s c).inbound h).silent
  | arrivesBack c => exact ((arriveBack_same s c).inbound h).silent
  | postWorks w => exact ((postWork_same s w).inbound h).silent

theorem run_inbound {codec : Codec B F} (gc : GateCodec codec) (lh : LoginHash)
    (workShardCount netShardCount logicShardCount : Nat)
    (inputs : List (ClusterInput B)) :
    Inbound (run gc lh workShardCount netShardCount logicShardCount inputs).2
      (run gc lh workShardCount netShardCount logicShardCount inputs).1 :=
  runMachine_invariant Inbound (fun _ _ input h => handle_inbound gc lh h input) []
    _ (inbound_create workShardCount netShardCount logicShardCount) inputs

/-!
## The order in which requests are handled
-/

/-- The tasks of one client that one shard has handled, first to last. -/
def handledFrom (session k : Nat) (past : List Handled) : List Stamp :=
  (handledAt k past).filter fun stamp => stamp.session = session

/--
In every run, a logic shard handles the packets of a client in the order in
which they were sent, but for packets on different connections of which the
earlier one was still in flight when the later one was sent.
-/
theorem run_requests_in_order {codec : Codec B F} (gc : GateCodec codec)
    (lh : LoginHash) (workShardCount netShardCount logicShardCount : Nat)
    (inputs : List (ClusterInput B)) (session k : Nat) :
    (handledFrom session k
      (run gc lh workShardCount netShardCount logicShardCount inputs).2).Pairwise
      fun first second => second.index < first.index ->
        second.conn ≠ first.conn ∧ second.index ∈ first.inFlight := by
  have hlanes := (run_inbound gc lh workShardCount netShardCount logicShardCount
    inputs).lanes k
  have horder := (List.pairwise_append.mp hlanes.order).left
  exact horder.filter _

/-- A client creates a room and leaves it; the second request is faster. -/
def createAndLeave : List (ClusterInput (Wire Rat)) :=
  [ClusterInput.accepts 0, ClusterInput.logsIn 0 "account" "token",
    ClusterInput.connects 0 0 0, ClusterInput.connects 1 0 1,
    ClusterInput.requests 0 MsgId.createRoomReq (Wire.createRoom ⟨"", 2⟩),
    ClusterInput.requests 0 MsgId.leaveRoomReq (Wire.leaveRoom 1),
    ClusterInput.writes 0, ClusterInput.writes 1, ClusterInput.arrives 1,
    ClusterInput.arrives 0, ClusterInput.works 0 Orders.stored,
    ClusterInput.works 0 Orders.stored]

theorem createAndLeave_out_of_order :
    ¬ (handledFrom 0 0
        (run Wire.gateCodec LoginHash.byAccount 1 1 1 createAndLeave).2).Pairwise
      fun first second => first.index < second.index := by
  decide +kernel

end Cluster

end RtsGame
