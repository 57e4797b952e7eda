import RtsGame.Gate.Inbound
import RtsGame.Gate.Registry
import RtsGame.Server.Memory

/-!
# Players who have left

When a session is closed, the gateway tells the game server to forget the player
it is bound to.  Two things are missed.  A session that logged in again has had
another uid, of which nobody tells the game server.  And the notice can be faster
than a request on another connection, which makes a shard remember the player
again.  Nothing else is missed.
-/

namespace RtsGame

namespace Cluster

variable {B F : Type} {s s' : Cluster B F}

/-!
## Packets under way
-/

/-- A packet is on its way to the game server. -/
def Travels (s : Cluster B F) (packet : InPacket B) : Prop :=
  exists c, packet ∈ (s.conns c).wire ++ (s.conns c).sendQue

def IsRequestOf (codec : Codec B F) (packet : InPacket B) (u : Nat) : Prop :=
  packet.msgId = MsgId.gateToGameEnvelope ∧
    exists msgId payload, registersForward msgId = true ∧
      codec.envelope packet.body = some (buildGateToGameEnvelope u msgId payload)

def IsNoticeOf (codec : Codec B F) (packet : InPacket B) (u : Nat) : Prop :=
  packet.msgId = MsgId.clientDisconnectedNtf ∧
    codec.disconnectedUid packet.body = some u

/-- A shard remembers a player once it has handled its queue. -/
def Remembers (codec : Codec B F) (s : Cluster B F) (k u : Nat) : Prop :=
  u ∈ GameServer.routesToBe codec.stamped s.server k

/-- Something under way, in a queue or in a shard is about a player. -/
def Alive (codec : Codec B F) (s : Cluster B F) (u : Nat) : Prop :=
  (exists packet, Travels s packet ∧ IsRequestOf codec packet u) ∨
    exists k, k < s.server.logicShardCount ∧ Remembers codec s k u

def NoticeTravels (codec : Codec B F) (s : Cluster B F) (u : Nat) : Prop :=
  exists packet, Travels s packet ∧ IsNoticeOf codec packet u

theorem IsRequestOf.uid_eq {codec : Codec B F} {packet : InPacket B} {u u' : Nat}
    (h : IsRequestOf codec packet u) (h' : IsRequestOf codec packet u') : u = u' := by
  rcases h with ⟨_, msgId, payload, _, henvelope⟩
  rcases h' with ⟨_, msgId', payload', _, henvelope'⟩
  rw [henvelope] at henvelope'
  exact congrArg GateToGameEnvelope.uid (Option.some.inj henvelope')

theorem IsNoticeOf.uid_eq {codec : Codec B F} {packet : InPacket B} {u u' : Nat}
    (h : IsNoticeOf codec packet u) (h' : IsNoticeOf codec packet u') : u = u' := by
  have heq := h.right.symm.trans h'.right
  exact Option.some.inj heq

theorem IsRequestOf.not_notice {codec : Codec B F} {packet : InPacket B} {u u' : Nat}
    (h : IsRequestOf codec packet u) : ¬ IsNoticeOf codec packet u' := by
  intro h'
  have heq := h.left.symm.trans h'.left
  cases heq

theorem SameInbound.travels (h : SameInbound s s') (packet : InPacket B) :
    Travels s' packet <-> Travels s packet := by
  unfold Travels
  simp only [h.wire, h.sendQue]

theorem remembers_congr {codec : Codec B F} (hserver : s'.server = s.server)
    (k u : Nat) : Remembers codec s' k u <-> Remembers codec s k u := by
  unfold Remembers
  rw [hserver]

theorem noticeTravels_congr {codec : Codec B F}
    (htravels : forall packet, Travels s' packet <-> Travels s packet) (u : Nat) :
    NoticeTravels codec s' u <-> NoticeTravels codec s u := by
  unfold NoticeTravels
  simp only [htravels]

theorem alive_congr {codec : Codec B F}
    (htravels : forall packet, Travels s' packet <-> Travels s packet)
    (hshards : s'.server.logicShardCount = s.server.logicShardCount)
    (hremembers : forall k u, Remembers codec s' k u <-> Remembers codec s k u)
    (u : Nat) : Alive codec s' u <-> Alive codec s u := by
  unfold Alive
  simp only [htravels, hremembers, hshards]

/-!
## The assumption and the condition
-/

/-- The pool finds a connection whose queue is not full. -/
def canSend (s : Cluster B F) (w : Nat) : Bool :=
  match (selectConn w kGameServerConnCnt s).1 with
  | none => false
  | some c => (s.conns c).sendQue.length < kMaxSendQueueDepth

/-- Backend links stay available and no send queue overflows. -/
def Lossless (s : Cluster B F) : ClusterInput B -> Bool
  | ClusterInput.breaks _ => false
  | ClusterInput.cuts c => (s.conns c).state ≠ ConnState.closed
  | ClusterInput.requests c _ _ =>
      !(s.sessions c).isOpen || s.canSend (s.sessions c).shard
  | ClusterInput.closes c =>
      !(s.sessions c).isOpen || s.canSend (s.sessions c).shard
  | _ => true

/--
When the session is closed, all its requests have been sent under the uid it is
bound to; when its notice arrives, none of its packets is still under way.
-/
def Orderly (c : Nat) (s : Cluster B F) : ClusterInput B -> Prop
  | ClusterInput.closes c' =>
      c' = c -> (s.sessions c).isOpen = true ->
        forall u, u ∈ (s.sessions c).sentAs -> u = (s.sessions c).uid
  | ClusterInput.arrives conn =>
      forall notice rest, (s.conns conn).wire = notice :: rest ->
        notice.msgId = MsgId.clientDisconnectedNtf -> notice.stamp.session = c ->
          forall packet, Travels s packet -> packet.stamp.session = c ->
            notice.stamp.index ≤ packet.stamp.index
  | _ => True

/-!
## The invariants
-/

/-- All requests of the session have been sent under the uid it is bound to. -/
def Faithful (session : Csession F) : Prop :=
  forall u, u ∈ session.sentAs -> u = session.uid

/-- Sessions have uids of their own, and packets tell the uid of their session. -/
structure Carried (codec : Codec B F) (lh : LoginHash) (s : Cluster B F) : Prop where
  bound : forall d, (s.sessions d).uid ≠ 0 -> Owns lh d (s.sessions d).uid
  packets : forall packet, Travels s packet -> exists u,
    Owns lh packet.stamp.session u ∧
      (IsRequestOf codec packet u ∨ IsNoticeOf codec packet u)

/--
What the state of the cluster has to do with the run so far: `ok` tells whether
every step has been orderly for the session.
-/
structure Farewell (codec : Codec B F) (lh : LoginHash) (c : Nat) (ok : Prop)
    (s : Cluster B F) : Prop where
  owned : forall u, u ∈ (s.sessions c).boundUids -> Owns lh c u
  current : (s.sessions c).uid ≠ 0 ->
    (s.sessions c).uid ∈ (s.sessions c).boundUids
  sent : forall u, u ∈ (s.sessions c).sentAs ->
    u ∈ (s.sessions c).boundUids ∧ (s.sessions c).uid ≠ 0
  unmade : s.sessionCount ≤ c ->
    (s.sessions c).isOpen = false ∧ (s.sessions c).uid = 0
  mute : forall u, Owns lh c u ->
    (s.sessions c).isOpen = true ∨ u ≠ (s.sessions c).uid ->
      ¬ NoticeTravels codec s u ∧ (u ∈ (s.sessions c).sentAs <-> Alive codec s u)
  opened : (s.sessions c).isOpen = true ∨ (s.sessions c).uid = 0 -> ok
  noticed : (s.sessions c).isOpen = false -> (s.sessions c).uid ≠ 0 ->
    NoticeTravels codec s (s.sessions c).uid ->
      (ok <-> Faithful (s.sessions c))
  gone : (s.sessions c).isOpen = false -> (s.sessions c).uid ≠ 0 ->
    ¬ NoticeTravels codec s (s.sessions c).uid ->
      (ok <-> Faithful (s.sessions c) ∧ ¬ Alive codec s (s.sessions c).uid)
  last : forall packet notice u, Travels s packet -> Travels s notice ->
    packet.stamp.session = c -> notice.stamp.session = c ->
      IsNoticeOf codec notice u -> packet.stamp.index ≤ notice.stamp.index

theorem Farewell.owns_uid {codec : Codec B F} {lh : LoginHash} {c : Nat} {ok : Prop}
    (h : Farewell codec lh c ok s) (huid : (s.sessions c).uid ≠ 0) :
    Owns lh c (s.sessions c).uid :=
  h.owned _ (h.current huid)

theorem travels_create (workShardCount netShardCount logicShardCount : Nat)
    (packet : InPacket B) :
    ¬ Travels (create workShardCount netShardCount logicShardCount :
      Cluster B F) packet := by
  intro h
  rcases h with ⟨c, hc⟩
  cases hc

/-- The session is as it was, and so is what is said and known about its uids. -/
structure Quiet (codec : Codec B F) (lh : LoginHash) (c : Nat)
    (s s' : Cluster B F) : Prop where
  isOpen : (s'.sessions c).isOpen = (s.sessions c).isOpen
  uid : (s'.sessions c).uid = (s.sessions c).uid
  boundUids : (s'.sessions c).boundUids = (s.sessions c).boundUids
  sentAs : (s'.sessions c).sentAs = (s.sessions c).sentAs
  count : s.sessionCount ≤ s'.sessionCount
  travels : forall packet, packet.stamp.session = c -> Travels s' packet ->
    Travels s packet
  notices : forall u, Owns lh c u ->
    (NoticeTravels codec s' u <-> NoticeTravels codec s u)
  alive : forall u, Owns lh c u -> (Alive codec s' u <-> Alive codec s u)

namespace Quiet

variable {codec : Codec B F} {lh : LoginHash} {c : Nat}

theorem refl (codec : Codec B F) (lh : LoginHash) (c : Nat) (s : Cluster B F) :
    Quiet codec lh c s s :=
  ⟨rfl, rfl, rfl, rfl, Nat.le_refl _, fun _ _ h => h, fun _ _ => Iff.rfl,
    fun _ _ => Iff.rfl⟩

theorem trans {s'' : Cluster B F} (h : Quiet codec lh c s s')
    (h' : Quiet codec lh c s' s'') : Quiet codec lh c s s'' where
  isOpen := h'.isOpen.trans h.isOpen
  uid := h'.uid.trans h.uid
  boundUids := h'.boundUids.trans h.boundUids
  sentAs := h'.sentAs.trans h.sentAs
  count := Nat.le_trans h.count h'.count
  travels := fun packet hc hpacket =>
    h.travels packet hc (h'.travels packet hc hpacket)
  notices := fun u hu => (h'.notices u hu).trans (h.notices u hu)
  alive := fun u hu => (h'.alive u hu).trans (h.alive u hu)

theorem faithful (h : Quiet codec lh c s s') :
    Faithful (s'.sessions c) <-> Faithful (s.sessions c) := by
  unfold Faithful
  rw [h.sentAs, h.uid]

theorem farewell {ok : Prop} (h : Quiet codec lh c s s')
    (hs : Farewell codec lh c ok s) : Farewell codec lh c ok s' where
  owned := by
    rw [h.boundUids]
    exact hs.owned
  current := by
    rw [h.uid, h.boundUids]
    exact hs.current
  sent := by
    rw [h.sentAs, h.boundUids, h.uid]
    exact hs.sent
  unmade := by
    intro hc
    rw [h.isOpen, h.uid]
    exact hs.unmade (Nat.le_trans h.count hc)
  mute := by
    intro u hu
    rw [h.isOpen, h.uid, h.sentAs, h.alive u hu, h.notices u hu]
    exact hs.mute u hu
  opened := by
    rw [h.isOpen, h.uid]
    exact hs.opened
  noticed := by
    rw [h.isOpen, h.uid, h.faithful]
    intro hclosed huid
    rw [h.notices _ (hs.owns_uid huid)]
    exact hs.noticed hclosed huid
  gone := by
    rw [h.isOpen, h.uid, h.faithful]
    intro hclosed huid
    rw [h.notices _ (hs.owns_uid huid), h.alive _ (hs.owns_uid huid)]
    exact hs.gone hclosed huid
  last := by
    intro packet notice u hpacket hnotice hp hn
    exact hs.last packet notice u (h.travels packet hp hpacket)
      (h.travels notice hn hnotice) hp hn

/-- A step that does not concern any session. -/
theorem carried (h : forall d, Quiet codec lh d s s') (hs : Carried codec lh s) :
    Carried codec lh s' where
  bound := by
    intro d huid
    rw [(h d).uid] at huid ⊢
    exact hs.bound d huid
  packets := by
    intro packet hpacket
    exact hs.packets packet ((h packet.stamp.session).travels packet rfl hpacket)

/-- What the shards will remember is the same, and so are the packets under way. -/
theorem of_travels
    (hsession : s'.sessions c =
      { s.sessions c with received := (s'.sessions c).received })
    (hcount : s.sessionCount ≤ s'.sessionCount)
    (htravels : forall packet, Travels s' packet <-> Travels s packet)
    (hshards : s'.server.logicShardCount = s.server.logicShardCount)
    (hremembers : forall k u, Remembers codec s' k u <-> Remembers codec s k u) :
    Quiet codec lh c s s' where
  isOpen := by rw [hsession]
  uid := by rw [hsession]
  boundUids := by rw [hsession]
  sentAs := by rw [hsession]
  count := hcount
  travels := fun packet _ h => (htravels packet).mp h
  notices := fun u _ => noticeTravels_congr htravels u
  alive := fun u _ => alive_congr htravels hshards hremembers u

/-- The way in and the game server are untouched. -/
theorem of_same (h : SameInbound s s')
    (hsession : s'.sessions c =
      { s.sessions c with received := (s'.sessions c).received })
    (hcount : s.sessionCount ≤ s'.sessionCount) (hserver : s'.server = s.server) :
    Quiet codec lh c s s' :=
  of_travels hsession hcount h.travels (congrArg GameServer.logicShardCount hserver)
    (remembers_congr hserver)

end Quiet

section QuietSteps

variable (codec : Codec B F) (lh : LoginHash) (c : Nat)

theorem receive_quiet (s : Cluster B F) (d : Nat) (stamp : OutStamp)
    (msg : ServerMsg F) : Quiet codec lh c s (s.receive d stamp msg) := by
  have hsame := receive_same s d stamp msg
  revert hsame
  unfold receive
  simp only
  split
  · intro hsame
    apply Quiet.of_same hsame _ (Nat.le_refl _) rfl
    by_cases hc : c = d
    · subst hc
      simp [setSession]
    · simp [setSession, hc]
  · intro _
    exact Quiet.refl codec lh c s

theorem sendToUid_quiet (w : Nat) (msg : ServerMsg F) (s : Cluster B F)
    (stamp : OutStamp) : Quiet codec lh c s (sendToUid w msg s stamp) := by
  unfold sendToUid
  split
  · exact receive_quiet codec lh c s _ stamp msg
  · split
    · exact Quiet.refl codec lh c s
    · exact Quiet.of_same (SameInbound.of_conns rfl rfl rfl rfl) rfl (Nat.le_refl _)
        rfl

theorem postToNetwork_quiet (s : Cluster B F) (net : Nat) (task : OutTask F) :
    Quiet codec lh c s (s.postToNetwork net task) := by
  have hsame := postToNetwork_same s net task
  revert hsame
  unfold postToNetwork
  split
  · intro _
    exact Quiet.refl codec lh c s
  · intro hsame
    exact Quiet.of_same hsame rfl (Nat.le_refl _) rfl

theorem sendEvent_quiet (shardId : Nat) (s : Cluster B F) (e : ShardEvent F) :
    Quiet codec lh c s (sendEvent shardId s e) := by
  cases e with
  | sent uids targets msg seq =>
      have hposted : forall stamps : List OutStamp, Quiet codec lh c s
          ((stamps.map fun stamp => stamp.route.netShard).dedup.foldl
            (fun s net => s.postToNetwork net ⟨groupTargets stamps net, msg, seq⟩)
            s) := by
        intro stamps
        apply foldl_rel (Quiet.refl codec lh c) Quiet.trans
        intro s net
        exact postToNetwork_quiet codec lh c s net _
      apply (hposted (s.stampTargets shardId targets)).trans
      exact Quiet.of_same (SameInbound.of_conns rfl rfl rfl rfl) rfl (Nat.le_refl _)
        rfl
  | ran call room =>
      exact Quiet.refl codec lh c s

theorem sendToTarget_quiet (net : Nat) (task : OutTask F) (s : Cluster B F)
    (target : OutTarget) : Quiet codec lh c s (sendToTarget net task s target) := by
  have hsame := sendToTarget_same net task s target
  revert hsame
  unfold sendToTarget
  simp only
  split
  · intro _
    exact Quiet.refl codec lh c s
  · split
    · intro _
      exact Quiet.refl codec lh c s
    · split
      · intro hsame
        exact Quiet.of_same hsame rfl (Nat.le_refl _) rfl
      · intro _
        exact Quiet.refl codec lh c s

theorem netWork_quiet (s : Cluster B F) (net : Nat) :
    Quiet codec lh c s (s.netWork net) := by
  unfold netWork
  split
  · exact Quiet.refl codec lh c s
  · rename_i task rest _
    have hpopped : Quiet codec lh c s
        { s with netQueues := Function.update s.netQueues net rest } :=
      Quiet.of_same (SameInbound.of_conns rfl rfl rfl rfl) rfl (Nat.le_refl _) rfl
    exact hpopped.trans (foldl_rel (Quiet.refl codec lh c) Quiet.trans (sendToTarget_quiet codec lh c net task) _ _)

theorem writeBack_quiet (s : Cluster B F) (conn : Nat) :
    Quiet codec lh c s (s.writeBack conn) := by
  unfold writeBack
  split
  · exact Quiet.refl codec lh c s
  · exact Quiet.of_same (SameInbound.setConn rfl rfl rfl) rfl (Nat.le_refl _) rfl

theorem arriveBack_quiet (s : Cluster B F) (conn : Nat) :
    Quiet codec lh c s (s.arriveBack conn) := by
  unfold arriveBack
  split
  · exact Quiet.refl codec lh c s
  · rename_i envelope rest _
    have hpopped : Quiet codec lh c s
        (s.setConn conn { s.conns conn with backWire := rest }) :=
      Quiet.of_same (SameInbound.setConn rfl rfl rfl) rfl (Nat.le_refl _) rfl
    exact hpopped.trans
      (foldl_rel (Quiet.refl codec lh c) Quiet.trans (sendToUid_quiet codec lh c _ envelope.msg) _ _)

theorem postWork_quiet (s : Cluster B F) (w : Nat) :
    Quiet codec lh c s (s.postWork w) := by
  unfold postWork
  split
  · exact Quiet.refl codec lh c s
  · rename_i post rest _
    have hpopped : Quiet codec lh c s
        { s with posts := Function.update s.posts w rest } :=
      Quiet.of_same (SameInbound.of_conns rfl rfl rfl rfl) rfl (Nat.le_refl _) rfl
    exact hpopped.trans (receive_quiet codec lh c _ _ _ _)

theorem connect_quiet (s : Cluster B F) (conn net linkId : Nat) :
    Quiet codec lh c s (s.connect conn net linkId) := by
  unfold connect
  split
  · refine Quiet.of_travels rfl (Nat.le_refl _) ?_ rfl (fun _ _ => Iff.rfl)
    intro packet
    apply exists_congr
    intro conn'
    by_cases hconn : conn' = conn
    · subst hconn
      simp [setConn]
    · simp [setConn, hconn]
  · exact Quiet.refl codec lh c s

theorem write_quiet (s : Cluster B F) (conn : Nat) :
    Quiet codec lh c s (s.write conn) := by
  unfold write
  split
  · exact Quiet.refl codec lh c s
  · rename_i first rest hque
    split
    · refine Quiet.of_travels rfl (Nat.le_refl _) ?_ rfl (fun _ _ => Iff.rfl)
      intro packet
      apply exists_congr
      intro conn'
      by_cases hconn : conn' = conn
      · subst hconn
        simp [setConn, hque]
      · simp [setConn, hconn]
    · exact Quiet.refl codec lh c s

theorem rebuild_quiet {past : List Handled} (h : Inbound past s) (w i : Nat) :
    Quiet codec lh c s (rebuild w s i) := by
  unfold rebuild
  split
  · exact Quiet.refl codec lh c s
  · refine Quiet.of_travels rfl (Nat.le_refl _) ?_ rfl (fun _ _ => Iff.rfl)
    have hnone := (h.unmade s.connCount (Nat.le_refl _)).right
    unfold flight at hnone
    rw [List.map_eq_nil_iff] at hnone
    intro packet
    apply exists_congr
    intro conn
    by_cases hconn : conn = s.connCount
    · subst hconn
      rw [hnone]
      simp [newConn]
    · simp [hconn]

theorem detect_quiet {past : List Handled} (h : Inbound past s) (w : Nat) :
    Quiet codec lh c s (s.detect w) := by
  have hloop : forall (ids : List Nat) (s' : Cluster B F), Inbound past s' ->
      Quiet codec lh c s' (ids.foldl (rebuild w) s') := by
    intro ids
    induction ids with
    | nil =>
        intro s' _
        exact Quiet.refl codec lh c s'
    | cons i rest ih =>
        intro s' hs'
        exact (rebuild_quiet codec lh c hs' w i).trans
          (ih _ (rebuild_inbound hs' w i))
  unfold detect
  split
  · exact hloop _ s h
  · exact Quiet.refl codec lh c s

theorem accept_quiet (s : Cluster B F) (w : Nat) (hc : c ≠ s.sessionCount) :
    Quiet codec lh c s (s.accept w) := by
  unfold accept
  split
  · refine Quiet.of_same (SameInbound.of_conns rfl rfl rfl rfl) ?_ (Nat.le_succ _)
      rfl
    simp [hc]
  · exact Quiet.refl codec lh c s

variable [Scalar F]

theorem work_quiet (s : Cluster B F) (shardId : Nat) (ω : Orders) :
    Quiet codec lh c s (s.work codec shardId ω) := by
  unfold work
  have hworked : Quiet codec lh c s
      { s with server := (GameServer.work codec.stamped ω s.server shardId).1 } := by
    refine Quiet.of_travels rfl (Nat.le_refl _) (fun _ => Iff.rfl) ?_ ?_
    · unfold GameServer.work
      split
      · rfl
      · rfl
    · intro k u
      unfold Remembers
      rw [GameServer.work_routesToBe]
  exact hworked.trans (foldl_rel (Quiet.refl codec lh c) Quiet.trans (sendEvent_quiet codec lh c shardId) _ _)

theorem tick_quiet (s : Cluster B F) (shardId : Nat) (ω : Orders) :
    Quiet codec lh c s (s.tick shardId ω) := by
  have hticked : Quiet codec lh c s
      { s with server := (GameServer.tick ω s.server shardId).1 } := by
    refine Quiet.of_travels rfl (Nat.le_refl _) (fun _ => Iff.rfl) rfl ?_
    intro k u
    unfold Remembers
    rw [GameServer.tick_routesToBe]
  exact hticked.trans (foldl_rel (Quiet.refl codec lh c) Quiet.trans (sendEvent_quiet codec lh c shardId) _ _)

end QuietSteps

end Cluster

end RtsGame
