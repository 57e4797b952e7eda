import RtsGame.Gate.Departures

/-!
# Who is remembered after a session

A request that arrives makes a logic shard remember a player, a notice makes all
of them forget.  Once everything has been handled, the uids of a closed session
are forgotten if and only if the session kept its uid from its first request on
and its notice did not overtake a request.
-/

namespace RtsGame

namespace Cluster

variable {B F : Type} {s s' : Cluster B F}

/-!
## A packet arrives
-/

/-- A packet leaves its connection and reaches the game server. -/
structure Arrived (codec : Codec B F) (s s' : Cluster B F) (packet : InPacket B) :
    Prop where
  sessions : s'.sessions = s.sessions
  sessionCount : s'.sessionCount = s.sessionCount
  server : exists net route, s'.server = GameServer.onPacket codec.stamped s.server
    net route packet.msgId 0 (packet.stamp, packet.body)
  travels : forall other, Travels s other <-> other = packet ∨ Travels s' other
  others : forall other, Travels s' other -> other.stamp.index ≠ packet.stamp.index

theorem arrive_arrived {past : List Handled} (h : Inbound past s) {conn : Nat}
    {packet : InPacket B} {rest : List (InPacket B)} (codec : Codec B F)
    (hwire : (s.conns conn).wire = packet :: rest) :
    Arrived codec s (s.arrive codec conn) packet := by
  have hlanes := h.lanes 0
  have hfirst : packet ∈ (s.conns conn).wire ++ (s.conns conn).sendQue := by
    rw [hwire]
    exact List.mem_cons_self
  have hlater : forall other, other ∈ rest ++ (s.conns conn).sendQue ->
      packet.stamp.index < other.stamp.index := by
    intro other hother
    have hfifo := hlanes.fifo conn
    unfold flight at hfifo
    rw [hwire, List.cons_append, List.map_cons, List.pairwise_cons] at hfifo
    exact hfifo.left other.stamp (List.mem_map_of_mem hother)
  have harrive : s.arrive codec conn =
      { s.setConn conn { s.conns conn with wire := rest } with
        server := GameServer.onPacket codec.stamped s.server
          (s.conns conn).route.netShard (s.conns conn).route packet.msgId 0
          (packet.stamp, packet.body) } := by
    unfold arrive
    simp only [hwire]
  rw [harrive]
  constructor
  · rfl
  · rfl
  · exact ⟨_, _, rfl⟩
  · intro other
    constructor
    · intro hother
      rcases hother with ⟨conn', hconn'⟩
      by_cases heq : conn' = conn
      · subst heq
        rw [hwire, List.cons_append] at hconn'
        cases List.mem_cons.mp hconn' with
        | inl hthis =>
            exact Or.inl hthis
        | inr hrest =>
            refine Or.inr ⟨conn', ?_⟩
            simp only [setConn, Function.update_self]
            exact hrest
      · refine Or.inr ⟨conn', ?_⟩
        simp only [setConn, Function.update_of_ne heq]
        exact hconn'
    · intro hor
      cases hor with
      | inl hthis =>
          rw [hthis]
          exact ⟨conn, hfirst⟩
      | inr hother =>
          rcases hother with ⟨conn', hconn'⟩
          refine ⟨conn', ?_⟩
          by_cases heq : conn' = conn
          · subst heq
            simp only [setConn, Function.update_self] at hconn'
            rw [hwire, List.cons_append]
            exact List.mem_cons_of_mem packet hconn'
          · simp only [setConn, Function.update_of_ne heq] at hconn'
            exact hconn'
  · intro other hother hindex
    rcases hother with ⟨conn', hconn'⟩
    by_cases heq : conn' = conn
    · subst heq
      simp only [setConn, Function.update_self] at hconn'
      exact Nat.ne_of_lt (hlater other hconn') hindex.symm
    · simp only [setConn, Function.update_of_ne heq] at hconn'
      apply heq
      exact hlanes.unique conn' conn other.stamp packet.stamp
        (List.mem_map_of_mem hconn') (List.mem_map_of_mem hfirst) hindex

theorem dispatchTasks_request {g : GameServer B F} {msgId : MsgId}
    (hmsg : registersForward msgId = true) (codec : Codec B F) (net : Nat)
    (route : GatewayRoute) (seq : Nat) (body : B) :
    GameServer.dispatchTasks codec g net route msgId seq body =
      GameServer.requestTasks codec g net route msgId seq body := by
  cases msgId with
  | clientDisconnectedNtf => cases hmsg
  | gateToGameEnvelope => cases hmsg
  | pingReq => cases hmsg
  | other => cases hmsg
  | _ => rfl

namespace Arrived

variable {codec : Codec B F} {lh : LoginHash} {c : Nat} {ok : Prop}
  {packet : InPacket B}

theorem shards (h : Arrived codec s s' packet) :
    s'.server.logicShardCount = s.server.logicShardCount := by
  rcases h.server with ⟨net, route, hserver⟩
  rw [hserver]
  exact (GameServer.onPacket_same _ _ _ _ _ _ _).right

/-- The shard that a request is posted to will remember the player. -/
theorem remembers_request (h : Arrived codec s s' packet) {v : Nat} (hv : v ≠ 0)
    (hrequest : IsRequestOf codec packet v) (hn : 1 ≤ s.server.logicShardCount) :
    exists j, j < s.server.logicShardCount ∧ forall k u,
      Remembers codec s' k u <-> Remembers codec s k u ∨ (u = v ∧ k = j) := by
  rcases h.server with ⟨net, route, hserver⟩
  rcases hrequest with ⟨hid, msgId, payload, hmsg, henvelope⟩
  have hparse : GameServer.parseGateToGameEnvelope codec.stamped
      (packet.stamp, packet.body) =
      some (⟨v, 0, some msgId, 0, (packet.stamp, payload)⟩, msgId) := by
    simp [GameServer.parseGateToGameEnvelope, Codec.stamped, henvelope,
      buildGateToGameEnvelope]
  have hne : msgId ≠ MsgId.clientDisconnectedNtf := by
    intro heq
    rw [heq] at hmsg
    cases hmsg
  unfold Remembers
  rw [hserver, hid]
  exact GameServer.mem_routesToBe_request hn hparse hv
    (dispatchTasks_request hmsg _ _ _ _ _) hne

/-- A notice makes every shard forget the player. -/
theorem remembers_notice (h : Arrived codec s s' packet) {v : Nat} (hv : v ≠ 0)
    (hnotice : IsNoticeOf codec packet v) (k u : Nat) :
    Remembers codec s' k u <->
      Remembers codec s k u ∧ ¬ (u = v ∧ k < s.server.logicShardCount) := by
  rcases h.server with ⟨net, route, hserver⟩
  have hparse : codec.stamped.disconnectedUid (packet.stamp, packet.body) =
      some v := hnotice.right
  unfold Remembers
  rw [hserver, hnotice.left]
  exact GameServer.mem_routesToBe_notice hparse hv k u

theorem carried (h : Arrived codec s s' packet) (hs : Carried codec lh s) :
    Carried codec lh s' where
  bound := by
    rw [h.sessions]
    exact hs.bound
  packets := fun other hother =>
    hs.packets other ((h.travels other).mpr (Or.inr hother))

/-- What is said and known about a player is the same once a request has arrived. -/
theorem quiet_request (h : Arrived codec s s' packet) {v : Nat} (hv : v ≠ 0)
    (hrequest : IsRequestOf codec packet v) (hn : 1 ≤ s.server.logicShardCount) :
    Quiet codec lh c s s' := by
  rcases h.remembers_request hv hrequest hn with ⟨j, hj, hremembers⟩
  constructor
  · rw [h.sessions]
  · rw [h.sessions]
  · rw [h.sessions]
  · rw [h.sessions]
  · exact Nat.le_of_eq h.sessionCount.symm
  · intro other _ hother
    exact (h.travels other).mpr (Or.inr hother)
  · intro u _
    constructor
    · intro hnotice
      rcases hnotice with ⟨notice, htravels, hkind⟩
      exact ⟨notice, (h.travels notice).mpr (Or.inr htravels), hkind⟩
    · intro hnotice
      rcases hnotice with ⟨notice, htravels, hkind⟩
      cases (h.travels notice).mp htravels with
      | inl hthis =>
          rw [hthis] at hkind
          exact absurd hkind hrequest.not_notice
      | inr hstill =>
          exact ⟨notice, hstill, hkind⟩
  · intro u _
    constructor
    · intro halive
      rcases halive with ⟨other, htravels, hkind⟩ | ⟨k, hk, hknown⟩
      · exact Or.inl ⟨other, (h.travels other).mpr (Or.inr htravels), hkind⟩
      · rw [h.shards] at hk
        rcases (hremembers k u).mp hknown with hold | ⟨rfl, _⟩
        · exact Or.inr ⟨k, hk, hold⟩
        · exact Or.inl ⟨packet, (h.travels packet).mpr (Or.inl rfl), hrequest⟩
    · intro halive
      rcases halive with ⟨other, htravels, hkind⟩ | ⟨k, hk, hknown⟩
      · cases (h.travels other).mp htravels with
        | inl hthis =>
            rw [hthis] at hkind
            refine Or.inr ⟨j, ?_, ?_⟩
            · rw [h.shards]
              exact hj
            · exact (hremembers j u).mpr (Or.inr ⟨hkind.uid_eq hrequest, rfl⟩)
        | inr hstill =>
            exact Or.inl ⟨other, hstill, hkind⟩
      · refine Or.inr ⟨k, ?_, (hremembers k u).mpr (Or.inl hknown)⟩
        rw [h.shards]
        exact hk

theorem noticeTravels_of_ne (h : Arrived codec s s' packet) {u v : Nat}
    (hnotice : IsNoticeOf codec packet v) (hne : u ≠ v) :
    NoticeTravels codec s' u <-> NoticeTravels codec s u := by
  constructor
  · intro htravels
    rcases htravels with ⟨notice, hstill, hkind⟩
    exact ⟨notice, (h.travels notice).mpr (Or.inr hstill), hkind⟩
  · intro htravels
    rcases htravels with ⟨notice, hany, hkind⟩
    cases (h.travels notice).mp hany with
    | inl hthis =>
        rw [hthis] at hkind
        exact absurd (hkind.uid_eq hnotice) hne
    | inr hstill =>
        exact ⟨notice, hstill, hkind⟩

theorem alive_notice (h : Arrived codec s s' packet) {v : Nat} (hv : v ≠ 0)
    (hnotice : IsNoticeOf codec packet v) (u : Nat) :
    Alive codec s' u <->
      (exists other, Travels s' other ∧ IsRequestOf codec other u) ∨
        (u ≠ v ∧ Alive codec s u) := by
  constructor
  · intro halive
    rcases halive with htravels | ⟨k, hk, hknown⟩
    · exact Or.inl htravels
    · rw [h.shards] at hk
      have hold := (h.remembers_notice hv hnotice k u).mp hknown
      refine Or.inr ⟨fun heq => hold.right ⟨heq, hk⟩, Or.inr ⟨k, hk, hold.left⟩⟩
  · intro hor
    rcases hor with htravels | ⟨hne, ⟨other, htravels, hkind⟩ | ⟨k, hk, hknown⟩⟩
    · exact Or.inl htravels
    · cases (h.travels other).mp htravels with
      | inl hthis =>
          rw [hthis] at hkind
          exact absurd hnotice hkind.not_notice
      | inr hstill =>
          exact Or.inl ⟨other, hstill, hkind⟩
    · refine Or.inr ⟨k, ?_, ?_⟩
      · rw [h.shards]
        exact hk
      · exact (h.remembers_notice hv hnotice k u).mpr
          ⟨hknown, fun hboth => hne hboth.left⟩

theorem alive_of_ne (h : Arrived codec s s' packet) {u v : Nat} (hv : v ≠ 0)
    (hnotice : IsNoticeOf codec packet v) (hne : u ≠ v) :
    Alive codec s' u <-> Alive codec s u := by
  rw [h.alive_notice hv hnotice]
  constructor
  · intro hor
    rcases hor with ⟨other, hstill, hkind⟩ | ⟨_, hold⟩
    · exact Or.inl ⟨other, (h.travels other).mpr (Or.inr hstill), hkind⟩
    · exact hold
  · intro halive
    exact Or.inr ⟨hne, halive⟩

/-- The notice of another session has arrived. -/
theorem quiet_notice (h : Arrived codec s s' packet) {v : Nat} (hv : v ≠ 0)
    (hnotice : IsNoticeOf codec packet v) (hforeign : forall u, Owns lh c u -> u ≠ v) :
    Quiet codec lh c s s' := by
  constructor
  · rw [h.sessions]
  · rw [h.sessions]
  · rw [h.sessions]
  · rw [h.sessions]
  · exact Nat.le_of_eq h.sessionCount.symm
  · intro other _ hother
    exact (h.travels other).mpr (Or.inr hother)
  · intro u hu
    exact h.noticeTravels_of_ne hnotice (hforeign u hu)
  · intro u hu
    exact h.alive_of_ne hv hnotice (hforeign u hu)

/-- Whatever is about a uid comes from the session that owns it. -/
theorem session_of_kind (h : Arrived codec s s' packet) (hcarried : Carried codec lh s)
    {v : Nat} (hv : Owns lh c v) {other : InPacket B} (hother : Travels s' other)
    (hkind : IsRequestOf codec other v ∨ IsNoticeOf codec other v) :
    other.stamp.session = c := by
  rcases hcarried.packets other ((h.travels other).mpr (Or.inr hother)) with ⟨w, hw, hwkind⟩
  have heq : v = w := by
    rcases hkind with hrequest | hnotice
    · rcases hwkind with hwrequest | hwnotice
      · exact hrequest.uid_eq hwrequest
      · exact absurd hwnotice hrequest.not_notice
    · rcases hwkind with hwrequest | hwnotice
      · exact absurd hnotice hwrequest.not_notice
      · exact hnotice.uid_eq hwnotice
  rw [← heq] at hw
  exact hw.session_eq hv

/-- Whatever of a session is still under way was sent before its notice. -/
theorem before_notice (h : Arrived codec s s' packet) (hs : Farewell codec lh c ok s)
    (hsender : packet.stamp.session = c) {v : Nat} (hnotice : IsNoticeOf codec packet v)
    {other : InPacket B} (hother : Travels s' other) (hsession : other.stamp.session = c) :
    other.stamp.index < packet.stamp.index := by
  have hle := hs.last other packet v ((h.travels other).mpr (Or.inr hother))
    ((h.travels packet).mpr (Or.inl rfl)) hsession hsender hnotice
  exact Nat.lt_of_le_of_ne hle (h.others other hother)

/-- A session sends one notice. -/
theorem no_other_notice (h : Arrived codec s s' packet) (hs : Farewell codec lh c ok s)
    (hcarried : Carried codec lh s) (hsender : packet.stamp.session = c) {v : Nat}
    (hv : Owns lh c v) (hnotice : IsNoticeOf codec packet v) :
    ¬ NoticeTravels codec s' v := by
  intro htravels
  rcases htravels with ⟨other, hother, hkind⟩
  have hc := h.session_of_kind hcarried hv hother (Or.inr hkind)
  have hle := hs.last packet other v ((h.travels packet).mpr (Or.inl rfl))
    ((h.travels other).mpr (Or.inr hother)) hsender hc hkind
  exact Nat.not_lt.mpr hle (h.before_notice hs hsender hnotice hother hc)

/-- The notice ends the life of its uid if and only if it overtakes nothing of the session. -/
theorem forgotten_iff (h : Arrived codec s s' packet) (hs : Farewell codec lh c ok s)
    (hcarried : Carried codec lh s) (hsender : packet.stamp.session = c) {v : Nat}
    (hv : Owns lh c v) (hnotice : IsNoticeOf codec packet v)
    (hcurrent : v = (s.sessions c).uid) (hfaithful : Faithful (s.sessions c)) :
    (forall other, Travels s other -> other.stamp.session = c ->
      packet.stamp.index ≤ other.stamp.index) <-> ¬ Alive codec s' v := by
  have halive : Alive codec s' v <->
      exists other, Travels s' other ∧ IsRequestOf codec other v := by
    rw [h.alive_notice hv.ne_zero hnotice]
    exact or_iff_left (fun hboth => hboth.left rfl)
  rw [halive]
  constructor
  · intro horderly hrequest
    rcases hrequest with ⟨other, hother, hkind⟩
    have hc := h.session_of_kind hcarried hv hother (Or.inl hkind)
    exact Nat.not_lt.mpr (horderly other ((h.travels other).mpr (Or.inr hother)) hc)
      (h.before_notice hs hsender hnotice hother hc)
  · intro hforgotten other hother hc
    cases (h.travels other).mp hother with
    | inl hthis =>
        rw [hthis]
    | inr hother' =>
        exfalso
        rcases hcarried.packets other hother with ⟨w, hw, hkind⟩
        rw [hc] at hw
        by_cases heq : w = v
        · rw [heq] at hkind
          cases hkind with
          | inl hrequest => exact hforgotten ⟨other, hother', hrequest⟩
          | inr hnotice' =>
              exact h.no_other_notice hs hcarried hsender hv hnotice ⟨other, hother', hnotice'⟩
        · have hmute := hs.mute w hw (Or.inr (fun h => heq (h.trans hcurrent.symm)))
          cases hkind with
          | inl hrequest =>
              have hsentAs := hmute.right.mpr (Or.inl ⟨other, hother, hrequest⟩)
              exact heq ((hfaithful w hsentAs).trans hcurrent.symm)
          | inr hnotice' =>
              exact hmute.left ⟨other, hother, hnotice'⟩

/-- The notice of the session has arrived. -/
theorem notice (h : Arrived codec s s' packet) (hs : Farewell codec lh c ok s)
    (hcarried : Carried codec lh s) (hsender : packet.stamp.session = c) {v : Nat}
    (hv : Owns lh c v) (hnotice : IsNoticeOf codec packet v) :
    Farewell codec lh c
      (ok ∧ forall other, Travels s other -> other.stamp.session = c ->
        packet.stamp.index ≤ other.stamp.index) s' := by
  have hsent : NoticeTravels codec s v :=
    ⟨packet, (h.travels packet).mpr (Or.inl rfl), hnotice⟩
  have hclosed : (s.sessions c).isOpen = false := by
    by_contra hopen
    rw [Bool.not_eq_false] at hopen
    exact (hs.mute v hv (Or.inl hopen)).left hsent
  have hcurrent : v = (s.sessions c).uid := by
    by_contra hne
    exact (hs.mute v hv (Or.inr hne)).left hsent
  have huid : (s.sessions c).uid ≠ 0 := by
    rw [← hcurrent]
    exact hv.ne_zero
  have hstill : forall other, Travels s' other -> Travels s other :=
    fun other hother => (h.travels other).mpr (Or.inr hother)
  constructor
  · rw [h.sessions]
    exact hs.owned
  · rw [h.sessions]
    exact hs.current
  · rw [h.sessions]
    exact hs.sent
  · rw [h.sessions, h.sessionCount]
    exact hs.unmade
  · intro u hu hor
    rw [h.sessions] at hor ⊢
    have hne : u ≠ v := by
      cases hor with
      | inl hopen => cases hclosed.symm.trans hopen
      | inr hne => exact fun heq => hne (heq.trans hcurrent)
    rw [h.noticeTravels_of_ne hnotice hne, h.alive_of_ne hv.ne_zero hnotice hne]
    exact hs.mute u hu hor
  · intro hor
    rw [h.sessions] at hor
    cases hor with
    | inl hopen => cases hclosed.symm.trans hopen
    | inr hzero => exact absurd hzero huid
  · intro _ _ hnotices
    rw [h.sessions, ← hcurrent] at hnotices
    exact absurd hnotices (h.no_other_notice hs hcarried hsender hv hnotice)
  · intro _ _ _
    rw [h.sessions, ← hcurrent]
    rw [hcurrent] at hsent
    rw [hs.noticed hclosed huid hsent]
    apply and_congr_right
    exact h.forgotten_iff hs hcarried hsender hv hnotice hcurrent
  · intro other last u hother hlast
    exact hs.last other last u (hstill other hother) (hstill last hlast)

end Arrived

theorem arrive_farewell {codec : Codec B F} {lh : LoginHash} {c : Nat} {ok : Prop}
    {past : List Handled} (h : Farewell codec lh c ok s)
    (hcarried : Carried codec lh s) (hin : Inbound past s)
    (hn : 1 ≤ s.server.logicShardCount) (conn : Nat) :
    Farewell codec lh c (ok ∧ Orderly c s (ClusterInput.arrives conn))
        (s.arrive codec conn) ∧ Carried codec lh (s.arrive codec conn) := by
  cases hwire : (s.conns conn).wire with
  | nil =>
      have hidle : s.arrive codec conn = s := by
        unfold arrive
        simp only [hwire]
      rw [hidle]
      refine ⟨h.congr (and_iff_left ?_).symm, hcarried⟩
      intro notice rest hcons
      cases hwire.symm.trans hcons
  | cons packet rest =>
      have harrived := arrive_arrived hin codec hwire
      refine ⟨?_, harrived.carried hcarried⟩
      have hpacket : Travels s packet := (harrived.travels packet).mpr (Or.inl rfl)
      have horderly : Orderly c s (ClusterInput.arrives conn) <->
          (packet.msgId = MsgId.clientDisconnectedNtf -> packet.stamp.session = c ->
            forall other, Travels s other -> other.stamp.session = c ->
              packet.stamp.index ≤ other.stamp.index) := by
        constructor
        · intro hall
          exact hall packet rest hwire
        · intro hthis notice rest' hcons
          rw [hwire] at hcons
          cases hcons
          exact hthis
      rcases hcarried.packets packet hpacket with ⟨v, hv, hkind⟩
      cases hkind with
      | inl hrequest =>
          have hquiet : Quiet codec lh c s (s.arrive codec conn) :=
            harrived.quiet_request hv.ne_zero hrequest hn
          apply (hquiet.farewell h).congr
          refine (and_iff_left (horderly.mpr ?_)).symm
          intro hid
          cases hrequest.left.symm.trans hid
      | inr hnotice =>
          by_cases hsender : packet.stamp.session = c
          · rw [hsender] at hv
            apply (harrived.notice h hcarried hsender hv hnotice).congr
            apply and_congr_right
            intro _
            rw [horderly]
            constructor
            · intro hall _ _
              exact hall
            · intro hall
              exact hall hnotice.left hsender
          · have hforeign : forall u, Owns lh c u -> u ≠ v := by
              intro u hu heq
              rw [heq] at hu
              exact hsender (hv.session_eq hu)
            have hquiet : Quiet codec lh c s (s.arrive codec conn) :=
              harrived.quiet_notice hv.ne_zero hnotice hforeign
            apply (hquiet.farewell h).congr
            refine (and_iff_left (horderly.mpr ?_)).symm
            intro _ hc
            exact absurd hc hsender

/-!
## Steps that leave the game server alone
-/

section Server

variable {codec : Codec B F} (gc : GateCodec codec)

theorem postMessage_server (s : Cluster B F) (w d : Nat) (msgId : MsgId) (body : B) :
    (s.postMessage w d msgId body).server = s.server := by
  have hsame := (selectConn_sessions w kGameServerConnCnt s).right.right
  unfold postMessage
  simp only
  split
  · exact hsame
  · exact hsame

theorem request_server (s : Cluster B F) (d : Nat) (msgId : MsgId) (body : B) :
    (request gc s d msgId body).server = s.server := by
  unfold request forwardClientMsgToGame
  split
  · simp only
    split
    · rfl
    · split
      · rfl
      · rw [postMessage_server]
        rfl
  · rfl

theorem closeSession_server (s : Cluster B F) (d : Nat) :
    (closeSession gc s d).server = s.server := by
  have hserver := (closing_same s d
    { s.sessions d with isOpen := false }).right.right.right
  unfold closeSession
  simp only
  split
  · show (notifyGameServerDisconnect gc _ d).server = s.server
    unfold notifyGameServerDisconnect
    simp only
    split
    · exact hserver
    · rw [postMessage_server]
      exact hserver
  · rfl

theorem login_server (lh : LoginHash) (s : Cluster B F) (d : Nat)
    (account token : String) : (s.login lh d account token).server = s.server := by
  have howns : Owns lh d (makeLoginUid lh.hash d account token) :=
    ⟨account, token, rfl⟩
  unfold login
  split
  · exact (bindUid_sessions s d howns.ne_zero).right.right
  · rfl

theorem receive_server (s : Cluster B F) (d : Nat) (stamp : OutStamp)
    (msg : ServerMsg F) : (s.receive d stamp msg).server = s.server := by
  unfold receive
  simp only
  split
  · rfl
  · rfl

theorem sendToUid_server (w : Nat) (msg : ServerMsg F) (s : Cluster B F)
    (stamp : OutStamp) : (sendToUid w msg s stamp).server = s.server := by
  unfold sendToUid
  split
  · exact receive_server s _ stamp msg
  · split
    · rfl
    · rfl

theorem sendEvent_server (shardId : Nat) (s : Cluster B F) (e : ShardEvent F) :
    (sendEvent shardId s e).server = s.server := by
  cases e with
  | sent uids targets msg seq =>
      have hpost : forall (stamps : List OutStamp) (s : Cluster B F) (net : Nat),
          (s.postToNetwork net ⟨groupTargets stamps net, msg, seq⟩).server =
            s.server := by
        intro stamps s net
        unfold postToNetwork
        split
        · rfl
        · rfl
      exact foldl_same Cluster.server (hpost _) s _
  | ran call room =>
      rfl

theorem sendToTarget_server (net : Nat) (task : OutTask F) (s : Cluster B F)
    (target : OutTarget) : (sendToTarget net task s target).server = s.server := by
  unfold sendToTarget
  simp only
  split
  · rfl
  · split
    · rfl
    · split
      · rfl
      · rfl

theorem rebuild_server (w : Nat) (s : Cluster B F) (i : Nat) :
    (rebuild w s i).server = s.server := by
  unfold rebuild
  split
  · rfl
  · rfl

/-- The game server is what arriving packets, work and ticks make of it. -/
def serverAfter [Scalar F] (codec : Codec B F) (s : Cluster B F) :
    ClusterInput B -> GameServer (Stamp × B) F
  | ClusterInput.arrives conn => (s.arrive codec conn).server
  | ClusterInput.works shardId ω =>
      (GameServer.work codec.stamped ω s.server shardId).1
  | ClusterInput.ticks shardId ω => (GameServer.tick ω s.server shardId).1
  | _ => s.server

theorem next_server [Scalar F] (lh : LoginHash) (s : Cluster B F)
    (input : ClusterInput B) :
    (next gc lh s input).server = serverAfter codec s input := by
  cases input with
  | accepts w =>
      show (s.accept w).server = s.server
      unfold accept
      split
      · rfl
      · rfl
  | logsIn d account token => exact login_server lh s d account token
  | requests d msgId body => exact request_server gc s d msgId body
  | closes d => exact closeSession_server gc s d
  | connects conn net linkId =>
      show (s.connect conn net linkId).server = s.server
      unfold connect
      split
      · rfl
      · rfl
  | breaks conn => rfl
  | cuts conn =>
      show (s.cutConn conn).server = s.server
      unfold cutConn
      split
      · rfl
      · rfl
  | detects w =>
      show (s.detect w).server = s.server
      unfold detect
      split
      · exact foldl_same Cluster.server (rebuild_server w) s _
      · rfl
  | writes conn =>
      show (s.write conn).server = s.server
      unfold write
      split
      · rfl
      · split
        · rfl
        · rfl
  | arrives conn => rfl
  | works shardId ω => exact foldl_same Cluster.server (sendEvent_server shardId) _ _
  | ticks shardId ω => exact foldl_same Cluster.server (sendEvent_server shardId) _ _
  | netWorks net =>
      show (s.netWork net).server = s.server
      unfold netWork
      split
      · rfl
      · exact foldl_same Cluster.server (sendToTarget_server net _) _ _
  | writesBack conn =>
      show (s.writeBack conn).server = s.server
      unfold writeBack
      split
      · rfl
      · rfl
  | arrivesBack conn =>
      show (s.arriveBack conn).server = s.server
      unfold arriveBack
      split
      · rfl
      · exact foldl_same Cluster.server (sendToUid_server _ _) _ _
  | postWorks w =>
      show (s.postWork w).server = s.server
      unfold postWork
      split
      · rfl
      · exact receive_server _ _ _ _

theorem serverAfter_mindful [Scalar F]
    (h : GameServer.Mindful s.server) (input : ClusterInput B) :
    GameServer.Mindful (serverAfter codec s input) ∧
      (serverAfter codec s input).logicShardCount = s.server.logicShardCount := by
  cases input with
  | arrives conn =>
      show GameServer.Mindful (s.arrive codec conn).server ∧
        (s.arrive codec conn).server.logicShardCount = s.server.logicShardCount
      unfold arrive
      split
      · exact ⟨h, rfl⟩
      · exact ⟨h.onPacket _ _ _ _ _ _,
          (GameServer.onPacket_same _ _ _ _ _ _ _).right⟩
  | works shardId ω =>
      refine ⟨h.work codec.stamped ω shardId, ?_⟩
      show (GameServer.work codec.stamped ω s.server shardId).1.logicShardCount = _
      unfold GameServer.work
      split
      · rfl
      · rfl
  | ticks shardId ω => exact ⟨h.tick codec.stamped ω shardId, rfl⟩
  | _ => exact ⟨h, rfl⟩

end Server

/-!
## After the last message
-/

/-- Everything that was sent to the game server has been handled. -/
def Drained (s : Cluster B F) : Prop :=
  (forall conn, conn < s.connCount ->
    (s.conns conn).wire = [] ∧ (s.conns conn).sendQue = []) ∧
  forall k, k < s.server.logicShardCount -> s.server.queues k = []

/-- No logic shard holds the uid as a route, as a member, or in a room. -/
def Forgotten (s : Cluster B F) (u : Nat) : Prop :=
  forall k, k < s.server.logicShardCount ->
    u ∉ (s.server.shards k).uidToRoom ∧
      (forall roomId r, (s.server.shards k).rooms.lookup roomId = some r ->
        u ∉ r.players) ∧
      u ∉ (s.server.shards k).uidRoute

theorem Drained.not_travels {past : List Handled} (h : Drained s)
    (hin : Inbound past s) (packet : InPacket B) : ¬ Travels s packet := by
  intro htravels
  rcases htravels with ⟨conn, hconn⟩
  by_cases hlt : conn < s.connCount
  · rw [(h.left conn hlt).left, (h.left conn hlt).right] at hconn
    cases hconn
  · have hnone := (hin.unmade conn (Nat.not_lt.mp hlt)).right
    unfold flight at hnone
    rw [List.map_eq_nil_iff.mp hnone] at hconn
    cases hconn

/-- With nothing under way, what will be remembered is what is remembered. -/
theorem Drained.forgotten_iff {codec : Codec B F} {past : List Handled}
    (h : Drained s) (hin : Inbound past s)
    (hmindful : GameServer.Mindful s.server) (u : Nat) :
    Forgotten s u <-> ¬ Alive codec s u := by
  have hroute : forall k, k < s.server.logicShardCount ->
      (Remembers codec s k u <-> u ∈ (s.server.shards k).uidRoute) := by
    intro k hk
    unfold Remembers GameServer.routesToBe
    rw [h.right k hk]
    exact Iff.rfl
  constructor
  · intro hforgotten halive
    rcases halive with ⟨packet, htravels, _⟩ | ⟨k, hk, hknown⟩
    · exact h.not_travels hin packet htravels
    · exact (hforgotten k hk).right.right ((hroute k hk).mp hknown)
  · intro hdead k hk
    have hunknown : u ∉ (s.server.shards k).uidRoute := by
      intro hu
      exact hdead (Or.inr ⟨k, hk, (hroute k hk).mpr hu⟩)
    have hother := hmindful.forgotten hunknown
    exact ⟨hother.left, hother.right, hunknown⟩

/-!
## Every step
-/

section Run

variable {codec : Codec B F}

/-- The invariant of the run, for the session that is watched. -/
structure Watched (codec : Codec B F) (lh : LoginHash) (c : Nat) (ok : Prop)
    (s : Cluster B F) : Prop where
  inbound : exists past, Inbound past s
  mindful : GameServer.Mindful s.server
  shards : 1 ≤ s.server.logicShardCount
  carried : Carried codec lh s
  farewell : Farewell codec lh c ok s

theorem Watched.forgotten_iff {lh : LoginHash} {c : Nat} {ok : Prop}
    (h : Watched codec lh c ok s) (hclosed : (s.sessions c).isOpen = false)
    (hdrained : Drained s) :
    (forall u, u ∈ (s.sessions c).boundUids -> Forgotten s u) <-> ok := by
  rcases h.inbound with ⟨past, hin⟩
  have hfarewell := h.farewell
  have hdead : forall u, Forgotten s u <-> ¬ Alive codec s u :=
    hdrained.forgotten_iff hin h.mindful
  simp only [hdead]
  have hother : forall u, u ∈ (s.sessions c).boundUids -> u ≠ (s.sessions c).uid ->
      (u ∈ (s.sessions c).sentAs <-> Alive codec s u) := by
    intro u hu hne
    exact (hfarewell.mute u (hfarewell.owned u hu) (Or.inr hne)).right
  by_cases huid : (s.sessions c).uid = 0
  · refine iff_of_true ?_ (hfarewell.opened (Or.inr huid))
    intro u hu halive
    have hne : u ≠ (s.sessions c).uid := by
      rw [huid]
      exact (hfarewell.owned u hu).ne_zero
    exact (hfarewell.sent u ((hother u hu hne).mpr halive)).right huid
  · have hnone : ¬ NoticeTravels codec s (s.sessions c).uid := by
      intro hnotice
      rcases hnotice with ⟨packet, htravels, _⟩
      exact hdrained.not_travels hin packet htravels
    rw [hfarewell.gone hclosed huid hnone]
    constructor
    · intro hall
      refine ⟨?_, hall _ (hfarewell.current huid)⟩
      intro u hu
      by_contra hne
      have hbound := (hfarewell.sent u hu).left
      exact hall u hbound ((hother u hbound hne).mp hu)
    · intro hboth u hu halive
      by_cases heq : u = (s.sessions c).uid
      · rw [heq] at halive
        exact hboth.right halive
      · exact heq (hboth.left u ((hother u hu heq).mpr halive))

variable [Scalar F]

theorem Farewell.step {lh : LoginHash} {c : Nat} {ok : Prop} {past : List Handled}
    (h : Farewell codec lh c ok s) (hcarried : Carried codec lh s)
    (hin : Inbound past s) (hn : 1 ≤ s.server.logicShardCount)
    (gc : GateCodec codec) (input : ClusterInput B)
    (hloss : s.Lossless input = true) :
    Farewell codec lh c (ok ∧ Orderly c s input) (next gc lh s input) ∧
      Carried codec lh (next gc lh s input) := by
  have hquiet : forall {s' : Cluster B F}, (forall d, Quiet codec lh d s s') ->
      Orderly c s input ->
        Farewell codec lh c (ok ∧ Orderly c s input) s' ∧ Carried codec lh s' := by
    intro s' hall horderly
    refine ⟨?_, Quiet.carried hall hcarried⟩
    exact ((hall c).farewell h).congr (and_iff_left horderly).symm
  cases input with
  | accepts w =>
      exact ⟨(h.accept w).congr (and_iff_left trivial).symm, hcarried.accept w⟩
  | logsIn d account token =>
      exact ⟨(h.login d account token).congr (and_iff_left trivial).symm,
        hcarried.login d account token⟩
  | requests d msgId body =>
      have hstep := request_farewell h hcarried hin gc d msgId body hloss
      exact ⟨hstep.left.congr (and_iff_left trivial).symm, hstep.right⟩
  | closes d => exact closeSession_farewell h hcarried hin gc d hloss
  | connects conn net linkId =>
      exact hquiet (fun d => connect_quiet codec lh d s conn net linkId) trivial
  | breaks conn => cases hloss
  | cuts conn =>
      have hidle : s.cutConn conn = s := by
        unfold cutConn
        rw [if_neg (of_decide_eq_true hloss)]
      show Farewell codec lh c (ok ∧ Orderly c s (ClusterInput.cuts conn))
        (s.cutConn conn) ∧ Carried codec lh (s.cutConn conn)
      rw [hidle]
      exact hquiet (fun d => Quiet.refl codec lh d s) trivial
  | detects w => exact hquiet (fun d => detect_quiet codec lh d hin w) trivial
  | writes conn => exact hquiet (fun d => write_quiet codec lh d s conn) trivial
  | arrives conn => exact arrive_farewell h hcarried hin hn conn
  | works shardId ω =>
      exact hquiet (fun d => work_quiet codec lh d s shardId ω) trivial
  | ticks shardId ω =>
      exact hquiet (fun d => tick_quiet codec lh d s shardId ω) trivial
  | netWorks net => exact hquiet (fun d => netWork_quiet codec lh d s net) trivial
  | writesBack conn => exact hquiet (fun d => writeBack_quiet codec lh d s conn) trivial
  | arrivesBack conn =>
      exact hquiet (fun d => arriveBack_quiet codec lh d s conn) trivial
  | postWorks w => exact hquiet (fun d => postWork_quiet codec lh d s w) trivial

theorem Watched.step {lh : LoginHash} {c : Nat} {ok : Prop}
    (h : Watched codec lh c ok s) (gc : GateCodec codec) (input : ClusterInput B)
    (hloss : s.Lossless input = true) :
    Watched codec lh c (ok ∧ Orderly c s input) (handle gc lh s input).1 := by
  rcases h.inbound with ⟨past, hin⟩
  have hstep := h.farewell.step h.carried hin h.shards gc input hloss
  have hserver := next_server gc lh s input
  have hmindful : GameServer.Mindful (serverAfter codec s input) ∧
      (serverAfter codec s input).logicShardCount = s.server.logicShardCount :=
    serverAfter_mindful h.mindful input
  constructor
  · exact ⟨_, handle_inbound gc lh hin input⟩
  · show GameServer.Mindful (next gc lh s input).server
    rw [hserver]
    exact hmindful.left
  · show 1 ≤ (next gc lh s input).server.logicShardCount
    rw [hserver, hmindful.right]
    exact h.shards
  · exact hstep.right
  · exact hstep.left

end Run

end Cluster

end RtsGame
