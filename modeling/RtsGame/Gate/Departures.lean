import RtsGame.Gate.Farewell

/-!
# Sessions log in, send and close

The steps of a session and the packets that they send.  Only the session that is
watched can say something about its uids, since the uids of different sessions
differ.
-/

namespace RtsGame

namespace Cluster

variable {B F : Type} {s s' : Cluster B F}

/-!
## A session is accepted or logs in
-/

section Sessions

variable {codec : Codec B F} {lh : LoginHash} {c : Nat} {ok : Prop}

theorem Farewell.accept (h : Farewell codec lh c ok s) (w : Nat) :
    Farewell codec lh c ok (s.accept w) := by
  by_cases hc : c = s.sessionCount
  · have hunmade := h.unmade (Nat.le_of_eq hc.symm)
    have hsilent : forall u, u ∉ (s.sessions c).sentAs :=
      fun u hu => (h.sent u hu).right hunmade.right
    unfold Cluster.accept
    split
    · subst hc
      constructor
      · intro u hu
        simp [newSession] at hu
      · intro huid
        simp [newSession] at huid
      · intro u hu
        simp [newSession] at hu
      · intro hge
        exact absurd hge (Nat.not_succ_le_self _)
      · intro u hu _
        have hmute := h.mute u hu (Or.inr (by
          rw [hunmade.right]
          exact hu.ne_zero))
        simp only [Function.update_self, newSession]
        refine ⟨hmute.left, ?_⟩
        constructor
        · intro hnone
          cases hnone
        · intro halive
          exact absurd (hmute.right.mpr halive) (hsilent u)
      · intro _
        exact h.opened (Or.inr hunmade.right)
      · intro hclosed
        simp [newSession] at hclosed
      · intro hclosed
        simp [newSession] at hclosed
      · exact h.last
    · exact h
  · exact (accept_quiet codec lh c s w hc).farewell h

theorem Carried.accept (h : Carried codec lh s) (w : Nat) :
    Carried codec lh (s.accept w) := by
  unfold Cluster.accept
  split
  · constructor
    · intro d huid
      by_cases hd : d = s.sessionCount
      · subst hd
        simp [newSession] at huid
      · simp only [Function.update_of_ne hd] at huid ⊢
        exact h.bound d huid
    · exact h.packets
  · exact h

theorem Farewell.login (h : Farewell codec lh c ok s) (d : Nat)
    (account token : String) :
    Farewell codec lh c ok (s.login lh d account token) := by
  have hsame := login_same lh s d account token
  unfold Cluster.login handleLoginReq at hsame ⊢
  by_cases hopen : (s.sessions d).isOpen = true
  · rw [if_pos hopen] at hsame ⊢
    have howns : Owns lh d (makeLoginUid lh.hash d account token) :=
      ⟨account, token, rfl⟩
    rcases bindUid_sessions s d howns.ne_zero with ⟨hsessions, hcount, hserver⟩
    by_cases hc : c = d
    · subst hc
      have hnew := congrFun hsessions c
      rw [Function.update_self] at hnew
      constructor
      · intro u hu
        rw [hnew] at hu
        cases List.mem_cons.mp hu with
        | inl heq =>
            rw [heq]
            exact howns
        | inr hold =>
            exact h.owned u hold
      · intro _
        rw [hnew]
        exact List.mem_cons_self
      · intro u hu
        rw [hnew] at hu ⊢
        exact ⟨List.mem_cons_of_mem _ (h.sent u hu).left, howns.ne_zero⟩
      · intro hge
        rw [hcount] at hge
        have hclosed := (h.unmade hge).left
        rw [hopen] at hclosed
        cases hclosed
      · intro u hu _
        rw [hnew, noticeTravels_congr hsame.travels,
          alive_congr hsame.travels (congrArg GameServer.logicShardCount hserver)
            (remembers_congr hserver)]
        exact h.mute u hu (Or.inl hopen)
      · intro _
        exact h.opened (Or.inl hopen)
      · intro hclosed
        rw [hnew] at hclosed
        cases hopen.symm.trans hclosed
      · intro hclosed
        rw [hnew] at hclosed
        cases hopen.symm.trans hclosed
      · intro packet notice u hpacket hnotice
        exact h.last packet notice u ((hsame.travels packet).mp hpacket)
          ((hsame.travels notice).mp hnotice)
    · apply Quiet.farewell _ h
      refine Quiet.of_same hsame ?_ (Nat.le_of_eq hcount.symm) hserver
      rw [hsessions, Function.update_of_ne hc]
  · rw [if_neg hopen]
    exact h

theorem Carried.login (h : Carried codec lh s) (d : Nat) (account token : String) :
    Carried codec lh (s.login lh d account token) := by
  have hsame := login_same lh s d account token
  unfold Cluster.login handleLoginReq at hsame ⊢
  split
  · rename_i hopen
    rw [if_pos hopen] at hsame
    have howns : Owns lh d (makeLoginUid lh.hash d account token) :=
      ⟨account, token, rfl⟩
    have hsessions := (bindUid_sessions s d howns.ne_zero).left
    constructor
    · intro d'
      rw [hsessions]
      by_cases hd : d' = d
      · subst hd
        intro _
        rw [Function.update_self]
        exact howns
      · rw [Function.update_of_ne hd]
        exact h.bound d'
    · intro packet hpacket
      exact h.packets packet ((hsame.travels packet).mp hpacket)
  · exact h

end Sessions

/-!
## A session sends a packet
-/

/-- A session changes and sends a packet; nothing else happens. -/
structure Sent (s s' : Cluster B F) (d : Nat) (session : Csession F)
    (packet : InPacket B) : Prop where
  sessions : s'.sessions = Function.update s.sessions d session
  sessionCount : s'.sessionCount = s.sessionCount
  server : s'.server = s.server
  sender : packet.stamp.session = d
  fresh : forall other, Travels s other -> other.stamp.index < packet.stamp.index
  travels : forall other, Travels s' other <-> Travels s other ∨ other = packet

/-- An open session has not sent a notice. -/
theorem Farewell.no_notice {codec : Codec B F} {lh : LoginHash} {c : Nat} {ok : Prop}
    (hs : Farewell codec lh c ok s) (hcarried : Carried codec lh s)
    (hopen : (s.sessions c).isOpen = true) {notice : InPacket B} {u : Nat}
    (hnotice : Travels s notice) (hsession : notice.stamp.session = c) :
    ¬ IsNoticeOf codec notice u := by
  intro hkind
  rcases hcarried.packets notice hnotice with ⟨v, hv, hvkind⟩
  rw [hsession] at hv
  cases hvkind with
  | inl hvrequest =>
      exact hvrequest.not_notice hkind
  | inr hvnotice =>
      exact (hs.mute v hv (Or.inl hopen)).left ⟨notice, hnotice, hvnotice⟩

namespace Sent

variable {codec : Codec B F} {lh : LoginHash} {c d : Nat} {ok : Prop}
  {session : Csession F} {packet : InPacket B}

theorem noticeTravels (h : Sent s s' d session packet) (u : Nat) :
    NoticeTravels codec s' u <->
      NoticeTravels codec s u ∨ IsNoticeOf codec packet u := by
  unfold NoticeTravels
  simp only [h.travels, or_and_right, exists_or, exists_eq_left]

theorem alive (h : Sent s s' d session packet) (u : Nat) :
    Alive codec s' u <-> Alive codec s u ∨ IsRequestOf codec packet u := by
  unfold Alive
  simp only [h.travels, or_and_right, exists_or, exists_eq_left,
    remembers_congr h.server, h.server]
  constructor
  · intro hor
    rcases hor with (hold | hnew) | hknown
    · exact Or.inl (Or.inl hold)
    · exact Or.inr hnew
    · exact Or.inl (Or.inr hknown)
  · intro hor
    rcases hor with (hold | hknown) | hnew
    · exact Or.inl (Or.inl hold)
    · exact Or.inr hknown
    · exact Or.inl (Or.inr hnew)

/-- The packet of one session says nothing about another one. -/
theorem quiet (h : Sent s s' d session packet) (hd : c ≠ d)
    (hpacket : exists v, Owns lh d v ∧
      (IsRequestOf codec packet v ∨ IsNoticeOf codec packet v)) :
    Quiet codec lh c s s' := by
  rcases hpacket with ⟨v, hv, hkind⟩
  have hforeign : forall u, Owns lh c u -> u ≠ v := by
    intro u hu heq
    rw [heq] at hu
    exact hd (hu.session_eq hv)
  have hsession : s'.sessions c = s.sessions c := by
    rw [h.sessions, Function.update_of_ne hd]
  constructor
  · rw [hsession]
  · rw [hsession]
  · rw [hsession]
  · rw [hsession]
  · exact Nat.le_of_eq h.sessionCount.symm
  · intro other hother htravels
    cases (h.travels other).mp htravels with
    | inl hold =>
        exact hold
    | inr heq =>
        rw [heq, h.sender] at hother
        exact absurd hother.symm hd
  · intro u hu
    rw [h.noticeTravels]
    apply or_iff_left
    intro hnotice
    cases hkind with
    | inl hrequest => exact hrequest.not_notice hnotice
    | inr hother => exact hforeign u hu (hnotice.uid_eq hother)
  · intro u hu
    rw [h.alive]
    apply or_iff_left
    intro hrequest
    cases hkind with
    | inl hother => exact hforeign u hu (hrequest.uid_eq hother)
    | inr hnotice => exact hrequest.not_notice hnotice

theorem carried (h : Sent s s' d session packet) (hs : Carried codec lh s)
    (huid : session.uid ≠ 0 -> Owns lh d session.uid)
    (hpacket : exists v, Owns lh d v ∧
      (IsRequestOf codec packet v ∨ IsNoticeOf codec packet v)) :
    Carried codec lh s' where
  bound := by
    intro d'
    rw [h.sessions]
    by_cases hd : d' = d
    · subst hd
      rw [Function.update_self]
      exact huid
    · rw [Function.update_of_ne hd]
      exact hs.bound d'
  packets := by
    intro other hother
    cases (h.travels other).mp hother with
    | inl hold =>
        exact hs.packets other hold
    | inr heq =>
        rw [heq, h.sender]
        exact hpacket

/-- The session forwards a request. -/
theorem request
    (h : Sent s s' c
      { s.sessions c with
        sentAs := (s.sessions c).uid :: (s.sessions c).sentAs } packet)
    (hs : Farewell codec lh c ok s) (hcarried : Carried codec lh s)
    (hopen : (s.sessions c).isOpen = true) (huid : (s.sessions c).uid ≠ 0)
    (hrequest : IsRequestOf codec packet (s.sessions c).uid) :
    Farewell codec lh c ok s' := by
  have hnew := congrFun h.sessions c
  rw [Function.update_self] at hnew
  have hsilent : forall u, Owns lh c u -> ¬ NoticeTravels codec s' u := by
    intro u hu hnotice
    cases (h.noticeTravels u).mp hnotice with
    | inl hold => exact (hs.mute u hu (Or.inl hopen)).left hold
    | inr hthis => exact hrequest.not_notice hthis
  constructor
  · rw [hnew]
    exact hs.owned
  · rw [hnew]
    exact hs.current
  · intro u hu
    rw [hnew] at hu ⊢
    cases List.mem_cons.mp hu with
    | inl heq =>
        rw [heq]
        exact ⟨hs.current huid, huid⟩
    | inr hold =>
        exact hs.sent u hold
  · intro hge
    rw [h.sessionCount] at hge
    cases hopen.symm.trans (hs.unmade hge).left
  · intro u hu _
    refine ⟨hsilent u hu, ?_⟩
    rw [hnew, h.alive, ← (hs.mute u hu (Or.inl hopen)).right]
    show u ∈ (s.sessions c).uid :: (s.sessions c).sentAs <-> _
    rw [List.mem_cons]
    constructor
    · intro hor
      cases hor with
      | inl heq =>
          rw [heq]
          exact Or.inr hrequest
      | inr hold =>
          exact Or.inl hold
    · intro hor
      cases hor with
      | inl hold => exact Or.inr hold
      | inr hthis => exact Or.inl (hthis.uid_eq hrequest)
  · intro _
    exact hs.opened (Or.inl hopen)
  · intro hclosed
    rw [hnew] at hclosed
    cases hopen.symm.trans hclosed
  · intro hclosed
    rw [hnew] at hclosed
    cases hopen.symm.trans hclosed
  · intro other notice u hother hnotice _ hsession hkind
    cases (h.travels notice).mp hnotice with
    | inl hold =>
        exact absurd hkind (hs.no_notice hcarried hopen hold hsession)
    | inr heq =>
        rw [heq] at hkind
        exact absurd hkind hrequest.not_notice

/-- The session is closed and sends a notice. -/
theorem notice (h : Sent s s' c { s.sessions c with isOpen := false } packet)
    (hs : Farewell codec lh c ok s) (hcarried : Carried codec lh s)
    (hopen : (s.sessions c).isOpen = true) (huid : (s.sessions c).uid ≠ 0)
    (hnotice : IsNoticeOf codec packet (s.sessions c).uid) :
    Farewell codec lh c (ok ∧ Faithful (s.sessions c)) s' := by
  have hnew := congrFun h.sessions c
  rw [Function.update_self] at hnew
  have hfaithful : Faithful (s'.sessions c) <-> Faithful (s.sessions c) := by
    rw [hnew]
    exact Iff.rfl
  have hok : ok := hs.opened (Or.inl hopen)
  constructor
  · rw [hnew]
    exact hs.owned
  · rw [hnew]
    exact hs.current
  · rw [hnew]
    exact hs.sent
  · intro hge
    rw [h.sessionCount] at hge
    cases hopen.symm.trans (hs.unmade hge).left
  · intro u hu hor
    rw [hnew] at hor ⊢
    have hne : u ≠ (s.sessions c).uid := by
      cases hor with
      | inl hstill => cases hstill
      | inr hne => exact hne
    have hmute := hs.mute u hu (Or.inl hopen)
    constructor
    · intro htravels
      cases (h.noticeTravels u).mp htravels with
      | inl hold => exact hmute.left hold
      | inr hthis => exact hne (hthis.uid_eq hnotice)
    · rw [h.alive]
      refine hmute.right.trans (or_iff_left ?_).symm
      intro hrequest
      exact hrequest.not_notice hnotice
  · intro hor
    rw [hnew] at hor
    cases hor with
    | inl hstill => cases hstill
    | inr hzero => exact absurd hzero huid
  · intro _ _ _
    rw [hfaithful]
    exact and_iff_right hok
  · intro _ _ hnone
    rw [hnew] at hnone
    exact absurd ((h.noticeTravels _).mpr (Or.inr hnotice)) hnone
  · intro other last u hother hlast _ hsession hkind
    cases (h.travels last).mp hlast with
    | inl hold =>
        exact absurd hkind (hs.no_notice hcarried hopen hold hsession)
    | inr heq =>
        rw [heq]
        cases (h.travels other).mp hother with
        | inl hold => exact Nat.le_of_lt (h.fresh other hold)
        | inr heq' => rw [heq']

end Sent

/-- The choice of a connection depends on the connections and the turn of the pool. -/
theorem selectConn_congr (w rounds : Nat) (hconns : s'.conns = s.conns)
    (hpool : s'.pool = s.pool) (hrr : s'.rrIdx = s.rrIdx) :
    (selectConn w rounds s').1 = (selectConn w rounds s).1 := by
  induction rounds generalizing s s' with
  | zero =>
      rfl
  | succ rounds ih =>
      unfold selectConn
      simp only [hconns, hpool, hrr]
      split
      · rfl
      · apply ih
        · rfl
        · rfl
        · rfl

theorem canSend_congr (w : Nat) (hconns : s'.conns = s.conns)
    (hpool : s'.pool = s.pool) (hrr : s'.rrIdx = s.rrIdx) :
    s'.canSend w = s.canSend w := by
  unfold canSend
  rw [selectConn_congr w kGameServerConnCnt hconns hpool hrr, hconns]

/-- Turning the pool changes neither the sessions nor the game server. -/
theorem selectConn_sessions (w rounds : Nat) (s : Cluster B F) :
    (selectConn w rounds s).2.sessions = s.sessions ∧
      (selectConn w rounds s).2.sessionCount = s.sessionCount ∧
        (selectConn w rounds s).2.server = s.server := by
  induction rounds generalizing s with
  | zero =>
      exact ⟨rfl, rfl, rfl⟩
  | succ rounds ih =>
      unfold selectConn
      simp only
      split
      · exact ⟨rfl, rfl, rfl⟩
      · exact ih _

theorem Travels.lt {past : List Handled} (h : Inbound past s) {packet : InPacket B}
    (hpacket : Travels s packet) : packet.stamp.index < s.nextIndex := by
  rcases hpacket with ⟨conn, hconn⟩
  exact (h.lanes 0).flight_lt conn packet.stamp (List.mem_map_of_mem hconn)

theorem sendData_travels {c : Nat} (packet other : InPacket B)
    (hroom : (s.conns c).sendQue.length < kMaxSendQueueDepth) :
    Travels (s.sendData c packet) other <-> Travels s other ∨ other = packet := by
  have hkept : ¬ (s.conns c).sendQue.length ≥ kMaxSendQueueDepth :=
    Nat.not_le.mpr hroom
  constructor
  · intro h
    rcases h with ⟨conn, hconn⟩
    by_cases hc : conn = c
    · subst hc
      simp only [sendData, setConn, Function.update_self, if_neg hkept] at hconn
      rw [← List.append_assoc] at hconn
      cases List.mem_append.mp hconn with
      | inl hold => exact Or.inl ⟨conn, hold⟩
      | inr hnew => exact Or.inr (List.mem_singleton.mp hnew)
    · simp only [sendData, setConn, Function.update_of_ne hc] at hconn
      exact Or.inl ⟨conn, hconn⟩
  · intro h
    cases h with
    | inl hold =>
        rcases hold with ⟨conn, hconn⟩
        refine ⟨conn, ?_⟩
        by_cases hc : conn = c
        · subst hc
          simp only [sendData, setConn, Function.update_self, if_neg hkept]
          rw [← List.append_assoc]
          exact List.mem_append_left _ hconn
        · simp only [sendData, setConn, Function.update_of_ne hc]
          exact hconn
    | inr hnew =>
        refine ⟨c, ?_⟩
        simp [sendData, setConn, hnew]

/-- With a connection that has room, the packet is on its way. -/
theorem postMessage_sent {past : List Handled} (h : Inbound past s) {w : Nat}
    (hsend : s.canSend w = true) (d : Nat) (msgId : MsgId) (body : B) :
    exists packet, packet.msgId = msgId ∧ packet.body = body ∧
      Sent s (s.postMessage w d msgId body) d (s.sessions d) packet := by
  have hspec := selectConn_spec w kGameServerConnCnt s
  have hsame := selectConn_sessions w kGameServerConnCnt s
  unfold canSend at hsend
  cases hconn : (selectConn w kGameServerConnCnt s).1 with
  | none =>
      rw [hconn] at hsend
      cases hsend
  | some conn =>
      rw [hconn] at hsend
      have hroom : ((selectConn w kGameServerConnCnt s).2.conns
          conn).sendQue.length < kMaxSendQueueDepth := by
        rw [hspec.left.sendQue]
        exact of_decide_eq_true hsend
      unfold postMessage
      simp only [hconn]
      refine ⟨⟨⟨d, s.nextIndex, conn, s.inFlight⟩, msgId, body⟩, rfl, rfl, ?_⟩
      constructor
      · rw [Function.update_eq_self]
        exact hsame.left
      · exact hsame.right.left
      · exact hsame.right.right
      · rfl
      · exact fun other hother => hother.lt h
      · intro other
        have htravels := sendData_travels
          (⟨⟨d, s.nextIndex, conn, s.inFlight⟩, msgId, body⟩ : InPacket B) other hroom
        rw [hspec.left.travels] at htravels
        exact htravels

section Requests

variable {codec : Codec B F} {lh : LoginHash} {c : Nat} {ok : Prop}
  {past : List Handled}

theorem Farewell.congr {ok' : Prop} (h : Farewell codec lh c ok s)
    (hok : ok <-> ok') : Farewell codec lh c ok' s := by
  rw [← propext hok]
  exact h

/-- Before the packet is sent, the session is updated and others may be told. -/
theorem Sent.before {t : Cluster B F} {d : Nat} {session session' : Csession F}
    {packet : InPacket B} (h : Sent t s' d session' packet)
    (hsame : SameInbound s t) (hsessions : t.sessions =
      Function.update s.sessions d session) (hcount : t.sessionCount = s.sessionCount)
    (hserver : t.server = s.server) (hsession : t.sessions d = session') :
    Sent s s' d session packet where
  sessions := by
    rw [h.sessions, ← hsession, Function.update_eq_self, hsessions]
  sessionCount := h.sessionCount.trans hcount
  server := h.server.trans hserver
  sender := h.sender
  fresh := fun other hother => h.fresh other ((hsame.travels other).mpr hother)
  travels := by
    intro other
    rw [h.travels, hsame.travels]

theorem request_sent (h : Inbound past s) (gc : GateCodec codec) {d : Nat}
    {msgId : MsgId} {body envelope : B} (hopen : (s.sessions d).isOpen = true)
    (hmsg : registersForward msgId = true) (huid : (s.sessions d).uid ≠ 0)
    (hbuild : gc.buildEnvelope (s.sessions d).uid msgId body = some envelope)
    (hsend : s.canSend (s.sessions d).shard = true) :
    exists packet, IsRequestOf codec packet (s.sessions d).uid ∧
      Sent s (request gc s d msgId body) d
        { s.sessions d with
          sentAs := (s.sessions d).uid :: (s.sessions d).sentAs } packet := by
  have hsame : SameInbound s (s.setSession d
      { s.sessions d with
        sentAs := (s.sessions d).uid :: (s.sessions d).sentAs }) :=
    SameInbound.of_conns rfl rfl rfl rfl
  have hcan : (s.setSession d
      { s.sessions d with
        sentAs := (s.sessions d).uid :: (s.sessions d).sentAs }).canSend
        (s.sessions d).shard = true := by
    rw [← hsend]
    exact canSend_congr _ rfl rfl rfl
  rcases postMessage_sent (hsame.inbound h) hcan d MsgId.gateToGameEnvelope envelope
    with ⟨packet, hid, hbody, hsent⟩
  refine ⟨packet, ⟨hid, msgId, body, hmsg, ?_⟩, ?_⟩
  · rw [hbody]
    exact gc.envelope _ _ _ _ hbuild
  · have hrequest : request gc s d msgId body =
        (s.setSession d
          { s.sessions d with
            sentAs := (s.sessions d).uid :: (s.sessions d).sentAs }).postMessage
          (s.sessions d).shard d MsgId.gateToGameEnvelope envelope := by
      unfold request forwardClientMsgToGame
      simp only [hopen, hmsg, Bool.and_self, if_true, if_neg huid, hbuild]
    rw [hrequest]
    exact hsent.before hsame rfl rfl rfl rfl

theorem request_idle (gc : GateCodec codec) {d : Nat} {msgId : MsgId} {body : B}
    (h : ¬ exists envelope, (s.sessions d).isOpen = true ∧
      registersForward msgId = true ∧ (s.sessions d).uid ≠ 0 ∧
        gc.buildEnvelope (s.sessions d).uid msgId body = some envelope) :
    request gc s d msgId body = s := by
  unfold request forwardClientMsgToGame
  split
  · rename_i hboth
    rw [Bool.and_eq_true] at hboth
    simp only
    split
    · rfl
    · rename_i huid
      split
      · rfl
      · rename_i envelope hbuild
        exact absurd ⟨envelope, hboth.left, hboth.right, huid, hbuild⟩ h
  · rfl

theorem request_farewell (h : Farewell codec lh c ok s) (hcarried : Carried codec lh s)
    (hin : Inbound past s) (gc : GateCodec codec) (d : Nat) (msgId : MsgId) (body : B)
    (hloss : s.Lossless (ClusterInput.requests d msgId body) = true) :
    Farewell codec lh c ok (request gc s d msgId body) ∧
      Carried codec lh (request gc s d msgId body) := by
  by_cases hsends : exists envelope, (s.sessions d).isOpen = true ∧
      registersForward msgId = true ∧ (s.sessions d).uid ≠ 0 ∧
        gc.buildEnvelope (s.sessions d).uid msgId body = some envelope
  · rcases hsends with ⟨envelope, hopen, hmsg, huid, hbuild⟩
    have hsend : s.canSend (s.sessions d).shard = true := by
      simpa [Lossless, hopen] using hloss
    rcases request_sent hin gc hopen hmsg huid hbuild hsend
      with ⟨packet, hrequest, hsent⟩
    have howns := hcarried.bound d huid
    have hpacket : exists v, Owns lh d v ∧
        (IsRequestOf codec packet v ∨ IsNoticeOf codec packet v) :=
      ⟨_, howns, Or.inl hrequest⟩
    refine ⟨?_, hsent.carried hcarried (fun _ => howns) hpacket⟩
    by_cases hc : c = d
    · subst hc
      exact hsent.request h hcarried hopen huid hrequest
    · exact (hsent.quiet hc hpacket).farewell h
  · rw [request_idle gc hsends]
    exact ⟨h, hcarried⟩

theorem unregister_pool (s : Cluster B F) (uid d : Nat) :
    (s.unregister uid d).conns = s.conns ∧ (s.unregister uid d).pool = s.pool ∧
      (s.unregister uid d).rrIdx = s.rrIdx := by
  unfold unregister
  split
  · exact ⟨rfl, rfl, rfl⟩
  · split
    · exact ⟨rfl, rfl, rfl⟩
    · split
      · exact ⟨rfl, rfl, rfl⟩
      · exact ⟨rfl, rfl, rfl⟩

/-- The session as it is when the notice is sent. -/
theorem closing_same (s : Cluster B F) (d : Nat) (session : Csession F) :
    SameInbound s ((s.unregister (s.sessions d).uid d).setSession d session) ∧
      ((s.unregister (s.sessions d).uid d).setSession d session).sessions =
        Function.update s.sessions d session ∧
      ((s.unregister (s.sessions d).uid d).setSession d session).sessionCount =
        s.sessionCount ∧
      ((s.unregister (s.sessions d).uid d).setSession d session).server =
        s.server := by
  rcases unregister_tables s (s.sessions d).uid d with
    ⟨hcount, _, _, hsessions, hserver⟩
  refine ⟨?_, ?_, hcount, hserver⟩
  · exact (unregister_same s _ d).trans (SameInbound.of_conns rfl rfl rfl rfl)
  · show Function.update (s.unregister _ d).sessions d session = _
    rw [hsessions]

/-- A session without a uid is closed silently. -/
theorem closeSession_silent (gc : GateCodec codec) {d : Nat}
    (hopen : (s.sessions d).isOpen = true) (huid : (s.sessions d).uid = 0) :
    SameInbound s (closeSession gc s d) ∧
      (closeSession gc s d).sessions =
        Function.update s.sessions d { s.sessions d with isOpen := false } ∧
      (closeSession gc s d).sessionCount = s.sessionCount ∧
      (closeSession gc s d).server = s.server := by
  rcases closing_same s d { s.sessions d with isOpen := false } with
    ⟨hsame, hsessions, hcount, hserver⟩
  have hidle : notifyGameServerDisconnect gc
      ((s.unregister (s.sessions d).uid d).setSession d
        { s.sessions d with isOpen := false }) d =
      (s.unregister (s.sessions d).uid d).setSession d
        { s.sessions d with isOpen := false } := by
    unfold notifyGameServerDisconnect
    rw [hsessions]
    simp only [Function.update_self, huid, if_true]
  unfold closeSession
  simp only [hopen, if_true]
  rw [hidle]
  refine ⟨?_, hsessions, hcount, hserver⟩
  exact hsame.trans (SameInbound.of_conns rfl rfl rfl rfl)

theorem closeSession_sent (h : Inbound past s) (gc : GateCodec codec) {d : Nat}
    (hopen : (s.sessions d).isOpen = true) (huid : (s.sessions d).uid ≠ 0)
    (hsend : s.canSend (s.sessions d).shard = true) :
    exists packet, IsNoticeOf codec packet (s.sessions d).uid ∧
      Sent s (closeSession gc s d) d { s.sessions d with isOpen := false }
        packet := by
  rcases closing_same s d { s.sessions d with isOpen := false } with
    ⟨hsame, hsessions, hcount, hserver⟩
  have hpool := unregister_pool s (s.sessions d).uid d
  have hcan : ((s.unregister (s.sessions d).uid d).setSession d
      { s.sessions d with isOpen := false }).canSend (s.sessions d).shard = true := by
    rw [← hsend]
    exact canSend_congr _ hpool.left hpool.right.left hpool.right.right
  have hsession := congrFun hsessions d
  rw [Function.update_self] at hsession
  rcases postMessage_sent (hsame.inbound h) hcan d MsgId.clientDisconnectedNtf
    (gc.buildClientDisconnectedNtf (s.sessions d).uid) with
    ⟨packet, hid, hbody, hsent⟩
  refine ⟨packet, ⟨hid, ?_⟩, ?_⟩
  · rw [hbody]
    exact gc.disconnectedUid _
  · have hnotify : notifyGameServerDisconnect gc
        ((s.unregister (s.sessions d).uid d).setSession d
          { s.sessions d with isOpen := false }) d =
        ((s.unregister (s.sessions d).uid d).setSession d
          { s.sessions d with isOpen := false }).postMessage (s.sessions d).shard d
          MsgId.clientDisconnectedNtf
          (gc.buildClientDisconnectedNtf (s.sessions d).uid) := by
      unfold notifyGameServerDisconnect
      rw [hsession]
      simp only [if_neg huid]
    unfold closeSession
    simp only [hopen, if_true]
    rw [hnotify]
    have hfull := hsent.before hsame hsessions hcount hserver rfl
    exact ⟨hfull.sessions, hfull.sessionCount, hfull.server, hfull.sender,
      hfull.fresh, hfull.travels⟩

/-- The session that has no uid is closed. -/
theorem Farewell.closed (h : Farewell codec lh c ok s) (hsame : SameInbound s s')
    (hsession : s'.sessions c = { s.sessions c with isOpen := false })
    (hcount : s'.sessionCount = s.sessionCount) (hserver : s'.server = s.server)
    (hopen : (s.sessions c).isOpen = true) (huid : (s.sessions c).uid = 0) :
    Farewell codec lh c ok s' where
  owned := by
    rw [hsession]
    exact h.owned
  current := by
    rw [hsession]
    exact h.current
  sent := by
    rw [hsession]
    exact h.sent
  unmade := by
    rw [hsession, hcount]
    intro hge
    exact ⟨rfl, (h.unmade hge).right⟩
  mute := by
    intro u hu _
    rw [hsession, noticeTravels_congr hsame.travels,
      alive_congr hsame.travels (congrArg GameServer.logicShardCount hserver)
        (remembers_congr hserver)]
    exact h.mute u hu (Or.inl hopen)
  opened := fun _ => h.opened (Or.inl hopen)
  noticed := by
    intro _ hne
    rw [hsession] at hne
    exact absurd huid hne
  gone := by
    intro _ hne
    rw [hsession] at hne
    exact absurd huid hne
  last := by
    intro packet notice u hpacket hnotice
    exact h.last packet notice u ((hsame.travels packet).mp hpacket)
      ((hsame.travels notice).mp hnotice)

theorem closeSession_farewell (h : Farewell codec lh c ok s)
    (hcarried : Carried codec lh s) (hin : Inbound past s) (gc : GateCodec codec)
    (d : Nat) (hloss : s.Lossless (ClusterInput.closes d) = true) :
    Farewell codec lh c (ok ∧ Orderly c s (ClusterInput.closes d))
        (closeSession gc s d) ∧ Carried codec lh (closeSession gc s d) := by
  by_cases hopen : (s.sessions d).isOpen = true
  · by_cases huid : (s.sessions d).uid = 0
    · rcases closeSession_silent gc hopen huid with
        ⟨hsame, hsessions, hcount, hserver⟩
      constructor
      · by_cases hc : c = d
        · subst hc
          have hsession := congrFun hsessions c
          rw [Function.update_self] at hsession
          apply (h.closed hsame hsession hcount hserver hopen huid).congr
          refine (and_iff_left ?_).symm
          intro _ _ u hu
          exact absurd huid (h.sent u hu).right
        · have hquiet : Quiet codec lh c s (closeSession gc s d) := by
            refine Quiet.of_same hsame ?_ (Nat.le_of_eq hcount.symm) hserver
            rw [hsessions, Function.update_of_ne hc]
          apply (hquiet.farewell h).congr
          exact (and_iff_left (fun heq => absurd heq.symm hc)).symm
      · constructor
        · intro d'
          rw [hsessions]
          by_cases hd : d' = d
          · subst hd
            rw [Function.update_self]
            exact hcarried.bound d'
          · rw [Function.update_of_ne hd]
            exact hcarried.bound d'
        · intro packet hpacket
          exact hcarried.packets packet ((hsame.travels packet).mp hpacket)
    · have hsend : s.canSend (s.sessions d).shard = true := by
        simpa [Lossless, hopen] using hloss
      rcases closeSession_sent hin gc hopen huid hsend with
        ⟨packet, hnotice, hsent⟩
      have howns := hcarried.bound d huid
      have hpacket : exists v, Owns lh d v ∧
          (IsRequestOf codec packet v ∨ IsNoticeOf codec packet v) :=
        ⟨_, howns, Or.inr hnotice⟩
      refine ⟨?_, hsent.carried hcarried (fun _ => howns) hpacket⟩
      by_cases hc : c = d
      · subst hc
        apply (hsent.notice h hcarried hopen huid hnotice).congr
        apply and_congr_right
        intro _
        constructor
        · intro hfaithful _ _
          exact hfaithful
        · intro horderly
          exact horderly rfl hopen
      · apply ((hsent.quiet hc hpacket).farewell h).congr
        exact (and_iff_left (fun heq => absurd heq.symm hc)).symm
  · have hidle : closeSession gc s d = s := by
      unfold closeSession
      simp only [if_neg hopen]
    rw [hidle]
    refine ⟨?_, hcarried⟩
    apply h.congr
    refine (and_iff_left ?_).symm
    intro heq hopen'
    rw [heq] at hopen
    exact absurd hopen' hopen

end Requests

end Cluster

end RtsGame
