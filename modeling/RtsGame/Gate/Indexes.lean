import RtsGame.Gate.Frontend
import RtsGame.Gate.Registry

/-!
# The indexes of the gateway

A work shard finds a session by its uid in `user_id_mgr`, the gateway in the
registry.  Logging in and closing keep both in step with the sessions.  The one
step that does not is a login that is handled after the session was closed: its
body had been read before, and the loop that reads does not look at the session
again.
-/

namespace RtsGame

namespace Cluster

variable {B F : Type} {s s' : Cluster B F} {lh : LoginHash}

/-- Every entry names an open session, and every open session has its entries. -/
structure Indexed (s : Cluster B F) : Prop where
  listed : forall w u c, s.userIdMgr w u = some c ->
    (s.sessions c).isOpen = true ∧ (s.sessions c).shard = w ∧ (s.sessions c).uid = u
  entry : forall u w c, s.registry u = some (w, c) ->
    (s.sessions c).isOpen = true ∧ (s.sessions c).shard = w ∧ (s.sessions c).uid = u
  found : forall c, (s.sessions c).isOpen = true -> (s.sessions c).uid ≠ 0 ->
    s.findSessionByUid (s.sessions c).shard (s.sessions c).uid = some c ∧
      s.registry (s.sessions c).uid = some ((s.sessions c).shard, c)

/-- The invariant behind it; uids belong to one session. -/
structure Synced (lh : LoginHash) (s : Cluster B F) : Prop where
  registered : Registered lh s
  named : forall w u c, s.userIdMgr w u = some c ->
    u ≠ 0 ∧ (s.sessions c).isOpen = true ∧ (s.sessions c).uid = u
  known : forall c, (s.sessions c).isOpen = true -> (s.sessions c).uid ≠ 0 ->
    s.userIdMgr (s.sessions c).shard (s.sessions c).uid = some c ∧
      s.registry (s.sessions c).uid = some ((s.sessions c).shard, c)

theorem Synced.indexed (h : Synced lh s) : Indexed s where
  listed := by
    intro w u c hc
    rcases h.named w u c hc with ⟨_, hopen, huid⟩
    exact ⟨hopen, (h.registered.listed w u c hc).right, huid⟩
  entry := by
    intro u w c hc
    rcases h.registered.entry u w c hc with ⟨_, hopen, huid, hshard, _⟩
    exact ⟨hopen, hshard, huid⟩
  found := by
    intro c hopen huid
    rcases h.known c hopen huid with ⟨hmgr, hregistry⟩
    refine ⟨?_, hregistry⟩
    unfold findSessionByUid
    rw [hmgr]
    exact if_pos hopen

theorem synced_create (lh : LoginHash)
    (workShardCount netShardCount logicShardCount : Nat) :
    Synced lh (create workShardCount netShardCount logicShardCount : Cluster B F) where
  registered := registered_create lh workShardCount netShardCount logicShardCount
  named := by
    intro w u c hc
    cases hc
  known := by
    intro c hopen
    cases hopen

theorem SameTables.synced (h : SameTables s s') (hs : Synced lh s) : Synced lh s' where
  registered := h.registered hs.registered
  named := by
    intro w u c
    rw [h.userIdMgr, h.isOpen, h.uid]
    exact hs.named w u c
  known := by
    intro c
    rw [h.isOpen, h.uid, h.shard, h.userIdMgr, h.registry]
    exact hs.known c

/-!
## Accepting
-/

theorem Synced.accept (h : Synced lh s) (w : Nat) : Synced lh (s.accept w) := by
  have hregistered := accept_registered h.registered w
  by_cases hw : w < s.workShardCount
  · have hsessions : (s.accept w).sessions =
        Function.update s.sessions s.sessionCount (newSession w) := by
      unfold Cluster.accept
      rw [if_pos hw]
    have hmgr : (s.accept w).userIdMgr = s.userIdMgr := by
      unfold Cluster.accept
      rw [if_pos hw]
    have hregistry : (s.accept w).registry = s.registry := by
      unfold Cluster.accept
      rw [if_pos hw]
    refine ⟨hregistered, ?_, ?_⟩
    · intro w' u c hc
      rw [hmgr] at hc
      have hlt := (h.registered.listed w' u c hc).left
      rw [hsessions, Function.update_of_ne (Nat.ne_of_lt hlt)]
      exact h.named w' u c hc
    · intro c
      rw [hsessions, hmgr, hregistry]
      by_cases hc : c = s.sessionCount
      · subst hc
        rw [Function.update_self]
        intro _ huid
        exact absurd rfl huid
      · rw [Function.update_of_ne hc]
        exact h.known c
  · have hsame : s.accept w = s := by
      unfold Cluster.accept
      rw [if_neg hw]
    rw [hsame]
    exact h

/-!
## Logging in
-/

theorem unregister_registry_of_ne {uid d u : Nat} (h : u ≠ uid) :
    (s.unregister uid d).registry u = s.registry u := by
  unfold unregister
  split
  · rfl
  · split
    · rfl
    · split
      · rfl
      · exact Function.update_of_ne h _ _

/-- A session that changes its uid gives up the entry of the old one. -/
theorem bindUid_userIdMgr (s : Cluster B F) (d : Nat) {uid : Nat} (huid : uid ≠ 0)
    (w u : Nat) :
    (s.bindUid d uid).userIdMgr w u =
      if w = (s.sessions d).shard ∧ u = uid then some d
      else if ((s.sessions d).uid ≠ 0 ∧ (s.sessions d).uid ≠ uid) ∧
          w = (s.sessions d).shard ∧ u = (s.sessions d).uid then none
      else s.userIdMgr w u := by
  unfold bindUid
  rw [if_neg huid]
  dsimp only
  rw [setUserId_apply]
  apply ite_congr rfl (fun _ => rfl)
  intro _
  split
  · next hold =>
      simp only [setSession, setUserId_apply, hold, ne_eq, not_false_eq_true, true_and]
      rw [(unregister_tables s (s.sessions d).uid d).right.right.left]
  · next hold =>
      rw [if_neg (fun hboth => hold hboth.left)]
      rfl

theorem bindUid_registry (s : Cluster B F) (d : Nat) {uid u : Nat} (huid : uid ≠ 0)
    (hold : u ≠ (s.sessions d).uid) :
    (s.bindUid d uid).registry u =
      if u = uid then some ((s.sessions d).shard, d) else s.registry u := by
  unfold bindUid
  rw [if_neg huid]
  dsimp only
  rw [Function.update_apply]
  apply ite_congr rfl (fun _ => rfl)
  intro _
  split
  · exact unregister_registry_of_ne hold
  · rfl

theorem bindUid_registry_self (s : Cluster B F) (d : Nat) {uid : Nat}
    (huid : uid ≠ 0) :
    (s.bindUid d uid).registry uid = some ((s.sessions d).shard, d) := by
  unfold bindUid
  rw [if_neg huid]
  exact Function.update_self _ _ _

theorem Synced.bindUid (h : Synced lh s) {d uid : Nat}
    (hopen : (s.sessions d).isOpen = true) (hown : Owns lh d uid)
    (hregistered : Registered lh (s.bindUid d uid)) : Synced lh (s.bindUid d uid) := by
  have huid := hown.ne_zero
  have hsessions := (bindUid_sessions s d huid).left
  have hself : (s.bindUid d uid).sessions d =
      { s.sessions d with
        uid := uid
        boundUids := uid :: (s.sessions d).boundUids } := by
    rw [hsessions]
    exact Function.update_self _ _ _
  have hother : forall c, c ≠ d ->
      (s.bindUid d uid).sessions c = s.sessions c := by
    intro c hc
    rw [hsessions]
    exact Function.update_of_ne hc _ _
  refine ⟨hregistered, ?_, ?_⟩
  · intro w u c hc
    rw [bindUid_userIdMgr s d huid] at hc
    split at hc
    · next hnew =>
        cases hc
        rw [hself]
        refine ⟨?_, hopen, hnew.right.symm⟩
        rw [hnew.right]
        exact huid
    · next hnew =>
        split at hc
        · cases hc
        · next hold =>
            rcases h.named w u c hc with ⟨hne, hcopen, hcuid⟩
            have hcd : c ≠ d := by
              -- the only entry of the session was the one that it has given up
              intro heq
              subst heq
              have hshard := (h.registered.listed w u c hc).right
              apply hold
              refine ⟨⟨?_, ?_⟩, hshard.symm, hcuid.symm⟩
              · rw [hcuid]
                exact hne
              · intro hsame
                exact hnew ⟨hshard.symm, hcuid.symm.trans hsame⟩
            rw [hother c hcd]
            exact ⟨hne, hcopen, hcuid⟩
  · intro c
    by_cases hcd : c = d
    · subst hcd
      rw [hself]
      intro _ _
      constructor
      · rw [bindUid_userIdMgr s c huid, if_pos ⟨rfl, rfl⟩]
      · exact bindUid_registry_self s c huid
    · rw [hother c hcd]
      intro hcopen hcuid
      have hnew : (s.sessions c).uid ≠ uid := by
        intro heq
        have hboth := h.registered.bound c hcuid
        rw [heq] at hboth
        exact hcd (hboth.session_eq hown)
      have hold : (s.sessions c).uid ≠ (s.sessions d).uid := by
        intro heq
        exact hcd (h.registered.session_eq (heq ▸ hcuid) heq)
      rcases h.known c hcopen hcuid with ⟨hmgr, hregistry⟩
      constructor
      · rw [bindUid_userIdMgr s d huid, if_neg (fun hboth => hnew hboth.right),
          if_neg (fun hboth => hold hboth.right.right)]
        exact hmgr
      · rw [bindUid_registry s d huid hold, if_neg hnew]
        exact hregistry

theorem Synced.handleLoginReq (h : Synced lh s) {d : Nat}
    (hopen : (s.sessions d).isOpen = true) (account token : String) :
    Synced lh (s.handleLoginReq lh d account token) := by
  have hregistered := login_registered h.registered d account token
  unfold login at hregistered
  rw [if_pos hopen] at hregistered
  exact h.bindUid hopen ⟨account, token, rfl⟩ hregistered

/-!
## Closing
-/

theorem Synced.closeSession (h : Synced lh s) {codec : Codec B F}
    (gc : GateCodec codec) (d : Nat) : Synced lh (closeSession gc s d) := by
  cases hopen : (s.sessions d).isOpen with
  | false =>
      rw [closeSession_idle gc hopen]
      exact h
  | true =>
      have hsession := closeSession_session gc hopen
      refine ⟨closeSession_registered h.registered gc d, ?_, ?_⟩
      · intro w u c hc
        rw [closeSession_userIdMgr gc hopen] at hc
        split at hc
        · cases hc
        · next hkept =>
            have hcd : c ≠ d := by
              intro heq
              subst heq
              exact hkept ⟨(h.registered.listed w u c hc).right.symm, Or.inr hc⟩
            rw [(hsession c).left, (hsession c).right.right, if_neg hcd]
            exact h.named w u c hc
      · intro c
        rw [(hsession c).left, (hsession c).right.left, (hsession c).right.right]
        intro hcopen hcuid
        by_cases hcd : c = d
        · rw [if_pos hcd] at hcopen
          cases hcopen
        · rw [if_neg hcd] at hcopen
          have hother : (s.sessions c).uid ≠ (s.sessions d).uid := by
            intro heq
            exact hcd (h.registered.session_eq (heq ▸ hcuid) heq)
          rcases h.known c hcopen hcuid with ⟨hmgr, hregistry⟩
          constructor
          · rw [closeSession_userIdMgr gc hopen, if_neg]
            · exact hmgr
            · intro hdropped
              cases hdropped.right with
              | inl huid => exact hother huid
              | inr hd =>
                  rw [hmgr] at hd
                  exact hcd (Option.some.inj hd)
          · rw [closeSession_registry gc hopen, unregister_registry_of_ne hother]
            exact hregistry

/-!
## What happens without clients
-/

variable [Scalar F]

theorem backend_tables {codec : Codec B F} (gc : GateCodec codec) (lh : LoginHash)
    (s : Cluster B F) (input : ClusterInput B) (h : Frontend.ofBackend input = true) :
    SameTables s (next gc lh s input) := by
  cases input with
  | accepts w => cases h
  | logsIn c account token => cases h
  | requests c msgId body => cases h
  | closes c => cases h
  | connects c net linkId => exact connect_tables s c net linkId
  | breaks c => exact breakConn_tables s c
  | cuts c => exact cutConn_tables s c
  | detects w => exact detect_tables s w
  | writes c => exact write_tables s c
  | arrives c => exact arrive_tables codec s c
  | works shardId ω => exact work_tables codec s shardId ω
  | ticks shardId ω => exact tick_tables s shardId ω
  | netWorks net => exact netWork_tables s net
  | writesBack c => exact writeBack_tables s c
  | arrivesBack c => exact arriveBack_tables s c
  | postWorks w => exact postWork_tables s w

end Cluster

/-!
## Runs
-/

namespace Frontend

variable {F : Type} {codec : Codec Bytes F}

/-- A login that is handled finds its session open. -/
def Timely (cc : ClientCodec codec) (f : Frontend F) : FrontendInput -> Prop
  | FrontendInput.readRuns c =>
      forall msgId body account token, f.dispatched c = some (msgId, body) ->
        ClientIngressRouter.handler msgId = some ClientHandler.login ->
          cc.loginReq body = some (account, token) -> f.isOpen c = true
  | _ => True

section Steps

variable {cc : ClientCodec codec} {lh : LoginHash} {f : Frontend F}

theorem synced_handleMsg (h : f.cluster.Synced lh) (c : Nat) (msgId : UInt16)
    (body : Bytes)
    (hopen : forall account token,
      ClientIngressRouter.handler msgId = some ClientHandler.login ->
        cc.loginReq body = some (account, token) -> f.isOpen c = true) :
    (handleMsg cc lh f c msgId body).cluster.Synced lh := by
  unfold handleMsg
  split
  · exact h
  · exact h
  · next hlogin =>
      split
      · exact h
      · next account token hparsed =>
          exact h.handleLoginReq (hopen account token hlogin hparsed) account token
  · exact (Cluster.forward_tables cc.toGateCodec f.cluster c _ body).synced h

theorem synced_readRuns (h : f.cluster.Synced lh) (c : Nat)
    (htimely : Timely cc f (FrontendInput.readRuns c)) :
    (handleRead cc lh f c).cluster.Synced lh := by
  rcases handleRead_cases cc lh f c with
    ⟨msgId, body, hpacket, hcluster⟩ | ⟨_, hsame | hclosed⟩
  · rw [hcluster]
    apply synced_handleMsg h
    intro account token hlogin hparsed
    exact htimely msgId body account token hpacket hlogin hparsed
  · rw [hsame]
    exact h
  · rw [hclosed]
    exact h.closeSession cc.toGateCodec c

variable [Scalar F]

theorem synced_next (h : f.cluster.Synced lh) (input : FrontendInput)
    (htimely : Timely cc f input) : (next cc lh f input).cluster.Synced lh := by
  cases input with
  | accepts w =>
      change (f.accept w).cluster.Synced lh
      unfold accept
      split
      · exact h.accept w
      · exact h
  | sends c bytes => exact h
  | readEnds c =>
      change (f.readEnds c).cluster.Synced lh
      unfold readEnds
      split
      · exact h
      · split
        · exact h
        · exact h
  | readBreaks c => exact h
  | readRuns c => exact synced_readRuns h c htimely
  | closes c =>
      change (close cc f c).cluster.Synced lh
      rw [close_cluster]
      exact h.closeSession cc.toGateCodec c
  | backend input =>
      simp only [next]
      split
      · next hinput => exact (Cluster.backend_tables _ lh f.cluster input hinput).synced h
      · exact h

/-- A late login leaves an entry for a session that is closed. -/
theorem timely_of_indexed (input : FrontendInput)
    (h : (next cc lh f input).cluster.Indexed) : Timely cc f input := by
  cases input with
  | readRuns c =>
      intro msgId body account token hpacket hlogin hparsed
      by_contra hclosed
      have hcluster : (handleRead cc lh f c).cluster =
          f.cluster.handleLoginReq lh c account token := by
        rcases handleRead_cases cc lh f c with
          ⟨msgId', body', hpacket', hcluster⟩ | ⟨hnone, _⟩
        · rw [hpacket] at hpacket'
          cases hpacket'
          rw [hcluster]
          unfold handleMsg
          rw [hlogin]
          dsimp only
          rw [hparsed]
        · rw [hpacket] at hnone
          cases hnone
      have hown : Cluster.Owns lh c (makeLoginUid lh.hash c account token) :=
        ⟨account, token, rfl⟩
      have hsessions := (Cluster.bindUid_sessions f.cluster c hown.ne_zero).left
      have hlisted := h.listed (f.cluster.sessions c).shard
        (makeLoginUid lh.hash c account token) c (by
          change (handleRead cc lh f c).cluster.userIdMgr _ _ = some c
          rw [hcluster]
          unfold Cluster.handleLoginReq
          rw [Cluster.bindUid_userIdMgr _ c hown.ne_zero, if_pos ⟨rfl, rfl⟩])
      have hopen := hlisted.left
      change ((handleRead cc lh f c).cluster.sessions c).isOpen = true at hopen
      rw [hcluster] at hopen
      unfold Cluster.handleLoginReq at hopen
      rw [hsessions, Function.update_self] at hopen
      exact hclosed hopen
  | _ => trivial

end Steps

variable [Scalar F]

theorem run_indexed_iff (cc : ClientCodec codec) (lh : LoginHash)
    (workShardCount netShardCount logicShardCount : Nat)
    (inputs : List FrontendInput) :
    (forall front back, inputs = front ++ back ->
      (run cc lh workShardCount netShardCount logicShardCount
        front).1.cluster.Indexed) <->
      Along (handle cc lh) (Timely cc)
        (create workShardCount netShardCount logicShardCount) inputs := by
  have hs : (create workShardCount netShardCount logicShardCount :
      Frontend F).cluster.Synced lh := Cluster.synced_create lh _ _ _
  have hgood : forall f : Frontend F, f.cluster.Synced lh -> f.cluster.Indexed :=
    fun _ h => h.indexed
  exact runMachine_always_iff hgood
    (fun f input h htimely => synced_next h input htimely)
    (fun f input _ h => timely_of_indexed input h) hs inputs

/-- A login with a body of two bytes, `client_version = 1`. -/
def loginPacket : Bytes := [0x52, 0x54, 0x27, 0x11, 0, 0, 0, 0, 0, 2, 0x18, 1]

/-- The heartbeat times out when the body of a login has been read. -/
def lateLogin : List FrontendInput :=
  [FrontendInput.accepts 0, FrontendInput.readRuns 0,
    FrontendInput.sends 0 loginPacket, FrontendInput.readEnds 0,
    FrontendInput.readRuns 0, FrontendInput.readEnds 0, FrontendInput.closes 0,
    FrontendInput.readRuns 0]

theorem lateLogin_not_indexed :
    Not (run (Proto.clientCodec (F := Rat)) LoginHash.byAccount 1 1 1
      lateLogin).1.cluster.Indexed := by
  intro h
  have hlisted : (run (Proto.clientCodec (F := Rat)) LoginHash.byAccount 1 1 1
      lateLogin).1.cluster.userIdMgr 0 1 = some 0 := by decide +kernel
  have hclosed : ((run (Proto.clientCodec (F := Rat)) LoginHash.byAccount 1 1 1
      lateLogin).1.cluster.sessions 0).isOpen = false := by decide +kernel
  rw [(h.listed 0 1 0 hlisted).left] at hclosed
  cases hclosed

end Frontend

end RtsGame
