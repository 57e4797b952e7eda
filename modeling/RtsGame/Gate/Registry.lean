import RtsGame.Gate.Cluster

/-!
# The tables of the gateway

The registry of the gateway and the tables of its work shards tell where the
session of a uid is.  The uids of different sessions differ, so that an entry
belongs to one session as long as it is bound to the uid.
-/

namespace RtsGame

namespace Cluster

variable {B F : Type} {s s' : Cluster B F} {lh : LoginHash}

/-- A uid that a login can give to a session. -/
def Owns (lh : LoginHash) (c u : Nat) : Prop :=
  exists account token, u = makeLoginUid lh.hash c account token

theorem Owns.ne_zero {lh : LoginHash} {c u : Nat} (h : Owns lh c u) : u ≠ 0 := by
  rcases h with ⟨account, token, rfl⟩
  unfold makeLoginUid
  split
  · exact Nat.one_ne_zero
  · assumption

theorem Owns.session_eq {lh : LoginHash} {c c' u : Nat} (h : Owns lh c u)
    (h' : Owns lh c' u) : c = c' := by
  rcases h with ⟨account, token, rfl⟩
  rcases h' with ⟨account', token', heq⟩
  exact lh.own c c' account account' token token' heq

/-- The tables agree with the sessions. -/
structure Registered (lh : LoginHash) (s : Cluster B F) : Prop where
  bound : forall c, (s.sessions c).uid ≠ 0 -> Owns lh c (s.sessions c).uid
  listed : forall w u c, s.userIdMgr w u = some c ->
    c < s.sessionCount ∧ (s.sessions c).shard = w
  entry : forall u w c, s.registry u = some (w, c) ->
    u ≠ 0 ∧ (s.sessions c).isOpen = true ∧ (s.sessions c).uid = u ∧
      (s.sessions c).shard = w ∧ s.userIdMgr w u = some c
  made : forall c, c < s.sessionCount -> (s.sessions c).shard < s.workShardCount
  unmade : forall c, s.sessionCount ≤ c -> (s.sessions c).isOpen = false

theorem registered_create (lh : LoginHash)
    (workShardCount netShardCount logicShardCount : Nat) :
    Registered lh
      (create workShardCount netShardCount logicShardCount : Cluster B F) where
  bound := fun _ h => absurd rfl h
  listed := by
    intro w u c h
    cases h
  entry := by
    intro u w c h
    cases h
  made := fun _ h => absurd h (Nat.not_lt_zero _)
  unmade := fun _ _ => rfl

theorem Registered.lt_of_open (h : Registered lh s) {c : Nat}
    (hopen : (s.sessions c).isOpen = true) : c < s.sessionCount := by
  by_contra hge
  cases hopen.symm.trans (h.unmade c (Nat.not_lt.mp hge))

/-- No two sessions are bound to one uid. -/
theorem Registered.session_eq (h : Registered lh s) {c c' : Nat}
    (hne : (s.sessions c).uid ≠ 0) (heq : (s.sessions c').uid = (s.sessions c).uid) :
    c' = c := by
  have hc := h.bound c hne
  have hc' := h.bound c' (by
    rw [heq]
    exact hne)
  rw [heq] at hc'
  exact hc'.session_eq hc

/-- An entry that a session has given up its claim to belongs to another session. -/
theorem Registered.elsewhere (h : Registered lh s) {u w c d : Nat}
    (hentry : s.registry u = some (w, c))
    (hdropped : (s.sessions d).uid ≠ 0 -> u = (s.sessions d).uid -> c ≠ d) :
    c ≠ d ∧ u ≠ (s.sessions d).uid := by
  rcases h.entry u w c hentry with ⟨hne, _, hcuid, _, _⟩
  have hcd : c ≠ d := by
    intro heq
    rw [heq] at hcuid
    rw [← hcuid] at hne
    exact hdropped hne hcuid.symm heq
  refine ⟨hcd, ?_⟩
  intro heq
  apply hcd
  apply h.session_eq
  · rw [← heq]
    exact hne
  · rw [hcuid]
    exact heq

/-!
## Steps that leave the tables alone
-/

structure SameTables (s s' : Cluster B F) : Prop where
  sessionCount : s'.sessionCount = s.sessionCount
  workShardCount : s'.workShardCount = s.workShardCount
  registry : s'.registry = s.registry
  userIdMgr : s'.userIdMgr = s.userIdMgr
  shard : forall c, (s'.sessions c).shard = (s.sessions c).shard
  isOpen : forall c, (s'.sessions c).isOpen = (s.sessions c).isOpen
  uid : forall c, (s'.sessions c).uid = (s.sessions c).uid

namespace SameTables

theorem refl (s : Cluster B F) : SameTables s s :=
  ⟨rfl, rfl, rfl, rfl, fun _ => rfl, fun _ => rfl, fun _ => rfl⟩

theorem trans {s'' : Cluster B F} (h : SameTables s s') (h' : SameTables s' s'') :
    SameTables s s'' where
  sessionCount := h'.sessionCount.trans h.sessionCount
  workShardCount := h'.workShardCount.trans h.workShardCount
  registry := h'.registry.trans h.registry
  userIdMgr := h'.userIdMgr.trans h.userIdMgr
  shard := fun c => (h'.shard c).trans (h.shard c)
  isOpen := fun c => (h'.isOpen c).trans (h.isOpen c)
  uid := fun c => (h'.uid c).trans (h.uid c)

/-- Sessions are untouched altogether. -/
theorem of_sessions (hcount : s'.sessionCount = s.sessionCount)
    (hshards : s'.workShardCount = s.workShardCount)
    (hregistry : s'.registry = s.registry) (hmgr : s'.userIdMgr = s.userIdMgr)
    (hsessions : s'.sessions = s.sessions) : SameTables s s' where
  sessionCount := hcount
  workShardCount := hshards
  registry := hregistry
  userIdMgr := hmgr
  shard := fun c => by rw [hsessions]
  isOpen := fun c => by rw [hsessions]
  uid := fun c => by rw [hsessions]

/-- A session changes only in what it has sent and received. -/
theorem setSession {d : Nat} (sentAs : List Nat)
    (received : List (OutStamp × ServerMsg F)) :
    SameTables s (s.setSession d
      { s.sessions d with sentAs := sentAs, received := received }) := by
  have hsame : forall c, (s.setSession d
      { s.sessions d with sentAs := sentAs, received := received }).sessions c =
      if c = d then { s.sessions d with sentAs := sentAs, received := received }
      else s.sessions c := by
    intro c
    unfold Cluster.setSession
    exact Function.update_apply _ _ _ _
  constructor
  · rfl
  · rfl
  · rfl
  · rfl
  all_goals
    intro c
    rw [hsame]
    split
    · rename_i h
      rw [h]
    · rfl

theorem registered (h : SameTables s s') (hs : Registered lh s) :
    Registered lh s' where
  bound := by
    intro c
    rw [h.uid]
    exact hs.bound c
  listed := by
    intro w u c
    rw [h.userIdMgr, h.sessionCount, h.shard]
    exact hs.listed w u c
  entry := by
    intro u w c
    rw [h.registry, h.isOpen, h.uid, h.shard, h.userIdMgr]
    exact hs.entry u w c
  made := by
    intro c
    rw [h.sessionCount, h.shard, h.workShardCount]
    exact hs.made c
  unmade := by
    intro c
    rw [h.sessionCount, h.isOpen]
    exact hs.unmade c

end SameTables

/-!
## Sessions come, log in and go
-/

theorem accept_registered (h : Registered lh s) (w : Nat) :
    Registered lh (s.accept w) := by
  unfold accept
  split
  · rename_i hw
    have hold : forall c, c < s.sessionCount ->
        Function.update s.sessions s.sessionCount (newSession w) c = s.sessions c :=
      fun c hc => Function.update_of_ne (Nat.ne_of_lt hc) _ _
    constructor
    · intro c huid
      by_cases hc : c = s.sessionCount
      · subst hc
        simp [newSession] at huid
      · simp only [Function.update_of_ne hc] at huid ⊢
        exact h.bound c huid
    · intro w' u c hc
      have hlisted := h.listed w' u c hc
      refine ⟨Nat.lt_succ_of_lt hlisted.left, ?_⟩
      simp only [hold c hlisted.left]
      exact hlisted.right
    · intro u w' c hc
      have hentry := h.entry u w' c hc
      simp only [hold c (h.lt_of_open hentry.right.left)]
      exact hentry
    · intro c hc
      by_cases heq : c = s.sessionCount
      · subst heq
        simpa [newSession] using hw
      · have hlt : c < s.sessionCount :=
          Nat.lt_of_le_of_ne (Nat.le_of_lt_succ hc) heq
        simp only [hold c hlt]
        exact h.made c hlt
    · intro c hc
      have hlt : s.sessionCount < c := hc
      simp only [Function.update_of_ne (Nat.ne_of_gt hlt)]
      exact h.unmade c (Nat.le_of_lt hlt)
  · exact h

/-- An entry of the registry is older, and not the one that was dropped. -/
theorem unregister_entry {uid d u : Nat} {e : Nat × Nat}
    (he : (s.unregister uid d).registry u = some e) :
    s.registry u = some e ∧ (uid ≠ 0 -> u = uid -> e.2 ≠ d) := by
  unfold unregister at he
  split at he
  · rename_i hzero
    exact ⟨he, fun hne => absurd hzero hne⟩
  · split at he
    · rename_i hnone
      refine ⟨he, ?_⟩
      intro _ heq
      rw [heq, hnone] at he
      cases he
    · rename_i w owner howner
      split at he
      · rename_i hother
        refine ⟨he, ?_⟩
        intro _ heq
        rw [heq, howner] at he
        cases he
        exact hother
      · by_cases heq : u = uid
        · subst heq
          simp at he
        · simp only [Function.update_of_ne heq] at he
          exact ⟨he, fun _ heq' => absurd heq' heq⟩

theorem unregister_tables (s : Cluster B F) (uid d : Nat) :
    (s.unregister uid d).sessionCount = s.sessionCount ∧
      (s.unregister uid d).workShardCount = s.workShardCount ∧
      (s.unregister uid d).userIdMgr = s.userIdMgr ∧
      (s.unregister uid d).sessions = s.sessions ∧
      (s.unregister uid d).server = s.server := by
  unfold unregister
  split
  · exact ⟨rfl, rfl, rfl, rfl, rfl⟩
  · split
    · exact ⟨rfl, rfl, rfl, rfl, rfl⟩
    · split
      · exact ⟨rfl, rfl, rfl, rfl, rfl⟩
      · exact ⟨rfl, rfl, rfl, rfl, rfl⟩

/-- What is left of the tables when a session gives up a uid for another one. -/
structure Released (s t : Cluster B F) (d uid new : Nat) : Prop where
  sessionCount : t.sessionCount = s.sessionCount
  workShardCount : t.workShardCount = s.workShardCount
  sessions : t.sessions = s.sessions
  registry : forall u e, u ≠ new -> t.registry u = some e ->
    s.registry u = some e ∧ (uid ≠ 0 -> u = uid -> e.2 ≠ d)
  older : forall w u c, t.userIdMgr w u = some c -> s.userIdMgr w u = some c
  kept : forall w u, u ≠ uid -> t.userIdMgr w u = s.userIdMgr w u

theorem setUserId_apply (s : Cluster B F) (w uid : Nat) (entry : Option Nat)
    (w' u : Nat) : (s.setUserId w uid entry).userIdMgr w' u =
      if w' = w ∧ u = uid then entry else s.userIdMgr w' u := by
  unfold setUserId
  by_cases hw : w' = w
  · subst hw
    by_cases hu : u = uid
    · subst hu
      simp
    · simp [hu]
  · simp [hw]

theorem released (s : Cluster B F) (d w uid new : Nat) :
    Released s ((s.unregister uid d).setUserId w uid none) d uid new := by
  rcases unregister_tables s uid d with
    ⟨hcount, hshards, hmgr, hsessions, _⟩
  constructor
  · exact hcount
  · exact hshards
  · exact hsessions
  · intro u e _ he
    exact unregister_entry he
  · intro w' u c hc
    rw [setUserId_apply, hmgr] at hc
    split at hc
    · cases hc
    · exact hc
  · intro w' u hne
    rw [setUserId_apply, hmgr, if_neg (fun hboth => hne hboth.right)]

/-- After the old uid is given up, the session takes the new one. -/
theorem Released.bind {t : Cluster B F} {d : Nat} (h : Registered lh s)
    (hopen : (s.sessions d).isOpen = true) {uid : Nat} (huid : Owns lh d uid)
    (ht : Released s t d (s.sessions d).uid uid)
    (hsession : s'.sessions = Function.update s.sessions d
      { s.sessions d with uid := uid, boundUids := uid :: (s.sessions d).boundUids })
    (hcount : s'.sessionCount = t.sessionCount)
    (hshards : s'.workShardCount = t.workShardCount)
    (hmgr : forall w u, s'.userIdMgr w u =
      if w = (s.sessions d).shard ∧ u = uid then some d else t.userIdMgr w u)
    (hregistry : s'.registry =
      Function.update t.registry uid (some ((s.sessions d).shard, d))) :
    Registered lh s' := by
  have hshard : forall c, (s'.sessions c).shard = (s.sessions c).shard := by
    intro c
    rw [hsession]
    by_cases hc : c = d
    · subst hc
      simp
    · simp [hc]
  have hopens : forall c, (s'.sessions c).isOpen = (s.sessions c).isOpen := by
    intro c
    rw [hsession]
    by_cases hc : c = d
    · subst hc
      simp
    · simp [hc]
  constructor
  · intro c
    rw [hsession]
    by_cases hc : c = d
    · subst hc
      intro _
      simpa using huid
    · rw [Function.update_of_ne hc]
      exact h.bound c
  · intro w u c hc
    rw [hmgr] at hc
    rw [hcount, ht.sessionCount, hshard]
    split at hc
    · rename_i hnew
      cases hc
      exact ⟨h.lt_of_open hopen, hnew.left.symm⟩
    · exact h.listed w u c (ht.older w u c hc)
  · intro u w c hc
    rw [hopens, hshard, hmgr]
    rw [hregistry] at hc
    by_cases hu : u = uid
    · subst hu
      rw [Function.update_self] at hc
      cases hc
      refine ⟨huid.ne_zero, hopen, ?_, rfl, ?_⟩
      · rw [hsession]
        simp
      · simp
    · rw [Function.update_of_ne hu] at hc
      rcases ht.registry u (w, c) hu hc with ⟨hold, hdropped⟩
      rcases h.entry u w c hold with ⟨hne, hcopen, hcuid, hcshard, hcmgr⟩
      rcases h.elsewhere hold hdropped with ⟨hcd, hother⟩
      refine ⟨hne, hcopen, ?_, hcshard, ?_⟩
      · rw [hsession, Function.update_of_ne hcd]
        exact hcuid
      · rw [if_neg (fun hboth => hu hboth.right), ht.kept w u hother]
        exact hcmgr
  · intro c
    rw [hcount, ht.sessionCount, hshards, ht.workShardCount, hshard]
    exact h.made c
  · intro c
    rw [hcount, ht.sessionCount, hopens]
    exact h.unmade c

theorem bindUid_sessions (s : Cluster B F) (d : Nat) {uid : Nat} (huid : uid ≠ 0) :
    (s.bindUid d uid).sessions = Function.update s.sessions d
        { s.sessions d with
          uid := uid
          boundUids := uid :: (s.sessions d).boundUids } ∧
      (s.bindUid d uid).sessionCount = s.sessionCount ∧
        (s.bindUid d uid).server = s.server := by
  unfold bindUid
  rw [if_neg huid]
  simp only
  split
  · rcases unregister_tables s (s.sessions d).uid d with
      ⟨hcount, _, _, hsessions, hserver⟩
    refine ⟨?_, hcount, hserver⟩
    simp only [setUserId, setSession]
    rw [hsessions]
  · exact ⟨rfl, rfl, rfl⟩

theorem login_registered (h : Registered lh s) (d : Nat) (account token : String) :
    Registered lh (s.login lh d account token) := by
  have huid : Owns lh d (makeLoginUid lh.hash d account token) :=
    ⟨account, token, rfl⟩
  unfold login handleLoginReq
  split
  · rename_i hopen
    unfold bindUid
    rw [if_neg huid.ne_zero]
    simp only
    split
    · have ht := released s d (s.sessions d).shard (s.sessions d).uid
        (makeLoginUid lh.hash d account token)
      apply Released.bind h hopen huid ht
      · simp only [setUserId, setSession]
        rw [(unregister_tables s (s.sessions d).uid d).right.right.right.left]
      · rfl
      · rfl
      · intro w u
        exact setUserId_apply _ _ _ _ w u
      · rfl
    · rename_i hsame
      have ht : Released s s d (s.sessions d).uid
          (makeLoginUid lh.hash d account token) := by
        refine ⟨rfl, rfl, rfl, ?_, fun _ _ _ hc => hc, fun _ _ _ => rfl⟩
        intro u e hu he
        refine ⟨he, ?_⟩
        intro hne heq
        by_cases hagain : (s.sessions d).uid = makeLoginUid lh.hash d account token
        · exact absurd (heq.trans hagain) hu
        · exact absurd ⟨hne, hagain⟩ hsame
      apply Released.bind h hopen huid ht
      · rfl
      · rfl
      · rfl
      · intro w u
        exact setUserId_apply _ _ _ _ w u
      · rfl
  · exact h

theorem selectConn_tables (w rounds : Nat) (s : Cluster B F) :
    SameTables s (selectConn w rounds s).2 := by
  induction rounds generalizing s with
  | zero =>
      exact SameTables.refl s
  | succ rounds ih =>
      unfold selectConn
      simp only
      split
      · exact SameTables.of_sessions rfl rfl rfl rfl rfl
      · refine SameTables.trans ?_ (ih _)
        exact SameTables.of_sessions rfl rfl rfl rfl rfl

theorem postMessage_tables (s : Cluster B F) (w d : Nat) (msgId : MsgId) (body : B) :
    SameTables s (s.postMessage w d msgId body) := by
  have hselected := selectConn_tables w kGameServerConnCnt s
  unfold postMessage
  simp only
  split
  · exact hselected
  · exact hselected.trans (SameTables.of_sessions rfl rfl rfl rfl rfl)

theorem forward_tables {codec : Codec B F} (gc : GateCodec codec) (s : Cluster B F)
    (d : Nat) (msgId : MsgId) (body : B) :
    SameTables s (forwardClientMsgToGame gc s d msgId body) := by
  unfold forwardClientMsgToGame
  simp only
  split
  · exact SameTables.refl s
  · split
    · exact SameTables.refl s
    · have hsession : SameTables s (s.setSession d
          { s.sessions d with
            sentAs := (s.sessions d).uid :: (s.sessions d).sentAs }) :=
        SameTables.setSession _ _
      exact hsession.trans (postMessage_tables _ _ _ _ _)

theorem request_tables {codec : Codec B F} (gc : GateCodec codec) (s : Cluster B F)
    (d : Nat) (msgId : MsgId) (body : B) :
    SameTables s (request gc s d msgId body) := by
  unfold request
  split
  · exact forward_tables gc s d msgId body
  · exact SameTables.refl s

theorem deleteUserSession_apply (s : Cluster B F) (d w u : Nat) :
    (s.deleteUserSession d).userIdMgr w u =
      if w = (s.sessions d).shard ∧ s.userIdMgr w u = some d then none
      else s.userIdMgr w u := by
  unfold deleteUserSession
  by_cases hw : w = (s.sessions d).shard
  · subst hw
    simp
  · simp [hw]

/-- The entries of a session are dropped from equal tables. -/
theorem deleteUserSession_tables (h : SameTables s s') (w uid d : Nat) :
    SameTables ((s.setUserId w uid none).deleteUserSession d)
      ((s'.setUserId w uid none).deleteUserSession d) where
  sessionCount := h.sessionCount
  workShardCount := h.workShardCount
  registry := h.registry
  userIdMgr := by
    have hshard : ((s'.setUserId w uid none).sessions d).shard =
        ((s.setUserId w uid none).sessions d).shard := h.shard d
    funext w' u
    rw [deleteUserSession_apply, deleteUserSession_apply, setUserId_apply,
      setUserId_apply, hshard, h.userIdMgr]
  shard := h.shard
  isOpen := h.isOpen
  uid := h.uid

theorem notifyGameServerDisconnect_tables {codec : Codec B F} (gc : GateCodec codec)
    (s : Cluster B F) (d : Nat) :
    SameTables s (notifyGameServerDisconnect gc s d) := by
  unfold notifyGameServerDisconnect
  simp only
  split
  · exact SameTables.refl s
  · exact postMessage_tables _ _ _ _ _

section Close

variable {codec : Codec B F} (gc : GateCodec codec) {d : Nat}

/-- What closing does to the tables, apart from the notice to the game server. -/
theorem closeSession_tables (hopen : (s.sessions d).isOpen = true) :
    SameTables
      ((((s.unregister (s.sessions d).uid d).setSession d
        { s.sessions d with isOpen := false }).setUserId (s.sessions d).shard
          (s.sessions d).uid none).deleteUserSession d)
      (closeSession gc s d) := by
  unfold closeSession
  simp only [hopen, if_true]
  exact deleteUserSession_tables (notifyGameServerDisconnect_tables gc _ d) _ _ d

theorem closeSession_idle (hclosed : (s.sessions d).isOpen = false) :
    closeSession gc s d = s := by
  unfold closeSession
  simp only [hclosed, Bool.false_eq_true, if_false]

theorem closeSession_session (hopen : (s.sessions d).isOpen = true) (c : Nat) :
    ((closeSession gc s d).sessions c).isOpen =
        (if c = d then false else (s.sessions c).isOpen) ∧
      ((closeSession gc s d).sessions c).shard = (s.sessions c).shard ∧
        ((closeSession gc s d).sessions c).uid = (s.sessions c).uid := by
  have htables := closeSession_tables gc hopen
  have hsessions : ((((s.unregister (s.sessions d).uid d).setSession d
      { s.sessions d with isOpen := false }).setUserId (s.sessions d).shard
        (s.sessions d).uid none).deleteUserSession d).sessions =
      Function.update s.sessions d { s.sessions d with isOpen := false } := by
    show Function.update (s.unregister (s.sessions d).uid d).sessions d _ = _
    rw [(unregister_tables s (s.sessions d).uid d).right.right.right.left]
  rw [htables.isOpen, htables.shard, htables.uid, hsessions]
  by_cases hc : c = d
  · subst hc
    simp
  · simp [hc]

theorem closeSession_userIdMgr (hopen : (s.sessions d).isOpen = true) (w u : Nat) :
    (closeSession gc s d).userIdMgr w u =
      if w = (s.sessions d).shard ∧
        (u = (s.sessions d).uid ∨ s.userIdMgr w u = some d) then none
      else s.userIdMgr w u := by
  rw [(closeSession_tables gc hopen).userIdMgr]
  have hshard : (((s.unregister (s.sessions d).uid d).setSession d
      { s.sessions d with isOpen := false }).setUserId (s.sessions d).shard
        (s.sessions d).uid none |>.sessions d).shard = (s.sessions d).shard := by
    simp [setUserId, setSession]
  rw [deleteUserSession_apply, hshard, setUserId_apply]
  simp only [setSession, (unregister_tables s (s.sessions d).uid d).right.right.left]
  by_cases hw : w = (s.sessions d).shard
  · subst hw
    by_cases hu : u = (s.sessions d).uid
    · subst hu
      simp
    · simp [hu]
  · simp [hw]

theorem closeSession_registry (hopen : (s.sessions d).isOpen = true) :
    (closeSession gc s d).registry = (s.unregister (s.sessions d).uid d).registry :=
  (closeSession_tables gc hopen).registry

end Close

theorem closeSession_registered (h : Registered lh s) {codec : Codec B F}
    (gc : GateCodec codec) (d : Nat) : Registered lh (closeSession gc s d) := by
  cases hopen : (s.sessions d).isOpen with
  | false =>
      rw [closeSession_idle gc hopen]
      exact h
  | true =>
      have htables := closeSession_tables gc hopen
      have hsession := closeSession_session gc hopen
      rcases unregister_tables s (s.sessions d).uid d with ⟨hcount, hshards, _, _, _⟩
      constructor
      · intro c
        rw [(hsession c).right.right]
        exact h.bound c
      · intro w u c hc
        rw [htables.sessionCount, (hsession c).right.left]
        rw [closeSession_userIdMgr gc hopen] at hc
        split at hc
        · cases hc
        · change c < (s.unregister (s.sessions d).uid d).sessionCount ∧ _
          rw [hcount]
          exact h.listed w u c hc
      · intro u w c hc
        rw [closeSession_registry gc hopen] at hc
        rcases unregister_entry hc with ⟨hold, hdropped⟩
        rcases h.entry u w c hold with ⟨hne, hcopen, hcuid, hcshard, hcmgr⟩
        rcases h.elsewhere hold hdropped with ⟨hcd, hother⟩
        rw [(hsession c).left, (hsession c).right.left, (hsession c).right.right,
          if_neg hcd, closeSession_userIdMgr gc hopen]
        refine ⟨hne, hcopen, hcuid, hcshard, ?_⟩
        rw [if_neg]
        · exact hcmgr
        · intro hdropped'
          cases hdropped'.right with
          | inl heq =>
              exact hother heq
          | inr hd =>
              rw [hcmgr] at hd
              exact hcd (Option.some.inj hd)
      · intro c hc
        rw [htables.sessionCount] at hc
        change c < (s.unregister (s.sessions d).uid d).sessionCount at hc
        rw [hcount] at hc
        rw [(hsession c).right.left, htables.workShardCount]
        change _ < (s.unregister (s.sessions d).uid d).workShardCount
        rw [hshards]
        exact h.made c hc
      · intro c hc
        rw [htables.sessionCount] at hc
        change (s.unregister (s.sessions d).uid d).sessionCount ≤ c at hc
        rw [hcount] at hc
        rw [(hsession c).left]
        split
        · rfl
        · exact h.unmade c hc

/-!
## Steps of the connections and of the game server
-/

theorem receive_tables (s : Cluster B F) (c : Nat) (stamp : OutStamp)
    (msg : ServerMsg F) : SameTables s (s.receive c stamp msg) := by
  unfold receive
  simp only
  split
  · exact SameTables.setSession _ _
  · exact SameTables.refl s

theorem sendToUid_tables (w : Nat) (msg : ServerMsg F) (s : Cluster B F)
    (stamp : OutStamp) : SameTables s (sendToUid w msg s stamp) := by
  unfold sendToUid
  split
  · exact receive_tables s _ stamp msg
  · split
    · exact SameTables.refl s
    · exact SameTables.of_sessions rfl rfl rfl rfl rfl

theorem postWork_tables (s : Cluster B F) (w : Nat) : SameTables s (s.postWork w) := by
  unfold postWork
  split
  · exact SameTables.refl s
  · rename_i post rest _
    have hpopped : SameTables s
        { s with posts := Function.update s.posts w rest } :=
      SameTables.of_sessions rfl rfl rfl rfl rfl
    exact hpopped.trans (receive_tables _ _ _ _)

theorem connect_tables (s : Cluster B F) (c net linkId : Nat) :
    SameTables s (s.connect c net linkId) := by
  unfold connect
  split
  · exact SameTables.of_sessions rfl rfl rfl rfl rfl
  · exact SameTables.refl s

theorem cutConn_tables (s : Cluster B F) (c : Nat) : SameTables s (s.cutConn c) := by
  unfold cutConn
  split
  · exact SameTables.of_sessions rfl rfl rfl rfl rfl
  · exact SameTables.refl s

theorem rebuild_tables (w : Nat) (s : Cluster B F) (i : Nat) :
    SameTables s (rebuild w s i) := by
  unfold rebuild
  split
  · exact SameTables.refl s
  · exact SameTables.of_sessions rfl rfl rfl rfl rfl

theorem write_tables (s : Cluster B F) (c : Nat) : SameTables s (s.write c) := by
  unfold write
  split
  · exact SameTables.refl s
  · split
    · exact SameTables.of_sessions rfl rfl rfl rfl rfl
    · exact SameTables.refl s

theorem arrive_tables (codec : Codec B F) (s : Cluster B F) (c : Nat) :
    SameTables s (s.arrive codec c) := by
  unfold arrive
  split
  · exact SameTables.refl s
  · exact SameTables.of_sessions rfl rfl rfl rfl rfl

theorem sendToTarget_tables (net : Nat) (task : OutTask F) (s : Cluster B F)
    (target : OutTarget) : SameTables s (sendToTarget net task s target) := by
  unfold sendToTarget
  simp only
  split
  · exact SameTables.refl s
  · split
    · exact SameTables.refl s
    · split
      · exact SameTables.of_sessions rfl rfl rfl rfl rfl
      · exact SameTables.refl s

theorem writeBack_tables (s : Cluster B F) (c : Nat) :
    SameTables s (s.writeBack c) := by
  unfold writeBack
  split
  · exact SameTables.refl s
  · exact SameTables.of_sessions rfl rfl rfl rfl rfl

theorem postToNetwork_tables (s : Cluster B F) (net : Nat) (task : OutTask F) :
    SameTables s (s.postToNetwork net task) := by
  unfold postToNetwork
  split
  · exact SameTables.refl s
  · exact SameTables.of_sessions rfl rfl rfl rfl rfl

theorem sendEvent_tables (shardId : Nat) (s : Cluster B F) (e : ShardEvent F) :
    SameTables s (sendEvent shardId s e) := by
  cases e with
  | sent uids targets msg seq =>
      have hposted : forall stamps : List OutStamp, SameTables s
          ((stamps.map fun stamp => stamp.route.netShard).dedup.foldl
            (fun s net => s.postToNetwork net ⟨groupTargets stamps net, msg, seq⟩)
            s) := by
        intro stamps
        apply foldl_rel SameTables.refl SameTables.trans
        intro s net
        exact postToNetwork_tables s net _
      exact (hposted (s.stampTargets shardId targets)).trans
        (SameTables.of_sessions rfl rfl rfl rfl rfl)
  | ran call room =>
      exact SameTables.refl s

theorem breakConn_tables (s : Cluster B F) (c : Nat) : SameTables s (s.breakConn c) :=
  SameTables.of_sessions rfl rfl rfl rfl rfl

theorem detect_tables (s : Cluster B F) (w : Nat) : SameTables s (s.detect w) := by
  unfold detect
  split
  · exact foldl_rel SameTables.refl SameTables.trans (rebuild_tables w) s _
  · exact SameTables.refl s

theorem netWork_tables (s : Cluster B F) (net : Nat) : SameTables s (s.netWork net) := by
  unfold netWork
  split
  · exact SameTables.refl s
  · next task rest _ =>
      have hpopped : SameTables s
          { s with netQueues := Function.update s.netQueues net rest } :=
        SameTables.of_sessions rfl rfl rfl rfl rfl
      exact hpopped.trans (foldl_rel SameTables.refl SameTables.trans (sendToTarget_tables net task) _ _)

theorem arriveBack_tables (s : Cluster B F) (c : Nat) :
    SameTables s (s.arriveBack c) := by
  unfold arriveBack
  split
  · exact SameTables.refl s
  · next envelope rest _ =>
      have hpopped : SameTables s
          (s.setConn c { s.conns c with backWire := rest }) :=
        SameTables.of_sessions rfl rfl rfl rfl rfl
      exact hpopped.trans (foldl_rel SameTables.refl SameTables.trans (sendToUid_tables _ envelope.msg) _ _)

variable [Scalar F]

theorem work_tables (codec : Codec B F) (s : Cluster B F) (shardId : Nat)
    (ω : Orders) : SameTables s (s.work codec shardId ω) := by
  have hworked : SameTables s
      { s with server := (GameServer.work codec.stamped ω s.server shardId).1 } :=
    SameTables.of_sessions rfl rfl rfl rfl rfl
  exact hworked.trans (foldl_rel SameTables.refl SameTables.trans (sendEvent_tables shardId) _ _)

theorem tick_tables (s : Cluster B F) (shardId : Nat) (ω : Orders) :
    SameTables s (s.tick shardId ω) := by
  have hticked : SameTables s
      { s with server := (GameServer.tick ω s.server shardId).1 } :=
    SameTables.of_sessions rfl rfl rfl rfl rfl
  exact hticked.trans (foldl_rel SameTables.refl SameTables.trans (sendEvent_tables shardId) _ _)

end Cluster

end RtsGame
