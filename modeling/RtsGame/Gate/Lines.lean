import RtsGame.Gate.Links
import RtsGame.Gate.Registry
import RtsGame.Library.Lanes
import Mathlib.Data.List.Flatten

/-!
# The lines to a session

What is addressed to one link stays in order up to the session: it is handed over
directly if the link ends at the work shard of the session, and through the queue
of that work shard otherwise.  So the messages for a player on one link form a
line, from the queue of the network shard to the session.
-/

namespace RtsGame

namespace Cluster

variable {B F : Type} {s s' : Cluster B F} {lh : LoginHash}
  {arriving leaving : List OutStamp}

/-!
## Messages as items on lanes
-/

def outLabels : Labels OutStamp GatewayRoute :=
  ⟨OutStamp.index, OutStamp.route, OutStamp.inFlight⟩

/-- The messages of a logic shard for a player that are addressed to a route. -/
def wanted (k u : Nat) (r : GatewayRoute) (stamps : List OutStamp) : List OutStamp :=
  stamps.filter fun stamp =>
    decide (stamp.shardId = k ∧ stamp.uid = u) && decide (stamp.route = r)

/-- What a connection brings back, the next to arrive first. -/
def backStamps (conn : Conn B F) : List OutStamp :=
  (conn.backWire ++ conn.backQue).flatMap OutEnvelope.targets

def connAt (s : Cluster B F) (r : GatewayRoute) : Option Nat :=
  (List.range s.connCount).find? fun conn => (s.conns conn).route = r

/-- What the connection with a route brings back. -/
def backAt (s : Cluster B F) (r : GatewayRoute) : List OutStamp :=
  match s.connAt r with
  | none => []
  | some conn => backStamps (s.conns conn)

/-- What waits for a session at its work shard. -/
def postsTo (s : Cluster B F) (c : Nat) : List OutStamp :=
  ((s.posts (s.sessions c).shard).filter fun post => post.session = c).map
    PostedSend.stamp

def taskStamps (tasks : List (OutTask F)) : List OutStamp :=
  tasks.flatMap fun task => task.targets.flatMap OutTarget.uids

/--
What is on its way to a session over a route, the next to be received first.  The
gateway has taken `arriving` from a connection and a network shard has taken
`leaving` from its queue; both are handed on one by one.
-/
def line (s : Cluster B F) (arriving leaving : List OutStamp) (c : Nat)
    (r : GatewayRoute) : List OutStamp :=
  s.postsTo c ++ arriving ++ s.backAt r ++ leaving ++
    taskStamps (s.netQueues r.netShard)

/-- What a session has received of the messages of a shard to a player. -/
def receivedFrom (s : Cluster B F) (k u c : Nat) : List OutStamp :=
  ((s.sessions c).received.map Prod.fst).filter fun stamp =>
    decide (stamp.shardId = k ∧ stamp.uid = u)

structure Outbound (lh : LoginHash) (arriving leaving : List OutStamp)
    (s : Cluster B F) : Prop where
  linked : Linked s
  registered : Registered lh s
  posts : forall w post, post ∈ s.posts w -> post.session < s.sessionCount ∧
    (s.sessions post.session).shard = w ∧
      exists conn, (s.conns conn).route = post.stamp.route ∧
        (s.conns conn).route.generation ≠ 0 ∧ (s.conns conn).shard ≠ w
  lanes : forall k u c, Lanes outLabels
    (fun r => wanted k u r (s.line arriving leaving c r)) (s.receivedFrom k u c)
    s.nextOut

theorem wanted_append (k u : Nat) (r : GatewayRoute) (front back : List OutStamp) :
    wanted k u r (front ++ back) = wanted k u r front ++ wanted k u r back :=
  List.filter_append front back

/-- Stamps for one route are not wanted on another one. -/
theorem wanted_eq_nil {k u : Nat} {r r' : GatewayRoute} {stamps : List OutStamp}
    (h : forall stamp, stamp ∈ stamps -> stamp.route = r') (hne : r ≠ r') :
    wanted k u r stamps = [] := by
  unfold wanted
  rw [List.filter_eq_nil_iff]
  intro stamp hstamp
  rw [h stamp hstamp]
  simp [Ne.symm hne]

/-!
## The connection with a route
-/

theorem Linked.connAt_eq (h : Linked s) {conn : Nat}
    (hgeneration : (s.conns conn).route.generation ≠ 0) :
    s.connAt (s.conns conn).route = some conn := by
  have hlt := (h.bound conn hgeneration).left
  unfold connAt
  cases hfound : (List.range s.connCount).find? fun conn' =>
      (s.conns conn').route = (s.conns conn).route with
  | none =>
      rw [List.find?_eq_none] at hfound
      have hnone := hfound conn (List.mem_range.mpr hlt)
      simp at hnone
  | some conn' =>
      have hroute := List.find?_some hfound
      rw [h.unique conn conn' hgeneration (of_decide_eq_true hroute)]

theorem Linked.backAt_eq (h : Linked s) {conn : Nat}
    (hgeneration : (s.conns conn).route.generation ≠ 0) :
    s.backAt (s.conns conn).route = backStamps (s.conns conn) := by
  unfold backAt
  rw [h.connAt_eq hgeneration]

/-- Nothing comes back on a route that no connection has. -/
theorem Linked.backAt_nil (h : Linked s) {r : GatewayRoute}
    (hnone : forall conn, (s.conns conn).route.generation ≠ 0 ->
      (s.conns conn).route ≠ r) : s.backAt r = [] := by
  unfold backAt
  cases hconn : s.connAt r with
  | none =>
      rfl
  | some conn =>
      have hroute : (s.conns conn).route = r := by
        unfold connAt at hconn
        have hfound := List.find?_some hconn
        exact of_decide_eq_true hfound
      have hzero : (s.conns conn).route.generation = 0 := by
        by_contra hgeneration
        exact hnone conn hgeneration hroute
      simp only [backStamps, (h.idle conn hzero).left, (h.idle conn hzero).right]
      rfl

theorem SameLinks.backAt (h : SameLinks s s') (r : GatewayRoute) :
    s'.backAt r = s.backAt r := by
  unfold Cluster.backAt connAt backStamps
  simp only [h.connCount, h.route, h.backWire, h.backQue]

/-- A connection changes but keeps its route. -/
theorem setConn_routes {c : Nat} {conn : Conn B F}
    (hroute : conn.route = (s.conns c).route) (c' : Nat) :
    ((s.setConn c conn).conns c').route = (s.conns c').route := by
  by_cases hc : c' = c
  · subst hc
    simp [setConn, hroute]
  · simp [setConn, hc]

theorem backAt_setConn_of_ne {c : Nat} {conn : Conn B F} {r : GatewayRoute}
    (hroute : conn.route = (s.conns c).route) (hne : r ≠ (s.conns c).route) :
    (s.setConn c conn).backAt r = s.backAt r := by
  have hsame : (s.setConn c conn).connAt r = s.connAt r := by
    unfold connAt
    simp only [setConn_routes hroute]
    rfl
  unfold backAt
  rw [hsame]
  cases hconn : s.connAt r with
  | none =>
      rfl
  | some c' =>
      have hc' : c' ≠ c := by
        unfold connAt at hconn
        have hfound := List.find?_some hconn
        intro heq
        rw [heq] at hfound
        exact hne (of_decide_eq_true hfound).symm
      simp only [setConn, Function.update_of_ne hc']

/-- Connections with a route keep it, and none brings back more than before. -/
theorem backAt_sublist (h : Linked s) (h' : Linked s')
    (hroute : forall conn, (s.conns conn).route.generation ≠ 0 ->
      (s'.conns conn).route = (s.conns conn).route)
    (hback : forall conn, (s.conns conn).route.generation ≠ 0 ->
      (backStamps (s'.conns conn)).Sublist (backStamps (s.conns conn)))
    (hnew : forall conn, (s'.conns conn).route.generation ≠ 0 ->
      (s.conns conn).route.generation ≠ 0 ∨ backStamps (s'.conns conn) = [])
    (r : GatewayRoute) : (s'.backAt r).Sublist (s.backAt r) := by
  by_cases hconn : exists conn, (s'.conns conn).route.generation ≠ 0 ∧
      (s'.conns conn).route = r
  · rcases hconn with ⟨conn, hgeneration', rfl⟩
    rw [h'.backAt_eq hgeneration']
    cases hnew conn hgeneration' with
    | inl hgeneration =>
        rw [hroute conn hgeneration, h.backAt_eq hgeneration]
        exact hback conn hgeneration
    | inr hnone =>
        rw [hnone]
        exact List.nil_sublist _
  · rw [h'.backAt_nil (fun conn hgeneration heq => hconn ⟨conn, hgeneration, heq⟩)]
    exact List.nil_sublist _

/-!
## Steps that hand nothing on
-/

theorem receivedFrom_sublist {k u c : Nat}
    (h : (s'.sessions c).received.Sublist (s.sessions c).received) :
    (s'.receivedFrom k u c).Sublist (s.receivedFrom k u c) :=
  (h.map Prod.fst).filter _

/-- Links may lose messages, and sessions come and go. -/
theorem Outbound.lose (h : Outbound lh arriving leaving s) (hlinked : Linked s')
    (hregistered : Registered lh s') (hposts : s'.posts = s.posts)
    (hnext : s'.nextOut = s.nextOut) (hqueues : s'.netQueues = s.netQueues)
    (hcount : s.sessionCount ≤ s'.sessionCount)
    (hshard : forall c, c < s.sessionCount ->
      (s'.sessions c).shard = (s.sessions c).shard)
    (hreceived : forall c,
      (s'.sessions c).received.Sublist (s.sessions c).received)
    (hconns : forall conn, (s.conns conn).route.generation ≠ 0 ->
      (s'.conns conn).route = (s.conns conn).route ∧
        (s'.conns conn).shard = (s.conns conn).shard)
    (hback : forall r, (s'.backAt r).Sublist (s.backAt r)) :
    Outbound lh arriving leaving s' where
  linked := hlinked
  registered := hregistered
  posts := by
    intro w post hpost
    rw [hposts] at hpost
    rcases h.posts w post hpost with ⟨hlt, hw, conn, hroute, hgeneration, hne⟩
    refine ⟨Nat.lt_of_lt_of_le hlt hcount, (hshard _ hlt).trans hw, conn, ?_⟩
    rw [(hconns conn hgeneration).left, (hconns conn hgeneration).right]
    exact ⟨hroute, hgeneration, hne⟩
  lanes := by
    intro k u c
    have hto : (s'.postsTo c).Sublist (s.postsTo c) := by
      unfold postsTo
      rw [hposts]
      by_cases hc : c < s.sessionCount
      · rw [hshard c hc]
      · have hnone : ((s.posts (s'.sessions c).shard).filter fun post =>
            post.session = c) = [] := by
          rw [List.filter_eq_nil_iff]
          intro post hpost heq
          have hlt := (h.posts _ post hpost).left
          rw [of_decide_eq_true heq] at hlt
          exact hc hlt
        rw [hnone]
        exact List.nil_sublist _
    rw [hnext]
    apply ((h.lanes k u c).forget (receivedFrom_sublist (hreceived c))).lose
    · intro r
      apply List.Sublist.filter
      unfold line
      rw [hqueues]
      exact (((hto.append_right _).append (hback r)).append_right _).append_right _
    · exact Nat.le_refl _

/-- Neither links nor tables change. -/
theorem Outbound.same (h : Outbound lh arriving leaving s) (hlinks : SameLinks s s')
    (htables : SameTables s s') (hposts : s'.posts = s.posts)
    (hnext : s'.nextOut = s.nextOut)
    (hreceived : forall c, (s'.sessions c).received = (s.sessions c).received) :
    Outbound lh arriving leaving s' := by
  apply h.lose (hlinks.linked h.linked) (htables.registered h.registered) hposts
    hnext hlinks.netQueues
  · exact Nat.le_of_eq htables.sessionCount.symm
  · exact fun c _ => htables.shard c
  · intro c
    rw [hreceived]
  · exact fun conn _ => ⟨hlinks.route conn, hlinks.shard conn⟩
  · intro r
    rw [hlinks.backAt]

theorem Outbound.accept (h : Outbound lh [] [] s) (w : Nat) :
    Outbound lh [] [] (s.accept w) := by
  have hlinks := accept_links s w
  have hregistered := accept_registered h.registered w
  revert hlinks hregistered
  unfold Cluster.accept
  split
  · intro hlinks hregistered
    apply h.lose (hlinks.linked h.linked) hregistered rfl rfl rfl (Nat.le_succ _)
    · intro c hc
      simp only [Function.update_of_ne (Nat.ne_of_lt hc)]
    · intro c
      by_cases hc : c = s.sessionCount
      · subst hc
        simp [newSession]
      · simp only [Function.update_of_ne hc]
        exact List.Sublist.refl _
    · exact fun _ _ => ⟨rfl, rfl⟩
    · intro r
      rw [hlinks.backAt]
  · intro _ _
    exact h

/-- A session is bound or closed: shards and what was received stay. -/
theorem Outbound.retable (h : Outbound lh [] [] s) (hlinks : SameLinks s s')
    (hregistered : Registered lh s') (hposts : s'.posts = s.posts)
    (hnext : s'.nextOut = s.nextOut) (hcount : s'.sessionCount = s.sessionCount)
    (hsessions : forall c, (s'.sessions c).shard = (s.sessions c).shard ∧
      (s'.sessions c).received = (s.sessions c).received) :
    Outbound lh [] [] s' := by
  apply h.lose (hlinks.linked h.linked) hregistered hposts hnext hlinks.netQueues
  · exact Nat.le_of_eq hcount.symm
  · exact fun c _ => (hsessions c).left
  · intro c
    rw [(hsessions c).right]
  · exact fun conn _ => ⟨hlinks.route conn, hlinks.shard conn⟩
  · intro r
    rw [hlinks.backAt]

/-- The links lose messages, or a connection is new. -/
theorem Outbound.relink (h : Outbound lh [] [] s) (hlinked : Linked s')
    (htables : SameTables s s') (hposts : s'.posts = s.posts)
    (hnext : s'.nextOut = s.nextOut) (hqueues : s'.netQueues = s.netQueues)
    (hsessions : s'.sessions = s.sessions)
    (hconns : forall conn, (s.conns conn).route.generation ≠ 0 ->
      (s'.conns conn).route = (s.conns conn).route ∧
        (s'.conns conn).shard = (s.conns conn).shard ∧
        (backStamps (s'.conns conn)).Sublist (backStamps (s.conns conn)))
    (hnew : forall conn, (s'.conns conn).route.generation ≠ 0 ->
      (s.conns conn).route.generation ≠ 0 ∨ backStamps (s'.conns conn) = []) :
    Outbound lh [] [] s' := by
  apply h.lose hlinked (htables.registered h.registered) hposts hnext hqueues
  · exact Nat.le_of_eq htables.sessionCount.symm
  · exact fun c _ => htables.shard c
  · intro c
    rw [hsessions]
  · exact fun conn hgeneration =>
      ⟨(hconns conn hgeneration).left, (hconns conn hgeneration).right.left⟩
  · exact backAt_sublist h.linked hlinked (fun conn hg => (hconns conn hg).left)
      (fun conn hg => (hconns conn hg).right.right) hnew

/-- One connection loses something of what it brings back. -/
theorem Outbound.setConn (h : Outbound lh [] [] s) {c : Nat} {conn : Conn B F}
    (hlinked : Linked (s.setConn c conn)) (hroute : conn.route = (s.conns c).route)
    (hshard : conn.shard = (s.conns c).shard)
    (hback : (backStamps conn).Sublist (backStamps (s.conns c))) :
    Outbound lh [] [] (s.setConn c conn) := by
  apply h.relink hlinked (SameTables.of_sessions rfl rfl rfl rfl rfl) rfl rfl rfl rfl
  · intro c' _
    by_cases hc : c' = c
    · subst hc
      simp only [Cluster.setConn, Function.update_self]
      exact ⟨hroute, hshard, hback⟩
    · simp only [Cluster.setConn, Function.update_of_ne hc]
      exact ⟨trivial, trivial, List.Sublist.refl _⟩
  · intro c' hgeneration
    left
    by_cases hc : c' = c
    · subst hc
      simp only [Cluster.setConn, Function.update_self, hroute] at hgeneration
      exact hgeneration
    · simp only [Cluster.setConn, Function.update_of_ne hc] at hgeneration
      exact hgeneration

theorem Outbound.breakConn (h : Outbound lh [] [] s) (c : Nat) :
    Outbound lh [] [] (s.breakConn c) := by
  apply h.setConn (breakConn_linked h.linked c) rfl rfl
  unfold backStamps
  rw [List.append_nil, List.flatMap_append]
  exact List.sublist_append_left _ _

theorem Outbound.cutConn (h : Outbound lh [] [] s) (c : Nat) :
    Outbound lh [] [] (s.cutConn c) := by
  have hlinked := cutConn_linked h.linked c
  revert hlinked
  unfold Cluster.cutConn
  split
  · intro hlinked
    apply h.setConn hlinked rfl rfl
    unfold backStamps
    rw [List.nil_append, List.flatMap_append]
    exact List.sublist_append_right _ _
  · intro _
    exact h

theorem Outbound.writeBack (h : Outbound lh [] [] s) (c : Nat) :
    Outbound lh [] [] (s.writeBack c) := by
  have hlinked := writeBack_linked h.linked c
  revert hlinked
  unfold Cluster.writeBack
  split
  · intro _
    exact h
  · rename_i envelope rest hque
    intro hlinked
    apply h.setConn hlinked rfl rfl
    unfold backStamps
    rw [hque]
    simp

theorem Outbound.connect (h : Outbound lh [] [] s) (c net linkId : Nat) :
    Outbound lh [] [] (s.connect c net linkId) := by
  have hlinked := connect_linked h.linked c net linkId
  revert hlinked
  unfold Cluster.connect
  split
  · rename_i hfree
    intro hlinked
    have hunbound : (s.conns c).route.generation = 0 := by
      by_contra hgeneration
      exact (h.linked.bound c hgeneration).right.left hfree.right.left
    apply h.relink hlinked (SameTables.of_sessions rfl rfl rfl rfl rfl) rfl rfl rfl rfl
    · intro c' hgeneration
      have hc : c' ≠ c := by
        intro heq
        rw [heq] at hgeneration
        exact hgeneration hunbound
      simp only [Cluster.setConn, Function.update_of_ne hc]
      exact ⟨trivial, trivial, List.Sublist.refl _⟩
    · intro c' hgeneration
      by_cases hc : c' = c
      · subst hc
        right
        simp only [Cluster.setConn, Function.update_self, backStamps,
          (h.linked.idle c' hunbound).left, (h.linked.idle c' hunbound).right]
        rfl
      · left
        simp only [Cluster.setConn, Function.update_of_ne hc] at hgeneration
        exact hgeneration
  · intro _
    exact h

theorem Outbound.rebuild (h : Outbound lh [] [] s) (w i : Nat) :
    Outbound lh [] [] (rebuild w s i) := by
  have hlinked := rebuild_linked h.linked w i
  revert hlinked
  unfold Cluster.rebuild
  split
  · intro _
    exact h
  · intro hlinked
    apply h.relink hlinked (SameTables.of_sessions rfl rfl rfl rfl rfl) rfl rfl rfl rfl
    · intro c hgeneration
      have hc : c ≠ s.connCount := Nat.ne_of_lt (h.linked.bound c hgeneration).left
      simp only [Function.update_of_ne hc]
      exact ⟨trivial, trivial, List.Sublist.refl _⟩
    · intro c hgeneration
      by_cases hc : c = s.connCount
      · subst hc
        simp [newConn] at hgeneration
      · left
        simp only [Function.update_of_ne hc] at hgeneration
        exact hgeneration

theorem Outbound.detect (h : Outbound lh [] [] s) (w : Nat) :
    Outbound lh [] [] (s.detect w) := by
  have hloop : forall (ids : List Nat) (s' : Cluster B F), Outbound lh [] [] s' ->
      Outbound lh [] [] (ids.foldl (Cluster.rebuild w) s') := by
    intro ids
    induction ids with
    | nil =>
        intro s' hs'
        exact hs'
    | cons i rest ih =>
        intro s' hs'
        exact ih _ (hs'.rebuild w i)
  unfold Cluster.detect
  split
  · exact hloop _ s h
  · exact h

/-- Posted messages came over a connection of another work shard. -/
theorem setConn_posts {c : Nat} {conn : Conn B F}
    (h : forall w post, post ∈ s.posts w -> post.session < s.sessionCount ∧
      (s.sessions post.session).shard = w ∧
        exists conn, (s.conns conn).route = post.stamp.route ∧
          (s.conns conn).route.generation ≠ 0 ∧ (s.conns conn).shard ≠ w)
    (hroute : conn.route = (s.conns c).route)
    (hshard : conn.shard = (s.conns c).shard) (w : Nat) (post : PostedSend F)
    (hpost : post ∈ s.posts w) : post.session < s.sessionCount ∧
      (s.sessions post.session).shard = w ∧
        exists c', ((s.setConn c conn).conns c').route = post.stamp.route ∧
          ((s.setConn c conn).conns c').route.generation ≠ 0 ∧
            ((s.setConn c conn).conns c').shard ≠ w := by
  have hshards : forall c', ((s.setConn c conn).conns c').shard =
      (s.conns c').shard := by
    intro c'
    by_cases hc : c' = c
    · subst hc
      simp [Cluster.setConn, hshard]
    · simp [Cluster.setConn, hc]
  rcases h w post hpost with ⟨hlt, hw, c', hbound⟩
  refine ⟨hlt, hw, c', ?_⟩
  rw [setConn_routes hroute, hshards]
  exact hbound

/-- A connection takes messages over or hands them on, in order. -/
theorem Outbound.handOver {arriving' leaving' : List OutStamp} {c : Nat}
    {conn : Conn B F} (h : Outbound lh arriving leaving s)
    (hlinked : Linked (s.setConn c conn)) (hroute : conn.route = (s.conns c).route)
    (hshard : conn.shard = (s.conns c).shard)
    (hbound : (s.conns c).route.generation ≠ 0)
    (hown : (arriving' ++ backStamps conn ++ leaving').Sublist
      (arriving ++ backStamps (s.conns c) ++ leaving))
    (hother : forall k u r, r ≠ (s.conns c).route ->
      (wanted k u r arriving').Sublist (wanted k u r arriving) ∧
        (wanted k u r leaving').Sublist (wanted k u r leaving)) :
    Outbound lh arriving' leaving' (s.setConn c conn) := by
  refine ⟨hlinked, ?_, setConn_posts h.posts hroute hshard, ?_⟩
  · refine SameTables.registered ?_ h.registered
    exact SameTables.of_sessions rfl rfl rfl rfl rfl
  · intro k u d
    apply (h.lanes k u d).lose _ (Nat.le_refl _)
    intro r
    show (wanted k u r (s.postsTo d ++ arriving' ++ (s.setConn c conn).backAt r ++
      leaving' ++ taskStamps (s.netQueues r.netShard))).Sublist
      (wanted k u r (s.postsTo d ++ arriving ++ s.backAt r ++ leaving ++
        taskStamps (s.netQueues r.netShard)))
    by_cases hr : r = (s.conns c).route
    · have hback : (s.setConn c conn).backAt r = backStamps conn := by
        have hself : ((s.setConn c conn).conns c) = conn := by
          simp [Cluster.setConn]
        have hat := @Linked.backAt_eq _ _ _ hlinked c
        rw [hself, hroute, ← hr] at hat
        apply hat
        rw [hr]
        exact hbound
      rw [hback, hr, h.linked.backAt_eq hbound]
      apply List.Sublist.filter
      apply List.Sublist.append_right
      have hmiddle := hown.append_left (s.postsTo d)
      simpa only [List.append_assoc] using hmiddle
    · rw [backAt_setConn_of_ne hroute hr]
      simp only [wanted_append]
      rcases hother k u r hr with ⟨harriving, hleaving⟩
      apply List.Sublist.append_right
      apply List.Sublist.append _ hleaving
      apply List.Sublist.append_right
      exact harriving.append_left _

/-!
## A network shard hands a task to its connections
-/

theorem taskStamps_cons (task : OutTask F) (rest : List (OutTask F)) :
    taskStamps (task :: rest) =
      task.targets.flatMap OutTarget.uids ++ taskStamps rest := rfl

/-- The network shard takes a task from its queue. -/
theorem Outbound.popTask (h : Outbound lh [] [] s) {net : Nat} {task : OutTask F}
    {rest : List (OutTask F)} (hqueue : s.netQueues net = task :: rest) :
    Outbound lh [] (task.targets.flatMap OutTarget.uids)
      { s with netQueues := Function.update s.netQueues net rest } := by
  have hlinked : Linked
      { s with netQueues := Function.update s.netQueues net rest } := by
    constructor
    · exact h.linked.slots
    · exact h.linked.bound
    · exact h.linked.unique
    · exact h.linked.idle
    · exact h.linked.carried
    · intro net' task' target stamp htask'
      apply h.linked.posted net' task' target stamp
      by_cases hn : net' = net
      · subst hn
        simp only [Function.update_self] at htask'
        rw [hqueue]
        exact List.mem_cons_of_mem task htask'
      · simp only [Function.update_of_ne hn] at htask'
        exact htask'
    · intro net' hge
      have hn : net' ≠ net := by
        intro heq
        have hnone := h.linked.nets net' hge
        rw [heq, hqueue] at hnone
        cases hnone
      simp only [Function.update_of_ne hn]
      exact h.linked.nets net' hge
  refine ⟨hlinked, ?_, h.posts, ?_⟩
  · refine SameTables.registered ?_ h.registered
    exact SameTables.of_sessions rfl rfl rfl rfl rfl
  · intro k u c
    apply (h.lanes k u c).lose _ (Nat.le_refl _)
    intro r
    unfold line
    show (wanted k u r (s.postsTo c ++ [] ++ s.backAt r ++
      task.targets.flatMap OutTarget.uids ++
        taskStamps (Function.update s.netQueues net rest r.netShard))).Sublist
      (wanted k u r (s.postsTo c ++ [] ++ s.backAt r ++ [] ++
        taskStamps (s.netQueues r.netShard)))
    by_cases hn : r.netShard = net
    · rw [hn, Function.update_self, hqueue, taskStamps_cons, List.append_nil,
        List.append_nil, List.append_assoc]
    · have hother : wanted k u r (task.targets.flatMap OutTarget.uids) = [] := by
        unfold wanted
        rw [List.filter_eq_nil_iff]
        intro stamp hstamp
        rcases List.mem_flatMap.mp hstamp with ⟨target, htarget, huid⟩
        have hroute := h.linked.posted net task target stamp (by
          rw [hqueue]
          exact List.mem_cons_self) htarget huid
        have hne : stamp.route ≠ r := by
          intro heq
          rw [hroute] at heq
          rw [← heq] at hn
          exact hn rfl
        simp [hne]
      rw [Function.update_of_ne hn]
      simp only [wanted_append, hother]
      exact List.Sublist.refl _

/-- A target is handed to the connection at its slot, or is lost. -/
theorem Outbound.sendToTarget {net : Nat} (task : OutTask F) {target : OutTarget}
    (h : Outbound lh [] (target.uids ++ leaving) s)
    (htarget : forall stamp, stamp ∈ target.uids ->
      stamp.route = ⟨net, target.linkId, target.generation⟩) :
    Outbound lh [] leaving (sendToTarget net task s target) := by
  have hlinked := sendToTarget_linked h.linked task htarget
  have hlost : Outbound lh [] leaving s := by
    refine ⟨h.linked, h.registered, h.posts, ?_⟩
    intro k u c
    apply (h.lanes k u c).lose _ (Nat.le_refl _)
    intro r
    apply List.Sublist.filter
    unfold line
    apply List.Sublist.append_right
    apply List.Sublist.append_left
    exact List.sublist_append_right _ _
  revert hlinked
  unfold Cluster.sendToTarget
  simp only
  split
  · intro _
    exact hlost
  · rename_i hgeneration
    rw [ne_eq, not_not] at hgeneration
    split
    · intro _
      exact hlost
    · rename_i conn hconn
      split
      · intro hlinked
        have hslot := h.linked.slots net target.linkId conn hconn
        have hbound : (s.conns conn).route.generation ≠ 0 := by
          rw [hslot.right]
          exact hslot.left
        have hroute : (s.conns conn).route =
            ⟨net, target.linkId, target.generation⟩ := by
          rw [hslot.right, hgeneration]
        apply h.handOver hlinked rfl rfl hbound
        · have hkept : (if (s.conns conn).backQue.length ≥ kMaxSendQueueDepth then
              (s.conns conn).backQue.tail else (s.conns conn).backQue).Sublist
              (s.conns conn).backQue := by
            split
            · exact List.tail_sublist _
            · exact List.Sublist.refl _
          rw [List.nil_append, List.nil_append, ← List.append_assoc]
          apply List.Sublist.append_right
          unfold backStamps
          rw [← List.append_assoc, List.flatMap_append, List.flatMap_singleton]
          apply List.Sublist.append_right
          exact (hkept.append_left _).flatMap _
        · intro k u r hr
          refine ⟨List.Sublist.refl _, ?_⟩
          rw [wanted_append]
          exact List.sublist_append_right _ _
      · intro _
        exact hlost

theorem Outbound.netWork (h : Outbound lh [] [] s) (net : Nat) :
    Outbound lh [] [] (s.netWork net) := by
  unfold Cluster.netWork
  split
  · exact h
  · rename_i task rest hqueue
    have hroutes : forall target, target ∈ task.targets -> forall stamp,
        stamp ∈ target.uids -> stamp.route = ⟨net, target.linkId, target.generation⟩ := by
      intro target htarget stamp hstamp
      apply h.linked.posted net task target stamp _ htarget hstamp
      rw [hqueue]
      exact List.mem_cons_self
    have hloop : forall (targets : List OutTarget) (s' : Cluster B F),
        (forall target, target ∈ targets -> forall stamp, stamp ∈ target.uids ->
          stamp.route = ⟨net, target.linkId, target.generation⟩) ->
        Outbound lh [] (targets.flatMap OutTarget.uids) s' ->
        Outbound lh [] [] (targets.foldl (Cluster.sendToTarget net task) s') := by
      intro targets
      induction targets with
      | nil =>
          intro s' _ hs'
          exact hs'
      | cons target rest ih =>
          intro s' hall hs'
          rw [List.flatMap_cons] at hs'
          apply ih
          · exact fun t ht => hall t (List.mem_cons_of_mem target ht)
          · exact hs'.sendToTarget task (hall target List.mem_cons_self)
    exact hloop task.targets _ hroutes (h.popTask hqueue)

/-!
## The gateway hands an envelope to the sessions
-/

/-- The gateway takes an envelope from the wire of a connection. -/
theorem Outbound.popBack (h : Outbound lh [] [] s) {c : Nat}
    {envelope : OutEnvelope F} {rest : List (OutEnvelope F)}
    (hwire : (s.conns c).backWire = envelope :: rest) :
    (s.conns c).route.generation ≠ 0 ∧
      (forall stamp, stamp ∈ envelope.targets -> stamp.route = (s.conns c).route) ∧
      Outbound lh envelope.targets []
        (s.setConn c { s.conns c with backWire := rest }) := by
  have hbound : (s.conns c).route.generation ≠ 0 := by
    intro hzero
    have hnone := (h.linked.idle c hzero).left
    rw [hwire] at hnone
    cases hnone
  have hroutes : forall stamp, stamp ∈ envelope.targets ->
      stamp.route = (s.conns c).route := by
    intro stamp hstamp
    apply h.linked.carried c envelope stamp _ hstamp
    rw [hwire]
    exact List.mem_cons_self
  refine ⟨hbound, hroutes, ?_⟩
  apply h.handOver (popBack_linked h.linked hwire) rfl rfl hbound
  · unfold backStamps
    rw [hwire]
    simp
  · intro k u r hr
    rw [wanted_eq_nil hroutes hr]
    exact ⟨List.Sublist.refl _, List.Sublist.refl _⟩

/-- What has come over a link is on the line until it is lost or received. -/
theorem line_arrived (s : Cluster B F) (stamp : OutStamp) (arriving leaving : List OutStamp)
    (c : Nat) (r : GatewayRoute) :
    (line s arriving leaving c r).Sublist (line s (stamp :: arriving) leaving c r) := by
  unfold line
  apply List.Sublist.append_right
  apply List.Sublist.append_right
  apply List.Sublist.append_right
  apply List.Sublist.append_left
  exact List.sublist_cons_self _ _

/-- A message on the route of a link is lost by the gateway. -/
theorem Outbound.drop {stamp : OutStamp}
    (h : Outbound lh (stamp :: arriving) leaving s) :
    Outbound lh arriving leaving s := by
  refine ⟨h.linked, h.registered, h.posts, ?_⟩
  intro k u c
  apply (h.lanes k u c).lose _ (Nat.le_refl _)
  intro r
  exact (line_arrived s stamp arriving leaving c r).filter _

theorem receive_received (s : Cluster B F) (d : Nat) (stamp : OutStamp)
    (msg : ServerMsg F) (c : Nat) :
    ((s.receive d stamp msg).sessions c).received =
      if c = d ∧ (s.sessions d).isOpen = true then
        (s.sessions c).received ++ [(stamp, msg)]
      else (s.sessions c).received := by
  unfold receive
  simp only
  split
  · rename_i hopen
    by_cases hc : c = d
    · subst hc
      simp [setSession, hopen]
    · simp [setSession, hc]
  · rename_i hclosed
    simp [hclosed]

theorem receive_posts (s : Cluster B F) (d : Nat) (stamp : OutStamp)
    (msg : ServerMsg F) :
    (s.receive d stamp msg).posts = s.posts ∧
      (s.receive d stamp msg).nextOut = s.nextOut := by
  unfold receive
  simp only
  split
  · exact ⟨rfl, rfl⟩
  · exact ⟨rfl, rfl⟩

theorem receivedFrom_append {k u c : Nat} {stamp : OutStamp} {msg : ServerMsg F}
    (h : (s'.sessions c).received = (s.sessions c).received ++ [(stamp, msg)]) :
    s'.receivedFrom k u c = s.receivedFrom k u c ++
      if stamp.shardId = k ∧ stamp.uid = u then [stamp] else [] := by
  unfold receivedFrom
  rw [h, List.map_append, List.filter_append]
  by_cases hstamp : stamp.shardId = k ∧ stamp.uid = u
  · simp [hstamp]
  · simp [hstamp]

theorem SameTables.postsTo (h : SameTables s s') (hposts : s'.posts = s.posts)
    (c : Nat) : s'.postsTo c = s.postsTo c := by
  unfold Cluster.postsTo
  rw [hposts, h.shard]

/-- The message at the head of the line of its route is received by a session. -/
theorem receive_lanes {d : Nat} {stamp : OutStamp} (msg : ServerMsg F)
    {flight : GatewayRoute -> List OutStamp} {k u c next : Nat}
    (h : Lanes outLabels flight (s.receivedFrom k u c) next)
    (hsub : forall r,
      (wanted k u r (s.line arriving leaving c r)).Sublist (flight r))
    (hhead : c = d -> stamp.shardId = k ∧ stamp.uid = u ->
      flight stamp.route =
        stamp :: wanted k u stamp.route (s.line arriving leaving c stamp.route)) :
    Lanes outLabels
      (fun r => wanted k u r ((s.receive d stamp msg).line arriving leaving c r))
      ((s.receive d stamp msg).receivedFrom k u c) next := by
  have hposts := (receive_posts s d stamp msg).left
  have hlinks := receive_links s d stamp msg
  have hline : forall r, (s.receive d stamp msg).line arriving leaving c r =
      s.line arriving leaving c r := by
    intro r
    unfold line
    rw [(receive_tables s d stamp msg).postsTo hposts, hlinks.backAt,
      hlinks.netQueues]
  simp only [hline]
  have hreceived := receive_received s d stamp msg c
  have hlost := h.lose hsub (Nat.le_refl next)
  by_cases hc : c = d ∧ (s.sessions d).isOpen = true
  · rw [if_pos hc] at hreceived
    rw [receivedFrom_append hreceived]
    by_cases hstamp : stamp.shardId = k ∧ stamp.uid = u
    · rw [if_pos hstamp]
      apply h.deliver (hhead hc.left hstamp)
      · exact List.Sublist.refl _
      · exact fun r _ => hsub r
    · rw [if_neg hstamp, List.append_nil]
      exact hlost
  · rw [if_neg hc] at hreceived
    have hsame : (s.receive d stamp msg).receivedFrom k u c =
        s.receivedFrom k u c := by
      unfold receivedFrom
      rw [hreceived]
    rw [hsame]
    exact hlost

theorem wanted_cons {k u : Nat} {stamp : OutStamp}
    (h : stamp.shardId = k ∧ stamp.uid = u) (rest : List OutStamp) :
    wanted k u stamp.route (stamp :: rest) =
      stamp :: wanted k u stamp.route rest := by
  unfold wanted
  rw [List.filter_cons_of_pos]
  simp [h]

/-- Receiving touches neither the links nor the queues of the work shards. -/
theorem Outbound.received {d : Nat} {stamp : OutStamp} {msg : ServerMsg F}
    (hlinked : Linked s) (hregistered : Registered lh s)
    (hposts : forall w post, post ∈ s.posts w -> post.session < s.sessionCount ∧
      (s.sessions post.session).shard = w ∧
        exists conn, (s.conns conn).route = post.stamp.route ∧
          (s.conns conn).route.generation ≠ 0 ∧ (s.conns conn).shard ≠ w)
    (hlanes : forall k u c, Lanes outLabels
      (fun r => wanted k u r ((s.receive d stamp msg).line arriving leaving c r))
      ((s.receive d stamp msg).receivedFrom k u c) s.nextOut) :
    Outbound lh arriving leaving (s.receive d stamp msg) := by
  have hlinks := receive_links s d stamp msg
  have htables := receive_tables s d stamp msg
  have hsame := receive_posts s d stamp msg
  refine ⟨hlinks.linked hlinked, htables.registered hregistered, ?_, ?_⟩
  · rw [hsame.left, htables.sessionCount]
    intro w post hpost
    rw [htables.shard]
    rcases hposts w post hpost with ⟨hlt, hw, conn, hconn⟩
    refine ⟨hlt, hw, conn, ?_⟩
    rw [hlinks.route, hlinks.shard]
    exact hconn
  · rw [hsame.right]
    exact hlanes

/--
A message that has come over a link is received by the session.  For that nothing
on the same route may wait at the work shard.
-/
theorem Outbound.receive {d : Nat} {stamp : OutStamp} (msg : ServerMsg F)
    (h : Outbound lh (stamp :: arriving) leaving s)
    (hhead : forall k u, wanted k u stamp.route (s.postsTo d) = []) :
    Outbound lh arriving leaving (s.receive d stamp msg) := by
  apply Outbound.received h.linked h.registered h.posts
  intro k u c
  apply receive_lanes msg (h.lanes k u c)
  · intro r
    exact (line_arrived s stamp arriving leaving c r).filter _
  · intro hc hstamp
    unfold line
    simp only [wanted_append]
    rw [hc, hhead k u, wanted_cons hstamp]
    rfl

/-- A message is posted to the work shard of its session. -/
theorem Outbound.post {w c : Nat} {stamp : OutStamp} {msg : ServerMsg F}
    (h : Outbound lh (stamp :: arriving) leaving s) (hlt : c < s.sessionCount)
    (hw : (s.sessions c).shard = w)
    (hconn : exists conn, (s.conns conn).route = stamp.route ∧
      (s.conns conn).route.generation ≠ 0 ∧ (s.conns conn).shard ≠ w) :
    Outbound lh arriving leaving
      { s with
        posts := Function.update s.posts w (s.posts w ++ [⟨c, stamp, msg⟩]) } := by
  have hlinks : SameLinks s
      { s with
        posts := Function.update s.posts w (s.posts w ++ [⟨c, stamp, msg⟩]) } :=
    SameLinks.of_conns rfl rfl rfl rfl rfl
  have htables : SameTables s
      { s with
        posts := Function.update s.posts w (s.posts w ++ [⟨c, stamp, msg⟩]) } :=
    SameTables.of_sessions rfl rfl rfl rfl rfl
  refine ⟨hlinks.linked h.linked, htables.registered h.registered, ?_, ?_⟩
  · intro w' post hpost
    by_cases hw' : w' = w
    · subst hw'
      simp only [Function.update_self] at hpost
      cases List.mem_append.mp hpost with
      | inl hold =>
          exact h.posts w' post hold
      | inr hnew =>
          rw [List.mem_singleton.mp hnew]
          exact ⟨hlt, hw, hconn⟩
    · simp only [Function.update_of_ne hw'] at hpost
      exact h.posts w' post hpost
  · intro k u d
    apply (h.lanes k u d).lose _ (Nat.le_refl _)
    intro r
    have hto : Cluster.postsTo
        { s with
          posts := Function.update s.posts w (s.posts w ++ [⟨c, stamp, msg⟩]) } d =
        s.postsTo d ++ if d = c then [stamp] else [] := by
      unfold Cluster.postsTo
      simp only
      by_cases hd : d = c
      · subst hd
        rw [hw, Function.update_self]
        simp
      · by_cases hs : (s.sessions d).shard = w
        · rw [hs, Function.update_self]
          simp [hd, Ne.symm hd]
        · rw [Function.update_of_ne hs]
          simp [hd]
    apply List.Sublist.filter
    show (Cluster.postsTo _ d ++ arriving ++ s.backAt r ++ leaving ++
      taskStamps (s.netQueues r.netShard)).Sublist
      (s.postsTo d ++ (stamp :: arriving) ++ s.backAt r ++ leaving ++
        taskStamps (s.netQueues r.netShard))
    rw [hto]
    apply List.Sublist.append_right
    apply List.Sublist.append_right
    apply List.Sublist.append_right
    rw [List.append_assoc]
    apply List.Sublist.append_left
    split
    · exact List.Sublist.refl _
    · exact List.sublist_cons_self _ _

/-- What a connection brings is handed on by the work shard that the connection ends at. -/
theorem Outbound.sendToUid {conn : Nat} {stamp : OutStamp} (msg : ServerMsg F)
    (h : Outbound lh (stamp :: arriving) leaving s)
    (hroute : stamp.route = (s.conns conn).route)
    (hbound : (s.conns conn).route.generation ≠ 0) :
    Outbound lh arriving leaving
      (sendToUid (s.conns conn).shard msg s stamp) := by
  unfold Cluster.sendToUid
  split
  · rename_i d hd
    apply h.receive
    -- What waits at the work shard of the session came over other work shards.
    have hshard : (s.sessions d).shard = (s.conns conn).shard := by
      unfold findSessionByUid at hd
      split at hd
      · cases hd
      · rename_i c hc
        split at hd
        · cases hd
          exact (h.registered.listed _ _ d hc).right
        · cases hd
    intro k u
    unfold wanted postsTo
    rw [List.filter_eq_nil_iff]
    intro other hother hwanted
    rcases List.mem_map.mp hother with ⟨post, hpost, rfl⟩
    rw [hshard] at hpost
    rcases h.posts _ post (List.mem_filter.mp hpost).left with
      ⟨_, _, conn', hroute', _, hne⟩
    rw [Bool.and_eq_true] at hwanted
    have hsame : post.stamp.route = stamp.route := of_decide_eq_true hwanted.right
    have heq := h.linked.unique conn conn' hbound (by
      rw [hroute', hsame, hroute])
    rw [heq] at hne
    exact hne rfl
  · rename_i hnone
    split
    · exact h.drop
    · rename_i target c hentry
      rcases h.registered.entry _ _ _ hentry with ⟨_, hopen, _, hshard, hmgr⟩
      apply h.post (h.registered.lt_of_open hopen) hshard
      refine ⟨conn, hroute.symm, hbound, ?_⟩
      intro heq
      unfold findSessionByUid at hnone
      rw [heq, hmgr] at hnone
      simp only [hopen, if_true] at hnone
      cases hnone

theorem Outbound.arriveBack (h : Outbound lh [] [] s) (conn : Nat) :
    Outbound lh [] [] (s.arriveBack conn) := by
  unfold Cluster.arriveBack
  split
  · exact h
  · rename_i envelope rest hwire
    rcases h.popBack hwire with ⟨hbound, hroutes, hpopped⟩
    have hloop : forall (stamps : List OutStamp) (s' : Cluster B F),
        (s'.conns conn).shard = (s.conns conn).shard ->
        (s'.conns conn).route = (s.conns conn).route ->
        (forall stamp, stamp ∈ stamps -> stamp.route = (s.conns conn).route) ->
        Outbound lh stamps [] s' ->
        Outbound lh [] []
          (stamps.foldl (Cluster.sendToUid (s.conns conn).shard envelope.msg) s') := by
      intro stamps
      induction stamps with
      | nil =>
          intro s' _ _ _ hs'
          exact hs'
      | cons stamp rest ih =>
          intro s' hshard hroute hall hs'
          have hlinks := sendToUid_links (s.conns conn).shard envelope.msg s' stamp
          apply ih
          · exact (hlinks.shard conn).trans hshard
          · exact (hlinks.route conn).trans hroute
          · exact fun t ht => hall t (List.mem_cons_of_mem stamp ht)
          · rw [← hshard]
            apply hs'.sendToUid
            · rw [hroute]
              exact hall stamp List.mem_cons_self
            · rw [hroute]
              exact hbound
    apply hloop envelope.targets _ _ _ hroutes hpopped
    · simp [Cluster.setConn]
    · simp [Cluster.setConn]

/-- A work shard hands over what has been posted to it. -/
theorem Outbound.postWork (h : Outbound lh [] [] s) (w : Nat) :
    Outbound lh [] [] (s.postWork w) := by
  unfold Cluster.postWork
  split
  · exact h
  · rename_i post rest hqueue
    have hmem : post ∈ s.posts w := by
      rw [hqueue]
      exact List.mem_cons_self
    have hshard := (h.posts w post hmem).right.left
    have hto : forall c, s.postsTo c = (if c = post.session then [post.stamp] else []) ++
        Cluster.postsTo { s with posts := Function.update s.posts w rest } c := by
      intro c
      unfold Cluster.postsTo
      simp only
      by_cases hw : (s.sessions c).shard = w
      · rw [hw, Function.update_self, hqueue]
        by_cases hc : c = post.session
        · simp [hc]
        · simp [hc, Ne.symm hc]
      · have hc : c ≠ post.session := by
          intro heq
          rw [heq] at hw
          exact hw hshard
        rw [Function.update_of_ne hw]
        simp [hc]
    apply Outbound.received
    · refine SameLinks.linked ?_ h.linked
      exact SameLinks.of_conns rfl rfl rfl rfl rfl
    · refine SameTables.registered ?_ h.registered
      exact SameTables.of_sessions rfl rfl rfl rfl rfl
    · intro w' post' hpost'
      apply h.posts w' post'
      by_cases hw : w' = w
      · subst hw
        simp only [Function.update_self] at hpost'
        rw [hqueue]
        exact List.mem_cons_of_mem post hpost'
      · simp only [Function.update_of_ne hw] at hpost'
        exact hpost'
    · intro k u c
      have hlanes : Lanes outLabels (fun r => wanted k u r (s.line [] [] c r))
          (Cluster.receivedFrom
            { s with posts := Function.update s.posts w rest } k u c) s.nextOut :=
        h.lanes k u c
      apply receive_lanes post.msg hlanes
      · intro r
        apply List.Sublist.filter
        unfold line
        rw [hto]
        apply List.Sublist.append_right
        apply List.Sublist.append_right
        apply List.Sublist.append_right
        apply List.Sublist.append_right
        exact List.sublist_append_right _ _
      · intro hc hstamp
        unfold line
        simp only [wanted_append]
        rw [hto, if_pos hc, List.singleton_append, wanted_cons hstamp]
        rfl

end Cluster

end RtsGame
