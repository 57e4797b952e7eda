import Mathlib.Data.List.Induction
import RtsGame.Server.NetworkShard
import RtsGame.Wire.Messages

/-!
# Who a message is sent to

`SendToPlayers` looks up the route of every player, merges the players behind
one link into one target, and posts one task for every network shard.  A target
has one generation, that of the player who was merged last: the generation is
no part of the key.
-/

namespace RtsGame

namespace SendToPlayers

variable {P : Type}

/-!
## Grouping
-/

/-- `grouped`: for every network shard a target for every link. -/
abbrev Grouped := Table (Table NetworkSendTarget)

def Grouped.target (grouped : Grouped) (netShard linkId : Nat) :
    Option NetworkSendTarget :=
  (grouped.lookup netShard).bind fun links => links.lookup linkId

/-- The body of the loop for a player whose route is known. -/
def addRecipient (grouped : Grouped) (recipient : Nat × GatewayRoute) : Grouped :=
  let route := recipient.2
  let links := (grouped.lookup route.netShard).getD ∅
  let target := (links.lookup route.linkId).getD ⟨0, 0, []⟩
  grouped.insert route.netShard (links.insert route.linkId
    ⟨route.linkId, route.generation, target.uids ++ [recipient.1]⟩)

def group (recipients : List (Nat × GatewayRoute)) : Grouped :=
  recipients.foldl addRecipient ∅

/-- The loop over the players; those without a route are left out. -/
def groupPlayers (routes : Routes) (uids : List Nat) : Grouped :=
  uids.foldl (fun grouped uid =>
    match routes.lookup uid with
    | none => grouped
    | some route => addRecipient grouped (uid, route)) ∅

/-- The orders in which the two kinds of hash maps are visited. -/
structure GroupOrders where
  nets : IterOrder
  links : Nat -> IterOrder

/-- The tasks with the network shards that they are posted to. -/
def tasks (ω : GroupOrders) (grouped : Grouped) (msgId : UInt16) (seq : Nat)
    (packet : P) : List (Nat × NetworkTask P) :=
  (ω.nets.visit grouped).filterMap fun netShard =>
    (grouped.lookup netShard).map fun links =>
      (netShard, ⟨msgId, seq, (ω.links netShard).values links, packet⟩)

/-- `SendToPlayers`; there is no packet if the message cannot be serialized. -/
def run (ω : GroupOrders) (routes : Routes) (msgId : UInt16) (uids : List Nat)
    (packet : Option P) (seq : Nat) : List (Nat × NetworkTask P) :=
  if uids.isEmpty then []
  else
    match packet with
    | none => []
    | some packet => tasks ω (groupPlayers routes uids) msgId seq packet

/-!
## One target for a link
-/

/-- The players of a list who are routed over a link. -/
def behind (recipients : List (Nat × GatewayRoute)) (netShard linkId : Nat) :
    List (Nat × GatewayRoute) :=
  recipients.filter fun recipient =>
    recipient.2.netShard = netShard ∧ recipient.2.linkId = linkId

theorem addRecipient_target (grouped : Grouped) (recipient : Nat × GatewayRoute)
    (netShard linkId : Nat) :
    (addRecipient grouped recipient).target netShard linkId =
      if recipient.2.netShard = netShard ∧ recipient.2.linkId = linkId then
        some ⟨linkId, recipient.2.generation,
          ((grouped.target netShard linkId).elim [] NetworkSendTarget.uids) ++
            [recipient.1]⟩
      else grouped.target netShard linkId := by
  unfold addRecipient Grouped.target
  dsimp only
  rw [Table.lookup_insert_ite]
  by_cases hnet : recipient.2.netShard = netShard
  · rw [if_pos hnet.symm]
    simp only [Option.bind_some]
    rw [Table.lookup_insert_ite]
    by_cases hlink : recipient.2.linkId = linkId
    · rw [if_pos hlink.symm, if_pos ⟨hnet, hlink⟩, hnet, hlink]
      cases hlinks : grouped.lookup netShard with
      | none => rfl
      | some links =>
          simp only [Option.getD_some, Option.bind_some]
          cases links.lookup linkId with
          | none => rfl
          | some target => rfl
    · rw [if_neg (Ne.symm hlink), if_neg (fun h => hlink h.right), hnet]
      cases hlinks : grouped.lookup netShard with
      | none => rfl
      | some links => rfl
  · rw [if_neg (Ne.symm hnet), if_neg (fun h => hnet h.left)]

/-- The targets hold the players behind their links, in the order of the list. -/
structure Merged (recipients : List (Nat × GatewayRoute)) (grouped : Grouped) :
    Prop where
  uids : forall netShard linkId,
    (grouped.target netShard linkId).elim [] NetworkSendTarget.uids =
      (behind recipients netShard linkId).map Prod.fst
  link : forall netShard linkId target,
    grouped.target netShard linkId = some target -> target.linkId = linkId
  generation : forall netShard linkId target,
    grouped.target netShard linkId = some target ->
      exists recipient, recipient ∈ behind recipients netShard linkId ∧
        target.generation = recipient.2.generation

theorem group_merged (recipients : List (Nat × GatewayRoute)) :
    Merged recipients (group recipients) := by
  induction recipients using List.reverseRecOn with
  | nil =>
      constructor
      · intro netShard linkId
        rfl
      · intro netShard linkId target htarget
        cases htarget
      · intro netShard linkId target htarget
        cases htarget
  | append_singleton front recipient ih =>
      have hsnoc : group (front ++ [recipient]) =
          addRecipient (group front) recipient := by
        unfold group
        rw [List.foldl_append]
        rfl
      have hbehind : forall netShard linkId,
          behind (front ++ [recipient]) netShard linkId =
            behind front netShard linkId ++
              if recipient.2.netShard = netShard ∧ recipient.2.linkId = linkId then
                [recipient]
              else [] := by
        intro netShard linkId
        unfold behind
        rw [List.filter_append]
        by_cases hown : recipient.2.netShard = netShard ∧ recipient.2.linkId = linkId
        · simp [hown]
        · rw [if_neg hown]
          simp [hown]
      rw [hsnoc]
      constructor
      · intro netShard linkId
        rw [addRecipient_target, hbehind]
        split
        · rw [List.map_append, ← ih.uids netShard linkId]
          rfl
        · rw [List.append_nil]
          exact ih.uids netShard linkId
      · intro netShard linkId target htarget
        rw [addRecipient_target] at htarget
        split at htarget
        · cases htarget
          rfl
        · exact ih.link netShard linkId target htarget
      · intro netShard linkId target htarget
        rw [addRecipient_target] at htarget
        rw [hbehind]
        split at htarget
        · rename_i hown
          cases htarget
          rw [if_pos hown]
          exact ⟨recipient, List.mem_append_right _ List.mem_cons_self, rfl⟩
        · rename_i hother
          rw [if_neg hother, List.append_nil]
          exact ih.generation netShard linkId target htarget

/-- The players of a list with the routes that are known. -/
def routed (routes : Routes) (uids : List Nat) : List (Nat × GatewayRoute) :=
  uids.filterMap fun uid => (routes.lookup uid).map fun route => (uid, route)

theorem groupPlayers_eq (routes : Routes) (uids : List Nat) :
    groupPlayers routes uids = group (routed routes uids) := by
  unfold groupPlayers group routed
  generalize (∅ : Grouped) = grouped
  induction uids generalizing grouped with
  | nil =>
      rfl
  | cons uid rest ih =>
      rw [List.foldl_cons, ih]
      cases hroute : routes.lookup uid with
      | none => simp [hroute]
      | some route => simp [hroute]

/-!
## The targets of the tasks
-/

theorem mem_tasks_target {ω : GroupOrders} {grouped : Grouped} {msgId : UInt16}
    {seq : Nat} {packet : P} {netShard : Nat} {task : NetworkTask P}
    {target : NetworkSendTarget}
    (htask : (netShard, task) ∈ tasks ω grouped msgId seq packet)
    (htarget : target ∈ task.targets) :
    exists linkId, grouped.target netShard linkId = some target := by
  rcases List.mem_filterMap.mp htask with ⟨net, _, hnet⟩
  rcases Option.map_eq_some_iff.mp hnet with ⟨links, hlinks, heq⟩
  cases heq
  rcases IterOrder.mem_values.mp htarget with ⟨linkId, hlink⟩
  refine ⟨linkId, ?_⟩
  unfold Grouped.target
  rw [hlinks]
  exact hlink

/-- Everyone whom the tasks name, as often as they do. -/
def named (posted : List (Nat × NetworkTask P)) : List Nat :=
  posted.flatMap fun entry => entry.2.targets.flatMap NetworkSendTarget.uids

/-- A player whose targets are all behind one link. -/
theorem count_named {ω : GroupOrders} {grouped : Grouped} {msgId : UInt16}
    {seq : Nat} {packet : P} {uid : Nat} (netShard linkId : Nat)
    (honly : forall net link target, grouped.target net link = some target ->
      uid ∈ target.uids -> net = netShard ∧ link = linkId) :
    (named (tasks ω grouped msgId seq packet)).count uid =
      ((grouped.target netShard linkId).elim [] NetworkSendTarget.uids).count uid := by
  have habsent : forall net links link target, grouped.lookup net = some links ->
      links.lookup link = some target -> ¬ (net = netShard ∧ link = linkId) ->
      target.uids.count uid = 0 := by
    intro net links link target hnet hlink hne
    rw [List.count_eq_zero]
    intro huid
    refine hne (honly net link target ?_ huid)
    unfold Grouped.target
    rw [hnet]
    exact hlink
  have hlinks : forall net links, grouped.lookup net = some links ->
      net = netShard ->
      (((ω.links net).values links).flatMap NetworkSendTarget.uids).count uid =
        ((links.lookup linkId).elim [] NetworkSendTarget.uids).count uid := by
    intro net links hnet hsame
    rw [List.count_flatMap]
    have hsum := IterOrder.sum_visit_single (ω := ω.links net) (m := links)
      (g := fun _ target => target) (f := fun target => target.uids.count uid)
      (k := linkId) fun link target hlink hne =>
        habsent net links link target hnet hlink fun hboth => hne hboth.right
    simp only [Option.map_id'] at hsum
    change ((((ω.links net).visit links).filterMap links.lookup).map _).sum = _
    refine Eq.trans hsum ?_
    cases links.lookup linkId with
    | none => rfl
    | some target => rfl
  have hnets := IterOrder.sum_visit_single (ω := ω.nets) (m := grouped)
    (g := fun net links =>
      ((net, ⟨msgId, seq, (ω.links net).values links, packet⟩) :
        Nat × NetworkTask P))
    (f := fun entry =>
      (entry.2.targets.flatMap NetworkSendTarget.uids).count uid)
    (k := netShard) (by
      intro net links hnet hne
      rw [List.count_eq_zero]
      intro huid
      rcases List.mem_flatMap.mp huid with ⟨target, htarget, hmem⟩
      rcases IterOrder.mem_values.mp htarget with ⟨link, hlink⟩
      have hzero := habsent net links link target hnet hlink
        fun hboth => hne hboth.left
      exact List.count_eq_zero.mp hzero hmem)
  unfold named
  rw [List.count_flatMap]
  refine Eq.trans hnets ?_
  unfold Grouped.target
  cases hnet : grouped.lookup netShard with
  | none => rfl
  | some links =>
      simp only [Option.elim_some, Option.bind_some]
      exact hlinks netShard links hnet rfl

/-!
## Recipients and their own routes
-/

/--
Every player of the list who has a route is named as often as the list names
them, and only in tasks and targets that agree with their own route; the others
are not named.
-/
def Partitioned (routes : Routes) (uids : List Nat)
    (posted : List (Nat × NetworkTask P)) : Prop :=
  forall uid,
    match routes.lookup uid with
    | none => uid ∉ named posted
    | some route =>
        (named posted).count uid = uids.count uid ∧
          forall netShard task target, (netShard, task) ∈ posted ->
            target ∈ task.targets -> uid ∈ target.uids ->
            netShard = route.netShard ∧ target.linkId = route.linkId ∧
              target.generation = route.generation

/-- Players of the list behind one link have routes of one generation. -/
def OneGeneration (routes : Routes) (uids : List Nat) : Prop :=
  forall uid uid', uid ∈ uids -> uid' ∈ uids -> forall route route',
    routes.lookup uid = some route -> routes.lookup uid' = some route' ->
    route.netShard = route'.netShard -> route.linkId = route'.linkId ->
    route.generation = route'.generation

theorem mem_routed {routes : Routes} {uids : List Nat}
    {recipient : Nat × GatewayRoute} :
    recipient ∈ routed routes uids <->
      recipient.1 ∈ uids ∧ routes.lookup recipient.1 = some recipient.2 := by
  unfold routed
  rw [List.mem_filterMap]
  constructor
  · rintro ⟨uid, huid, hroute⟩
    rcases Option.map_eq_some_iff.mp hroute with ⟨route, hlookup, heq⟩
    rw [← heq]
    exact ⟨huid, hlookup⟩
  · rintro ⟨huid, hlookup⟩
    exact ⟨recipient.1, huid, by rw [hlookup]; rfl⟩

/-- The players that a target names are behind its link. -/
theorem mem_target_uids {routes : Routes} {uids : List Nat} {netShard linkId : Nat}
    {target : NetworkSendTarget}
    (htarget : (group (routed routes uids)).target netShard linkId = some target)
    {uid : Nat} (huid : uid ∈ target.uids) :
    exists route, uid ∈ uids ∧ routes.lookup uid = some route ∧
      route.netShard = netShard ∧ route.linkId = linkId := by
  have huids := (group_merged (routed routes uids)).uids netShard linkId
  rw [htarget] at huids
  change target.uids = _ at huids
  rw [huids] at huid
  rcases List.mem_map.mp huid with ⟨recipient, hrecipient, heq⟩
  rcases List.mem_filter.mp hrecipient with ⟨hmem, hbehind⟩
  have hown := of_decide_eq_true hbehind
  rcases mem_routed.mp hmem with ⟨hlisted, hlookup⟩
  rw [← heq]
  exact ⟨recipient.2, hlisted, hlookup, hown.left, hown.right⟩

theorem count_behind {routes : Routes} {uid : Nat} {route : GatewayRoute}
    (hroute : routes.lookup uid = some route) (uids : List Nat) :
    ((behind (routed routes uids) route.netShard route.linkId).map Prod.fst).count
      uid = uids.count uid := by
  unfold behind routed
  induction uids with
  | nil =>
      rfl
  | cons other rest ih =>
      by_cases hother : other = uid
      · subst hother
        rw [List.filterMap_cons, hroute]
        simp only [Option.map_some, List.filter_cons, and_self, decide_true,
          if_true, List.map_cons, List.count_cons_self]
        rw [ih]
      · rw [List.count_cons_of_ne hother, List.filterMap_cons]
        cases hlookup : routes.lookup other with
        | none => exact ih
        | some route' =>
            simp only [Option.map_some, List.filter_cons]
            split
            · rw [List.map_cons, List.count_cons_of_ne hother]
              exact ih
            · exact ih

/-- What the tasks say about a player who has a route, but for the generation. -/
theorem count_tasks (ω : GroupOrders) {routes : Routes} {uid : Nat}
    {route : GatewayRoute} (hroute : routes.lookup uid = some route)
    (uids : List Nat) (msgId : UInt16) (seq : Nat) (packet : P) :
    (named (tasks ω (groupPlayers routes uids) msgId seq packet)).count uid =
      uids.count uid := by
  rw [groupPlayers_eq, count_named route.netShard route.linkId]
  · rw [(group_merged _).uids, count_behind hroute]
  · intro net link target htarget huid
    rcases mem_target_uids htarget huid with ⟨own, _, hlookup, hnet, hlink⟩
    rw [hroute] at hlookup
    cases hlookup
    exact ⟨hnet.symm, hlink.symm⟩

theorem not_named (ω : GroupOrders) {routes : Routes} {uid : Nat}
    (hroute : routes.lookup uid = none) (uids : List Nat) (msgId : UInt16) (seq : Nat)
    (packet : P) :
    uid ∉ named (tasks ω (groupPlayers routes uids) msgId seq packet) := by
  intro huid
  rcases List.mem_flatMap.mp huid with ⟨⟨net, task⟩, htask, hmem⟩
  rcases List.mem_flatMap.mp hmem with ⟨target, htarget, hnamed⟩
  rcases mem_tasks_target htask htarget with ⟨link, hfound⟩
  rw [groupPlayers_eq] at hfound
  rcases mem_target_uids hfound hnamed with ⟨own, _, hlookup, _, _⟩
  rw [hroute] at hlookup
  cases hlookup

theorem tasks_partitioned (ω : GroupOrders) {routes : Routes} {uids : List Nat}
    (hone : OneGeneration routes uids) (msgId : UInt16) (seq : Nat) (packet : P) :
    Partitioned routes uids
      (tasks ω (groupPlayers routes uids) msgId seq packet) := by
  intro uid
  cases hroute : routes.lookup uid with
  | none => exact not_named ω hroute uids msgId seq packet
  | some route =>
      refine ⟨count_tasks ω hroute uids msgId seq packet, ?_⟩
      intro netShard task target htask htarget huid
      rcases mem_tasks_target htask htarget with ⟨link, hfound⟩
      rw [groupPlayers_eq] at hfound
      rcases mem_target_uids hfound huid with ⟨own, hlisted, hlookup, hnet, hlink⟩
      rw [hroute] at hlookup
      cases hlookup
      have hmerged := group_merged (routed routes uids)
      rcases hmerged.generation netShard link target hfound with
        ⟨last, hlast, hgeneration⟩
      rcases List.mem_filter.mp hlast with ⟨hmem, hbehind⟩
      have hown := of_decide_eq_true hbehind
      rcases mem_routed.mp hmem with ⟨hlastListed, hlastRoute⟩
      refine ⟨hnet.symm, (hmerged.link netShard link target hfound).trans hlink.symm, ?_⟩
      rw [hgeneration]
      exact (hone uid last.1 hlisted hlastListed route last.2 hroute hlastRoute
        (hnet.trans hown.left.symm) (hlink.trans hown.right.symm)).symm

/-- A listed player with a route is named in the target of their link. -/
theorem exists_target (ω : GroupOrders) {routes : Routes} {uids : List Nat}
    {uid : Nat} {route : GatewayRoute} (huid : uid ∈ uids)
    (hroute : routes.lookup uid = some route) (msgId : UInt16) (seq : Nat)
    (packet : P) :
    exists task target,
      (route.netShard, task) ∈ tasks ω (groupPlayers routes uids) msgId seq packet ∧
        target ∈ task.targets ∧ uid ∈ target.uids ∧
        (groupPlayers routes uids).target route.netShard route.linkId =
          some target := by
  have huids := (group_merged (routed routes uids)).uids route.netShard route.linkId
  have hmem : uid ∈ (behind (routed routes uids) route.netShard route.linkId).map
      Prod.fst := by
    refine List.mem_map.mpr ⟨(uid, route), List.mem_filter.mpr ⟨?_, ?_⟩, rfl⟩
    · exact mem_routed.mpr ⟨huid, hroute⟩
    · exact decide_eq_true ⟨rfl, rfl⟩
  rw [← huids, ← groupPlayers_eq] at hmem
  cases hfound : (groupPlayers routes uids).target route.netShard route.linkId with
  | none =>
      rw [hfound] at hmem
      cases hmem
  | some target =>
      rw [hfound] at hmem
      rcases Option.bind_eq_some_iff.mp hfound with ⟨links, hlinks, hlink⟩
      refine ⟨⟨msgId, seq, (ω.links route.netShard).values links, packet⟩, target,
        List.mem_filterMap.mpr ⟨route.netShard, ?_, ?_⟩, ?_, hmem, rfl⟩
      · exact IterOrder.mem_visit.mpr (Table.mem_of_lookup hlinks)
      · rw [hlinks]
        rfl
      · exact IterOrder.mem_values.mpr ⟨route.linkId, hlink⟩

theorem oneGeneration_of_partitioned {ω : GroupOrders} {routes : Routes}
    {uids : List Nat} {msgId : UInt16} {seq : Nat} {packet : P}
    (h : Partitioned routes uids
      (tasks ω (groupPlayers routes uids) msgId seq packet)) :
    OneGeneration routes uids := by
  intro uid uid' huid huid' route route' hroute hroute' hnet hlink
  rcases exists_target ω huid hroute msgId seq packet with
    ⟨task, target, htask, htarget, hmem, hfound⟩
  rcases exists_target ω huid' hroute' msgId seq packet with
    ⟨task', target', htask', htarget', hmem', hfound'⟩
  have hown := h uid
  have hown' := h uid'
  rw [hroute] at hown
  rw [hroute'] at hown'
  have hgeneration := (hown.right _ _ _ htask htarget hmem).right.right
  have hgeneration' := (hown'.right _ _ _ htask' htarget' hmem').right.right
  rw [← hnet, ← hlink, hfound] at hfound'
  cases hfound'
  exact hgeneration.symm.trans hgeneration'

/--
The tasks that `SendToPlayers` posts agree with the routes of the players if and
only if routes over one link have one generation, and the message can be
serialized or has nobody to go to.
-/
theorem run_partitioned_iff (ω : GroupOrders) (routes : Routes) (msgId : UInt16)
    (uids : List Nat) (packet : Option P) (seq : Nat) :
    Partitioned routes uids (run ω routes msgId uids packet seq) <->
      OneGeneration routes uids ∧
        (packet ≠ none ∨ forall uid, uid ∈ uids -> routes.lookup uid = none) := by
  have hnothing : (forall uid, uid ∈ uids -> routes.lookup uid = none) ->
      Partitioned routes uids ([] : List (Nat × NetworkTask P)) := by
    intro hnone uid
    cases hroute : routes.lookup uid with
    | none =>
        intro huid
        cases huid
    | some route =>
        refine ⟨?_, ?_⟩
        · refine (List.count_eq_zero.mpr ?_).symm
          intro huid
          rw [hnone uid huid] at hroute
          cases hroute
        · intro netShard task target htask
          cases htask
  unfold run
  split
  · rename_i hempty
    have hnil := List.isEmpty_iff.mp hempty
    rw [hnil] at hnothing ⊢
    constructor
    · intro _
      refine ⟨?_, Or.inr fun uid huid => by cases huid⟩
      intro uid uid' huid
      cases huid
    · intro _
      exact hnothing fun uid huid => by cases huid
  · cases packet with
    | none =>
        dsimp only
        constructor
        · intro h
          have hnone : forall uid, uid ∈ uids -> routes.lookup uid = none := by
            intro uid huid
            cases hroute : routes.lookup uid with
            | none => rfl
            | some route =>
                have hown := h uid
                rw [hroute] at hown
                have hcount : 0 = uids.count uid := hown.left
                exact absurd huid (List.count_eq_zero.mp hcount.symm)
          refine ⟨?_, Or.inr hnone⟩
          intro uid uid' huid _ route route' hroute
          rw [hnone uid huid] at hroute
          cases hroute
        · intro h
          exact hnothing (h.right.resolve_left fun hne => hne rfl)
    | some packet =>
        dsimp only
        constructor
        · intro h
          exact ⟨oneGeneration_of_partitioned h, Or.inl (Option.some_ne_none packet)⟩
        · intro h
          exact tasks_partitioned ω h.left msgId seq packet

/-- Two players behind one link, of whom one was last heard before a reconnect. -/
def staleRoutes : Routes :=
  (AList.insert 2 ⟨0, 0, 1⟩ (∅ : Routes)).insert 1 ⟨0, 0, 2⟩

def storedOrders : GroupOrders := ⟨IterOrder.stored, fun _ => IterOrder.stored⟩

theorem staleRoutes_not_partitioned :
    ¬ forall (ω : GroupOrders) (routes : Routes) (msgId : UInt16) (uids : List Nat)
      (packet : Nat) (seq : Nat),
      Partitioned routes uids (run ω routes msgId uids (some packet) seq) := by
  intro h
  have hown := h storedOrders staleRoutes ServerMsgId.snapshotNtf [1, 2] 0 0 1
  have hroute : staleRoutes.lookup 1 = some ⟨0, 0, 2⟩ := by decide
  rw [hroute] at hown
  have hposted : run storedOrders staleRoutes ServerMsgId.snapshotNtf [1, 2] (some 0) 0 =
      [(0, ⟨ServerMsgId.snapshotNtf, 0, [⟨0, 1, [1, 2]⟩], 0⟩)] := rfl
  rw [hposted] at hown
  have hgeneration := (hown.right 0 _ ⟨0, 1, [1, 2]⟩ List.mem_cons_self
    List.mem_cons_self List.mem_cons_self).right.right
  cases hgeneration

end SendToPlayers

end RtsGame
