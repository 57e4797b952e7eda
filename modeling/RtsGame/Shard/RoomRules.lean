import RtsGame.Shard.Handlers

/-!
# Rules for rooms in a shard

A property of rooms that the moves of a room preserve holds of every room in
every run of a shard, and what the moves say about their events holds of every
event of the run.
-/

namespace RtsGame

variable {B F : Type} [Scalar F]

/-- What the moves of a room preserve and guarantee. -/
structure RoomRule (p : Policy F)
    (inv : DungeonRoom F -> Prop) (note : ShardEvent F -> Prop) : Prop where
  chatter : forall e, e.isChatter = true -> note e
  fresh : forall roomId roomName maxPlayers uid,
    inv ((freshRoom roomId roomName maxPlayers).seated uid)
  enter : forall r uid, RoomShape r -> inv r -> uid ∉ r.players ->
    r.players.size < r.maxPlayers -> p.seats uid r -> inv (r.seated uid)
  inner : forall r events r', RoomShape r -> inv r -> InnerMove p r events r' ->
    inv r' ∧ forall e, e ∈ events -> note e
  leave : forall r events r' uid, RoomShape r -> inv r -> uid ∈ r.players ->
    0 < (r.removePlayer uid).1.players.size -> p.parts uid r ->
    LeaveMove uid r events r' ->
    inv r' ∧ forall e, e ∈ events -> note e

/-- Every room satisfies the invariant, in a shard whose index is right. -/
structure AllRooms (inv : DungeonRoom F -> Prop) (s : LogicShard F) : Prop where
  indexed : WellIndexed s
  rooms : s.rooms.AllAt fun _ r => inv r

omit [Scalar F] in
theorem AllRooms.create (inv : DungeonRoom F -> Prop)
    (shardId shardCount : Nat) :
    AllRooms inv (LogicShard.create shardId shardCount : LogicShard F) :=
  ⟨WellIndexed.create shardId shardCount, Table.allAt_empty _⟩

namespace RoomRule

variable {p : Policy F} {inv : DungeonRoom F -> Prop}
  {note : ShardEvent F -> Prop}

theorem move (rule : RoomRule p inv note) {s s' : LogicShard F}
    {events : List (ShardEvent F)} (h : AllRooms inv s)
    (hmove : ShardMove p s events s') :
    AllRooms inv s' ∧ forall e, e ∈ events -> note e := by
  have hindexed := hmove.wellIndexed h.indexed
  have hsilent : forall e, e ∈ ([] : List (ShardEvent F)) -> note e := by
    intro e he
    cases he
  cases hmove with
  | route routes => exact ⟨⟨hindexed, h.rooms⟩, hsilent⟩
  | talk hreply =>
      refine ⟨h, ?_⟩
      intro e he
      exact rule.chatter e (ShardEvent.isChatter_of_isReply (hreply e he))
  | @create uid roomName maxPlayers _ _ =>
      exact ⟨⟨hindexed, h.rooms.insert (rule.fresh _ _ _ _)⟩, hsilent⟩
  | @enter uid roomId r huid hr hfits hseats =>
      have hnew : uid ∉ r.players := by
        rw [h.indexed.member hr, huid]
        intro hsome
        cases hsome
      have hinv := rule.enter r uid (h.indexed.shapes roomId r hr)
        (h.rooms roomId r hr) hnew hfits hseats
      exact ⟨⟨hindexed, h.rooms.insert hinv⟩, hsilent⟩
  | @touch uid roomId r _ hr =>
      exact ⟨⟨hindexed, h.rooms.insert (h.rooms roomId r hr)⟩, hsilent⟩
  | @refresh roomId r hr =>
      exact ⟨⟨hindexed, h.rooms.insert (h.rooms roomId r hr)⟩, hsilent⟩
  | @inner roomId r r' events hr hinner =>
      rcases rule.inner r events r' (h.indexed.shapes roomId r hr)
        (h.rooms roomId r hr) hinner with ⟨hinv, hnote⟩
      exact ⟨⟨hindexed, h.rooms.insert hinv⟩, hnote⟩
  | @leave uid roomId r r' events huid hr hothers hparts hleave =>
      rcases rule.leave r events r' uid (h.indexed.shapes roomId r hr)
        (h.rooms roomId r hr) ((h.indexed.member hr uid).mpr huid) hothers
        hparts hleave with ⟨hinv, hnote⟩
      exact ⟨⟨hindexed, h.rooms.insert hinv⟩, hnote⟩
  | @vanish uid roomId r _ _ _ =>
      exact ⟨⟨hindexed, h.rooms.erase roomId⟩, hsilent⟩

theorem moves (rule : RoomRule p inv note) {s s' : LogicShard F}
    {events : List (ShardEvent F)} (h : AllRooms inv s)
    (hmoves : Moves (ShardMove p) s events s') :
    AllRooms inv s' ∧ forall e, e ∈ events -> note e := by
  have hall := Moves.invariant
    (fun past t => AllRooms inv t ∧ forall e, e ∈ past -> note e)
    (fun past t events t' hsofar hmove => by
      rcases hsofar with ⟨ht, hpast⟩
      rcases rule.move ht hmove with ⟨ht', hevents⟩
      refine ⟨ht', ?_⟩
      intro e he
      rcases List.mem_append.mp he with hold | hnew
      · exact hpast e hold
      · exact hevents e hnew)
    hmoves [] ⟨h, fun e he => by cases he⟩
  exact hall

/-- The rule for runs that respect the policy. -/
theorem along (rule : RoomRule p inv note) (codec : Codec B F)
    (shardId shardCount : Nat) (inputs : List (LogicShard.ShardInput B))
    (hrespects : Along (LogicShard.handle codec) (p.Respected codec)
      (LogicShard.create shardId shardCount) inputs) :
    AllRooms inv (LogicShard.run codec shardId shardCount inputs).1 ∧
      forall e, e ∈ (LogicShard.run codec shardId shardCount inputs).2 ->
        note e := by
  have hall := runMachine_along
    (fun past s => AllRooms inv s ∧ forall e, e ∈ past -> note e)
    (fun past s i hsofar hcond => by
      rcases hsofar with ⟨hs, hpast⟩
      rcases rule.moves hs (hs.indexed.handle codec i hcond) with
        ⟨hs', hevents⟩
      refine ⟨hs', ?_⟩
      intro e he
      rcases List.mem_append.mp he with hold | hnew
      · exact hpast e hold
      · exact hevents e hnew)
    [] _ ⟨AllRooms.create inv shardId shardCount, fun e he => by cases he⟩ inputs
    hrespects
  exact hall

end RoomRule

/-- The rule for all runs. -/
theorem RoomRule.run {inv : DungeonRoom F -> Prop} {note : ShardEvent F -> Prop}
    (rule : RoomRule Policy.free inv note) (codec : Codec B F)
    (shardId shardCount : Nat) (inputs : List (LogicShard.ShardInput B)) :
    AllRooms inv (LogicShard.run codec shardId shardCount inputs).1 ∧
      forall e, e ∈ (LogicShard.run codec shardId shardCount inputs).2 ->
        note e :=
  rule.along codec shardId shardCount inputs
    (along_of_forall (fun _ _ => Policy.free_respected) _ _)

/-- Fewer moves have the same rule. -/
theorem RoomRule.under {inv : DungeonRoom F -> Prop}
    {note : ShardEvent F -> Prop} (rule : RoomRule Policy.free inv note)
    (p : Policy F) : RoomRule p inv note where
  chatter := rule.chatter
  fresh := rule.fresh
  enter := by
    intro r uid hshape h hnew hfits _
    exact rule.enter r uid hshape h hnew hfits trivial
  inner := by
    intro r events r' hshape h hmove
    exact rule.inner r events r' hshape h hmove.free
  leave := by
    intro r events r' uid hshape h huid hothers _ hmove
    exact rule.leave r events r' uid hshape h huid hothers trivial hmove

/-!
## What the events tell about the rooms
-/

section News

variable {news : Type}

/-- What the events tell about a room, in order. -/
def told (tell : Nat -> ShardEvent F -> Option news) (roomId : Nat)
    (events : List (ShardEvent F)) : List news :=
  events.filterMap (tell roomId)

/-- The events of a move tell what happens to the room, and nothing else. -/
structure Tells (tell : Nat -> ShardEvent F -> Option news)
    (fits : List news -> DungeonRoom F -> Prop) (r : DungeonRoom F)
    (events : List (ShardEvent F)) (r' : DungeonRoom F) : Prop where
  own : forall past, fits past r -> fits (past ++ told tell r.roomId events) r'
  others : forall roomId, roomId ≠ r.roomId -> told tell roomId events = []

/-- Every move of a room is told. -/
structure NewsRule (p : Policy F) (inv : DungeonRoom F -> Prop)
    (tell : Nat -> ShardEvent F -> Option news)
    (fits : List news -> DungeonRoom F -> Prop) : Prop where
  replies : forall roomId e, e.isReply = true -> tell roomId e = none
  fresh : forall roomId roomName maxPlayers uid,
    fits [] ((freshRoom roomId roomName maxPlayers).seated uid)
  enter : forall r uid, inv r -> r.players.size < r.maxPlayers ->
    Tells tell fits r [] (r.seated uid)
  inner : forall r events r', RoomShape r -> inv r -> InnerMove p r events r' ->
    Tells tell fits r events r'
  leave : forall r events r' uid, inv r ->
    0 < (r.removePlayer uid).1.players.size -> LeaveMove uid r events r' ->
    Tells tell fits r events r'

/-- The past tells how the rooms of a shard are. -/
structure History (inv : DungeonRoom F -> Prop)
    (tell : Nat -> ShardEvent F -> Option news)
    (fits : List news -> DungeonRoom F -> Prop)
    (past : List (ShardEvent F)) (s : LogicShard F) : Prop where
  rooms : AllRooms inv s
  present : forall roomId r, s.rooms.lookup roomId = some r ->
    fits (told tell roomId past) r
  ever : forall roomId, told tell roomId past = [] ∨
    exists r, fits (told tell roomId past) r
  unborn : forall roomId, s.nextId ≤ roomId -> told tell roomId past = []

namespace History

variable {p : Policy F} {inv : DungeonRoom F -> Prop}
  {note : ShardEvent F -> Prop} {tell : Nat -> ShardEvent F -> Option news}
  {fits : List news -> DungeonRoom F -> Prop}
  {past : List (ShardEvent F)} {s : LogicShard F}

omit [Scalar F] in
/-- Events that tell nothing about the rooms, which stay as they are. -/
theorem silence (h : History inv tell fits past s) {s' : LogicShard F}
    {events : List (ShardEvent F)} (hs' : AllRooms inv s')
    (hnext : s.nextId ≤ s'.nextId)
    (hrooms : forall roomId r, s'.rooms.lookup roomId = some r ->
      s.rooms.lookup roomId = some r)
    (hquiet : forall roomId, told tell roomId events = []) :
    History inv tell fits (past ++ events) s' := by
  have htold : forall k, told tell k (past ++ events) = told tell k past := by
    intro k
    rw [told, List.filterMap_append]
    change told tell k past ++ told tell k events = told tell k past
    rw [hquiet k, List.append_nil]
  refine ⟨hs', ?_, ?_, ?_⟩
  · intro k r hr
    rw [htold]
    exact h.present k r (hrooms k r hr)
  · intro k
    rw [htold]
    exact h.ever k
  · intro k hk
    rw [htold]
    exact h.unborn k (by lia)

omit [Scalar F] in
/-- The events tell about one room, and the others stay as they are. -/
theorem put (h : History inv tell fits past s) {s' : LogicShard F}
    {events : List (ShardEvent F)} {roomId : Nat} {r r' : DungeonRoom F}
    (hs' : AllRooms inv s') (hnext : s'.nextId = s.nextId)
    (hrooms : s'.rooms = s.rooms.insert roomId r')
    (hr : s.rooms.lookup roomId = some r) (htells : Tells tell fits r events r') :
    History inv tell fits (past ++ events) s' := by
  rcases h.rooms.indexed.ids roomId r hr with ⟨hid, hborn⟩
  have happend : forall k, told tell k (past ++ events) =
      told tell k past ++ told tell k events :=
    fun k => List.filterMap_append
  have hothers : forall k, k ≠ roomId ->
      told tell k (past ++ events) = told tell k past := by
    intro k hk
    rw [happend, htells.others k (by rw [hid]; exact hk), List.append_nil]
  have hown : fits (told tell roomId (past ++ events)) r' := by
    have hstep := htells.own _ (h.present roomId r hr)
    rw [hid] at hstep
    rw [happend]
    exact hstep
  refine ⟨hs', ?_, ?_, ?_⟩
  · intro k q hq
    rw [hrooms, Table.lookup_insert_ite] at hq
    split at hq
    · rename_i hk
      injection hq with heq
      rw [hk, ← heq]
      exact hown
    · rename_i hk
      rw [hothers k hk]
      exact h.present k q hq
  · intro k
    by_cases hk : k = roomId
    · rw [hk]
      exact Or.inr ⟨r', hown⟩
    · rw [hothers k hk]
      exact h.ever k
  · intro k hk
    rw [hnext] at hk
    rw [hothers k (by lia)]
    exact h.unborn k hk

omit [Scalar F] in
/-- A room that is put back as it was. -/
theorem putBack (h : History inv tell fits past s) {s' : LogicShard F}
    {roomId : Nat} {r : DungeonRoom F} (hs' : AllRooms inv s')
    (hnext : s'.nextId = s.nextId) (hrooms : s'.rooms = s.rooms.insert roomId r)
    (hr : s.rooms.lookup roomId = some r) :
    History inv tell fits (past ++ []) s' := by
  apply h.put hs' hnext hrooms hr
  refine ⟨?_, fun _ _ => rfl⟩
  intro past hfits
  change fits (past ++ []) r
  rw [List.append_nil]
  exact hfits

theorem move (h : History inv tell fits past s) (rule : RoomRule p inv note)
    (tale : NewsRule p inv tell fits) {s' : LogicShard F}
    {events : List (ShardEvent F)} (hmove : ShardMove p s events s') :
    History inv tell fits (past ++ events) s' := by
  have hs' := (rule.move h.rooms hmove).1
  cases hmove with
  | route routes =>
      exact h.silence hs' (Nat.le_refl _) (fun _ _ hr => hr) fun _ => rfl
  | talk hreply =>
      apply h.silence hs' (Nat.le_refl _) fun _ _ hr => hr
      intro k
      rw [told, List.filterMap_eq_nil_iff]
      intro e he
      exact tale.replies k e (hreply e he)
  | @create uid roomName maxPlayers _ _ =>
      rw [List.append_nil]
      have hlater := h.rooms.indexed.nextId_le
      refine ⟨hs', ?_, h.ever, ?_⟩
      · intro k r hr
        change (s.rooms.insert s.nextId _).lookup k = some r at hr
        rw [Table.lookup_insert_ite] at hr
        split at hr
        · rename_i hk
          injection hr with heq
          rw [← heq, hk, h.unborn s.nextId (Nat.le_refl _)]
          exact tale.fresh _ _ _ _
        · exact h.present k r hr
      · intro k hk
        change LogicShard.nextId { s with nextRoomId := s.nextRoomId + 1 } ≤ k at hk
        exact h.unborn k (by lia)
  | @enter uid roomId r _ hr hfits _ =>
      exact h.put hs' rfl rfl hr
        (tale.enter r uid (h.rooms.rooms roomId r hr) hfits)
  | @touch uid roomId r _ hr => exact h.putBack hs' rfl rfl hr
  | @refresh roomId r hr => exact h.putBack hs' rfl rfl hr
  | @inner roomId r r' events hr hinner =>
      exact h.put hs' rfl rfl hr
        (tale.inner r events r' (h.rooms.indexed.shapes roomId r hr)
          (h.rooms.rooms roomId r hr) hinner)
  | @leave uid roomId r r' events huid hr hothers _ hleave =>
      exact h.put hs' rfl rfl hr
        (tale.leave r events r' uid (h.rooms.rooms roomId r hr) hothers hleave)
  | @vanish uid roomId r _ _ _ =>
      apply h.silence hs' (Nat.le_refl _) _ fun _ => rfl
      intro k q hq
      change (s.rooms.erase roomId).lookup k = some q at hq
      rw [Table.lookup_erase_ite] at hq
      split at hq
      · cases hq
      · exact hq

end History

/-- The events of a run that respects the policy tell how its rooms are. -/
theorem NewsRule.along {p : Policy F} {inv : DungeonRoom F -> Prop}
    {note : ShardEvent F -> Prop} {tell : Nat -> ShardEvent F -> Option news}
    {fits : List news -> DungeonRoom F -> Prop}
    (tale : NewsRule p inv tell fits) (rule : RoomRule p inv note)
    (codec : Codec B F) (shardId shardCount : Nat)
    (inputs : List (LogicShard.ShardInput B))
    (hrespects : Along (LogicShard.handle codec) (p.Respected codec)
      (LogicShard.create shardId shardCount) inputs) :
    History inv tell fits (LogicShard.run codec shardId shardCount inputs).2
      (LogicShard.run codec shardId shardCount inputs).1 := by
  have hinit : History inv tell fits []
      (LogicShard.create shardId shardCount : LogicShard F) := by
    refine ⟨AllRooms.create inv shardId shardCount, ?_, fun _ => Or.inl rfl,
      fun _ _ => rfl⟩
    intro roomId r hr
    cases hr
  have hall := runMachine_along (History inv tell fits)
    (fun past s i h hcond =>
      Moves.invariant (History inv tell fits)
        (fun past s events s' h hmove => h.move rule tale hmove)
        (h.rooms.indexed.handle codec i hcond) past h)
    [] _ hinit inputs hrespects
  exact hall

end News

end RtsGame
