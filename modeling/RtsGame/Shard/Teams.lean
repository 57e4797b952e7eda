import RtsGame.Shard.RoomRules

/-!
# Teams

A player who joins is put on the team whose number is the number of players
already there.  Numbers stay below the capacity of the room, but a player who
left makes room for a number that is still in use.
-/

namespace RtsGame

variable {B F : Type}

/-- Distinct players are on distinct teams. -/
def TeamsDistinct (r : DungeonRoom F) : Prop :=
  forall u v p q, r.players.lookup u = some p -> r.players.lookup v = some q ->
    u ≠ v -> p.team ≠ q.team

/-- Team numbers are smaller than the capacity of the room. -/
def TeamsBounded (r : DungeonRoom F) : Prop :=
  r.players.AllAt fun _ p => p.team < r.maxPlayers

/-- The number of players is not the number of a team. -/
def NextTeamFree (r : DungeonRoom F) : Prop :=
  r.players.AllAt fun _ p => p.team ≠ r.players.size

instance NextTeamFree.decidable (r : DungeonRoom F) : Decidable (NextTeamFree r) :=
  Table.decidableAllAt r.players

/-!
## Teams of one room
-/

/-- The players of the second room are players of the first one, on their teams. -/
def SameTeams (r r' : DungeonRoom F) : Prop :=
  r'.maxPlayers = r.maxPlayers ∧
    r'.players.AllAt fun uid p =>
      exists q, r.players.lookup uid = some q ∧ q.team = p.team

theorem SameTeams.distinct {r r' : DungeonRoom F} (hsame : SameTeams r r')
    (h : TeamsDistinct r) : TeamsDistinct r' := by
  intro u v p q hp hq huv
  rcases hsame.2 u p hp with ⟨p', hp', hpteam⟩
  rcases hsame.2 v q hq with ⟨q', hq', hqteam⟩
  rw [← hpteam, ← hqteam]
  exact h u v p' q' hp' hq' huv

theorem SameTeams.bounded {r r' : DungeonRoom F} (hsame : SameTeams r r')
    (h : TeamsBounded r) : TeamsBounded r' := by
  intro u p hp
  rcases hsame.2 u p hp with ⟨p', hp', hpteam⟩
  rw [← hpteam, hsame.1]
  exact h u p' hp'

theorem SameTeams.of_players {r r' : DungeonRoom F}
    (hmax : r'.maxPlayers = r.maxPlayers) (hplayers : r'.players = r.players) :
    SameTeams r r' := by
  refine ⟨hmax, ?_⟩
  intro uid p hp
  rw [hplayers] at hp
  exact ⟨p, hp, rfl⟩

theorem LeaveMove.sameTeams {uid : Nat} {r r' : DungeonRoom F}
    {events : List (ShardEvent F)} (hmove : LeaveMove uid r events r') :
    SameTeams r r' := by
  rcases hmove.frame with ⟨_, hmax, hplayers, _, _⟩
  refine ⟨hmax, ?_⟩
  intro v p hp
  rw [hplayers, Table.lookup_erase_ite] at hp
  split at hp
  · cases hp
  · exact ⟨p, hp, rfl⟩

theorem TeamsBounded.seated {r : DungeonRoom F} (h : TeamsBounded r)
    (hfits : r.players.size < r.maxPlayers) (uid : Nat) :
    TeamsBounded (r.seated uid) :=
  Table.AllAt.insert h hfits

theorem TeamsDistinct.seated {r : DungeonRoom F} (h : TeamsDistinct r)
    (hfree : NextTeamFree r) (uid : Nat) : TeamsDistinct (r.seated uid) := by
  intro u v p q hp hq huv
  change (r.players.insert uid _).lookup u = some p at hp
  change (r.players.insert uid _).lookup v = some q at hq
  rw [Table.lookup_insert_ite] at hp hq
  split at hp
  · rename_i hu
    injection hp with hp
    split at hq
    · rename_i hv
      exact absurd (hu.trans hv.symm) huv
    · rw [← hp]
      exact (hfree v q hq).symm
  · split at hq
    · injection hq with hq
      rw [← hq]
      exact hfree u p hp
    · exact h u v p q hp hq huv

variable [Scalar F]

theorem InnerMove.sameTeams {p : Policy F} {r r' : DungeonRoom F}
    {events : List (ShardEvent F)} (hshape : RoomShape r)
    (hmove : InnerMove p r events r') : SameTeams r r' := by
  cases hmove with
  | @ready uid player flag hp =>
      refine ⟨rfl, ?_⟩
      intro v p hv
      change (r.players.insert uid _).lookup v = some p at hv
      rw [Table.lookup_insert_ite] at hv
      split at hv
      · rename_i heq
        injection hv with hv
        rw [heq, ← hv]
        exact ⟨player, hp, rfl⟩
      · exact ⟨p, hv, rfl⟩
  | start routes ω _ _ _ =>
      have hstarted : DungeonRoom.Keyed (r.setStarted true) :=
        hshape.keyed.congr rfl rfl rfl rfl rfl
      have hsame := (DungeonRoom.spawnInitialUnits_setup ω hstarted).1
      exact SameTeams.of_players hsame.maxPlayers hsame.players
  | enqueue cmd _ => exact SameTeams.of_players rfl rfl
  | tick routes ω _ _ =>
      have hsame := (DungeonRoom.afterStep_setup hshape.keyed ω).1
      rcases tickRoom_cases routes ω r.roomId r with ⟨_, heq⟩ | ⟨_, _, heq⟩
      · rw [heq]
        exact SameTeams.of_players hsame.maxPlayers hsame.players
      · rw [heq]
        exact SameTeams.of_players hsame.maxPlayers hsame.players

/-!
## Teams in runs
-/

/-- Team numbers are bounded in every run. -/
theorem teamsBoundedRule :
    RoomRule Policy.free (TeamsBounded (F := F)) fun _ => True where
  chatter := fun _ _ => trivial
  fresh := by
    intro roomId roomName maxPlayers uid
    apply TeamsBounded.seated
    · exact Table.allAt_empty _
    · rw [freshRoom_maxPlayers]
      exact (normalizeMaxPlayers_bounds maxPlayers).left
  enter := by
    intro r uid _ h _ hfits _
    exact h.seated hfits uid
  inner := by
    intro r events r' hshape h hmove
    exact ⟨(hmove.sameTeams hshape).bounded h, fun _ _ => trivial⟩
  leave := by
    intro r events r' uid _ h _ _ _ hmove
    exact ⟨hmove.sameTeams.bounded h, fun _ _ => trivial⟩

/-- Teams stay distinct if everybody who is seated finds the next number free. -/
theorem teamsDistinctRule :
    RoomRule ⟨fun _ r => NextTeamFree r, fun _ _ => True, fun _ _ => True⟩
      (TeamsDistinct (F := F)) fun _ => True where
  chatter := fun _ _ => trivial
  fresh := by
    intro roomId roomName maxPlayers uid
    apply TeamsDistinct.seated
    · intro u v p q hp
      cases hp
    · exact Table.allAt_empty _
  enter := by
    intro r uid _ h _ _ hfree
    exact h.seated hfree uid
  inner := by
    intro r events r' hshape h hmove
    exact ⟨(hmove.sameTeams hshape).distinct h, fun _ _ => trivial⟩
  leave := by
    intro r events r' uid _ h _ _ _ hmove
    exact ⟨hmove.sameTeams.distinct h, fun _ _ => trivial⟩

/-- Nobody is seated by this input on a team that is taken. -/
def SeatsOnFreeTeam (codec : Codec B F) (s : LogicShard F) :
    LogicShard.ShardInput B -> Prop
  | LogicShard.ShardInput.task task _ =>
      forall uid r, Seating codec s task uid r -> NextTeamFree r
  | LogicShard.ShardInput.tick _ => True

omit [Scalar F] in
theorem seatsOnFreeTeam_of_rooms {codec : Codec B F} {s : LogicShard F}
    {i : LogicShard.ShardInput B}
    (h : s.rooms.AllAt fun _ r => NextTeamFree r) :
    SeatsOnFreeTeam codec s i := by
  cases i with
  | tick ω => trivial
  | task task ω =>
      intro uid r hseating
      cases hseating with
      | create _ _ => exact Table.allAt_empty _
      | @join _ roomId _ _ _ hr _ _ => exact h roomId r hr

/--
In every run in which every join that seats a player finds the next team number
free, distinct players of a room are on distinct teams and all team numbers are
below the capacity of the room.
-/
theorem run_teams_distinct (codec : Codec B F) (shardId shardCount : Nat)
    (inputs : List (LogicShard.ShardInput B))
    (hfree : Along (LogicShard.handle codec) (SeatsOnFreeTeam codec)
      (LogicShard.create shardId shardCount) inputs) :
    (LogicShard.run codec shardId shardCount inputs).1.rooms.AllAt fun _ r =>
      TeamsDistinct r ∧ TeamsBounded r := by
  have hdistinct :=
    (teamsDistinctRule.along codec shardId shardCount inputs
      (hfree.mono fun s i hseats => by
        cases i with
        | tick ω => exact fun _ _ _ _ => trivial
        | task task ω => exact ⟨hseats, fun _ _ _ => trivial⟩)).1
  have hbounded := (teamsBoundedRule.run codec shardId shardCount inputs).1
  intro roomId r hr
  exact ⟨hdistinct.rooms roomId r hr, hbounded.rooms roomId r hr⟩

/-- Three players meet in a room for four. -/
def threeMeet : List (LogicShard.ShardInput (Wire Rat)) :=
  [LogicShard.asks MsgId.createRoomReq 1 (Wire.createRoom ⟨"", 4⟩),
    LogicShard.asks MsgId.joinRoomReq 2 (Wire.joinRoom 1),
    LogicShard.asks MsgId.joinRoomReq 3 (Wire.joinRoom 1)]

/-- After that the first one leaves and a fourth one joins. -/
def firstIsReplaced : List (LogicShard.ShardInput (Wire Rat)) :=
  threeMeet ++
    [LogicShard.asks MsgId.leaveRoomReq 1 (Wire.leaveRoom 1),
      LogicShard.asks MsgId.joinRoomReq 4 (Wire.joinRoom 1)]

theorem threeMeet_teams_distinct :
    (LogicShard.run Wire.codec 0 1 threeMeet).1.rooms.AllAt fun _ r =>
      TeamsDistinct r ∧ TeamsBounded r := by
  apply run_teams_distinct
  refine ⟨?_, ?_, ?_, trivial⟩
  · exact seatsOnFreeTeam_of_rooms (Table.allAt_empty _)
  · apply seatsOnFreeTeam_of_rooms
    decide +kernel
  · apply seatsOnFreeTeam_of_rooms
    decide +kernel

theorem firstIsReplaced_teams_collide :
    ¬ forall inputs : List (LogicShard.ShardInput (Wire Rat)),
      (LogicShard.run Wire.codec 0 1 inputs).1.rooms.AllAt fun _ r =>
        TeamsDistinct r ∧ TeamsBounded r := by
  intro h
  have hteams :
      ((LogicShard.run Wire.codec 0 1 firstIsReplaced).1.rooms.lookup 1).map
        (fun r => (r.players.lookup 3, r.players.lookup 4)) =
      some (some ⟨3, 2, false⟩, some ⟨4, 2, false⟩) := by
    decide +kernel
  rcases Option.map_eq_some_iff.mp hteams with ⟨r, hr, hplayers⟩
  rcases Prod.mk.inj hplayers with ⟨hthird, hfourth⟩
  exact (h firstIsReplaced 1 r hr).1 3 4 _ _ hthird hfourth (by decide) rfl

end RtsGame
