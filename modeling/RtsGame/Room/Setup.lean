import RtsGame.Room.Origins

/-!
# What the simulation leaves alone

Effects change neither the players nor the flags of a room, and they neither
add nor remove a ledger.
-/

namespace RtsGame

namespace DungeonRoom

variable {F : Type}

/-- Identity, players, flags and victory counters are the same. -/
structure SameSetup (r s : DungeonRoom F) : Prop where
  roomId : s.roomId = r.roomId
  maxPlayers : s.maxPlayers = r.maxPlayers
  players : s.players = r.players
  started : s.started = r.started
  gameOver : s.gameOver = r.gameOver
  battleBegun : s.battleBegun = r.battleBegun
  initialTeamCount : s.initialTeamCount = r.initialTeamCount
  initialCrystalTeamCount :
    s.initialCrystalTeamCount = r.initialCrystalTeamCount
  ledgers : forall uid, uid ∈ s.playerRes <-> uid ∈ r.playerRes

theorem SameSetup.refl (r : DungeonRoom F) : SameSetup r r :=
  ⟨rfl, rfl, rfl, rfl, rfl, rfl, rfl, rfl, fun _ => Iff.rfl⟩

theorem SameSetup.trans {r s t : DungeonRoom F} (hrs : SameSetup r s)
    (hst : SameSetup s t) : SameSetup r t :=
  ⟨hst.roomId.trans hrs.roomId, hst.maxPlayers.trans hrs.maxPlayers,
    hst.players.trans hrs.players, hst.started.trans hrs.started,
    hst.gameOver.trans hrs.gameOver, hst.battleBegun.trans hrs.battleBegun,
    hst.initialTeamCount.trans hrs.initialTeamCount,
    hst.initialCrystalTeamCount.trans hrs.initialCrystalTeamCount,
    fun uid => (hst.ledgers uid).trans (hrs.ledgers uid)⟩

/-!
## Building blocks
-/

theorem commit_setup (r : DungeonRoom F) (id : Nat) (u : GameUnit F) :
    SameSetup r (r.commit id u) :=
  ⟨rfl, rfl, rfl, rfl, rfl, rfl, rfl, rfl, fun _ => Iff.rfl⟩

theorem noteWrap_setup (r : DungeonRoom F) (w : Bool) :
    SameSetup r (r.noteWrap w) :=
  ⟨rfl, rfl, rfl, rfl, rfl, rfl, rfl, rfl, fun _ => Iff.rfl⟩

theorem putUnit_setup (r : DungeonRoom F) (id : Nat) (u : GameUnit F) :
    SameSetup r (r.putUnit id u) :=
  ⟨rfl, rfl, rfl, rfl, rfl, rfl, rfl, rfl, fun _ => Iff.rfl⟩

theorem markDirty_setup (r : DungeonRoom F) (id : Nat) :
    SameSetup r (r.markDirty id) :=
  ⟨rfl, rfl, rfl, rfl, rfl, rfl, rfl, rfl, fun _ => Iff.rfl⟩

theorem putBuilding_setup (r : DungeonRoom F) (id mark : Nat)
    (b : Building F) : SameSetup r ((r.putBuilding id b).markBuilding mark) :=
  ⟨rfl, rfl, rfl, rfl, rfl, rfl, rfl, rfl, fun _ => Iff.rfl⟩

theorem spawnResourceDrop_setup (r : DungeonRoom F) (raw : Nat)
    (pos : Vec3f F) (amount : UInt32) :
    SameSetup r (r.spawnResourceDrop raw pos amount) :=
  ⟨rfl, rfl, rfl, rfl, rfl, rfl, rfl, rfl, fun _ => Iff.rfl⟩

theorem settleField_setup (r : DungeonRoom F) (fieldId : Nat)
    (field : ResourceFieldEntity F) (left : UInt32) :
    SameSetup r (r.settleField fieldId field left) := by
  unfold settleField
  split
  · exact ⟨rfl, rfl, rfl, rfl, rfl, rfl, rfl, rfl, fun _ => Iff.rfl⟩
  · exact ⟨rfl, rfl, rfl, rfl, rfl, rfl, rfl, rfl, fun _ => Iff.rfl⟩

theorem settleDrop_setup (r : DungeonRoom F) (dropId : Nat)
    (drop : ResourceDropEntity F) (amount : UInt32) :
    SameSetup r (r.settleDrop dropId drop amount) := by
  unfold settleDrop
  split
  · exact ⟨rfl, rfl, rfl, rfl, rfl, rfl, rfl, rfl, fun _ => Iff.rfl⟩
  · exact ⟨rfl, rfl, rfl, rfl, rfl, rfl, rfl, rfl, fun _ => Iff.rfl⟩

/-- Writing a ledger that is there already. -/
theorem writeLedger_setup {r : DungeonRoom F} {uid : Nat} {res : PlayerRes}
    (h : r.playerRes.lookup uid = some res) (res' : PlayerRes) (w : Bool) :
    SameSetup r
      (({ r with playerRes := r.playerRes.insert uid res' }.noteWrap
        w).markResource uid) :=
  ⟨rfl, rfl, rfl, rfl, rfl, rfl, rfl, rfl, fun _ => Table.mem_insert_of_lookup res' h⟩

theorem deposit_setup {r : DungeonRoom F} {u : GameUnit F} {res : PlayerRes}
    (h : r.playerRes.lookup u.ownerUid = some res) :
    SameSetup r (r.deposit u) := by
  rw [deposit_eq h]
  exact writeLedger_setup h _ _

theorem payFrom_setup {r : DungeonRoom F} {uid : Nat} {res : PlayerRes}
    (h : r.playerRes.lookup uid = some res) (cost : ResCost) :
    SameSetup r (r.payFrom uid res cost) :=
  writeLedger_setup h _ _

variable [Scalar F]

theorem spawnTrained_setup (r : DungeonRoom F) (b : Building F)
    (unitType : Nat) : SameSetup r (r.spawnTrained b unitType) :=
  ⟨rfl, rfl, rfl, rfl, rfl, rfl, rfl, rfl, fun _ => Iff.rfl⟩

theorem spawnBuilding_setup (r : DungeonRoom F)
    (ownerUid team buildingType : Nat) (pos : Vec3f F) (yaw : F)
    (site : Bool) :
    SameSetup r (r.spawnBuilding ownerUid team buildingType pos yaw site) :=
  ⟨rfl, rfl, rfl, rfl, rfl, rfl, rfl, rfl, fun _ => Iff.rfl⟩

/-!
## Effects
-/

theorem Effect.setup {keep : DungeonRoom F -> GameUnit F -> GameUnit F -> Prop}
    {r s : DungeonRoom F} {out : List Nat} (heff : Effect keep r out s) :
    SameSetup r s := by
  cases heff with
  | cool _ _ => exact putUnit_setup r _ _
  | redirect _ _ _ _ => exact commit_setup r _ _
  | dropLoad _ _ _ _ _ _ =>
      exact (spawnResourceDrop_setup r _ _ _).trans (commit_setup _ _ _)
  | harvest _ _ _ _ _ _ _ _ _ _ _ =>
      exact (settleField_setup r _ _ _).trans (commit_setup _ _ _)
  | credit _ _ _ hres _ _ =>
      exact (deposit_setup hres).trans (commit_setup _ _ _)
  | forfeit _ _ _ _ _ _ => exact commit_setup r _ _
  | take _ _ _ _ _ _ _ _ =>
      exact (settleDrop_setup r _ _ _).trans
        ((noteWrap_setup _ _).trans (commit_setup _ _ _))
  | strikeUnit _ _ _ _ _ _ _ =>
      exact (putUnit_setup r _ _).trans
        ((markDirty_setup _ _).trans (commit_setup _ _ _))
  | strikeBuilding _ _ _ _ _ _ _ =>
      exact (putBuilding_setup r _ _ _).trans (commit_setup _ _ _)
  | construct _ _ _ _ _ _ _ =>
      exact (putBuilding_setup r _ _ _).trans (commit_setup _ _ _)
  | train _ _ => exact putBuilding_setup r _ _ _
  | graduate _ _ _ =>
      exact (spawnTrained_setup r _ _).trans (putBuilding_setup _ _ _ _)
  | buyBuilding _ _ _ hres _ _ =>
      exact (payFrom_setup hres _).trans (spawnBuilding_setup _ _ _ _ _ _ _)
  | buyTraining _ _ hres _ _ =>
      exact (payFrom_setup hres _).trans (putBuilding_setup _ _ _ _)
  | refuse _ _ =>
      exact ⟨rfl, rfl, rfl, rfl, rfl, rfl, rfl, rfl, fun _ => Iff.rfl⟩
  | buryUnit _ _ =>
      exact ⟨rfl, rfl, rfl, rfl, rfl, rfl, rfl, rfl, fun _ => Iff.rfl⟩
  | buryBuilding _ _ =>
      exact ⟨rfl, rfl, rfl, rfl, rfl, rfl, rfl, rfl, fun _ => Iff.rfl⟩
  | scanTick _ =>
      exact ⟨rfl, rfl, rfl, rfl, rfl, rfl, rfl, rfl, fun _ => Iff.rfl⟩
  | forgetPending =>
      exact ⟨rfl, rfl, rfl, rfl, rfl, rfl, rfl, rfl, fun _ => Iff.rfl⟩

theorem Effects.setup {keep : DungeonRoom F -> GameUnit F -> GameUnit F -> Prop}
    {r s : DungeonRoom F} {out : List Nat} (heff : Effects keep r out s) :
    SameSetup r s := by
  induction heff with
  | nil r =>
      exact SameSetup.refl r
  | cons hmove _ ih =>
      exact hmove.setup.trans ih

theorem applyPending_setup {r : DungeonRoom F} (hr : Keyed r) :
    SameSetup r r.applyPending := by
  rcases applyPending_effects hr (allJustified_any r r.pending) with
    ⟨_, heff, _⟩
  exact Effects.setup heff

theorem step_setup (r : DungeonRoom F) (ω : IterOrder) (dt : F) :
    SameSetup r (r.step ω dt) := by
  rcases step_effects ω dt r with ⟨_, heff, _⟩
  exact Effects.setup heff

/-!
## Preparing a battle
-/

theorem spawnUnit_setup (r : DungeonRoom F) (ownerUid team unitType : Nat)
    (pos : Vec3f F) (hp speed yaw : F) :
    SameSetup r (r.spawnUnit ownerUid team unitType pos hp speed yaw) :=
  ⟨rfl, rfl, rfl, rfl, rfl, rfl, rfl, rfl, fun _ => Iff.rfl⟩

theorem spawnResourceField_setup (r : DungeonRoom F) (raw : Nat)
    (pos : Vec3f F) (amount : UInt32) :
    SameSetup r (r.spawnResourceField raw pos amount) :=
  ⟨rfl, rfl, rfl, rfl, rfl, rfl, rfl, rfl, fun _ => Iff.rfl⟩

omit [Scalar F] in
/-- The battle begins with the same ledgers, all of them filled. -/
theorem beginBattle_lookup (r : DungeonRoom F) (uid : Nat) :
    r.beginBattle.playerRes.lookup uid =
      if uid ∈ r.playerRes then some ⟨kStartFood, kStartWood, kStartGold⟩
      else none := by
  unfold beginBattle
  dsimp only
  rw [Table.foldl_insert_lookup]
  by_cases huid : uid ∈ r.playerRes
  · have hkeys : uid ∈ r.playerRes.keys := huid
    rw [if_pos hkeys, if_pos huid]
  · have hkeys : uid ∉ r.playerRes.keys := huid
    rw [if_neg hkeys, if_neg huid]
    exact AList.lookup_eq_none.mpr huid

omit [Scalar F] in
theorem mem_beginBattle_playerRes (r : DungeonRoom F) (uid : Nat) :
    uid ∈ r.beginBattle.playerRes <-> uid ∈ r.playerRes := by
  rw [Table.mem_iff_lookup, beginBattle_lookup]
  by_cases huid : uid ∈ r.playerRes
  · simp [huid]
  · simp [huid]

end DungeonRoom

end RtsGame
