import RtsGame.Room.Commands

/-!
# Build and Train commands

The two commands that cost something.  Each of them is carried out as a whole if
a few conditions hold, and otherwise leaves the room alone except for an entry in
the list of rejected commands.
-/

namespace RtsGame

open Scalar

namespace DungeonRoom

variable {F : Type} [Scalar F]

/-- The conditions under which `ApplyBuild` builds, with the ledger that pays. -/
structure MayBuild (r : DungeonRoom F) (cmd : PendingCommand F) (res : PlayerRes) :
    Prop where
  ledger : r.playerRes.lookup cmd.ownerUid = some res
  allowed : cmd.auxType ≠ kBuildingCrystal
  affordable : res.canAfford (buildingCost cmd.auxType) = true

/-- The conditions under which `ApplyTrain` trains, with the producer and the ledger. -/
structure MayTrain (r : DungeonRoom F) (cmd : PendingCommand F) (b : Building F)
    (res : PlayerRes) : Prop where
  producer : r.buildings.lookup cmd.targetEntity = some b
  owner : b.ownerUid = cmd.ownerUid
  finished : b.underConstruction = false
  allowed : buildingTrainsUnit b.buildingType cmd.auxType = true
  ledger : r.playerRes.lookup cmd.ownerUid = some res
  affordable : res.canAfford (unitCost cmd.auxType) = true

/-- The item that a Train command adds to the queue. -/
def orderedItem (cmd : PendingCommand F) : TrainItem F :=
  ⟨cmd.auxType, unitTrainTime cmd.auxType⟩

theorem applyCommand_build (r : DungeonRoom F) {cmd : PendingCommand F}
    (htype : cmd.type = CommandType.build) : r.applyCommand cmd = r.applyBuild cmd := by
  unfold applyCommand
  rw [htype]

theorem applyCommand_train (r : DungeonRoom F) {cmd : PendingCommand F}
    (htype : cmd.type = CommandType.train) : r.applyCommand cmd = r.applyTrain cmd := by
  unfold applyCommand
  rw [htype]

/-- A Build command is carried out, or it is rejected. -/
theorem applyBuild_cases (r : DungeonRoom F) (cmd : PendingCommand F) :
    (exists res, MayBuild r cmd res ∧
      r.applyBuild cmd =
        ((r.payFrom cmd.ownerUid res (buildingCost cmd.auxType)).spawnBuilding
          cmd.ownerUid (r.teamOf cmd.ownerUid) cmd.auxType cmd.target cmd.yaw
          true).assignConstructors cmd.ownerUid cmd.unitIds r.nextEntityId) ∨
    (exists code, (forall res, ¬ MayBuild r cmd res) ∧
      r.applyBuild cmd = r.reject cmd code) := by
  cases hres : r.playerRes.lookup cmd.ownerUid with
  | none =>
      refine Or.inr ⟨RejectCode.invalidRequest, ?_, ?_⟩
      · intro res h
        cases hres.symm.trans h.ledger
      · simp only [applyBuild, hres]
  | some res =>
      have hsame : forall other, MayBuild r cmd other -> other = res := by
        intro other h
        injection h.ledger.symm.trans hres
      by_cases hcrystal : cmd.auxType = kBuildingCrystal
      · refine Or.inr ⟨RejectCode.invalidRequest, ?_, ?_⟩
        · intro other h
          exact h.allowed hcrystal
        · simp only [applyBuild, hres, if_pos hcrystal]
      · cases hafford : res.canAfford (buildingCost cmd.auxType) with
        | false =>
            refine Or.inr ⟨RejectCode.notEnoughResources, ?_, ?_⟩
            · intro other h
              have hother := h.affordable
              rw [hsame other h, hafford] at hother
              cases hother
            · simp only [applyBuild, hres, if_neg hcrystal, hafford]
              rfl
        | true =>
            refine Or.inl ⟨res, ⟨hres, hcrystal, hafford⟩, ?_⟩
            simp only [applyBuild, hres, if_neg hcrystal, hafford]
            rfl

/-- A Train command is carried out, or it is rejected. -/
theorem applyTrain_cases (r : DungeonRoom F) (cmd : PendingCommand F) :
    (exists b res, MayTrain r cmd b res ∧
      r.applyTrain cmd =
        ((r.payFrom cmd.ownerUid res (unitCost cmd.auxType)).putBuilding
          cmd.targetEntity
          { b with trainQueue := b.trainQueue ++ [orderedItem cmd] }).markBuilding
          b.id) ∨
    (exists code, (forall b res, ¬ MayTrain r cmd b res) ∧
      r.applyTrain cmd = r.reject cmd code) := by
  cases hb : r.buildings.lookup cmd.targetEntity with
  | none =>
      refine Or.inr ⟨RejectCode.invalidEntity, ?_, ?_⟩
      · intro b res h
        cases hb.symm.trans h.producer
      · simp only [applyTrain, hb]
  | some b =>
      have hsame : forall c res, MayTrain r cmd c res -> c = b := by
        intro c res h
        injection h.producer.symm.trans hb
      by_cases howner : b.ownerUid ≠ cmd.ownerUid ∨ b.underConstruction
      · refine Or.inr ⟨RejectCode.invalidEntity, ?_, ?_⟩
        · intro c res h
          have hc := hsame c res h
          subst hc
          cases howner with
          | inl hne => exact hne h.owner
          | inr hsite =>
              rw [h.finished] at hsite
              cases hsite
        · simp only [applyTrain, hb, if_pos howner]
      · cases htrains : buildingTrainsUnit b.buildingType cmd.auxType with
        | false =>
            refine Or.inr ⟨RejectCode.invalidRequest, ?_, ?_⟩
            · intro c res h
              have hother := h.allowed
              rw [hsame c res h, htrains] at hother
              cases hother
            · simp only [applyTrain, hb, if_neg howner, htrains]
              rfl
        | true =>
            cases hres : r.playerRes.lookup cmd.ownerUid with
            | none =>
                refine Or.inr ⟨RejectCode.invalidRequest, ?_, ?_⟩
                · intro c res h
                  cases hres.symm.trans h.ledger
                · simp only [applyTrain, hb, if_neg howner, htrains, hres]
                  rfl
            | some res =>
                cases hafford : res.canAfford (unitCost cmd.auxType) with
                | false =>
                    refine Or.inr ⟨RejectCode.notEnoughResources, ?_, ?_⟩
                    · intro c other h
                      have hother := h.affordable
                      injection h.ledger.symm.trans hres with heq
                      rw [heq, hafford] at hother
                      cases hother
                    · simp only [applyTrain, hb, if_neg howner, htrains, hres, hafford]
                      rfl
                | true =>
                    rw [not_or, not_not, Bool.not_eq_true] at howner
                    refine Or.inl ⟨b, res, ⟨hb, howner.left, howner.right, htrains, hres,
                      hafford⟩, ?_⟩
                    simp only [applyTrain, hb, howner, ne_eq, not_true_eq_false,
                      Bool.false_eq_true, or_self, if_false, htrains, hres, hafford]
                    rfl

end DungeonRoom

end RtsGame
