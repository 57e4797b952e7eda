import RtsGame.Room.Offsets
import RtsGame.Room.Walking

/-!
# Work within reach

The source declares ranges for harvesting, picking up and depositing, but compares
nothing with them: a worker works as soon as it has walked up to its place beside the
field, drop or drop-off.  That the ranges are kept follows from how long the offset of
such a place can be.
-/

namespace RtsGame

open Scalar
open Exact (toReal)

namespace DungeonRoom

variable {F : Type} [Scalar F]

/-!
## What a unit does with the goods of the room
-/

/-- Fields, drops and ledgers are as before. -/
structure SameGoods (q q' : DungeonRoom F) : Prop where
  fields : q'.fields = q.fields
  drops : q'.drops = q.drops
  playerRes : q'.playerRes = q.playerRes

/-- A unit has walked up to the place beside another that its offset leads to. -/
def Beside (u : GameUnit F) (pos : Vec3f F) : Prop :=
  planeDist u.pos (offsetBy pos u.interactionOffset) ≤ lit 0.15

/-- A unit that acts works in one place at most. -/
inductive Errand (ω : IterOrder) (q : DungeonRoom F) (id : Nat) (w : GameUnit F)
    (q' : DungeonRoom F) : Prop where
  | nothing : SameGoods q q' ->
      (forall v, q'.units.lookup id = some v -> v.carriedAmount = w.carriedAmount) ->
      Errand ω q id w q'
  | harvests {field : ResourceFieldEntity F} : w.attackTarget = 0 ->
      w.task = WorkerTask.gathering -> q.fields.lookup w.gatherFieldId = some field ->
      Beside w field.pos ->
      (forall f, f ≠ w.gatherFieldId -> q'.fields.lookup f = q.fields.lookup f) ->
      q'.drops = q.drops -> q'.playerRes = q.playerRes -> Errand ω q id w q'
  | picksUp {drop : ResourceDropEntity F} : w.attackTarget = 0 ->
      w.task = WorkerTask.pickup -> q.drops.lookup w.pickupDropId = some drop ->
      Beside w drop.pos ->
      (forall d, d ≠ w.pickupDropId -> q'.drops.lookup d = q.drops.lookup d) ->
      q'.fields = q.fields -> q'.playerRes = q.playerRes -> Errand ω q id w q'
  | deposits {camp : Building F} : w.attackTarget = 0 ->
      w.task = WorkerTask.returning -> q.chosenDropoff ω w = some camp ->
      Beside w camp.pos -> q'.fields = q.fields -> q'.drops = q.drops ->
      (forall uid, uid ≠ w.ownerUid -> q'.playerRes.lookup uid = q.playerRes.lookup uid) ->
      Errand ω q id w q'

section Errands

variable {ω : IterOrder} {dt : F} {q p : DungeonRoom F} {id : Nat} {w v : GameUnit F}

/-- A unit that keeps its load is written. -/
theorem errand_commit (h : v.carriedAmount = w.carriedAmount) (hp : SameGoods q p) :
    Errand ω q id w (p.commit id v) := by
  refine Errand.nothing ⟨hp.fields, hp.drops, hp.playerRes⟩ ?_
  intro x hx
  rw [commit_units, AList.lookup_insert] at hx
  injection hx with heq
  rw [← heq]
  exact h

omit [Scalar F] in
theorem SameGoods.refl (q : DungeonRoom F) : SameGoods q q := ⟨rfl, rfl, rfl⟩

theorem stepCombat_errand : Errand ω q id w (q.stepCombat id w dt) := by
  have hstop : Errand ω q id w (q.stopAttack id w) := errand_commit rfl (SameGoods.refl q)
  have hchase : forall tpos range, (chaseToward { w with state := UnitState.attacking } tpos
      dt range).1.carriedAmount = w.carriedAmount := by
    intro tpos range
    exact (chaseToward_steered { w with state := UnitState.attacking } tpos dt
      range).load.amount
  unfold stepCombat
  split
  · exact errand_commit rfl (SameGoods.refl q)
  · split
    · unfold attackUnit
      split
      · exact hstop
      · dsimp only
        split
        · exact errand_commit (hchase _ _) ⟨rfl, rfl, rfl⟩
        · exact errand_commit (hchase _ _) (SameGoods.refl q)
    · split
      · unfold attackBuilding
        split
        · exact hstop
        · dsimp only
          split
          · exact errand_commit (hchase _ _) ⟨rfl, rfl, rfl⟩
          · exact errand_commit (hchase _ _) (SameGoods.refl q)
      · exact hstop

theorem resumeGathering_amount (q : DungeonRoom F) (w : GameUnit F) :
    (q.resumeGathering w).carriedAmount = w.carriedAmount :=
  (resumeGathering_body q w).right.amount

theorem switchToPreparingReturn_amount (w : GameUnit F) (faceTarget : Vec3f F) :
    (switchToPreparingReturn w faceTarget).carriedAmount = w.carriedAmount :=
  (faceToward_steered _ faceTarget).load.amount

omit [Scalar F] in
/-- Only one field is settled. -/
theorem settleField_others (fieldId : Nat) (field : ResourceFieldEntity F) (left : UInt32)
    {f : Nat} (hf : f ≠ fieldId) :
    (q.settleField fieldId field left).fields.lookup f = q.fields.lookup f := by
  unfold settleField
  split
  · exact AList.lookup_erase_ne hf
  · exact AList.lookup_insert_ne hf

omit [Scalar F] in
theorem settleDrop_others (dropId : Nat) (drop : ResourceDropEntity F) (amount : UInt32)
    {d : Nat} (hd : d ≠ dropId) :
    (q.settleDrop dropId drop amount).drops.lookup d = q.drops.lookup d := by
  unfold settleDrop
  split
  · exact AList.lookup_erase_ne hd
  · exact AList.lookup_insert_ne hd

theorem workField_errand {field : ResourceFieldEntity F} (hattack : w.attackTarget = 0)
    (htask : w.task = WorkerTask.gathering)
    (hfield : q.fields.lookup w.gatherFieldId = some field) (hthere : Beside w field.pos)
    (hid : v.gatherFieldId = w.gatherFieldId) :
    Errand ω q id w (q.workField id v field dt) := by
  have hsettled : forall left wraps x, Errand ω q id w
      (((q.settleField v.gatherFieldId field left).noteWrap wraps).commit id x) := by
    intro left wraps x
    have hframe := settleField_frame q v.gatherFieldId field left
    refine Errand.harvests hattack htask hfield hthere ?_ ?_ ?_
    · intro f hf
      rw [← hid] at hf
      rw [commit_fields, noteWrap_fields, settleField_others v.gatherFieldId field left hf]
    · rw [commit_drops, noteWrap_drops, hframe.right.left]
    · rw [commit_playerRes, noteWrap_playerRes, hframe.right.right.left]
  unfold workField
  dsimp only
  split
  · exact hsettled _ _ _
  · split
    · exact hsettled _ _ _
    · exact hsettled _ _ _

theorem stepGather_errand (hattack : w.attackTarget = 0)
    (htask : w.task = WorkerTask.gathering) : Errand ω q id w (q.stepGather id w dt) := by
  have hreturn : forall target,
      Errand ω q id w (q.commit id (switchToPreparingReturn w target)) := fun target =>
    errand_commit (switchToPreparingReturn_amount w target) (SameGoods.refl q)
  have hidle : Errand ω q id w (q.commit id (goIdle w)) :=
    errand_commit rfl (SameGoods.refl q)
  unfold stepGather
  split
  · split
    · exact hreturn _
    · exact hreturn _
  · split
    · split
      · exact hreturn _
      · exact hidle
    · rename_i field hfield
      split
      · split
        · exact hreturn _
        · exact hidle
      · have hmove := moveToward_steered { w with target := field.pos }
          (offsetBy field.pos w.interactionOffset) (lit 0.15) dt
        dsimp only
        split
        · exact errand_commit hmove.load.amount (SameGoods.refl q)
        · rename_i hthere
          rw [Bool.not_eq_true, Bool.not_eq_false', moveToward_there_iff] at hthere
          exact workField_errand hattack htask hfield hthere hmove.job.gatherFieldId

theorem stepPreparingReturn_errand : Errand ω q id w (q.stepPreparingReturn id w dt) := by
  have hface := faceToward_steered w w.target
  unfold stepPreparingReturn
  dsimp only
  split
  · exact errand_commit hface.load.amount (SameGoods.refl q)
  · exact errand_commit hface.load.amount (SameGoods.refl q)

theorem carryTo_errand {camp : Building F} (hattack : w.attackTarget = 0)
    (htask : w.task = WorkerTask.returning) (hcamp : q.chosenDropoff ω w = some camp)
    (d : Nat) : Errand ω q id w (q.carryTo id { w with dropoffId := d } camp dt) := by
  have hmove := moveToward_steered { w with dropoffId := d }
    (offsetBy camp.pos w.interactionOffset) (lit 0.15) dt
  unfold carryTo
  dsimp only
  split
  · exact errand_commit hmove.load.amount (SameGoods.refl q)
  · rename_i hthere
    rw [Bool.not_eq_true, Bool.not_eq_false', moveToward_there_iff] at hthere
    rw [deposit_congr q hmove]
    have hframe := deposit_frame q { w with dropoffId := d }
    refine Errand.deposits hattack htask hcamp hthere ?_ ?_ ?_
    · rw [commit_fields, hframe.right.right.left]
    · rw [commit_drops, hframe.right.right.right.left]
    · intro uid huid
      rw [commit_playerRes]
      unfold deposit
      split
      · rfl
      · exact AList.lookup_insert_ne huid

theorem stepReturn_errand (hattack : w.attackTarget = 0)
    (htask : w.task = WorkerTask.returning) : Errand ω q id w (stepReturn ω q id w dt) := by
  unfold stepReturn
  split
  · exact errand_commit (resumeGathering_amount q w) (SameGoods.refl q)
  · split
    · rename_i camp hnamed
      have hcamp : q.chosenDropoff ω w = some camp := by
        unfold chosenDropoff
        rw [hnamed]
      exact carryTo_errand hattack htask hcamp w.dropoffId
    · rename_i hnamed
      split
      · rename_i camp hfound
        have hcamp : q.chosenDropoff ω w = some camp := by
          unfold chosenDropoff
          rw [hnamed, hfound]
        exact carryTo_errand hattack htask hcamp camp.id
      · exact errand_commit rfl (SameGoods.refl q)

theorem takeDrop_errand {drop : ResourceDropEntity F} (hattack : w.attackTarget = 0)
    (htask : w.task = WorkerTask.pickup)
    (hdrop : q.drops.lookup w.pickupDropId = some drop) (hthere : Beside w drop.pos)
    (hid : v.pickupDropId = w.pickupDropId) : Errand ω q id w (q.takeDrop id v drop) := by
  have hframe := settleDrop_frame q v.pickupDropId drop (drop.amount - takeAmount v drop)
  unfold takeDrop
  refine Errand.picksUp hattack htask hdrop hthere ?_ ?_ ?_
  · intro d hd
    rw [← hid] at hd
    rw [commit_drops, noteWrap_drops, settleDrop_others v.pickupDropId drop _ hd]
  · rw [commit_fields, noteWrap_fields, hframe.right.left]
  · rw [commit_playerRes, noteWrap_playerRes, hframe.right.right.left]

theorem stepPickup_errand (hattack : w.attackTarget = 0)
    (htask : w.task = WorkerTask.pickup) : Errand ω q id w (q.stepPickup id w dt) := by
  unfold stepPickup
  split
  · split
    · exact errand_commit rfl (SameGoods.refl q)
    · exact errand_commit rfl (SameGoods.refl q)
  · rename_i drop hdrop
    have hmove := moveToward_steered w (offsetBy drop.pos w.interactionOffset) (lit 0.15) dt
    dsimp only
    split
    · exact errand_commit hmove.load.amount (SameGoods.refl q)
    · rename_i hthere
      rw [Bool.not_eq_true, Bool.not_eq_false', moveToward_there_iff] at hthere
      exact takeDrop_errand hattack htask hdrop hthere hmove.job.pickupDropId

theorem stepConstruct_errand : Errand ω q id w (q.stepConstruct id w dt) := by
  have hidle : Errand ω q id w (q.commit id (goIdle w)) :=
    errand_commit rfl (SameGoods.refl q)
  unfold stepConstruct
  split
  · exact hidle
  · rename_i b _
    have hmove := moveToward_steered w b.pos kBuildRange dt
    split
    · exact hidle
    · dsimp only
      split
      · exact errand_commit hmove.load.amount (SameGoods.refl q)
      · split
        · exact errand_commit hmove.load.amount ⟨rfl, rfl, rfl⟩
        · exact errand_commit hmove.load.amount ⟨rfl, rfl, rfl⟩

theorem act_errand (hw : q.units.lookup id = some w) : Errand ω q id w (act ω dt q id w) := by
  unfold act
  split
  · exact stepCombat_errand
  · rename_i hattack
    rw [not_not] at hattack
    split
    · rename_i htask
      exact stepGather_errand hattack htask
    · exact stepPreparingReturn_errand
    · rename_i htask
      exact stepReturn_errand hattack htask
    · rename_i htask
      exact stepPickup_errand hattack htask
    · exact stepConstruct_errand
    · split
      · exact errand_commit (followPath_steered _ w _).load.amount (SameGoods.refl q)
      · refine Errand.nothing (SameGoods.refl q) ?_
        intro x hx
        injection hw.symm.trans hx with heq
        rw [heq]

/-!
### The turn of a unit
-/

/-- A unit puts its load down where it stands. -/
structure LaysDown (q : DungeonRoom F) (id : Nat) (u : GameUnit F) (q' : DungeonRoom F) :
    Prop where
  fields : q'.fields = q.fields
  drops : q'.drops = q.drops.insert q.nextEntityId
    ⟨q.nextEntityId, u.carriedRaw, u.pos, u.carriedAmount⟩
  playerRes : q'.playerRes = q.playerRes
  load : forall v, q'.units.lookup id = some v -> v.carriedAmount = 0

omit [Scalar F] in
theorem engageAuto_amount {target : Nat}
    (h : (p.engageAuto id w target).units.lookup id = some v) :
    v.carriedAmount = w.carriedAmount ∧ v.attackTarget = target := by
  unfold engageAuto at h
  rw [commit_units, AList.lookup_insert] at h
  injection h with heq
  rw [← heq]
  exact ⟨rfl, rfl⟩

/-- The scan touches no goods, except that a worker under attack drops its load. -/
theorem scanAggro_goods (hw : q.units.lookup id = some w) (hp : scanAggro ω q id w = p)
    (hv : p.units.lookup id = some v) :
    (SameGoods q p ∧ v.carriedAmount = w.carriedAmount) ∨
      (LaysDown q id w p ∧ v.attackTarget ≠ 0) := by
  have hstays : q = p -> SameGoods q p ∧ v.carriedAmount = w.carriedAmount := by
    rintro rfl
    injection hw.symm.trans hv with heq
    rw [heq]
    exact ⟨SameGoods.refl q, rfl⟩
  unfold scanAggro at hp
  split at hp
  · exact Or.inl (hstays hp)
  · split at hp
    · split at hp
      · unfold acquireAutoTarget at hp
        dsimp only at hp
        split at hp
        · subst hp
          exact Or.inl ⟨⟨rfl, rfl, rfl⟩, (engageAuto_amount hv).left⟩
        · exact Or.inl (hstays hp)
      · exact Or.inl (hstays hp)
    · dsimp only at hp
      split at hp
      · rename_i hthreat
        unfold dropCarried at hp
        split at hp
        · subst hp
          refine Or.inr ⟨⟨rfl, rfl, rfl, ?_⟩, ?_⟩
          · intro x hx
            exact (engageAuto_amount hx).left
          · rw [(engageAuto_amount hv).right]
            exact hthreat
        · subst hp
          exact Or.inl ⟨⟨rfl, rfl, rfl⟩, (engageAuto_amount hv).left⟩
      · exact Or.inl (hstays hp)

/-- The goods when the action of a unit begins. -/
theorem Outing.goods {doAggro : Bool} {u : GameUnit F}
    (h : Outing ω dt doAggro q id u p w) :
    (SameGoods q p ∧ w.carriedAmount = u.carriedAmount) ∨
      (LaysDown q id u p ∧ w.attackTarget ≠ 0) := by
  have hown := h.solo.own
  have hp := h.start.symm
  have hpos : (coolDown dt u).pos = u.pos := by rw [coolDown_eq]
  have hamount : (coolDown dt u).carriedAmount = u.carriedAmount := by rw [coolDown_eq]
  have hraw : (coolDown dt u).carriedRaw = u.carriedRaw := by rw [coolDown_eq]
  have hcooled : (q.putUnit id (coolDown dt u)).units.lookup id = some (coolDown dt u) :=
    AList.lookup_insert _
  unfold readied at hp
  split at hp
  · unfold withUnit at hp
    rw [hcooled] at hp
    rcases scanAggro_goods hcooled hp hown with ⟨hsame, hload⟩ | ⟨hlays, hattack⟩
    · exact Or.inl ⟨⟨hsame.fields, hsame.drops, hsame.playerRes⟩, hload.trans hamount⟩
    · have hdrops := hlays.drops
      rw [hraw, hpos, hamount] at hdrops
      exact Or.inr ⟨⟨hlays.fields, hdrops, hlays.playerRes, hlays.load⟩, hattack⟩
  · subst hp
    injection hcooled.symm.trans hown with heq
    rw [← heq]
    exact Or.inl ⟨⟨rfl, rfl, rfl⟩, hamount⟩

theorem chosenDropoff_congr (hbuildings : p.buildings = q.buildings) (w : GameUnit F) :
    p.chosenDropoff ω w = q.chosenDropoff ω w := by
  unfold chosenDropoff namedDropoff findNearestDropoff
  rw [hbuildings]

/-- A living unit works in one place at most, or drops its load to defend itself. -/
theorem stepUnit_errand (ω : IterOrder) (dt : F) (doAggro : Bool) (q : DungeonRoom F)
    {id : Nat} {u : GameUnit F} (hu : q.units.lookup id = some u) :
    Errand ω q id u (stepUnit ω dt doAggro q id) ∨
      LaysDown q id u (stepUnit ω dt doAggro q id) := by
  rcases stepUnit_cases ω dt doAggro q id with ⟨heq, _⟩ | ⟨u', p, w, hout, hact, _⟩
  · rw [heq]
    refine Or.inl (Errand.nothing (SameGoods.refl q) ?_)
    intro v hv
    injection hu.symm.trans hv with hsame
    rw [hsame]
  · injection hu.symm.trans hout.found with hsame
    subst hsame
    have herrand : Errand ω p id w (act ω dt p id w) := act_errand hout.solo.own
    rw [← hact] at herrand
    rcases hout.goods with ⟨hgoods, hload⟩ | ⟨hlays, hattack⟩
    · have hcooled : w.attackTarget = 0 ->
          w = { u with attackCd := (coolDown dt u).attackCd } := by
        intro hattack
        rw [← coolDown_eq]
        exact hout.stance.resolve_right fun hengages => hengages.attackTarget hattack
      left
      cases herrand with
      | nothing hsame hkept =>
          refine Errand.nothing ⟨hsame.fields.trans hgoods.fields,
            hsame.drops.trans hgoods.drops, hsame.playerRes.trans hgoods.playerRes⟩ ?_
          intro v hv
          rw [hkept v hv, hload]
      | harvests hattack htask hfield hthere hothers hdrops hres =>
          have hw := hcooled hattack
          subst hw
          rw [hgoods.fields] at hfield hothers
          exact Errand.harvests hattack htask hfield hthere hothers
            (hdrops.trans hgoods.drops) (hres.trans hgoods.playerRes)
      | picksUp hattack htask hdrop hthere hothers hfields hres =>
          have hw := hcooled hattack
          subst hw
          rw [hgoods.drops] at hdrop hothers
          exact Errand.picksUp hattack htask hdrop hthere hothers
            (hfields.trans hgoods.fields) (hres.trans hgoods.playerRes)
      | deposits hattack htask hcamp hthere hfields hdrops hothers =>
          have hw := hcooled hattack
          subst hw
          rw [chosenDropoff_congr hout.solo.buildings] at hcamp
          rw [hgoods.playerRes] at hothers
          exact Errand.deposits hattack htask hcamp hthere (hfields.trans hgoods.fields)
            (hdrops.trans hgoods.drops) hothers
    · right
      cases herrand with
      | nothing hsame hkept =>
          refine ⟨hsame.fields.trans hlays.fields, hsame.drops.trans hlays.drops,
            hsame.playerRes.trans hlays.playerRes, ?_⟩
          intro v hv
          rw [hkept v hv, hlays.load w hout.solo.own]
      | harvests hfree _ _ _ _ _ _ => exact absurd hfree hattack
      | picksUp hfree _ _ _ _ _ _ => exact absurd hfree hattack
      | deposits hfree _ _ _ _ _ _ => exact absurd hfree hattack

end Errands

/-!
## Ranges
-/

/-- The unit gathers from a field within range. -/
structure HarvestsAt (q : DungeonRoom F) (u : GameUnit F) (f : Nat) : Prop where
  task : u.task = WorkerTask.gathering
  field : u.gatherFieldId = f
  range : exists field, q.fields.lookup f = some field ∧
    planeDist u.pos field.pos ≤ kHarvestRange

/-- The unit picks up from a drop within range. -/
structure PicksUpAt (q : DungeonRoom F) (u : GameUnit F) (d : Nat) : Prop where
  task : u.task = WorkerTask.pickup
  drop : u.pickupDropId = d
  range : exists drop, q.drops.lookup d = some drop ∧
    planeDist u.pos drop.pos ≤ kPickupRange

/-- The unit stores its load in a building within range. -/
structure DepositsAt (ω : IterOrder) (q : DungeonRoom F) (u : GameUnit F) : Prop where
  task : u.task = WorkerTask.returning
  range : exists camp, q.chosenDropoff ω u = some camp ∧
    planeDist u.pos camp.pos ≤ kDropoffRange

/--
Whatever a turn moves is moved by a unit within range: a field or a drop that differs
afterwards, a ledger that differs, or the load of a unit that stays in the room.  A load
may also be laid down at the feet of its unit.
-/
structure WithinReach (q : DungeonRoom F) (t : Turn F) : Prop where
  field : forall f field, q.fields.lookup f = some field ->
    (q.turn t).fields.lookup f ≠ some field ->
      exists ω dt doAggro i u, t = Turn.unit ω dt doAggro i ∧
        q.units.lookup i = some u ∧ HarvestsAt q u f
  drop : forall d drop, q.drops.lookup d = some drop ->
    (q.turn t).drops.lookup d ≠ some drop ->
      exists ω dt doAggro i u, t = Turn.unit ω dt doAggro i ∧
        q.units.lookup i = some u ∧ PicksUpAt q u d
  ledger : forall uid, (q.turn t).playerRes.lookup uid ≠ q.playerRes.lookup uid ->
    exists ω dt doAggro i u, t = Turn.unit ω dt doAggro i ∧
      q.units.lookup i = some u ∧ u.ownerUid = uid ∧ DepositsAt ω q u
  load : forall i u v, q.units.lookup i = some u -> (q.turn t).units.lookup i = some v ->
    v.carriedAmount ≠ u.carriedAmount ->
      exists ω dt doAggro, t = Turn.unit ω dt doAggro i ∧
        ((exists f, HarvestsAt q u f) ∨ (exists d, PicksUpAt q u d) ∨
          DepositsAt ω q u ∨ LaysDown q i u (q.turn t))

/-- An offset is no longer than the radius on which the interaction slots lie. -/
def ShortOffset (offset : Vec3f F) : Prop := planeDist Vec3f.zero offset ≤ lit 1.8

section Ranges

variable [ExactRoot F] {ω : IterOrder} {q q' : DungeonRoom F} {i : Nat} {u : GameUnit F}
  {pos : Vec3f F}

theorem planePoint_zero : planePoint (Vec3f.zero : Vec3f F) = 0 :=
  Complex.ext Exact.zero_eq Exact.zero_eq

theorem planePoint_offsetBy (pos offset : Vec3f F) :
    planePoint (offsetBy pos offset) = planePoint pos + planePoint offset :=
  Complex.ext (Exact.add_eq _ _) (Exact.add_eq _ _)

theorem shortOffset_iff (offset : Vec3f F) :
    ShortOffset offset <-> ‖planePoint offset‖ ≤ 1.8 := by
  unfold ShortOffset
  rw [Exact.le_iff, planeDist_norm, planePoint_zero, sub_zero, Exact.lit_eq]
  norm_num

theorem shortOffset_zero : ShortOffset (Vec3f.zero : Vec3f F) := by
  rw [shortOffset_iff, planePoint_zero, norm_zero]
  norm_num

/-- Beside a place, with a short offset, is near the place. -/
theorem Beside.near (h : Beside u pos) (hshort : ShortOffset u.interactionOffset) :
    toReal (planeDist u.pos pos) ≤ 1.95 := by
  unfold Beside at h
  rw [Exact.le_iff, planeDist_norm, planePoint_offsetBy, Exact.lit_eq] at h
  rw [shortOffset_iff] at hshort
  have hsplit : planePoint pos - planePoint u.pos =
      (planePoint pos + planePoint u.interactionOffset - planePoint u.pos) -
        planePoint u.interactionOffset := by ring
  have htriangle := norm_sub_le
    (planePoint pos + planePoint u.interactionOffset - planePoint u.pos)
    (planePoint u.interactionOffset)
  rw [planeDist_norm, hsplit]
  norm_num at h hshort ⊢
  linarith

/-- Every one of the three ranges is long enough. -/
theorem Beside.within (h : Beside u pos) (hshort : ShortOffset u.interactionOffset)
    {range : ℚ} (hrange : 1.95 ≤ range) : planeDist u.pos pos ≤ lit range := by
  have hnear := h.near hshort
  have hreal : ((1.95 : ℚ) : ℝ) ≤ (range : ℝ) := Rat.cast_le.mpr hrange
  rw [Exact.le_iff, Exact.lit_eq]
  norm_num at hnear hreal ⊢
  linarith

/-!
### The turns of a step
-/

theorem harvestsAt_of_beside {field : ResourceFieldEntity F}
    (hshort : ShortOffset u.interactionOffset) (htask : u.task = WorkerTask.gathering)
    (hfield : q.fields.lookup u.gatherFieldId = some field) (h : Beside u field.pos) :
    HarvestsAt q u u.gatherFieldId :=
  ⟨htask, rfl, field, hfield, h.within hshort (by norm_num)⟩

theorem picksUpAt_of_beside {drop : ResourceDropEntity F}
    (hshort : ShortOffset u.interactionOffset) (htask : u.task = WorkerTask.pickup)
    (hdrop : q.drops.lookup u.pickupDropId = some drop) (h : Beside u drop.pos) :
    PicksUpAt q u u.pickupDropId :=
  ⟨htask, rfl, drop, hdrop, h.within hshort (by norm_num)⟩

theorem depositsAt_of_beside {camp : Building F}
    (hshort : ShortOffset u.interactionOffset) (htask : u.task = WorkerTask.returning)
    (hcamp : q.chosenDropoff ω u = some camp) (h : Beside u camp.pos) : DepositsAt ω q u :=
  ⟨htask, camp, hcamp, h.within hshort (by norm_num)⟩

/-- What a unit changes in its turn is within its reach. -/
structure Reaches (ω : IterOrder) (q : DungeonRoom F) (i : Nat) (u : GameUnit F)
    (q' : DungeonRoom F) : Prop where
  field : forall f, q'.fields.lookup f ≠ q.fields.lookup f -> HarvestsAt q u f
  drop : forall d, d ≠ q.nextEntityId -> q'.drops.lookup d ≠ q.drops.lookup d ->
    PicksUpAt q u d
  ledger : forall uid, q'.playerRes.lookup uid ≠ q.playerRes.lookup uid ->
    u.ownerUid = uid ∧ DepositsAt ω q u
  load : forall v, q'.units.lookup i = some v -> v.carriedAmount ≠ u.carriedAmount ->
    (exists f, HarvestsAt q u f) ∨ (exists d, PicksUpAt q u d) ∨ DepositsAt ω q u ∨
      LaysDown q i u q'

omit [Scalar F] [ExactRoot F] in
/-- An entry that differs, although all entries but one are the same. -/
theorem lookup_odd {alpha : Type} {m m' : Table alpha} {k odd : Nat}
    (hothers : forall j, j ≠ odd -> m'.lookup j = m.lookup j)
    (hne : m'.lookup k ≠ m.lookup k) : odd = k := by
  by_contra hodd
  exact hne (hothers k fun heq => hodd heq.symm)

theorem Errand.reaches (h : Errand ω q i u q') (hshort : ShortOffset u.interactionOffset) :
    Reaches ω q i u q' := by
  cases h with
  | nothing hsame hkept =>
      refine ⟨?_, ?_, ?_, ?_⟩
      · intro f hne
        exact absurd (by rw [hsame.fields]) hne
      · intro d _ hne
        exact absurd (by rw [hsame.drops]) hne
      · intro uid hne
        exact absurd (by rw [hsame.playerRes]) hne
      · intro v hv hne
        exact absurd (hkept v hv) hne
  | harvests _ htask hfield hthere hothers hdrops hres =>
      have hat := harvestsAt_of_beside hshort htask hfield hthere
      refine ⟨?_, ?_, ?_, ?_⟩
      · intro f hne
        rw [← lookup_odd hothers hne]
        exact hat
      · intro d _ hne
        exact absurd (by rw [hdrops]) hne
      · intro uid hne
        exact absurd (by rw [hres]) hne
      · intro v _ _
        exact Or.inl ⟨_, hat⟩
  | picksUp _ htask hdrop hthere hothers hfields hres =>
      have hat := picksUpAt_of_beside hshort htask hdrop hthere
      refine ⟨?_, ?_, ?_, ?_⟩
      · intro f hne
        exact absurd (by rw [hfields]) hne
      · intro d _ hne
        rw [← lookup_odd hothers hne]
        exact hat
      · intro uid hne
        exact absurd (by rw [hres]) hne
      · intro v _ _
        exact Or.inr (Or.inl ⟨_, hat⟩)
  | deposits _ htask hcamp hthere hfields hdrops hothers =>
      have hat := depositsAt_of_beside hshort htask hcamp hthere
      refine ⟨?_, ?_, ?_, ?_⟩
      · intro f hne
        exact absurd (by rw [hfields]) hne
      · intro d _ hne
        exact absurd (by rw [hdrops]) hne
      · intro uid hne
        exact ⟨lookup_odd hothers hne, hat⟩
      · intro v _ _
        exact Or.inr (Or.inr (Or.inl hat))

omit [ExactRoot F] in
theorem LaysDown.reaches (h : LaysDown q i u q') : Reaches ω q i u q' := by
  refine ⟨?_, ?_, ?_, ?_⟩
  · intro f hne
    exact absurd (by rw [h.fields]) hne
  · intro d hd hne
    exact absurd (by rw [h.drops, AList.lookup_insert_ne hd]) hne
  · intro uid hne
    exact absurd (by rw [h.playerRes]) hne
  · intro v _ _
    exact Or.inr (Or.inr (Or.inr h))

/-- A room in which the units have the ids of their keys and short offsets. -/
structure Close (q : DungeonRoom F) : Prop where
  keyed : Keyed q
  offsets : OffsetsIn ShortOffset q

theorem Close.reaches (hq : Close q) (ω : IterOrder) (dt : F) (doAggro : Bool)
    (hu : q.units.lookup i = some u) : Reaches ω q i u (stepUnit ω dt doAggro q i) := by
  rcases stepUnit_errand ω dt doAggro q hu with herrand | hlays
  · exact herrand.reaches (hq.offsets i u hu)
  · exact hlays.reaches

omit [ExactRoot F] in
/-- The turns of buildings and of the dead, and the scan tick, touch no goods. -/
theorem turn_goods {r : DungeonRoom F} {dt : F} {t : Turn F} (ht : t ∈ stepTurns ω dt r)
    (q : DungeonRoom F) :
    SameGoods q (q.turn t) ∨ exists id, t = Turn.unit ω dt r.scans id := by
  rcases mem_stepTurns_cases ht with rfl | hunit | ⟨id, rfl⟩ | ⟨id, rfl⟩ | ⟨id, rfl⟩
  · exact Or.inl ⟨rfl, rfl, rfl⟩
  · exact Or.inr hunit
  · left
    change SameGoods q (stepBuilding dt q id)
    rcases stepBuilding_cases dt q id with
      heq | ⟨b, item, rest, _, _, _, ⟨_, heq⟩ | ⟨_, heq⟩⟩
    · rw [heq]
      exact SameGoods.refl q
    · rw [heq]
      exact ⟨rfl, rfl, rfl⟩
    · rw [heq]
      exact ⟨rfl, rfl, rfl⟩
  · left
    change SameGoods q (removeDeadUnit q id)
    rcases removeDeadUnit_cases q id with heq | ⟨_, _, _, heq⟩
    · rw [heq]
      exact SameGoods.refl q
    · rw [heq]
      exact ⟨rfl, rfl, rfl⟩
  · left
    change SameGoods q (removeDeadBuilding q id)
    rcases removeDeadBuilding_cases q id with heq | ⟨_, _, _, heq⟩
    · rw [heq]
      exact SameGoods.refl q
    · rw [heq]
      exact ⟨rfl, rfl, rfl⟩

/-- Goods change only in the turn of a unit that is there. -/
theorem Close.mover (hq : Close q) {r : DungeonRoom F} {dt : F} {t : Turn F}
    (ht : t ∈ stepTurns ω dt r) (hmoved : ¬ SameGoods q (q.turn t)) :
    exists i u, t = Turn.unit ω dt r.scans i ∧ q.units.lookup i = some u ∧
      Reaches ω q i u (q.turn t) := by
  rcases turn_goods ht q with hsame | ⟨i, rfl⟩
  · exact absurd hsame hmoved
  · cases hu : q.units.lookup i with
    | none =>
        have hidle : stepUnit ω dt r.scans q i = q := by
          unfold stepUnit
          rw [hu]
        change ¬ SameGoods q (stepUnit ω dt r.scans q i) at hmoved
        rw [hidle] at hmoved
        exact absurd (SameGoods.refl q) hmoved
    | some u => exact ⟨i, u, rfl, hu, hq.reaches ω dt r.scans hu⟩

theorem Close.withinReach (hq : Close q) {r : DungeonRoom F} {dt : F} {t : Turn F}
    (ht : t ∈ stepTurns ω dt r) : WithinReach q t := by
  refine ⟨?_, ?_, ?_, ?_⟩
  · intro f field hf hne
    rw [← hf] at hne
    rcases hq.mover ht fun hsame => hne (by rw [hsame.fields]) with ⟨i, u, hi, hu, hreach⟩
    exact ⟨ω, dt, r.scans, i, u, hi, hu, hreach.field f hne⟩
  · intro d drop hd hne
    have hold : d ≠ q.nextEntityId := Nat.ne_of_lt (hq.keyed.drops d drop hd).right
    rw [← hd] at hne
    rcases hq.mover ht fun hsame => hne (by rw [hsame.drops]) with ⟨i, u, hi, hu, hreach⟩
    exact ⟨ω, dt, r.scans, i, u, hi, hu, hreach.drop d hold hne⟩
  · intro uid hne
    rcases hq.mover ht fun hsame => hne (by rw [hsame.playerRes]) with
      ⟨i, u, hi, hu, hreach⟩
    exact ⟨ω, dt, r.scans, i, u, hi, hu, hreach.ledger uid hne⟩
  · intro i u v hu hv hne
    cases unit_fate hq.keyed hv with
    | kept hsame =>
        injection hu.symm.trans hsame with heq
        rw [heq] at hne
        exact absurd rfl hne
    | spawned heq _ _ _ => exact absurd heq (stepTurns_not_call ht _ _)
    | trained _ hnone _ _ => cases hnone.symm.trans hu
    | ordered heq _ _ =>
        subst heq
        rcases mem_stepTurns_cases ht with heq | ⟨_, heq⟩ | ⟨_, heq⟩ | ⟨_, heq⟩ | ⟨_, heq⟩
        all_goals cases heq
    | @acted ω' dt' doAggro _ _ _ heq _ _ _ =>
        subst heq
        exact ⟨ω', dt', doAggro, rfl, (hq.reaches ω' dt' doAggro hu).load v hv hne⟩
    | struck _ _ hw _ _ heq =>
        injection hu.symm.trans hw with hsame
        rw [heq, hsame] at hne
        exact absurd rfl hne

/--
In exact arithmetic, with interaction slots no farther out than their radius, every
turn of a step of a reachable room moves resources only within the declared ranges.
-/
theorem work_within_reach
    (hslots : forall index count, index < count ->
      planeDist Vec3f.zero (interactionSlot index count : Vec3f F) ≤ lit 1.8)
    (roomId : Nat) (roomName : String) (maxPlayers : Nat) (calls : List (RoomCall F))
    (ω : IterOrder) (dt : F) :
    Throughout turn WithinReach (calls.foldl call (create roomId roomName maxPlayers))
      (stepTurns ω dt (calls.foldl call (create roomId roomName maxPlayers))) := by
  have hcreate : Close (create roomId roomName maxPlayers : DungeonRoom F) :=
    ⟨keyed_create roomId roomName maxPlayers, fun _ _ hu => by cases hu⟩
  have hturns : forall {p : DungeonRoom F}, Close p -> forall ts : List (Turn F),
      Close (ts.foldl turn p) := fun hp ts =>
    ⟨(hp.keyed.turns ts).left, hp.offsets.turns shortOffset_zero hslots ts⟩
  have hstart : Close (calls.foldl call (create roomId roomName maxPlayers)) := by
    rw [← scriptOf_foldl]
    exact hturns hcreate _
  intro front t back hsplit
  have ht : t ∈ stepTurns ω dt (calls.foldl call (create roomId roomName maxPlayers)) := by
    rw [hsplit]
    exact List.mem_append_right front List.mem_cons_self
  exact (hturns hstart front).withinReach ht

end Ranges

/-!
### The slots of real numbers
-/

theorem realSlot_short (index count : Nat) :
    ShortOffset (interactionSlot index count : Vec3f RealScalar) := by
  unfold interactionSlot
  split
  · exact shortOffset_zero
  · rw [shortOffset_iff]
    generalize (lit 2 : RealScalar) * lit 3.14159265358979323846 * ofNat index / ofNat count = angle
    have hpolar : planePoint (⟨cos angle * lit 1.8, lit 0, sin angle * lit 1.8⟩ :
        Vec3f RealScalar) = Complex.exp (angle.value * Complex.I) * ((1.8 : ℚ) : ℝ) := by
      apply Complex.ext
      · rw [Complex.re_mul_ofReal, Complex.exp_ofReal_mul_I_re]
        rfl
      · rw [Complex.im_mul_ofReal, Complex.exp_ofReal_mul_I_im]
        rfl
    rw [hpolar, norm_mul, Complex.norm_exp_ofReal_mul_I, Complex.norm_real]
    norm_num

/-- A unit that has come to its place at a drop picks it up in its turn. -/
theorem stepUnit_picksUp {q : DungeonRoom F} {i : Nat} {u : GameUnit F}
    {drop : ResourceDropEntity F} (hu : q.units.lookup i = some u) (halive : ¬ u.hp ≤ lit 0)
    (hidle : u.attackTarget = 0) (htask : u.task = WorkerTask.pickup)
    (hdrop : q.drops.lookup u.pickupDropId = some drop)
    (hnear : planeDist u.pos (offsetBy drop.pos u.interactionOffset) ≤ lit 0.15)
    (ω : IterOrder) (dt : F) :
    exists v, (stepUnit ω dt false q i).units.lookup i = some v ∧
      v.carriedAmount = u.carriedAmount + takeAmount u drop := by
  have hcool := coolDown_eq dt u
  generalize (coolDown dt u).attackCd = cd at hcool
  have hmove : moveToward { u with attackCd := cd } (offsetBy drop.pos u.interactionOffset)
      (lit 0.15) dt = ({ u with attackCd := cd }, true) := by
    unfold moveToward
    exact if_pos hnear
  refine ⟨switchToReturn { u with
    attackCd := cd
    carriedRaw := drop.raw
    carriedAmount := u.carriedAmount + takeAmount u drop }, ?_, rfl⟩
  have hready : (q.putUnit i { u with attackCd := cd }).units.lookup i =
      some { u with attackCd := cd } := AList.lookup_insert _
  have hfound : (q.putUnit i { u with attackCd := cd }).drops.lookup
      ({ u with attackCd := cd } : GameUnit F).pickupDropId = some drop := hdrop
  have hact : act ω dt (q.putUnit i { u with attackCd := cd }) i { u with attackCd := cd } =
      (q.putUnit i { u with attackCd := cd }).stepPickup i { u with attackCd := cd } dt := by
    unfold act
    rw [if_neg (not_not.mpr hidle), show ({ u with attackCd := cd } : GameUnit F).task = _ from
      htask]
  unfold stepUnit withUnit
  rw [hu]
  dsimp only
  rw [if_neg halive, hcool, if_neg Bool.false_ne_true, hready]
  dsimp only
  rw [hact]
  unfold stepPickup
  rw [hfound]
  dsimp only
  rw [hmove]
  exact AList.lookup_insert _

/-- A villager stands at its place next to a drop and is told to pick it up. -/
def foraging : List (RoomCall F) :=
  [RoomCall.addPlayer 1,
    RoomCall.spawnUnit 1 0 kUnitVillager (interactionSlot 0 1) (lit 100) (lit 6) (lit 0),
    RoomCall.spawnResourceDrop kRawWood Vec3f.zero 5,
    RoomCall.enqueueCommand ⟨CommandType.pickup, 1, 0, [1], Vec3f.zero, [], 2, 0, lit 0⟩,
    RoomCall.applyPending]

/-- In the next step it does so. -/
theorem pickup_within_reach :
    (exists (v : GameUnit RealScalar) (rest : List (Turn RealScalar)),
      stepTurns IterOrder.stored (lit 0.05) (foraging.foldl call (create 1 "forage" 2)) =
        Turn.scanTick :: Turn.unit IterOrder.stored (lit 0.05) false 1 :: rest ∧
      ([Turn.scanTick, Turn.unit IterOrder.stored (lit 0.05) false 1].foldl turn
        (foraging.foldl call (create 1 "forage" 2) : DungeonRoom RealScalar)).units.lookup 1 =
          some v ∧ v.carriedAmount = 5) ∧
    Throughout turn WithinReach
      (foraging.foldl call (create 1 "forage" 2) : DungeonRoom RealScalar)
      (stepTurns IterOrder.stored (lit 0.05) (foraging.foldl call (create 1 "forage" 2))) := by
  refine ⟨?_, work_within_reach (fun index count _ => realSlot_short index count) 1 "forage" 2
    foraging IterOrder.stored (lit 0.05)⟩
  have hplan : exists rest, stepTurns IterOrder.stored (lit 0.05)
      (foraging.foldl call (create 1 "forage" 2) : DungeonRoom RealScalar) =
        Turn.scanTick :: Turn.unit IterOrder.stored (lit 0.05) false 1 :: rest := ⟨_, rfl⟩
  have hstart : exists (u : GameUnit RealScalar) (drop : ResourceDropEntity RealScalar),
      (foraging.foldl call (create 1 "forage" 2)).units.lookup 1 = some u ∧
      (foraging.foldl call (create 1 "forage" 2)).drops.lookup 2 = some drop ∧
      u.pos = interactionSlot 0 1 ∧ u.interactionOffset = interactionSlot 0 1 ∧
      u.hp = lit 100 ∧ u.attackTarget = 0 ∧ u.task = WorkerTask.pickup ∧
      u.pickupDropId = 2 ∧ u.carriedAmount = 0 ∧ drop.pos = Vec3f.zero ∧ drop.amount = 5 :=
    ⟨_, _, rfl, rfl, rfl, rfl, rfl, rfl, rfl, rfl, rfl, rfl, rfl⟩
  rcases hstart with ⟨u, drop, hu, hdrop, hpos, hoffset, hhp, hidle, htask, hid, hempty, hplace,
    hamount⟩
  have halive : ¬ u.hp ≤ lit 0 := by
    rw [hhp, Exact.not_le_iff, Exact.lit_eq, Exact.lit_eq]
    norm_num
  have hnear : planeDist u.pos (offsetBy drop.pos u.interactionOffset) ≤ lit 0.15 := by
    rw [hpos, hoffset, hplace, Exact.le_iff, Exact.lit_eq]
    simp [planeDist, offsetBy, Vec3f.zero]
    norm_num
  have hfound : (foraging.foldl call (create 1 "forage" 2)).drops.lookup u.pickupDropId =
      some drop := by
    rw [hid]
    exact hdrop
  rcases hplan with ⟨rest, hplan⟩
  generalize (foraging.foldl call (create 1 "forage" 2) : DungeonRoom RealScalar) = room
    at hplan hu hfound
  rcases stepUnit_picksUp (q := room.turn Turn.scanTick) hu halive hidle htask hfound hnear
    IterOrder.stored (lit 0.05) with ⟨v, hv, hload⟩
  refine ⟨v, rest, hplan, hv, ?_⟩
  rw [hload, takeAmount, hempty, hamount]
  rfl

end DungeonRoom

end RtsGame
