import RtsGame.Room.Reachability

/-!
# Resource accounting

Resources sit in four places: fields, drops, backpacks and ledgers.  The stock
of a room adds up the resources of the counted types over all four.  Effects
move resources between the places; what they take out of the room is the price
of a purchase or the load of a removed unit.
-/

namespace RtsGame

open Scalar

namespace DungeonRoom

variable {F : Type} [Scalar F]

/-!
## The stock of a room
-/

section Stock

variable (counts : Nat -> Bool)

/-- An amount of a raw material, if its resource type is counted. -/
def share (raw amount : Nat) : Nat :=
  if counts (rawToResourceType raw) then amount else 0

def loadStock (u : GameUnit F) : Nat :=
  share counts u.carriedRaw u.carriedAmount.toNat

def fieldStock (f : ResourceFieldEntity F) : Nat :=
  share counts f.raw f.amountLeft.toNat

def dropStock (d : ResourceDropEntity F) : Nat :=
  share counts d.raw d.amount.toNat

def ledgerStock (p : PlayerRes) : Nat :=
  (if counts kResFood then p.food.toNat else 0) +
    (if counts kResWood then p.wood.toNat else 0) +
    (if counts kResGold then p.gold.toNat else 0)

/-- The resources of the counted types in the whole room. -/
def stock (r : DungeonRoom F) : Nat :=
  r.fields.total (fieldStock counts) + r.drops.total (dropStock counts) +
    r.units.total (loadStock counts) + r.playerRes.total (ledgerStock counts)

end Stock

/-- Every resource type counts. -/
def every (_ : Nat) : Bool := true

/-- Only one resource type counts. -/
def only (resType t : Nat) : Bool := t = resType

section Moves

variable (counts : Nat -> Bool) {r : DungeonRoom F}

omit [Scalar F] in
theorem stock_putUnit {id : Nat} {u : GameUnit F} (v : GameUnit F)
    (hu : r.units.lookup id = some u) :
    stock counts (r.putUnit id v) + loadStock counts u =
      stock counts r + loadStock counts v := by
  have htotal := Table.total_insert_old (f := loadStock counts) v hu
  unfold stock putUnit
  dsimp only
  lia

omit [Scalar F] in
theorem stock_commit {id : Nat} {u : GameUnit F} (v : GameUnit F)
    (hu : r.units.lookup id = some u) :
    stock counts (r.commit id v) + loadStock counts u =
      stock counts r + loadStock counts v :=
  stock_putUnit counts v hu

omit [Scalar F] in
theorem stock_settleField {fieldId : Nat} {field : ResourceFieldEntity F}
    (left : UInt32) (hf : r.fields.lookup fieldId = some field) :
    stock counts (r.settleField fieldId field left) + fieldStock counts field =
      stock counts r + share counts field.raw left.toNat := by
  unfold settleField
  split
  · rename_i hzero
    subst hzero
    have htotal := Table.total_erase (f := fieldStock counts) hf
    have hnone : share counts field.raw (0 : UInt32).toNat = 0 := by
      unfold share
      split <;> rfl
    unfold stock
    dsimp only
    lia
  · have htotal := Table.total_insert_old (f := fieldStock counts)
      { field with amountLeft := left } hf
    have hnew : fieldStock counts { field with amountLeft := left } =
        share counts field.raw left.toNat := rfl
    unfold stock
    dsimp only
    lia

omit [Scalar F] in
theorem stock_settleDrop {dropId : Nat} {drop : ResourceDropEntity F}
    (amount : UInt32) (hd : r.drops.lookup dropId = some drop) :
    stock counts (r.settleDrop dropId drop amount) + dropStock counts drop =
      stock counts r + share counts drop.raw amount.toNat := by
  unfold settleDrop
  split
  · rename_i hzero
    have htotal := Table.total_erase (f := dropStock counts) hd
    have hnone : share counts drop.raw amount.toNat = 0 := by
      unfold share
      rw [hzero]
      split <;> rfl
    unfold stock
    dsimp only
    lia
  · have htotal := Table.total_insert_old (f := dropStock counts)
      { drop with amount := amount } hd
    have hnew : dropStock counts { drop with amount := amount } =
        share counts drop.raw amount.toNat := rfl
    unfold stock
    dsimp only
    lia

omit [Scalar F] in
theorem stock_spawnResourceDrop (hr : Keyed r) (raw : Nat) (pos : Vec3f F)
    (amount : UInt32) :
    stock counts (r.spawnResourceDrop raw pos amount) =
      stock counts r + share counts raw amount.toNat := by
  have htotal := Table.total_insert_new (f := dropStock counts)
    (⟨r.nextEntityId, raw, pos, amount⟩ : ResourceDropEntity F) hr.drops_fresh
  have hnew : dropStock counts
      (⟨r.nextEntityId, raw, pos, amount⟩ : ResourceDropEntity F) =
        share counts raw amount.toNat := rfl
  unfold stock spawnResourceDrop
  dsimp only
  lia

omit [Scalar F] in
theorem stock_writeLedger {uid : Nat} {res : PlayerRes} (res' : PlayerRes)
    (hres : r.playerRes.lookup uid = some res) :
    stock counts { r with playerRes := r.playerRes.insert uid res' } +
        ledgerStock counts res =
      stock counts r + ledgerStock counts res' := by
  have htotal := Table.total_insert_old (f := ledgerStock counts) res' hres
  unfold stock
  dsimp only
  lia

theorem stock_spawnTrained (hr : Keyed r) (b : Building F) (unitType : Nat) :
    stock counts (r.spawnTrained b unitType) = stock counts r := by
  have htotal := Table.total_insert_new (f := loadStock counts)
    (trainedUnit r.nextEntityId b unitType) hr.units_fresh
  have hempty : loadStock counts (trainedUnit r.nextEntityId b unitType) = 0 := by
    unfold loadStock share
    split <;> rfl
  unfold stock spawnTrained
  dsimp only
  lia

end Moves

/-!
## Arithmetic of shares, prices and deposits
-/

section Arithmetic

variable {counts : Nat -> Bool}

@[simp] theorem share_zero (counts : Nat -> Bool) (raw : Nat) :
    share counts raw 0 = 0 := by
  unfold share
  split <;> rfl

@[simp] theorem share_every (raw amount : Nat) :
    share every raw amount = amount := rfl

theorem ledgerStock_every (p : PlayerRes) :
    ledgerStock every p = p.food.toNat + p.wood.toNat + p.gold.toNat := rfl

/-- Two heaps of one type are what was there before, if the types agree. -/
theorem share_merge (counts : Nat -> Bool) {raw raw' x y a b : Nat} (hsum : x + y = a + b)
    (hmatch : a = 0 ∨
      counts (rawToResourceType raw) = counts (rawToResourceType raw')) :
    share counts raw' x + share counts raw' y =
      share counts raw a + share counts raw' b := by
  unfold share
  rcases hmatch with hzero | heq
  · subst hzero
    split
    · split <;> lia
    · split <;> lia
  · rw [heq]
    split <;> lia

/-- The part of a price that is paid in the counted types. -/
def costStock (counts : Nat -> Bool) (c : ResCost) : Nat :=
  (if counts kResFood then c.food.toNat else 0) +
    (if counts kResWood then c.wood.toNat else 0) +
    (if counts kResGold then c.gold.toNat else 0)

theorem costStock_every (c : ResCost) : costStock every c = costTotal c := rfl

theorem canAfford_le {p : PlayerRes} {c : ResCost} (h : p.canAfford c = true) :
    c.food.toNat ≤ p.food.toNat ∧ c.wood.toNat ≤ p.wood.toNat ∧
      c.gold.toNat ≤ p.gold.toNat := by
  unfold PlayerRes.canAfford at h
  simp only [Bool.and_eq_true, decide_eq_true_eq, ge_iff_le,
    UInt32.le_iff_toNat_le] at h
  exact ⟨h.1.1, h.1.2, h.2⟩

theorem pay_stock (counts : Nat -> Bool) {p : PlayerRes} {c : ResCost} (h : p.canAfford c = true) :
    ledgerStock counts (p.pay c) + costStock counts c = ledgerStock counts p := by
  rcases canAfford_le h with ⟨hfood, hwood, hgold⟩
  unfold ledgerStock costStock PlayerRes.pay
  dsimp only
  rw [toNat_sub_of_toNat_le hfood, toNat_sub_of_toNat_le hwood,
    toNat_sub_of_toNat_le hgold]
  cases counts kResFood <;> cases counts kResWood <;> cases counts kResGold <;>
    simp <;> lia

theorem payWraps_of_canAfford {p : PlayerRes} {c : ResCost}
    (h : p.canAfford c = true) : p.payWraps c = false := by
  rcases canAfford_le h with ⟨hfood, hwood, hgold⟩
  unfold PlayerRes.payWraps
  rw [subWraps_eq_false.mpr hfood, subWraps_eq_false.mpr hwood,
    subWraps_eq_false.mpr hgold]
  rfl

/-- A raw material of a real type. -/
def Real (raw : Nat) : Prop := rawToResourceType raw ≠ kResNone

theorem resourceType_cases {raw : Nat} (h : Real raw) :
    rawToResourceType raw = kResFood ∨ rawToResourceType raw = kResWood ∨
      rawToResourceType raw = kResGold := by
  unfold Real rawToResourceType at h
  unfold rawToResourceType
  split
  · exact Or.inl rfl
  · split
    · exact Or.inl rfl
    · split
      · exact Or.inr (Or.inl rfl)
      · split
        · exact Or.inr (Or.inr rfl)
        · rename_i h1 h2 h3 h4
          simp [h1, h2, h3, h4] at h

theorem add_stock {p : PlayerRes} {raw : Nat} {amount : UInt32}
    (hreal : Real raw)
    (hbound : ledgerStock every p + amount.toNat < 2 ^ 32) :
    ledgerStock counts (p.add (rawToResourceType raw) amount) =
        ledgerStock counts p + share counts raw amount.toNat ∧
      p.addingWraps (rawToResourceType raw) amount = false := by
  rw [ledgerStock_every] at hbound
  unfold ledgerStock share PlayerRes.add PlayerRes.addingWraps
  rcases resourceType_cases hreal with htype | htype | htype
  · rw [htype]
    have hadd := toNat_add_of_lt (a := p.food) (b := amount) (by lia)
    simp only [if_true, addWraps_eq_false, hadd]
    constructor
    · cases counts kResFood with
      | false => simp
      | true =>
          simp only [if_true]
          lia
    · lia
  · rw [htype]
    have hadd := toNat_add_of_lt (a := p.wood) (b := amount) (by lia)
    simp only [show kResWood ≠ kResFood by decide, if_true, if_false,
      addWraps_eq_false, hadd]
    constructor
    · cases counts kResWood with
      | false => simp
      | true =>
          simp only [if_true]
          lia
    · lia
  · rw [htype]
    have hadd := toNat_add_of_lt (a := p.gold) (b := amount) (by lia)
    simp only [show kResGold ≠ kResFood by decide,
      show kResGold ≠ kResWood by decide, if_true, if_false,
      addWraps_eq_false, hadd]
    constructor
    · cases counts kResGold with
      | false => simp
      | true =>
          simp only [if_true]
          lia
    · lia

/-- Adding nothing changes nothing, whatever the type. -/
theorem add_nothing {p : PlayerRes} {raw : Nat} {amount : UInt32}
    (hzero : amount.toNat = 0) :
    ledgerStock counts (p.add (rawToResourceType raw) amount) =
        ledgerStock counts p + share counts raw amount.toNat ∧
      p.addingWraps (rawToResourceType raw) amount = false := by
  have hamount : amount = 0 := UInt32.toNat_inj.mp hzero
  have hword : forall a : UInt32, addWraps a 0 = false := by
    intro a
    rw [addWraps_eq_false]
    exact a.toNat_lt
  subst hamount
  rw [hzero, share_zero]
  unfold PlayerRes.add PlayerRes.addingWraps
  constructor
  · repeat' split
    all_goals simp
  · repeat' split
    all_goals first | exact hword _ | rfl

end Arithmetic

/-!
## Invariants of the accounting
-/

/--
Backpacks are not overfull, fields and drops are not empty, everything has a
real type, no word operation has wrapped, and the total fits into a word.
-/
structure Stocked (r : DungeonRoom F) : Prop where
  keyed : Keyed r
  units : r.units.AllAt fun _ u => u.carriedAmount.toNat ≤ 10 ∧
    (u.carriedAmount.toNat = 0 ∨ Real u.carriedRaw)
  fields : r.fields.AllAt fun _ f => 0 < f.amountLeft.toNat ∧ Real f.raw
  drops : r.drops.AllAt fun _ d => 0 < d.amount.toNat ∧ Real d.raw
  unwrapped : r.wrapped = false
  bounded : stock every r < 2 ^ 32

/-- Whoever owns a unit or a building has a ledger. -/
structure Owned (r : DungeonRoom F) : Prop where
  units : r.units.AllAt fun _ u => u.ownerUid ∈ r.playerRes
  buildings : r.buildings.AllAt fun _ b => b.ownerUid ∈ r.playerRes

/--
A worker's load counts like the field or drop that the next effect mixes it
with.
-/
structure Matched (counts : Nat -> Bool)
    (keep : DungeonRoom F -> GameUnit F -> GameUnit F -> Prop)
    (r : DungeonRoom F) : Prop where
  gathering : forall id u v field, r.units.lookup id = some u ->
    u.task = WorkerTask.gathering -> u.carriedAmount < kVillagerCarryCapacity ->
    r.fields.lookup u.gatherFieldId = some field -> keep r u v ->
    v.carriedRaw = field.raw -> u.carriedAmount.toNat = 0 ∨
      counts (rawToResourceType u.carriedRaw) =
        counts (rawToResourceType field.raw)
  pickup : forall id u v drop, r.units.lookup id = some u ->
    u.task = WorkerTask.pickup ->
    r.drops.lookup u.pickupDropId = some drop -> keep r u v ->
    v.carriedRaw = drop.raw -> u.carriedAmount.toNat = 0 ∨
      counts (rawToResourceType u.carriedRaw) =
        counts (rawToResourceType drop.raw)

omit [Scalar F] in
theorem matched_every
    (keep : DungeonRoom F -> GameUnit F -> GameUnit F -> Prop)
    (r : DungeonRoom F) : Matched every keep r := by
  constructor
  · intro _ _ _ _ _ _ _ _ _ _
    exact Or.inr rfl
  · intro _ _ _ _ _ _ _ _ _
    exact Or.inr rfl

omit [Scalar F] in
/-- A ledger and a load are different parts of the stock. -/
theorem ledger_add_load_le {r : DungeonRoom F} {uid id : Nat} {res : PlayerRes}
    {u : GameUnit F} (hres : r.playerRes.lookup uid = some res)
    (hu : r.units.lookup id = some u) :
    ledgerStock every res + u.carriedAmount.toNat ≤ stock every r := by
  have hledger := Table.le_total (f := ledgerStock every) hres
  have hload := Table.le_total (f := loadStock every) hu
  have heq : loadStock every u = u.carriedAmount.toNat := rfl
  unfold stock
  lia

omit [Scalar F] in
/-- What a unit takes from a drop, in natural numbers. -/
theorem takeAmount_spec {u : GameUnit F} (hu : u.carriedAmount.toNat ≤ 10)
    (drop : ResourceDropEntity F) :
    (takeAmount u drop).toNat = min (10 - u.carriedAmount.toNat) drop.amount.toNat ∧
      (u.carriedAmount + takeAmount u drop).toNat =
        u.carriedAmount.toNat + (takeAmount u drop).toNat ∧
      (drop.amount - takeAmount u drop).toNat =
        drop.amount.toNat - (takeAmount u drop).toNat ∧
      takeWraps u drop = false := by
  have htake : (takeAmount u drop).toNat =
      min (10 - u.carriedAmount.toNat) drop.amount.toNat := by
    unfold takeAmount
    rw [toNat_min_word, toNat_sub_of_toNat_le (by exact hu)]
    rfl
  have hsmall : u.carriedAmount.toNat + (takeAmount u drop).toNat < 2 ^ 32 := by
    lia
  have hle : (takeAmount u drop).toNat ≤ drop.amount.toNat := by
    lia
  refine ⟨htake, toNat_add_of_lt hsmall, toNat_sub_of_toNat_le hle, ?_⟩
  unfold takeWraps
  rw [subWraps_eq_false.mpr (by exact hu), addWraps_eq_false.mpr hsmall,
    subWraps_eq_false.mpr hle]
  rfl

omit [Scalar F] in
/-- A deposit into a ledger adds the load, without a wrap. -/
theorem deposit_spec (counts : Nat -> Bool) {r : DungeonRoom F}
    (hr : Stocked r) {id : Nat} {u : GameUnit F} {res : PlayerRes}
    (hu : r.units.lookup id = some u)
    (hres : r.playerRes.lookup u.ownerUid = some res) :
    ledgerStock counts
        (res.add (rawToResourceType u.carriedRaw) u.carriedAmount) =
          ledgerStock counts res +
            share counts u.carriedRaw u.carriedAmount.toNat ∧
      res.addingWraps (rawToResourceType u.carriedRaw) u.carriedAmount = false := by
  have hle := ledger_add_load_le hres hu
  have hbound := hr.bounded
  rcases (hr.units id u hu).2 with hzero | hreal
  · exact add_nothing hzero
  · exact add_stock hreal (by lia)

/-!
## Effects balance
-/

omit [Scalar F] in
theorem loadStock_congr {counts : Nat -> Bool} {u v : GameUnit F}
    (h : SameLoad u v) : loadStock counts v = loadStock counts u := by
  unfold loadStock
  rw [h.amount, h.raw]

omit [Scalar F] in
theorem loadStock_empty (counts : Nat -> Bool) {u : GameUnit F}
    (h : u.carriedAmount = 0) : loadStock counts u = 0 := by
  unfold loadStock
  rw [h]
  exact share_zero counts u.carriedRaw

section Balance

variable {counts : Nat -> Bool} {r : DungeonRoom F} {id : Nat} {u v : GameUnit F}

omit [Scalar F] in
theorem stock_sameLoad (hu : r.units.lookup id = some u) (hload : SameLoad u v) :
    stock counts (r.commit id v) = stock counts r := by
  have hput := stock_commit counts v hu
  rw [loadStock_congr hload] at hput
  lia

omit [Scalar F] in
/-- What a worker drops lies on the ground. -/
theorem stock_dropLoad (hr : Keyed r) (hu : r.units.lookup id = some u)
    (hzero : v.carriedAmount = 0) :
    stock counts ((r.spawnResourceDrop u.carriedRaw u.pos u.carriedAmount).commit id v) =
      stock counts r := by
  have hdrop := stock_spawnResourceDrop counts hr u.carriedRaw u.pos u.carriedAmount
  have hput := stock_commit counts
    (r := r.spawnResourceDrop u.carriedRaw u.pos u.carriedAmount) v hu
  rw [loadStock_empty counts hzero] at hput
  have hload : loadStock counts u = share counts u.carriedRaw u.carriedAmount.toNat := rfl
  lia

omit [Scalar F] in
/-- What a worker harvests is no longer in the field. -/
theorem stock_harvest {fieldId : Nat} {field : ResourceFieldEntity F} {left : UInt32}
    (hu : r.units.lookup id = some u) (hf : r.fields.lookup fieldId = some field)
    (hraw : v.carriedRaw = field.raw)
    (hsum : v.carriedAmount.toNat + left.toNat =
      u.carriedAmount.toNat + field.amountLeft.toNat)
    (hmatch : u.carriedAmount.toNat = 0 ∨
      counts (rawToResourceType u.carriedRaw) = counts (rawToResourceType field.raw)) :
    stock counts ((r.settleField fieldId field left).commit id v) = stock counts r := by
  have hfield := stock_settleField counts left hf
  have hu' : (r.settleField fieldId field left).units.lookup id = some u := by
    simpa using hu
  have hput := stock_commit counts v hu'
  have hmerge := share_merge counts hsum hmatch
  have hv : loadStock counts v = share counts field.raw v.carriedAmount.toNat := by
    unfold loadStock
    rw [hraw]
  have hload : loadStock counts u = share counts u.carriedRaw u.carriedAmount.toNat := rfl
  have hsite : fieldStock counts field =
      share counts field.raw field.amountLeft.toNat := rfl
  lia

omit [Scalar F] in
/-- What a worker stores is in the ledger of its owner. -/
theorem stock_credit {res : PlayerRes} (hr : Stocked r) (hu : r.units.lookup id = some u)
    (hres : r.playerRes.lookup u.ownerUid = some res) (hzero : v.carriedAmount = 0) :
    stock counts ((r.deposit u).commit id v) = stock counts r := by
  have hu' : (r.deposit u).units.lookup id = some u := by
    rw [deposit_eq hres]
    exact hu
  have hput := stock_commit counts v hu'
  rw [loadStock_empty counts hzero] at hput
  have hledger := stock_writeLedger counts
    (res.add (rawToResourceType u.carriedRaw) u.carriedAmount) hres
  have hdeposit : stock counts (r.deposit u) =
      stock counts { r with
        playerRes := r.playerRes.insert u.ownerUid
          (res.add (rawToResourceType u.carriedRaw) u.carriedAmount) } := by
    rw [deposit_eq hres]
    rfl
  have hload : loadStock counts u = share counts u.carriedRaw u.carriedAmount.toNat := rfl
  have hadd : ledgerStock counts (res.add (rawToResourceType u.carriedRaw) u.carriedAmount) =
      ledgerStock counts res + share counts u.carriedRaw u.carriedAmount.toNat :=
    (deposit_spec counts hr hu hres).1
  lia

omit [Scalar F] in
/-- What a worker picks up no longer lies on the ground. -/
theorem stock_take {dropId : Nat} {drop : ResourceDropEntity F}
    (hcap : u.carriedAmount.toNat ≤ 10) (hu : r.units.lookup id = some u)
    (hd : r.drops.lookup dropId = some drop) (hraw : v.carriedRaw = drop.raw)
    (hamount : v.carriedAmount = u.carriedAmount + takeAmount u drop)
    (hmatch : u.carriedAmount.toNat = 0 ∨
      counts (rawToResourceType u.carriedRaw) = counts (rawToResourceType drop.raw)) :
    stock counts ((r.settleDrop dropId drop (drop.amount - takeAmount u drop)).commit id v) =
      stock counts r := by
  rcases takeAmount_spec hcap drop with ⟨htake, hadd, hsub, _⟩
  have hdrop := stock_settleDrop counts (drop.amount - takeAmount u drop) hd
  have hu' : (r.settleDrop dropId drop
      (drop.amount - takeAmount u drop)).units.lookup id = some u := by
    simpa using hu
  have hput := stock_commit counts v hu'
  have hmerge := share_merge counts
    (x := v.carriedAmount.toNat) (y := (drop.amount - takeAmount u drop).toNat)
    (a := u.carriedAmount.toNat) (b := drop.amount.toNat)
    (by rw [hamount]; lia) hmatch
  have hv : loadStock counts v = share counts drop.raw v.carriedAmount.toNat := by
    unfold loadStock
    rw [hraw]
  have hload : loadStock counts u = share counts u.carriedRaw u.carriedAmount.toNat := rfl
  have hsite : dropStock counts drop = share counts drop.raw drop.amount.toNat := rfl
  lia

omit [Scalar F] in
/-- What is paid is no longer in the ledger. -/
theorem stock_pay {uid : Nat} {res : PlayerRes} {cost : ResCost}
    (hres : r.playerRes.lookup uid = some res) (hafford : res.canAfford cost = true) :
    stock counts { r with playerRes := r.playerRes.insert uid (res.pay cost) } +
      costStock counts cost = stock counts r := by
  have hledger := stock_writeLedger counts (res.pay cost) hres
  have hpay := pay_stock counts hafford
  lia

end Balance

/--
An effect takes a definite amount out of the stock; if everything counts and
all owners have ledgers, it is exactly what the effect announces.
-/
theorem Effect.balance
    {keep : DungeonRoom F -> GameUnit F -> GameUnit F -> Prop}
    {counts : Nat -> Bool} {r s : DungeonRoom F} {out : List Nat}
    (hr : Stocked r) (hmatch : Matched counts keep r)
    (heff : Effect keep r out s) :
    exists spent, stock counts s + spent = stock counts r ∧
      (counts = every -> Owned r -> spent = out.sum) := by
  cases heff with
  | @cool id u cd hu =>
      have hsame : SameLoad u { u with attackCd := cd } := ⟨rfl, rfl⟩
      exact ⟨0, stock_sameLoad hu hsame, fun _ _ => rfl⟩
  | redirect hu _ hload _ => exact ⟨0, stock_sameLoad hu hload, fun _ _ => rfl⟩
  | dropLoad hu _ _ _ hzero _ =>
      exact ⟨0, stock_dropLoad hr.keyed hu hzero, fun _ _ => rfl⟩
  | @harvest id fieldId u v field left hu _ hk htask hid hspace hf hraw _ _ hsum =>
      have hsort := hmatch.gathering id u v field hu htask hspace (by rw [hid]; exact hf) hk
        hraw
      exact ⟨0, stock_harvest hu hf hraw hsum hsort, fun _ _ => rfl⟩
  | credit hu _ _ hres hzero _ => exact ⟨0, stock_credit hr hu hres hzero, fun _ _ => rfl⟩
  | @forfeit id u v hu _ _ hnone hzero _ =>
      have hput := stock_commit counts v hu
      rw [loadStock_empty counts hzero] at hput
      refine ⟨loadStock counts u, by lia, ?_⟩
      intro _ howned
      have hmem := howned.units id u hu
      exact absurd hmem (AList.lookup_eq_none.mp hnone)
  | @take id dropId u v drop hu _ hk htask hid hd hraw hamount =>
      have hsort := hmatch.pickup id u v drop hu htask (by rw [hid]; exact hd) hk hraw
      exact ⟨0, stock_take (hr.units id u hu).1 hu hd hraw hamount hsort, fun _ _ => rfl⟩
  | @strikeUnit id targetId u v target hu _ hload _ ht hteam _ =>
      have hhit : SameLoad target (hitUnit target) := ⟨rfl, rfl⟩
      have hstruck : stock counts (r.commit targetId (hitUnit target)) = stock counts r :=
        stock_sameLoad ht hhit
      have hlook := strike_lookup (w := hitUnit target) hu ht hteam
      exact ⟨0, (stock_sameLoad hlook hload).trans hstruck, fun _ _ => rfl⟩
  | strikeBuilding hu _ hload _ _ _ _ => exact ⟨0, stock_sameLoad hu hload, fun _ _ => rfl⟩
  | construct _ hu _ hload _ _ _ => exact ⟨0, stock_sameLoad hu hload, fun _ _ => rfl⟩
  | train queue _ => exact ⟨0, rfl, fun _ _ => rfl⟩
  | @graduate id b unitType queue _ =>
      exact ⟨0, stock_spawnTrained counts hr.keyed b unitType, fun _ _ => rfl⟩
  | buyBuilding buildingType _ _ hres _ hafford =>
      refine ⟨_, stock_pay hres hafford, ?_⟩
      intro hevery _
      rw [hevery, costStock_every]
      simp
  | buyTraining cost _ hres _ hafford =>
      refine ⟨_, stock_pay hres hafford, ?_⟩
      intro hevery _
      rw [hevery, costStock_every]
      simp
  | refuse cmd code => exact ⟨0, rfl, fun _ _ => rfl⟩
  | @buryUnit id u hu _ =>
      have herase := Table.total_erase (f := loadStock counts) hu
      refine ⟨loadStock counts u, ?_, ?_⟩
      · unfold stock
        dsimp only
        lia
      · intro hevery _
        rw [hevery]
        simp [loadStock]
  | buryBuilding _ _ => exact ⟨0, rfl, fun _ _ => rfl⟩
  | scanTick n => exact ⟨0, rfl, fun _ _ => rfl⟩
  | forgetPending => exact ⟨0, rfl, fun _ _ => rfl⟩

/-!
## Effects keep the invariants
-/

/-- The stock bound after an effect. -/
theorem Effect.bounded
    {keep : DungeonRoom F -> GameUnit F -> GameUnit F -> Prop}
    {r s : DungeonRoom F} {out : List Nat} (hr : Stocked r)
    (heff : Effect keep r out s) : stock every s < 2 ^ 32 := by
  rcases heff.balance hr (matched_every keep r) with ⟨spent, hsum, _⟩
  have hbound := hr.bounded
  lia

omit [Scalar F] in
theorem settleField_fields {r : DungeonRoom F} {P : Nat -> ResourceFieldEntity F -> Prop}
    (h : r.fields.AllAt P) {fieldId : Nat} {field : ResourceFieldEntity F}
    {left : UInt32} (hleft : left ≠ 0 ->
      P fieldId { field with amountLeft := left }) :
    (r.settleField fieldId field left).fields.AllAt P := by
  unfold settleField
  split
  · exact h.erase fieldId
  · rename_i hne
    exact h.insert (hleft hne)

omit [Scalar F] in
theorem settleDrop_drops {r : DungeonRoom F} {P : Nat -> ResourceDropEntity F -> Prop}
    (h : r.drops.AllAt P) {dropId : Nat} {drop : ResourceDropEntity F}
    {amount : UInt32} (hamount : amount ≠ 0 ->
      P dropId { drop with amount := amount }) :
    (r.settleDrop dropId drop amount).drops.AllAt P := by
  unfold settleDrop
  split
  · exact h.erase dropId
  · rename_i hne
    exact h.insert (hamount hne)

omit [Scalar F] in
/-- The parts of a room that a harvest leaves alone. -/
theorem settleField_frame (r : DungeonRoom F) (fieldId : Nat)
    (field : ResourceFieldEntity F) (left : UInt32) :
    (r.settleField fieldId field left).buildings = r.buildings ∧
      (r.settleField fieldId field left).drops = r.drops ∧
      (r.settleField fieldId field left).playerRes = r.playerRes ∧
      (r.settleField fieldId field left).players = r.players ∧
      (r.settleField fieldId field left).nextEntityId = r.nextEntityId ∧
      (r.settleField fieldId field left).wrapped = r.wrapped := by
  unfold settleField
  split <;> exact ⟨rfl, rfl, rfl, rfl, rfl, rfl⟩

omit [Scalar F] in
/-- The parts of a room that a pickup leaves alone. -/
theorem settleDrop_frame (r : DungeonRoom F) (dropId : Nat)
    (drop : ResourceDropEntity F) (amount : UInt32) :
    (r.settleDrop dropId drop amount).buildings = r.buildings ∧
      (r.settleDrop dropId drop amount).fields = r.fields ∧
      (r.settleDrop dropId drop amount).playerRes = r.playerRes ∧
      (r.settleDrop dropId drop amount).players = r.players ∧
      (r.settleDrop dropId drop amount).nextEntityId = r.nextEntityId ∧
      (r.settleDrop dropId drop amount).wrapped = r.wrapped := by
  unfold settleDrop
  split <;> exact ⟨rfl, rfl, rfl, rfl, rfl, rfl⟩

omit [Scalar F] in
theorem payFrom_unwrapped {r : DungeonRoom F} (hr : r.wrapped = false)
    {res : PlayerRes} {cost : ResCost} (hafford : res.canAfford cost = true)
    (uid : Nat) : (r.payFrom uid res cost).wrapped = false := by
  have hwrapped : (r.payFrom uid res cost).wrapped =
      (r.wrapped || res.payWraps cost) := rfl
  rw [hwrapped, hr, payWraps_of_canAfford hafford]
  rfl

omit [Scalar F] in
theorem deposit_unwrapped {r : DungeonRoom F} (hr : Stocked r) {id : Nat}
    {u : GameUnit F} {res : PlayerRes} (hu : r.units.lookup id = some u)
    (hres : r.playerRes.lookup u.ownerUid = some res) :
    (r.deposit u).wrapped = false := by
  have hwrapped : (r.deposit u).wrapped = (r.wrapped ||
      res.addingWraps (rawToResourceType u.carriedRaw) u.carriedAmount) := by
    rw [deposit_eq hres]
    rfl
  rw [hwrapped, hr.unwrapped, (deposit_spec every hr hu hres).2]
  rfl

omit [Scalar F] in
/-- The parts of a room that a deposit leaves alone. -/
theorem deposit_frame (r : DungeonRoom F) (u : GameUnit F) :
    (r.deposit u).units = r.units ∧ (r.deposit u).buildings = r.buildings ∧
      (r.deposit u).fields = r.fields ∧ (r.deposit u).drops = r.drops ∧
      (r.deposit u).players = r.players ∧
      (r.deposit u).nextEntityId = r.nextEntityId := by
  unfold deposit
  split <;> exact ⟨rfl, rfl, rfl, rfl, rfl, rfl⟩

section Loads

variable {r : DungeonRoom F} {id : Nat} {u v : GameUnit F}

omit [Scalar F] in
/-- The loads stay as they are. -/
theorem Stocked.units_sameLoad (hr : Stocked r) (hu : r.units.lookup id = some u)
    (hload : SameLoad u v) :
    Table.AllAt (fun _ w => w.carriedAmount.toNat ≤ 10 ∧
      (w.carriedAmount.toNat = 0 ∨ Real w.carriedRaw)) (r.units.insert id v) := by
  apply hr.units.insert
  rw [hload.amount, hload.raw]
  exact hr.units id u hu

omit [Scalar F] in
/-- A worker has got rid of its load. -/
theorem Stocked.units_unloaded (hr : Stocked r) (hzero : v.carriedAmount = 0) :
    Table.AllAt (fun _ w => w.carriedAmount.toNat ≤ 10 ∧
      (w.carriedAmount.toNat = 0 ∨ Real w.carriedRaw)) (r.units.insert id v) := by
  apply hr.units.insert
  rw [hzero]
  exact ⟨Nat.zero_le 10, Or.inl rfl⟩

omit [Scalar F] in
theorem Stocked.harvested {fieldId : Nat} {field : ResourceFieldEntity F} {left : UInt32}
    (hr : Stocked r) (hf : r.fields.lookup fieldId = some field)
    (hraw : v.carriedRaw = field.raw) (hcap : v.carriedAmount.toNat ≤ 10)
    (hkeyed : Keyed ((r.settleField fieldId field left).commit id v))
    (hbounded : stock every ((r.settleField fieldId field left).commit id v) < 2 ^ 32) :
    Stocked ((r.settleField fieldId field left).commit id v) := by
  rcases settleField_frame r fieldId field left with ⟨_, hdrops, _, _, _, hwrapped⟩
  have hreal := (hr.fields fieldId field hf).2
  refine ⟨hkeyed, ?_, ?_, ?_, hwrapped.trans hr.unwrapped, hbounded⟩
  · change Table.AllAt _ ((r.settleField fieldId field left).units.insert id v)
    rw [settleField_units]
    apply hr.units.insert
    rw [hraw]
    exact ⟨hcap, Or.inr hreal⟩
  · refine settleField_fields (r := r) hr.fields ?_
    intro hne
    exact ⟨toNat_pos_iff.mpr hne, hreal⟩
  · change Table.AllAt _ (r.settleField fieldId field left).drops
    rw [hdrops]
    exact hr.drops

omit [Scalar F] in
theorem Stocked.credited {res : PlayerRes} (hr : Stocked r) (hu : r.units.lookup id = some u)
    (hres : r.playerRes.lookup u.ownerUid = some res) (hzero : v.carriedAmount = 0)
    (hkeyed : Keyed ((r.deposit u).commit id v))
    (hbounded : stock every ((r.deposit u).commit id v) < 2 ^ 32) :
    Stocked ((r.deposit u).commit id v) := by
  rcases deposit_frame r u with ⟨hunits, _, hfields, hdrops, _, _⟩
  refine ⟨hkeyed, ?_, ?_, ?_, deposit_unwrapped hr hu hres, hbounded⟩
  · change Table.AllAt _ ((r.deposit u).units.insert id v)
    rw [hunits]
    exact hr.units_unloaded hzero
  · change Table.AllAt _ (r.deposit u).fields
    rw [hfields]
    exact hr.fields
  · change Table.AllAt _ (r.deposit u).drops
    rw [hdrops]
    exact hr.drops

omit [Scalar F] in
theorem Stocked.taken {dropId : Nat} {drop : ResourceDropEntity F} {left : UInt32}
    (hr : Stocked r) (hd : r.drops.lookup dropId = some drop)
    (hraw : v.carriedRaw = drop.raw) (hcap : v.carriedAmount.toNat ≤ 10)
    (hkeyed : Keyed ((r.settleDrop dropId drop left).commit id v))
    (hbounded : stock every ((r.settleDrop dropId drop left).commit id v) < 2 ^ 32) :
    Stocked ((r.settleDrop dropId drop left).commit id v) := by
  rcases settleDrop_frame r dropId drop left with ⟨_, hfields, _, _, _, hwrapped⟩
  have hreal := (hr.drops dropId drop hd).2
  refine ⟨hkeyed, ?_, ?_, ?_, hwrapped.trans hr.unwrapped, hbounded⟩
  · change Table.AllAt _ ((r.settleDrop dropId drop left).units.insert id v)
    rw [settleDrop_units]
    apply hr.units.insert
    rw [hraw]
    exact ⟨hcap, Or.inr hreal⟩
  · change Table.AllAt _ (r.settleDrop dropId drop left).fields
    rw [hfields]
    exact hr.fields
  · refine settleDrop_drops (r := r) hr.drops ?_
    intro hne
    exact ⟨toNat_pos_iff.mpr hne, hreal⟩

end Loads

theorem Effect.stocked
    {keep : DungeonRoom F -> GameUnit F -> GameUnit F -> Prop}
    {r s : DungeonRoom F} {out : List Nat} (hr : Stocked r)
    (heff : Effect keep r out s) : Stocked s := by
  have hkeyed := heff.keyed hr.keyed
  have hbounded := heff.bounded hr
  cases heff with
  | @cool id u cd hu =>
      exact ⟨hkeyed, hr.units.insert (hr.units id u hu), hr.fields, hr.drops,
        hr.unwrapped, hbounded⟩
  | redirect hu _ hload _ =>
      exact ⟨hkeyed, hr.units_sameLoad hu hload, hr.fields, hr.drops, hr.unwrapped, hbounded⟩
  | @dropLoad id u v hu _ _ hpos hzero _ =>
      have hload : 0 < u.carriedAmount.toNat := hpos
      refine ⟨hkeyed, hr.units_unloaded hzero, hr.fields, hr.drops.insert ?_,
        hr.unwrapped, hbounded⟩
      rcases (hr.units id u hu).2 with hnone | hreal
      · lia
      · exact ⟨hload, hreal⟩
  | harvest _ _ _ _ _ _ hf hraw hcap _ _ => exact hr.harvested hf hraw hcap hkeyed hbounded
  | credit hu _ _ hres hzero _ => exact hr.credited hu hres hzero hkeyed hbounded
  | forfeit _ _ _ _ hzero _ =>
      exact ⟨hkeyed, hr.units_unloaded hzero, hr.fields, hr.drops, hr.unwrapped, hbounded⟩
  | @take id dropId u v drop hu _ _ _ _ hd hraw hamount =>
      rcases takeAmount_spec (hr.units id u hu).1 drop with ⟨htake, hadd, _, hwraps⟩
      have hcap := (hr.units id u hu).1
      have hload : v.carriedAmount.toNat ≤ 10 := by
        rw [hamount]
        lia
      rw [hwraps, noteWrap_false] at hkeyed hbounded ⊢
      exact hr.taken hd hraw hload hkeyed hbounded
  | @strikeUnit id targetId u v target hu _ hload _ ht _ _ =>
      have hhit : Table.AllAt _ (r.units.insert targetId (hitUnit target)) :=
        hr.units.insert (hr.units targetId target ht)
      refine ⟨hkeyed, hhit.insert ?_, hr.fields, hr.drops, hr.unwrapped, hbounded⟩
      rw [hload.amount, hload.raw]
      exact hr.units id u hu
  | strikeBuilding hu _ hload _ _ _ _ =>
      exact ⟨hkeyed, hr.units_sameLoad hu hload, hr.fields, hr.drops, hr.unwrapped, hbounded⟩
  | construct _ hu _ hload _ _ _ =>
      exact ⟨hkeyed, hr.units_sameLoad hu hload, hr.fields, hr.drops, hr.unwrapped, hbounded⟩
  | train queue _ =>
      exact ⟨hkeyed, hr.units, hr.fields, hr.drops, hr.unwrapped, hbounded⟩
  | graduate unitType queue _ =>
      exact ⟨hkeyed, hr.units_unloaded rfl, hr.fields, hr.drops, hr.unwrapped, hbounded⟩
  | @buyBuilding uid res buildingType pos yaw _ _ hafford =>
      exact ⟨hkeyed, hr.units, hr.fields, hr.drops,
        payFrom_unwrapped hr.unwrapped hafford uid, hbounded⟩
  | @buyTraining uid id res b cost queue _ _ hafford =>
      exact ⟨hkeyed, hr.units, hr.fields, hr.drops,
        payFrom_unwrapped hr.unwrapped hafford uid, hbounded⟩
  | refuse cmd code =>
      exact ⟨hkeyed, hr.units, hr.fields, hr.drops, hr.unwrapped, hbounded⟩
  | @buryUnit id u _ _ =>
      exact ⟨hkeyed, hr.units.erase id, hr.fields, hr.drops, hr.unwrapped, hbounded⟩
  | buryBuilding _ _ =>
      exact ⟨hkeyed, hr.units, hr.fields, hr.drops, hr.unwrapped, hbounded⟩
  | scanTick n =>
      exact ⟨hkeyed, hr.units, hr.fields, hr.drops, hr.unwrapped, hbounded⟩
  | forgetPending =>
      exact ⟨hkeyed, hr.units, hr.fields, hr.drops, hr.unwrapped, hbounded⟩

omit [Scalar F] in
theorem Owned.putUnit {r : DungeonRoom F} (h : Owned r) {id : Nat}
    {u v : GameUnit F} (hu : r.units.lookup id = some u) (hbody : SameBody u v) :
    Owned (r.putUnit id v) := by
  refine ⟨h.units.insert ?_, h.buildings⟩
  rw [hbody.ownerUid]
  exact h.units id u hu

theorem Owned.hitUnit {r : DungeonRoom F} (h : Owned r) {id : Nat}
    {target : GameUnit F} (ht : r.units.lookup id = some target) :
    Owned (r.putUnit id (hitUnit target)) :=
  ⟨h.units.insert (h.units id target ht), h.buildings⟩

omit [Scalar F] in
theorem Owned.putBuilding {r : DungeonRoom F} (h : Owned r) {id : Nat}
    {b c : Building F} (hb : r.buildings.lookup id = some b)
    (howner : c.ownerUid = b.ownerUid) : Owned (r.putBuilding id c) := by
  refine ⟨h.units, h.buildings.insert ?_⟩
  rw [howner]
  exact h.buildings id b hb

omit [Scalar F] in
theorem Owned.congr {r s : DungeonRoom F} (h : Owned r)
    (hunits : s.units = r.units) (hbuildings : s.buildings = r.buildings)
    (hres : forall uid, uid ∈ r.playerRes -> uid ∈ s.playerRes) : Owned s := by
  constructor
  · rw [hunits]
    exact h.units.mono fun _ u hu => hres u.ownerUid hu
  · rw [hbuildings]
    exact h.buildings.mono fun _ b hb => hres b.ownerUid hb

omit [Scalar F] in
theorem Owned.writeLedger {r : DungeonRoom F} (h : Owned r) (uid : Nat)
    (res : PlayerRes) :
    Owned { r with playerRes := r.playerRes.insert uid res } := by
  refine h.congr rfl rfl ?_
  intro other hother
  exact (AList.mem_insert r.playerRes).mpr (Or.inr hother)

theorem Effect.owned
    {keep : DungeonRoom F -> GameUnit F -> GameUnit F -> Prop}
    {r s : DungeonRoom F} {out : List Nat} (h : Owned r)
    (heff : Effect keep r out s) : Owned s := by
  cases heff with
  | cool cd hu => exact h.putUnit hu ⟨rfl, rfl, rfl, rfl, rfl⟩
  | redirect hu hbody _ _ =>
      exact (h.putUnit hu hbody).congr rfl rfl fun _ hmem => hmem
  | dropLoad hu hbody _ _ _ _ =>
      exact (h.putUnit hu hbody).congr rfl rfl fun _ hmem => hmem
  | @harvest id fieldId u v field left hu hbody _ _ _ _ _ _ _ _ _ =>
      rcases settleField_frame r fieldId field left with
        ⟨hbuildings, _, hres, _, _, _⟩
      have hsettled : Owned (r.settleField fieldId field left) :=
        h.congr (settleField_units r fieldId field left) hbuildings
          fun _ hmem => by rw [hres]; exact hmem
      exact (hsettled.putUnit (by simpa using hu) hbody).congr rfl rfl
        fun _ hmem => hmem
  | @credit id u v res hu hbody _ hres _ _ =>
      rw [deposit_eq hres]
      have hledger := h.writeLedger u.ownerUid
        (res.add (rawToResourceType u.carriedRaw) u.carriedAmount)
      exact (hledger.putUnit hu hbody).congr rfl rfl fun _ hmem => hmem
  | forfeit hu hbody _ _ _ _ =>
      exact (h.putUnit hu hbody).congr rfl rfl fun _ hmem => hmem
  | @take id dropId u v drop hu hbody _ _ _ _ _ _ =>
      rcases settleDrop_frame r dropId drop (drop.amount - takeAmount u drop) with
        ⟨hbuildings, _, hres, _, _, _⟩
      have hsettled : Owned (r.settleDrop dropId drop
          (drop.amount - takeAmount u drop)) :=
        h.congr (settleDrop_units r dropId drop _) hbuildings
          fun _ hmem => by rw [hres]; exact hmem
      have hlookup : (r.settleDrop dropId drop
          (drop.amount - takeAmount u drop)).units.lookup id = some u := by
        simpa using hu
      generalize r.settleDrop dropId drop (drop.amount - takeAmount u drop) = t
        at hsettled hlookup ⊢
      exact (hsettled.putUnit hlookup hbody).congr rfl rfl fun _ hmem => hmem
  | @strikeUnit id targetId u v target hu hbody _ _ ht hteam _ =>
      have hhit := h.hitUnit ht
      exact (hhit.putUnit (strike_lookup hu ht hteam) hbody).congr rfl rfl
        fun _ hmem => hmem
  | @strikeBuilding id targetId u v target hu hbody _ _ ht _ _ =>
      have hhit := h.putBuilding (c := hitBuilding target) ht rfl
      exact (hhit.putUnit hu hbody).congr rfl rfl fun _ hmem => hmem
  | @construct id buildingId u v b dt hu hbody _ _ hb _ =>
      have howner : (buildProgress b dt).ownerUid = b.ownerUid := by
        unfold buildProgress
        dsimp only
        split <;> rfl
      have hbuilt := h.putBuilding hb howner
      exact (hbuilt.putUnit hu hbody).congr rfl rfl fun _ hmem => hmem
  | @train id b queue hb =>
      exact (h.putBuilding (c := { b with trainQueue := queue }) hb rfl).congr
        rfl rfl fun _ hmem => hmem
  | @graduate id b unitType queue hb =>
      have hspawn : Owned (r.spawnTrained b unitType) :=
        ⟨h.units.insert (h.buildings id b hb), h.buildings⟩
      exact (hspawn.putBuilding (c := { b with trainQueue := queue }) hb rfl).congr
        rfl rfl fun _ hmem => hmem
  | @buyBuilding uid res buildingType pos yaw hres _ _ =>
      have hpaid := h.writeLedger uid (res.pay (buildingCost buildingType))
      have howner : uid ∈ r.playerRes.insert uid
          (res.pay (buildingCost buildingType)) :=
        (AList.mem_insert r.playerRes).mpr (Or.inl rfl)
      exact ⟨hpaid.units, hpaid.buildings.insert howner⟩
  | @buyTraining uid id res b cost queue hres hb _ =>
      have hpaid := h.writeLedger uid (res.pay cost)
      exact (hpaid.putBuilding (c := { b with trainQueue := queue }) hb rfl).congr
        rfl rfl fun _ hmem => hmem
  | refuse cmd code => exact h.congr rfl rfl fun _ hmem => hmem
  | @buryUnit id u _ _ => exact ⟨h.units.erase id, h.buildings⟩
  | @buryBuilding id b _ _ => exact ⟨h.units, h.buildings.erase id⟩
  | scanTick n => exact h.congr rfl rfl fun _ hmem => hmem
  | forgetPending => exact h.congr rfl rfl fun _ hmem => hmem

/-!
## Runs of effects
-/

theorem Effects.stocked
    {keep : DungeonRoom F -> GameUnit F -> GameUnit F -> Prop}
    {r s : DungeonRoom F} {out : List Nat} (hr : Stocked r)
    (heff : Effects keep r out s) : Stocked s :=
  heff.preserves Stocked (fun _ _ _ hr hmove => hmove.stocked hr) hr

theorem Effects.owned
    {keep : DungeonRoom F -> GameUnit F -> GameUnit F -> Prop}
    {r s : DungeonRoom F} {out : List Nat} (hr : Owned r)
    (heff : Effects keep r out s) : Owned s :=
  heff.preserves Owned (fun _ _ _ hr hmove => hmove.owned hr) hr

/-- A sequence of effects takes out of the room exactly what it announces. -/
theorem Effects.balance
    {keep : DungeonRoom F -> GameUnit F -> GameUnit F -> Prop}
    {r s : DungeonRoom F} {out : List Nat} (hr : Stocked r) (howned : Owned r)
    (heff : Effects keep r out s) : stock every s + out.sum = stock every r := by
  induction heff with
  | nil r =>
      simp
  | cons hmove _ ih =>
      rcases hmove.balance hr (matched_every _ _) with ⟨spent, hsum, hspent⟩
      have hfirst := hspent rfl howned
      have hrest := ih (hmove.stocked hr) (hmove.owned howned)
      rw [List.sum_append]
      lia

/-!
## Accounting of a tick
-/

/-- The sum of everything that lies in fields, drops, backpacks and ledgers. -/
def totalResources (r : DungeonRoom F) : Nat :=
  r.fields.total (fun f => f.amountLeft.toNat) +
    r.drops.total (fun d => d.amount.toNat) +
    r.units.total (fun u => u.carriedAmount.toNat) +
    r.playerRes.total (fun p => p.food.toNat + p.wood.toNat + p.gold.toNat)

omit [Scalar F] in
theorem stock_every (r : DungeonRoom F) : stock every r = totalResources r := rfl

/-- The loads of the units of the first room that the second no longer has. -/
def removedLoads (r s : DungeonRoom F) : Nat :=
  (r.units.entries.map fun e =>
    if e.1 ∈ s.units then 0 else e.2.carriedAmount.toNat).sum

/-- The removal of the dead removes the loads of the dead. -/
theorem removedLoads_removeDead (ω : IterOrder) (r : DungeonRoom F) :
    removedLoads r (removeDead ω r) = deadLoad r := by
  unfold removedLoads deadLoad Table.total
  congr 1
  apply List.map_congr_left
  intro e he
  have hlook := Table.lookup_of_mem_entries he
  have hafter : (removeDead ω r).units.lookup e.1 =
      (r.units.lookup e.1).filter fun v => !unitDead v := by
    rw [removeDead_eq]
    exact IterOrder.prune_visit_lookup ω unitDead r.units e.1
  rw [hlook] at hafter
  unfold deadLoadOf
  by_cases hhp : e.2.hp ≤ lit 0
  · have hgone : e.1 ∉ (removeDead ω r).units := by
      rw [← AList.lookup_eq_none, hafter]
      simp [unitDead, hhp]
    rw [if_neg hgone, if_pos hhp]
  · have hthere : e.1 ∈ (removeDead ω r).units := by
      apply Table.mem_of_lookup (v := e.2)
      rw [hafter]
      simp [unitDead, hhp]
    rw [if_pos hthere, if_neg hhp]

/-- The commands take their prices out of the room. -/
theorem applyPending_balance {r : DungeonRoom F} (hr : Stocked r)
    (howned : Owned r) :
    stock every r.applyPending + acceptedCosts r r.pending = stock every r := by
  rcases applyPending_effects hr.keyed (allJustified_any r r.pending) with
    ⟨paid, hcmds, hpaid⟩
  have hbalance := Effects.balance hr howned hcmds
  lia

/-- The step takes out of the room what the removed units carry. -/
theorem step_balance {r : DungeonRoom F} (hr : Stocked r) (howned : Owned r)
    (ω : IterOrder) (dt : F) :
    stock every (r.step ω dt) +
        removedLoads (r.stepAlive ω dt) (r.step ω dt) = stock every r := by
  rcases step_effects ω dt r with ⟨lost, hstep, hlost⟩
  have hbalance := Effects.balance hr howned hstep
  have hloads : removedLoads (r.stepAlive ω dt) (r.step ω dt) =
      deadLoad (r.stepAlive ω dt) :=
    removedLoads_removeDead ω (r.stepAlive ω dt)
  lia

end DungeonRoom

end RtsGame
