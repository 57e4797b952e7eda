import RtsGame.Server.NetworkShard

/-!
# Routes and generations

A route names a link by its slot and the generation of the slot.  A session is
bound once to a slot and a generation; while it is open it is the session of its
slot, and the slot keeps its generation until it is bound again.  Whatever is
read from the slot on behalf of an open session therefore belongs to that
session.

The session is checked for being closed when a header has been read, not when a
body has been read.  A body that was read before its session was closed is
handed over afterwards, and if the slot has been bound again in the meantime the
packet gets the generation of the next session.  The last result says that this
is the only way in which a route goes wrong.
-/

namespace RtsGame

namespace NetworkShard

variable {B P F : Type} {n n' : NetworkShard B P}

/-!
## Slots and the sessions bound to them
-/

/-- The slot of a session has been bound again. -/
def Reused (n : NetworkShard B P) (s : Nat) : Prop :=
  exists t, s < t ∧ t < n.sessionCount ∧
    (n.sessions t).slotId = (n.sessions s).slotId

structure Bound (n : NetworkShard B P) : Prop where
  slot_lt : forall s, s < n.sessionCount -> (n.sessions s).slotId < n.slotCount
  current : forall i s, (n.slots i).session = some s ->
    s < n.sessionCount ∧ (n.sessions s).slotId = i ∧
      (n.sessions s).generation = (n.slots i).generation ∧ IsOpen (n.sessions s)
  held : forall s, s < n.sessionCount -> IsOpen (n.sessions s) ->
    (n.slots (n.sessions s).slotId).session = some s
  free : forall i, (n.slots i).state = SlotState.empty ∨
    (n.slots i).state = SlotState.closed -> (n.slots i).session = none
  youngest : forall s, s < n.sessionCount -> ¬ Reused n s ->
    (n.sessions s).generation = (n.slots (n.sessions s).slotId).generation
  older : forall s, s < n.sessionCount -> Reused n s ->
    (n.sessions s).generation < (n.slots (n.sessions s).slotId).generation
  fresh : forall s, n.sessionCount ≤ s ->
    (n.sessions s).read = ReadPoint.returned ∧
      (n.sessions s).write = WritePoint.returned

/-- Sessions stay bound as they were. -/
structure Keeps (n n' : NetworkShard B P) : Prop where
  shardId : n'.shardId = n.shardId
  logicShardCount : n'.logicShardCount = n.logicShardCount
  count_le : n.sessionCount ≤ n'.sessionCount
  slotId : forall s, s < n.sessionCount ->
    (n'.sessions s).slotId = (n.sessions s).slotId
  generation : forall s, s < n.sessionCount ->
    (n'.sessions s).generation = (n.sessions s).generation

/-- What every operation does to bound sessions. -/
def Sound (n n' : NetworkShard B P) : Prop :=
  Bound n -> Bound n' ∧ Keeps n n'

theorem bound_create (shardId logicShardCount maxLinks : Nat) :
    Bound (create shardId logicShardCount maxLinks : NetworkShard B P) where
  slot_lt := fun s hs => absurd hs (Nat.not_lt_zero s)
  current := by
    intro i s h
    cases h
  held := fun s hs => absurd hs (Nat.not_lt_zero s)
  free := fun _ _ => rfl
  youngest := fun s hs => absurd hs (Nat.not_lt_zero s)
  older := fun s hs => absurd hs (Nat.not_lt_zero s)
  fresh := fun _ _ => ⟨rfl, rfl⟩

theorem Keeps.refl (n : NetworkShard B P) : Keeps n n :=
  ⟨rfl, rfl, Nat.le_refl _, fun _ _ => rfl, fun _ _ => rfl⟩

theorem Keeps.trans {n'' : NetworkShard B P} (h : Keeps n n')
    (h' : Keeps n' n'') : Keeps n n'' where
  shardId := h'.shardId.trans h.shardId
  logicShardCount := h'.logicShardCount.trans h.logicShardCount
  count_le := Nat.le_trans h.count_le h'.count_le
  slotId := by
    intro s hs
    rw [h'.slotId s (Nat.lt_of_lt_of_le hs h.count_le), h.slotId s hs]
  generation := by
    intro s hs
    rw [h'.generation s (Nat.lt_of_lt_of_le hs h.count_le), h.generation s hs]

theorem Sound.refl (n : NetworkShard B P) : Sound n n :=
  fun h => ⟨h, Keeps.refl n⟩

theorem Sound.trans {n'' : NetworkShard B P} (h : Sound n n')
    (h' : Sound n' n'') : Sound n n'' := by
  intro hn
  have hfirst := h hn
  have hsecond := h' hfirst.left
  exact ⟨hsecond.left, hfirst.right.trans hsecond.right⟩

theorem Bound.generation_le (h : Bound n) {s : Nat} (hs : s < n.sessionCount) :
    (n.sessions s).generation ≤ (n.slots (n.sessions s).slotId).generation := by
  by_cases hreused : Reused n s
  · exact Nat.le_of_lt (h.older s hs hreused)
  · exact Nat.le_of_eq (h.youngest s hs hreused)

/-- An open session has the generation of its slot. -/
theorem Bound.generation_of_open (h : Bound n) {s : Nat}
    (hs : s < n.sessionCount) (hopen : IsOpen (n.sessions s)) :
    (n.sessions s).generation = (n.slots (n.sessions s).slotId).generation :=
  (h.current _ s (h.held s hs hopen)).right.right.left

/-!
## Operations that bind nothing
-/

/-- The shard is the same up to what sessions read, send and are numbered by. -/
theorem sound_of_same (hshard : n'.shardId = n.shardId)
    (hlogic : n'.logicShardCount = n.logicShardCount)
    (hslots : n'.slots = n.slots) (hslotCount : n'.slotCount = n.slotCount)
    (hcount : n'.sessionCount = n.sessionCount)
    (hsessions : n'.sessions = n.sessions) : Sound n n' := by
  intro h
  have hreused : forall s, Reused n' s <-> Reused n s := by
    intro s
    unfold Reused
    rw [hcount, hsessions]
  constructor
  · constructor
    · rw [hcount, hsessions, hslotCount]
      exact h.slot_lt
    · rw [hcount, hsessions, hslots]
      exact h.current
    · rw [hcount, hsessions, hslots]
      exact h.held
    · rw [hslots]
      exact h.free
    · intro s
      rw [hreused, hcount, hsessions, hslots]
      exact h.youngest s
    · intro s
      rw [hreused, hcount, hsessions, hslots]
      exact h.older s
    · rw [hcount, hsessions]
      exact h.fresh
  · constructor
    · exact hshard
    · exact hlogic
    · exact Nat.le_of_eq hcount.symm
    · rw [hsessions]
      exact fun _ _ => rfl
    · rw [hsessions]
      exact fun _ _ => rfl

/-- A session changes, but neither where it is bound nor whether it is open. -/
theorem setSession_sound {s : Nat} {session : GatewayLinkSession B P}
    (hslot : session.slotId = (n.sessions s).slotId)
    (hgeneration : session.generation = (n.sessions s).generation)
    (hopen : Bound n -> (IsOpen session <-> IsOpen (n.sessions s)))
    (hpoints : Bound n -> s < n.sessionCount ∨
      session.read = (n.sessions s).read ∧ session.write = (n.sessions s).write) :
    Sound n (n.setSession s session) := by
  intro h
  have hslotId : forall t,
      ((n.setSession s session).sessions t).slotId = (n.sessions t).slotId := by
    intro t
    by_cases ht : t = s
    · subst ht
      simpa [setSession] using hslot
    · simp [setSession, ht]
  have hgen : forall t, ((n.setSession s session).sessions t).generation =
      (n.sessions t).generation := by
    intro t
    by_cases ht : t = s
    · subst ht
      simpa [setSession] using hgeneration
    · simp [setSession, ht]
  have hisOpen : forall t, IsOpen ((n.setSession s session).sessions t) <->
      IsOpen (n.sessions t) := by
    intro t
    by_cases ht : t = s
    · subst ht
      simpa [setSession] using hopen h
    · simp [setSession, ht]
  have hreused : forall t, Reused (n.setSession s session) t <-> Reused n t := by
    intro t
    unfold Reused
    simp only [hslotId]
    rfl
  constructor
  · constructor
    · intro t ht
      rw [hslotId]
      exact h.slot_lt t ht
    · intro i t ht
      rw [hslotId, hgen, hisOpen]
      exact h.current i t ht
    · intro t ht hto
      rw [hslotId]
      exact h.held t ht ((hisOpen t).mp hto)
    · exact h.free
    · intro t ht hnot
      rw [hslotId, hgen]
      exact h.youngest t ht (fun hr => hnot ((hreused t).mpr hr))
    · intro t ht hr
      rw [hslotId, hgen]
      exact h.older t ht ((hreused t).mp hr)
    · intro t ht
      by_cases hts : t = s
      · subst hts
        cases hpoints h with
        | inl hlt =>
            exact absurd hlt (Nat.not_lt.mpr ht)
        | inr hsame =>
            simp only [setSession, Function.update_self, hsame.left, hsame.right]
            exact h.fresh t ht
      · simp only [setSession, Function.update_of_ne hts]
        exact h.fresh t ht
  · exact ⟨rfl, rfl, Nat.le_refl _, fun t _ => hslotId t, fun t _ => hgen t⟩

/-- What a coroutine waits for changes in a session that has been made. -/
theorem setRead_sound {s : Nat} {point : ReadPoint B}
    (hs : Bound n -> s < n.sessionCount ∨ point = (n.sessions s).read) :
    Sound n (n.setRead s point) :=
  setSession_sound rfl rfl (fun _ => Iff.rfl)
    (fun h => (hs h).imp id (fun hsame => ⟨hsame, rfl⟩))

/-- A slot changes its state, and is without a session if it becomes free. -/
theorem setSlot_sound {i : Nat} {slot : GatewayLinkSlot}
    (hgeneration : slot.generation = (n.slots i).generation)
    (hsame : Bound n -> slot.session = (n.slots i).session)
    (hfree : Bound n -> slot.state = SlotState.empty ∨
      slot.state = SlotState.closed -> slot.session = none) :
    Sound n (n.setSlot i slot) := by
  intro h
  have hsession : forall j,
      ((n.setSlot i slot).slots j).session = (n.slots j).session := by
    intro j
    by_cases hj : j = i
    · subst hj
      simpa [setSlot] using hsame h
    · simp [setSlot, hj]
  have hgen : forall j,
      ((n.setSlot i slot).slots j).generation = (n.slots j).generation := by
    intro j
    by_cases hj : j = i
    · subst hj
      simpa [setSlot] using hgeneration
    · simp [setSlot, hj]
  constructor
  · constructor
    · exact h.slot_lt
    · intro j s hjs
      rw [hsession] at hjs
      rw [hgen]
      exact h.current j s hjs
    · intro s hs hopen
      rw [hsession]
      exact h.held s hs hopen
    · intro j hstate
      by_cases hj : j = i
      · subst hj
        simp only [setSlot, Function.update_self] at hstate ⊢
        exact hfree h hstate
      · simp only [setSlot, Function.update_of_ne hj] at hstate ⊢
        exact h.free j hstate
    · intro s hs hnot
      rw [hgen]
      exact h.youngest s hs hnot
    · intro s hs hr
      rw [hgen]
      exact h.older s hs hr
    · exact h.fresh
  · exact ⟨rfl, rfl, Nat.le_refl _, fun _ _ => rfl, fun _ _ => rfl⟩

/-!
## Closing a session
-/

theorem not_isOpen_shut (session : GatewayLinkSession B P) :
    ¬ IsOpen (shut session) :=
  fun h => h.right rfl

/-- The session of a slot is closed and the slot lets go of it. -/
theorem close_of_open {s : Nat} (h : Bound n) (hs : s < n.sessionCount)
    (hopen : IsOpen (n.sessions s)) :
    n.close s =
      (n.setSession s (shut (n.sessions s))).setSlot (n.sessions s).slotId
        { n.slots (n.sessions s).slotId with
          state := SlotState.closed, session := none } := by
  have hlt := h.slot_lt s hs
  have hgen := h.generation_of_open hs hopen
  have hlt' : ¬ (n.setSession s (shut (n.sessions s))).slotCount ≤
      (n.sessions s).slotId := Nat.not_le.mpr hlt
  have hgen' : ¬ ((n.setSession s (shut (n.sessions s))).slots
      (n.sessions s).slotId).generation ≠ (n.sessions s).generation :=
    fun hne => hne hgen.symm
  unfold close
  rw [if_pos hopen]
  unfold onSessionClosed
  rw [if_neg hlt', if_neg hgen']
  rfl

theorem close_of_not_open {s : Nat} (hopen : ¬ IsOpen (n.sessions s)) :
    n.close s = n := by
  unfold close
  rw [if_neg hopen]

/-- What closing an open session of a slot changes. -/
structure Released (n n' : NetworkShard B P) (s : Nat) : Prop where
  keeps : Keeps n n'
  count : n'.sessionCount = n.sessionCount
  slotCount : n'.slotCount = n.slotCount
  self : ¬ IsOpen (n'.sessions s)
  other : forall t, t ≠ s -> n'.sessions t = n.sessions t
  own : n'.slots (n.sessions s).slotId =
    { n.slots (n.sessions s).slotId with
      state := SlotState.closed, session := none }
  slot : forall j, j ≠ (n.sessions s).slotId -> n'.slots j = n.slots j

theorem close_released {s : Nat} (h : Bound n) (hs : s < n.sessionCount)
    (hopen : IsOpen (n.sessions s)) : Released n (n.close s) s := by
  rw [close_of_open h hs hopen]
  constructor
  · constructor
    · rfl
    · rfl
    · exact Nat.le_refl _
    · intro t _
      by_cases ht : t = s
      · subst ht
        simp [setSession, setSlot, shut]
      · simp [setSession, setSlot, ht]
    · intro t _
      by_cases ht : t = s
      · subst ht
        simp [setSession, setSlot, shut]
      · simp [setSession, setSlot, ht]
  · rfl
  · rfl
  · simpa [setSession, setSlot] using not_isOpen_shut (n.sessions s)
  · intro t ht
    simp [setSession, setSlot, ht]
  · simp [setSession, setSlot]
  · intro j hj
    simp [setSession, setSlot, hj]

theorem Released.generation {s : Nat} (hr : Released n n' s) (j : Nat) :
    (n'.slots j).generation = (n.slots j).generation := by
  by_cases hj : j = (n.sessions s).slotId
  · rw [hj, hr.own]
  · rw [hr.slot j hj]

theorem Keeps.reused_iff (hk : Keeps n n')
    (hcount : n'.sessionCount = n.sessionCount) {s : Nat}
    (hs : s < n.sessionCount) : Reused n' s <-> Reused n s := by
  unfold Reused
  rw [hcount, hk.slotId s hs]
  constructor
  · intro h
    rcases h with ⟨t, hst, ht, hslot⟩
    exact ⟨t, hst, ht, (hk.slotId t ht).symm.trans hslot⟩
  · intro h
    rcases h with ⟨t, hst, ht, hslot⟩
    exact ⟨t, hst, ht, (hk.slotId t ht).trans hslot⟩

theorem Released.bound {s : Nat} (hr : Released n n' s) (h : Bound n)
    (hs : s < n.sessionCount) (hopen : IsOpen (n.sessions s)) : Bound n' where
  slot_lt := by
    intro t ht
    rw [hr.count] at ht
    rw [hr.keeps.slotId t ht, hr.slotCount]
    exact h.slot_lt t ht
  current := by
    intro j t hjt
    have hj : j ≠ (n.sessions s).slotId := by
      intro hj
      rw [hj, hr.own] at hjt
      cases hjt
    rw [hr.slot j hj] at hjt ⊢
    have hcur := h.current j t hjt
    have hts : t ≠ s := by
      intro hts
      rw [hts] at hcur
      exact hj hcur.right.left.symm
    rw [hr.count, hr.other t hts]
    exact hcur
  held := by
    intro t ht hto
    have hts : t ≠ s := by
      intro hts
      rw [hts] at hto
      exact hr.self hto
    rw [hr.count] at ht
    rw [hr.other t hts] at hto ⊢
    have hheld := h.held t ht hto
    have hj : (n.sessions t).slotId ≠ (n.sessions s).slotId := by
      intro heq
      rw [heq, h.held s hs hopen] at hheld
      exact hts (Option.some.inj hheld).symm
    rw [hr.slot _ hj]
    exact hheld
  free := by
    intro j hstate
    by_cases hj : j = (n.sessions s).slotId
    · rw [hj, hr.own]
    · rw [hr.slot j hj] at hstate ⊢
      exact h.free j hstate
  youngest := by
    intro t ht hnot
    rw [hr.count] at ht
    rw [hr.keeps.slotId t ht, hr.keeps.generation t ht, hr.generation]
    exact h.youngest t ht
      (fun hreused => hnot ((hr.keeps.reused_iff hr.count ht).mpr hreused))
  older := by
    intro t ht hreused
    rw [hr.count] at ht
    rw [hr.keeps.slotId t ht, hr.keeps.generation t ht, hr.generation]
    exact h.older t ht ((hr.keeps.reused_iff hr.count ht).mp hreused)
  fresh := by
    intro t ht
    rw [hr.count] at ht
    have hts : t ≠ s := by
      intro hts
      rw [hts] at ht
      exact Nat.not_lt.mpr ht hs
    rw [hr.other t hts]
    exact h.fresh t ht

theorem close_sound {s : Nat} (hs : Bound n -> s < n.sessionCount) :
    Sound n (n.close s) := by
  intro h
  by_cases hopen : IsOpen (n.sessions s)
  · have hr := close_released h (hs h) hopen
    exact ⟨hr.bound h (hs h) hopen, hr.keeps⟩
  · rw [close_of_not_open hopen]
    exact Sound.refl n h

theorem closeSlot_sound (i : Nat) : Sound n (n.closeSlot i) := by
  intro h
  unfold closeSlot
  cases hsession : (n.slots i).session with
  | none =>
      exact setSlot_sound rfl (fun _ => hsession.symm) (fun _ _ => rfl) h
  | some s =>
      have hcur := h.current i s hsession
      have hr := close_released h hcur.left hcur.right.right.right
      have hnone : ((n.close s).slots i).session = none := by
        rw [← hcur.right.left, hr.own]
      have hclosed := close_sound (fun _ => hcur.left) h
      have hcleared : Sound (n.close s) ((n.close s).setSlot i
          { (n.close s).slots i with
            state := SlotState.closed, session := none }) :=
        setSlot_sound rfl (fun _ => hnone.symm) (fun _ _ => rfl)
      exact Sound.trans (fun _ => hclosed) hcleared h

/-!
## Binding a slot
-/

theorem findAvailableSlot_some {i : Nat} (h : n.findAvailableSlot = some i) :
    i < n.slotCount ∧ ((n.slots i).state = SlotState.empty ∨
      (n.slots i).state = SlotState.closed) := by
  unfold findAvailableSlot at h
  have hmem := List.mem_of_find?_eq_some h
  have hprop := List.find?_some h
  exact ⟨List.mem_range.mp hmem, by simpa using hprop⟩

/-- What binding a new session to a free slot changes. -/
structure Rebound (n n' : NetworkShard B P) (i : Nat) : Prop where
  shardId : n'.shardId = n.shardId
  logicShardCount : n'.logicShardCount = n.logicShardCount
  slotCount : n'.slotCount = n.slotCount
  count : n'.sessionCount = n.sessionCount + 1
  session : n'.sessions n.sessionCount =
    newSession i ((n.slots i).generation + 1)
  other : forall s, s ≠ n.sessionCount -> n'.sessions s = n.sessions s
  own : n'.slots i =
    ⟨SlotState.accepting, i, (n.slots i).generation + 1, some n.sessionCount⟩
  slot : forall j, j ≠ i -> n'.slots j = n.slots j

theorem Rebound.keeps {i : Nat} (hb : Rebound n n' i) : Keeps n n' := by
  have hother : forall s, s < n.sessionCount -> n'.sessions s = n.sessions s :=
    fun s hs => hb.other s (Nat.ne_of_lt hs)
  constructor
  · exact hb.shardId
  · exact hb.logicShardCount
  · rw [hb.count]
    exact Nat.le_succ _
  · intro s hs
    rw [hother s hs]
  · intro s hs
    rw [hother s hs]

theorem Rebound.reused_iff {i : Nat} (hb : Rebound n n' i) {s : Nat}
    (hs : s < n.sessionCount) :
    Reused n' s <-> Reused n s ∨ (n.sessions s).slotId = i := by
  have hold : n'.sessions s = n.sessions s := hb.other s (Nat.ne_of_lt hs)
  constructor
  · intro h
    rcases h with ⟨t, hst, ht, hslot⟩
    rw [hb.count] at ht
    rw [hold] at hslot
    by_cases hnew : t = n.sessionCount
    · rw [hnew, hb.session] at hslot
      exact Or.inr hslot.symm
    · rw [hb.other t hnew] at hslot
      exact Or.inl ⟨t, hst, by omega, hslot⟩
  · intro h
    cases h with
    | inl hreused =>
        rcases hreused with ⟨t, hst, ht, hslot⟩
        refine ⟨t, hst, ?_, ?_⟩
        · rw [hb.count]
          omega
        · rw [hb.other t (Nat.ne_of_lt ht), hold]
          exact hslot
    | inr hslot =>
        refine ⟨n.sessionCount, hs, ?_, ?_⟩
        · rw [hb.count]
          exact Nat.lt_succ_self _
        · rw [hb.session, hold]
          exact hslot.symm

theorem Rebound.bound {i : Nat} (hb : Rebound n n' i) (h : Bound n)
    (hi : i < n.slotCount) (hfree : (n.slots i).session = none) : Bound n' := by
  have hcases : forall s, s < n'.sessionCount ->
      s = n.sessionCount ∨ s < n.sessionCount := by
    intro s hs
    rw [hb.count] at hs
    omega
  have hnot : ¬ Reused n' n.sessionCount := by
    intro hreused
    rcases hreused with ⟨t, hlt, ht, _⟩
    rw [hb.count] at ht
    omega
  constructor
  · intro s hs
    rw [hb.slotCount]
    rcases hcases s hs with rfl | hlt
    · rw [hb.session]
      exact hi
    · rw [hb.other s (Nat.ne_of_lt hlt)]
      exact h.slot_lt s hlt
  · intro j s hjs
    by_cases hj : j = i
    · subst hj
      rw [hb.own] at hjs ⊢
      cases hjs
      rw [hb.count, hb.session]
      exact ⟨Nat.lt_succ_self _, rfl, rfl, by simp [IsOpen, newSession]⟩
    · rw [hb.slot j hj] at hjs ⊢
      have hcur := h.current j s hjs
      rw [hb.count, hb.other s (Nat.ne_of_lt hcur.left)]
      exact ⟨Nat.lt_succ_of_lt hcur.left, hcur.right⟩
  · intro s hs hopen
    rcases hcases s hs with rfl | hlt
    · rw [hb.session]
      show (n'.slots i).session = _
      rw [hb.own]
    · rw [hb.other s (Nat.ne_of_lt hlt)] at hopen ⊢
      have hheld := h.held s hlt hopen
      have hj : (n.sessions s).slotId ≠ i := by
        intro hj
        rw [hj, hfree] at hheld
        cases hheld
      rw [hb.slot _ hj]
      exact hheld
  · intro j hstate
    by_cases hj : j = i
    · subst hj
      rw [hb.own] at hstate
      cases hstate with
      | inl hempty => cases hempty
      | inr hclosed => cases hclosed
    · rw [hb.slot j hj] at hstate ⊢
      exact h.free j hstate
  · intro s hs hnone
    rcases hcases s hs with rfl | hlt
    · rw [hb.session]
      show _ = (n'.slots i).generation
      rw [hb.own]
      rfl
    · rw [hb.reused_iff hlt, not_or] at hnone
      rw [hb.other s (Nat.ne_of_lt hlt), hb.slot _ hnone.right]
      exact h.youngest s hlt hnone.left
  · intro s hs hreused
    rcases hcases s hs with rfl | hlt
    · exact absurd hreused hnot
    · rw [hb.reused_iff hlt] at hreused
      rw [hb.other s (Nat.ne_of_lt hlt)]
      by_cases hj : (n.sessions s).slotId = i
      · rw [hj, hb.own]
        have hle := h.generation_le hlt
        rw [hj] at hle
        exact Nat.lt_succ_of_le hle
      · rw [hb.slot _ hj]
        exact h.older s hlt (hreused.resolve_right hj)
  · intro s hs
    rw [hb.count] at hs
    rw [hb.other s (by omega)]
    exact h.fresh s (by omega)

theorem doAccept_sound : Sound n n.doAccept := by
  intro h
  unfold doAccept
  split
  · exact Sound.refl n h
  · split
    · exact sound_of_same rfl rfl rfl rfl rfl rfl h
    · rename_i i hi
      have hslot := findAvailableSlot_some hi
      have hfree := h.free i hslot.right
      have hb : Rebound n
          { n with
            slots := Function.update n.slots i
              ⟨SlotState.accepting, i, (n.slots i).generation + 1,
                some n.sessionCount⟩
            sessions := Function.update n.sessions n.sessionCount
              (newSession i ((n.slots i).generation + 1))
            sessionCount := n.sessionCount + 1
            accepts := n.accepts ++
              [(n.sessionCount, i, (n.slots i).generation + 1)] } i := by
        constructor
        · rfl
        · rfl
        · rfl
        · rfl
        · exact Function.update_self _ _ _
        · intro s hs
          exact Function.update_of_ne hs _ _
        · exact Function.update_self _ _ _
        · intro j hj
          exact Function.update_of_ne hj _ _
      exact ⟨hb.bound h hslot.left hfree, hb.keeps⟩

/-- The session of a slot starts to read. -/
theorem start_sound {s : Nat}
    (hs : Bound n -> s < n.sessionCount ∧ IsOpen (n.sessions s)) :
    Sound n (n.start s) := by
  apply setSession_sound
  · rfl
  · rfl
  · intro h
    constructor
    · intro _
      exact (hs h).right
    · intro _
      simp [IsOpen]
  · intro h
    exact Or.inl (hs h).left

theorem connect_sound {i s : Nat} (hsession : (n.slots i).session = some s) :
    Sound n
      ((n.setSlot i { n.slots i with state := SlotState.connected }).start s) := by
  have hslot : Sound n
      (n.setSlot i { n.slots i with state := SlotState.connected }) := by
    apply setSlot_sound
    · rfl
    · intro _
      rfl
    · intro _ hstate
      cases hstate with
      | inl hempty => cases hempty
      | inr hclosed => cases hclosed
  intro h
  have hcur := h.current i s hsession
  exact hslot.trans
    (start_sound (fun _ => ⟨hcur.left, hcur.right.right.right⟩)) h

theorem handleAccept_sound (i generation : Nat) (result : AcceptResult) :
    Sound n (n.handleAccept i generation result) := by
  rcases handleAccept_cases n i generation result with ⟨m, hm, hnext⟩
  have hsound : Sound n m := by
    rcases hm with hsame | hclosed | ⟨s, hsession, hconnected⟩
    · rw [hsame]
      exact Sound.refl n
    · rw [hclosed]
      exact closeSlot_sound i
    · rw [hconnected]
      exact connect_sound hsession
  cases hnext with
  | inl hdone =>
      rw [hdone]
      exact hsound
  | inr haccept =>
      rw [haccept]
      exact hsound.trans doAccept_sound

/-!
## Sending
-/

theorem postSend_sound {s : Nat} (hs : Bound n -> s < n.sessionCount)
    (packet : P) : Sound n (n.postSend s packet) := by
  unfold postSend
  simp only
  split
  · exact setSession_sound rfl rfl (fun _ => Iff.rfl) (fun h => Or.inl (hs h))
  · exact Sound.refl n

/-- A session that can send is the session of its slot. -/
theorem sender_some {linkId s : Nat} (h : n.sender linkId = some s) :
    (n.slots linkId).session = some s := by
  unfold sender at h
  split at h
  · cases h
  · rename_i t ht
    split at h
    · rw [ht]
      exact h
    · cases h

theorem sendToGatewayLink_sound (linkId : Nat) (packet : P) :
    Sound n (n.sendToGatewayLink linkId packet) := by
  unfold sendToGatewayLink
  split
  · exact Sound.refl n
  · split
    · exact Sound.refl n
    · rename_i s hs
      exact postSend_sound (fun h => (h.current linkId s (sender_some hs)).left)
        packet

theorem writeNext_sound {s : Nat} (hs : Bound n -> s < n.sessionCount) :
    Sound n (n.writeNext s) := by
  unfold writeNext
  simp only
  split
  · exact setSession_sound rfl rfl (fun _ => Iff.rfl) (fun h => Or.inl (hs h))
  · split
    · exact setSession_sound rfl rfl (fun _ => Iff.rfl) (fun h => Or.inl (hs h))
    · exact setSession_sound rfl rfl (fun _ => Iff.rfl) (fun h => Or.inl (hs h))

theorem writeFails_sound {s : Nat} (hs : Bound n -> s < n.sessionCount) :
    Sound n (n.writeFails s) := by
  intro h
  have hreset : Sound n
      (n.setSession s
        { n.sessions s with isWriting := false, write := WritePoint.returned }) :=
    setSession_sound rfl rfl (fun _ => Iff.rfl) (fun h => Or.inl (hs h))
  exact hreset.trans (close_sound (fun _ => hs h)) h

/-!
## Receiving
-/

theorem onPacket_sound (lc : LinkCodec B P F) (s linkId nowUnixMs : Nat)
    (msgId : MsgId) (seq : Nat) (body : B) :
    Sound n (n.onPacket lc s linkId nowUnixMs msgId seq body).1 := by
  have hping : Sound n (n.handlePingReq lc linkId nowUnixMs body) := by
    unfold handlePingReq
    split
    · exact Sound.refl n
    · split
      · exact Sound.refl n
      · exact sendToGatewayLink_sound linkId _
  unfold onPacket
  split
  · exact Sound.refl n
  · split
    · exact Sound.refl n
    · split
      · exact hping
      · exact Sound.refl n
      · exact Sound.refl n
      · exact Sound.refl n
      · exact Sound.refl n

theorem readNext_sound {s : Nat} (hs : Bound n -> s < n.sessionCount) :
    Sound n (n.readNext s) := by
  unfold readNext
  split
  · exact setRead_sound (fun h => Or.inl (hs h))
  · exact setRead_sound (fun h => Or.inl (hs h))

theorem deliver_sound (lc : LinkCodec B P F) {s : Nat}
    (hs : Bound n -> s < n.sessionCount) (nowUnixMs : Nat) (msgId : MsgId)
    (body : B) : Sound n (n.deliver lc s nowUnixMs msgId body).1 := by
  intro h
  have hhanded := onPacket_sound lc s (n.sessions s).slotId nowUnixMs msgId 0 body h
  have hlt := Nat.lt_of_lt_of_le (hs h) hhanded.right.count_le
  exact Sound.trans (fun _ => hhanded) (readNext_sound (fun _ => hlt)) h

theorem readFails_sound {s : Nat} (hs : Bound n -> s < n.sessionCount) :
    Sound n (n.readFails s) := by
  intro h
  have hclosed := close_sound hs h
  have hlt := Nat.lt_of_lt_of_le (hs h) hclosed.right.count_le
  exact Sound.trans (fun _ => hclosed) (setRead_sound (fun _ => Or.inl hlt)) h

/-- Only a session that has been made reads. -/
theorem Bound.lt_of_read (h : Bound n) {s : Nat}
    (hread : (n.sessions s).read ≠ ReadPoint.returned) : s < n.sessionCount := by
  by_contra hge
  exact hread (h.fresh s (Nat.not_lt.mp hge)).left

theorem Bound.lt_of_write (h : Bound n) {s : Nat}
    (hwrite : (n.sessions s).write ≠ WritePoint.returned) :
    s < n.sessionCount := by
  by_contra hge
  exact hwrite (h.fresh s (Nat.not_lt.mp hge)).right

theorem handleRead_sound (lc : LinkCodec B P F) (s nowUnixMs : Nat) :
    Sound n (n.handleRead lc s nowUnixMs).1 := by
  have hlt : (n.sessions s).read ≠ ReadPoint.returned ->
      Bound n -> s < n.sessionCount := fun hread h => h.lt_of_read hread
  unfold handleRead
  split
  · exact Sound.refl n
  · rename_i hread
    exact readNext_sound (hlt (by simp [hread]))
  · exact Sound.refl n
  · rename_i hread
    exact readFails_sound (hlt (by simp [hread]))
  · rename_i hread
    exact readFails_sound (hlt (by simp [hread]))
  · rename_i hread
    have hlt := hlt (by simp [hread])
    split
    · exact setRead_sound (fun h => Or.inl (hlt h))
    · split
      · exact deliver_sound lc hlt nowUnixMs _ _
      · exact setRead_sound (fun h => Or.inl (hlt h))
  · exact Sound.refl n
  · rename_i hread
    exact readFails_sound (hlt (by simp [hread]))
  · rename_i hread
    exact deliver_sound lc (hlt (by simp [hread])) nowUnixMs _ _

/-!
## What is posted and what is sent
-/

/-- A request of a client, as opposed to a message of the gateway. -/
def IsRequest : MsgId -> Prop
  | MsgId.pingReq => False
  | MsgId.clientDisconnectedNtf => False
  | MsgId.gateToGameEnvelope => False
  | MsgId.other => False
  | _ => True

/-- A packet that the shard posts to a logic shard as a request. -/
def Forwards (lc : LinkCodec B P F) (n : NetworkShard B P) (msgId : MsgId)
    (body : B) : Prop :=
  n.stopping = false ∧ n.logicShardCount ≠ 0 ∧
    exists envelope innerMsgId,
      GameServer.parseGateToGameEnvelope lc.codec body =
        some (envelope, innerMsgId) ∧
      envelope.uid ≠ 0 ∧
      IsRequest (if msgId = MsgId.gateToGameEnvelope then innerMsgId else msgId)

theorem forwardToLogic_mem {lc : LinkCodec B P F} {s linkId : Nat} {msgId : MsgId}
    {seq : Nat} {body : B} {e : LinkEvent B P}
    (he : e ∈ n.forwardToLogic lc s linkId msgId seq body) :
    (exists task, e = LinkEvent.forwarded s task ∧
      task.origin = n.makeRoute linkId) ∧ n.logicShardCount ≠ 0 ∧
      exists envelope innerMsgId,
        GameServer.parseGateToGameEnvelope lc.codec body =
          some (envelope, innerMsgId) ∧ envelope.uid ≠ 0 := by
  unfold forwardToLogic at he
  split at he
  · cases he
  · rename_i envelope innerMsgId hparse
    split at he
    · cases he
    · rename_i huid
      split at he
      · cases he
      · rename_i hcount
        exact ⟨⟨_, List.mem_singleton.mp he, rfl⟩, hcount, envelope, innerMsgId,
          hparse, huid⟩

/-- A packet causes a notice without a route, or a task with the route of its link. -/
theorem onPacket_mem {lc : LinkCodec B P F} {s linkId nowUnixMs : Nat}
    {msgId : MsgId} {seq : Nat} {body : B} {e : LinkEvent B P}
    (he : e ∈ (n.onPacket lc s linkId nowUnixMs msgId seq body).2) :
    (exists notice, e = LinkEvent.disconnected notice) ∨
      (Forwards lc n msgId body ∧ exists task, e = LinkEvent.forwarded s task ∧
        task.origin = n.makeRoute linkId) := by
  unfold onPacket at he
  split at he
  · cases he
  · rename_i hstop
    split at he
    · cases he
    · rename_i dispatchMsgId dispatchSeq hdispatched
      split at he
      · cases he
      · unfold handleClientDisconnected at he
        split at he
        · cases he
        · split at he
          · cases he
          · exact Or.inl ⟨body, List.mem_singleton.mp he⟩
      · cases he
      · cases he
      · rename_i hping hnotice henvelope hother
        have hrequest : IsRequest dispatchMsgId := by
          cases dispatchMsgId with
          | pingReq => exact absurd rfl hping
          | clientDisconnectedNtf => exact absurd rfl hnotice
          | gateToGameEnvelope => exact absurd rfl henvelope
          | other => exact absurd rfl hother
          | _ => trivial
        rcases forwardToLogic_mem he with
          ⟨htask, hcount, envelope, innerMsgId, hparse, huid⟩
        refine Or.inr ⟨⟨by simpa using hstop, hcount, envelope, innerMsgId, hparse,
          huid, ?_⟩, htask⟩
        unfold dispatched at hdispatched
        by_cases hmsg : msgId = MsgId.gateToGameEnvelope
        · rw [if_pos hmsg, hparse] at hdispatched
          simp only [Option.some.injEq, Prod.mk.injEq] at hdispatched
          rw [if_pos hmsg, hdispatched.left]
          exact hrequest
        · rw [if_neg hmsg] at hdispatched
          simp only [Option.some.injEq, Prod.mk.injEq] at hdispatched
          rw [if_neg hmsg, hdispatched.left]
          exact hrequest

theorem onPacket_of_request {lc : LinkCodec B P F} {s linkId nowUnixMs : Nat}
    {msgId dispatchMsgId : MsgId} {seq dispatchSeq : Nat} {body : B}
    (hstop : n.stopping = false)
    (hdispatched : dispatched lc msgId seq body = some (dispatchMsgId, dispatchSeq))
    (hrequest : IsRequest dispatchMsgId) :
    n.onPacket lc s linkId nowUnixMs msgId seq body =
      (n, n.forwardToLogic lc s linkId dispatchMsgId dispatchSeq body) := by
  unfold onPacket
  rw [hstop, hdispatched]
  cases dispatchMsgId with
  | pingReq => cases hrequest
  | clientDisconnectedNtf => cases hrequest
  | gateToGameEnvelope => cases hrequest
  | other => cases hrequest
  | _ => rfl

theorem onPacket_forwards {lc : LinkCodec B P F} {s linkId nowUnixMs : Nat}
    {msgId : MsgId} {seq : Nat} {body : B} (h : Forwards lc n msgId body) :
    exists task, task.origin = n.makeRoute linkId ∧
      LinkEvent.forwarded s task ∈
        (n.onPacket lc s linkId nowUnixMs msgId seq body).2 := by
  rcases h with ⟨hstop, hcount, envelope, innerMsgId, hparse, huid, hrequest⟩
  have hdispatched : exists dispatchSeq, dispatched lc msgId seq body =
      some (if msgId = MsgId.gateToGameEnvelope then innerMsgId else msgId,
        dispatchSeq) := by
    unfold dispatched
    split
    · rw [hparse]
      exact ⟨_, rfl⟩
    · exact ⟨_, rfl⟩
  rcases hdispatched with ⟨dispatchSeq, hdispatched⟩
  rw [onPacket_of_request hstop hdispatched hrequest]
  refine ⟨⟨if msgId = MsgId.gateToGameEnvelope then innerMsgId else msgId,
    envelope.uid, dispatchSeq, n.makeRoute linkId, body⟩, rfl, ?_⟩
  unfold forwardToLogic
  rw [hparse]
  simp only
  rw [if_neg huid, if_neg hcount]
  exact List.mem_singleton.mpr rfl

/-!
## Runs
-/

/--
The route of a posted task is that of the session which received the packet,
and a packet for a target is put on the session bound with the slot and the
generation of the target.
-/
def Right (n : NetworkShard B P) : LinkEvent B P -> Prop
  | LinkEvent.forwarded s task =>
      task.origin =
        ⟨n.shardId, (n.sessions s).slotId, (n.sessions s).generation⟩
  | LinkEvent.disconnected _ => True
  | LinkEvent.enqueued s target _ =>
      (n.sessions s).slotId = target.linkId ∧
        (n.sessions s).generation = target.generation

/-- The session of an event has been made. -/
def Known (n : NetworkShard B P) : LinkEvent B P -> Prop
  | LinkEvent.forwarded s _ => s < n.sessionCount
  | LinkEvent.disconnected _ => True
  | LinkEvent.enqueued s _ _ => s < n.sessionCount

/--
The handler of a body that was read runs after the slot of its session has been
bound again, and the packet is a request.
-/
def Strays (lc : LinkCodec B P F) (n : NetworkShard B P) : LinkInput B P -> Prop
  | LinkInput.readRuns s _ =>
      exists msgId body,
        (n.sessions s).read = ReadPoint.body msgId (Completion.ready body) ∧
          Forwards lc n msgId body ∧ Reused n s
  | _ => False

theorem Keeps.known (hk : Keeps n n') {e : LinkEvent B P} (he : Known n e) :
    Known n' e := by
  cases e with
  | forwarded s task => exact Nat.lt_of_lt_of_le he hk.count_le
  | disconnected body => trivial
  | enqueued s target packet => exact Nat.lt_of_lt_of_le he hk.count_le

theorem Keeps.right_iff (hk : Keeps n n') {e : LinkEvent B P} (he : Known n e) :
    Right n' e <-> Right n e := by
  cases e with
  | forwarded s task =>
      simp only [Right]
      rw [hk.shardId, hk.slotId s he, hk.generation s he]
  | disconnected body => exact Iff.rfl
  | enqueued s target packet =>
      simp only [Right]
      rw [hk.slotId s he, hk.generation s he]

/-- The events of a packet are known to the state in which they are judged. -/
theorem deliver_known {lc : LinkCodec B P F} {s nowUnixMs : Nat} {msgId : MsgId}
    {body : B} (hs : s < n.sessionCount) {e : LinkEvent B P}
    (he : e ∈ (n.deliver lc s nowUnixMs msgId body).2) : Known n e := by
  rcases onPacket_mem he with ⟨notice, rfl⟩ | ⟨_, task, rfl, _⟩
  · trivial
  · exact hs

/-- The route of a packet is right if and only if its session has the generation of the slot. -/
theorem deliver_right_iff {lc : LinkCodec B P F} {s nowUnixMs : Nat}
    {msgId : MsgId} {body : B} (h : Bound n) (hs : s < n.sessionCount) :
    (forall e, e ∈ (n.deliver lc s nowUnixMs msgId body).2 ->
      Right (n.deliver lc s nowUnixMs msgId body).1 e) <->
      ¬ (Forwards lc n msgId body ∧ Reused n s) := by
  have hkeeps := (deliver_sound lc (fun _ => hs) nowUnixMs msgId body h).right
  have hroute : n.makeRoute (n.sessions s).slotId =
      ⟨n.shardId, (n.sessions s).slotId,
        (n.slots (n.sessions s).slotId).generation⟩ := by
    unfold makeRoute
    rw [if_pos (h.slot_lt s hs)]
  constructor
  · intro hright hstray
    have hforwarded : exists task, task.origin = n.makeRoute (n.sessions s).slotId ∧
        LinkEvent.forwarded s task ∈ (n.deliver lc s nowUnixMs msgId body).2 :=
      onPacket_forwards hstray.left
    rcases hforwarded with ⟨task, horigin, hmem⟩
    have hjudged := (hkeeps.right_iff (deliver_known hs hmem)).mp (hright _ hmem)
    have horigin' : task.origin =
        ⟨n.shardId, (n.sessions s).slotId, (n.sessions s).generation⟩ := hjudged
    rw [horigin, hroute] at horigin'
    have hgen := congrArg GatewayRoute.generation horigin'
    exact absurd hgen (Nat.ne_of_gt (h.older s hs hstray.right))
  · intro hnot e he
    rw [hkeeps.right_iff (deliver_known hs he)]
    rcases onPacket_mem he with ⟨notice, rfl⟩ | ⟨hforwards, task, rfl, horigin⟩
    · trivial
    · have hyoungest : ¬ Reused n s := fun hreused => hnot ⟨hforwards, hreused⟩
      show task.origin = _
      rw [horigin, hroute, h.youngest s hs hyoungest]

/-- An open session is the last one bound to its slot. -/
theorem Bound.not_reused_of_open (h : Bound n) {s : Nat}
    (hs : s < n.sessionCount) (hopen : IsOpen (n.sessions s)) : ¬ Reused n s := by
  intro hreused
  have hlt := h.older s hs hreused
  rw [h.generation_of_open hs hopen] at hlt
  exact Nat.lt_irrefl _ hlt

/-- A target gets a packet only on the session bound with its slot and generation. -/
theorem sendToTarget_right (lc : LinkCodec B P F) (task : NetworkTask P)
    (target : NetworkSendTarget) (h : Bound n) :
    (Bound (sendToTarget lc task n target).1 ∧
      Keeps n (sendToTarget lc task n target).1) ∧
      forall e, e ∈ (sendToTarget lc task n target).2 -> Known n e ∧ Right n e := by
  have hnothing : (Bound n ∧ Keeps n n) ∧
      forall e, e ∈ ([] : List (LinkEvent B P)) -> Known n e ∧ Right n e :=
    ⟨Sound.refl n h, fun _ he => by cases he⟩
  unfold sendToTarget
  split
  · exact hnothing
  · split
    · exact hnothing
    · rename_i hgen
      split
      · exact hnothing
      · rename_i s hs
        have hcur := h.current target.linkId s (sender_some hs)
        split
        · exact hnothing
        · constructor
          · exact postSend_sound (fun _ => hcur.left) _ h
          · intro e he
            rw [List.mem_singleton.mp he]
            have hsame : (n.sessions s).generation = target.generation :=
              hcur.right.right.left.trans (not_not.mp hgen)
            exact ⟨hcur.left, hcur.right.left, hsame⟩

theorem handleNetworkTask_right (lc : LinkCodec B P F) (task : NetworkTask P)
    (h : Bound n) :
    (Bound (n.handleNetworkTask lc task).1 ∧
      Keeps n (n.handleNetworkTask lc task).1) ∧
      forall e, e ∈ (n.handleNetworkTask lc task).2 ->
        Known (n.handleNetworkTask lc task).1 e ∧
          Right (n.handleNetworkTask lc task).1 e := by
  unfold handleNetworkTask
  split
  · exact ⟨Sound.refl n h, fun _ he => by cases he⟩
  · have hrun := runMachine_invariant
      (fun past n' => (Bound n' ∧ Keeps n n') ∧
        forall e, e ∈ past -> Known n' e ∧ Right n' e)
      (fun past n' target hn' => by
        have hone := sendToTarget_right lc task target hn'.left.left
        refine ⟨⟨hone.left.left, hn'.left.right.trans hone.left.right⟩, ?_⟩
        intro e he
        have hknown : Known n' e ∧ Right n' e := by
          cases List.mem_append.mp he with
          | inl hpast => exact hn'.right e hpast
          | inr hnow => exact hone.right e hnow
        exact ⟨hone.left.right.known hknown.left,
          (hone.left.right.right_iff hknown.left).mpr hknown.right⟩)
      [] n ⟨Sound.refl n h, fun _ he => by cases he⟩ task.targets
    exact hrun

theorem handle_sound (lc : LinkCodec B P F) (input : LinkInput B P) :
    Sound n (n.handle lc input).1 := by
  cases input with
  | start =>
      exact sound_of_same rfl rfl rfl rfl rfl rfl
  | stop =>
      unfold handle
      simp only
      split
      · exact Sound.refl n
      · exact sound_of_same rfl rfl rfl rfl rfl rfl
  | postedAccept =>
      unfold handle
      simp only
      split
      · have hposted : Sound n { n with acceptPosted := false } :=
          sound_of_same rfl rfl rfl rfl rfl rfl
        exact hposted.trans doAccept_sound
      · exact Sound.refl n
  | postedClose =>
      unfold handle
      simp only
      split
      · have hposted : Sound n
            { n with
              closePosted := false, acceptorOpen := false, retryArmed := false } :=
          sound_of_same rfl rfl rfl rfl rfl rfl
        exact hposted.trans
          (foldl_rel Sound.refl Sound.trans (fun _ i => closeSlot_sound i) _ _)
      · exact Sound.refl n
  | retry =>
      have hfired : Sound n { n with retryArmed := false } :=
        sound_of_same rfl rfl rfl rfl rfl rfl
      unfold handle
      simp only
      split
      · split
        · exact hfired
        · exact hfired.trans doAccept_sound
      · exact Sound.refl n
  | acceptEnds s result =>
      unfold handle
      simp only
      split
      · exact Sound.refl n
      · have hended : Sound n
            { n with accepts := n.accepts.filter fun accept => accept.1 ≠ s } :=
          sound_of_same rfl rfl rfl rfl rfl rfl
        exact hended.trans (handleAccept_sound _ _ result)
  | headArrives s header =>
      unfold handle
      simp only
      split
      · rename_i hread
        exact setRead_sound (fun h => Or.inl (h.lt_of_read (by simp [hread])))
      · exact Sound.refl n
  | bodyArrives s body =>
      unfold handle
      simp only
      split
      · rename_i hread
        exact setRead_sound (fun h => Or.inl (h.lt_of_read (by simp [hread])))
      · exact Sound.refl n
  | readBreaks s =>
      apply setRead_sound
      intro h
      by_cases hread : (n.sessions s).read = ReadPoint.returned
      · rw [hread]
        exact Or.inr rfl
      · exact Or.inl (h.lt_of_read hread)
  | readRuns s nowUnixMs =>
      exact handleRead_sound lc s nowUnixMs
  | writeRuns s =>
      unfold handle
      simp only
      split
      · rename_i hwrite
        exact writeNext_sound (fun h => h.lt_of_write (by simp [hwrite]))
      · exact Sound.refl n
  | writeEnds s ok =>
      unfold handle
      simp only
      split
      · rename_i hwrite
        have hlt : Bound n -> s < n.sessionCount :=
          fun h => h.lt_of_write (by simp [hwrite])
        split
        · exact writeNext_sound hlt
        · exact writeFails_sound hlt
      · exact Sound.refl n
  | task task =>
      exact fun h => (handleNetworkTask_right lc task h).left

/-- Only reading and tasks have events. -/
theorem handle_silent (lc : LinkCodec B P F) {input : LinkInput B P}
    (hread : forall s nowUnixMs, input ≠ LinkInput.readRuns s nowUnixMs)
    (htask : forall task, input ≠ LinkInput.task task) :
    (n.handle lc input).2 = [] := by
  cases input with
  | readRuns s nowUnixMs => exact absurd rfl (hread s nowUnixMs)
  | task task => exact absurd rfl (htask task)
  | start => rfl
  | readBreaks s => rfl
  | _ =>
      unfold handle
      simp only
      split
      · rfl
      · rfl

/-- The events of `handle_read` are those of a packet of a session that has been made. -/
theorem handleRead_right_iff (lc : LinkCodec B P F) (s nowUnixMs : Nat)
    (h : Bound n) :
    (forall e, e ∈ (n.handleRead lc s nowUnixMs).2 ->
      Known (n.handleRead lc s nowUnixMs).1 e) ∧
    ((forall e, e ∈ (n.handleRead lc s nowUnixMs).2 ->
      Right (n.handleRead lc s nowUnixMs).1 e) <->
        ¬ Strays lc n (LinkInput.readRuns s nowUnixMs)) := by
  have hdeliver : forall msgId body, (n.sessions s).read ≠ ReadPoint.returned ->
      (forall e, e ∈ (n.deliver lc s nowUnixMs msgId body).2 ->
        Known (n.deliver lc s nowUnixMs msgId body).1 e) := by
    intro msgId body hread e he
    have hs := h.lt_of_read hread
    have hkeeps := (deliver_sound lc (fun _ => hs) nowUnixMs msgId body h).right
    exact hkeeps.known (deliver_known hs he)
  have hsilent : forall n' : NetworkShard B P,
      (forall msgId body, (n.sessions s).read ≠
        ReadPoint.body msgId (Completion.ready body)) ->
      (forall e, e ∈ ([] : List (LinkEvent B P)) -> Known n' e) ∧
        ((forall e, e ∈ ([] : List (LinkEvent B P)) -> Right n' e) <->
          ¬ Strays lc n (LinkInput.readRuns s nowUnixMs)) := by
    intro n' hread
    have hstray : ¬ Strays lc n (LinkInput.readRuns s nowUnixMs) := by
      intro hstrays
      rcases hstrays with ⟨msgId, body, hbody, _⟩
      exact hread msgId body hbody
    simp [hstray]
  unfold handleRead
  split
  · rename_i hread
    exact hsilent n (by simp [hread])
  · rename_i hread
    exact hsilent _ (by simp [hread])
  · rename_i hread
    exact hsilent n (by simp [hread])
  · rename_i hread
    exact hsilent _ (by simp [hread])
  · rename_i hread
    exact hsilent _ (by simp [hread])
  · rename_i msgId len hread
    split
    · exact hsilent _ (by simp [hread])
    · rename_i hopen
      split
      · have hs := h.lt_of_read (s := s) (by simp [hread])
        refine ⟨hdeliver msgId lc.noBody (by simp [hread]), ?_⟩
        rw [deliver_right_iff h hs]
        constructor
        · intro _ hstrays
          rcases hstrays with ⟨msgId', body, hbody, _⟩
          rw [hread] at hbody
          cases hbody
        · intro _ hstray
          exact h.not_reused_of_open hs (not_not.mp hopen) hstray.right
      · exact hsilent _ (by simp [hread])
  · rename_i hread
    exact hsilent n (by simp [hread])
  · rename_i hread
    exact hsilent _ (by simp [hread])
  · rename_i msgId body hread
    have hs := h.lt_of_read (s := s) (by simp [hread])
    refine ⟨hdeliver msgId body (by simp [hread]), ?_⟩
    rw [deliver_right_iff h hs]
    constructor
    · intro hnot hstrays
      rcases hstrays with ⟨msgId', body', hbody, hstray⟩
      rw [hread] at hbody
      cases hbody
      exact hnot hstray
    · intro hnot hstray
      exact hnot ⟨msgId, body, hread, hstray⟩

theorem handle_right_iff (lc : LinkCodec B P F) (input : LinkInput B P)
    (h : Bound n) :
    (forall e, e ∈ (n.handle lc input).2 -> Known (n.handle lc input).1 e) ∧
    ((forall e, e ∈ (n.handle lc input).2 -> Right (n.handle lc input).1 e) <->
      ¬ Strays lc n input) := by
  cases input with
  | readRuns s nowUnixMs =>
      exact handleRead_right_iff lc s nowUnixMs h
  | task task =>
      have hsent := (handleNetworkTask_right lc task h).right
      exact ⟨fun e he => (hsent e he).left,
        fun _ hstrays => hstrays.elim, fun _ e he => (hsent e he).right⟩
  | _ =>
      rw [handle_silent lc (by simp) (by simp)]
      simp [Strays]

/--
In every run the routes of all posted tasks are right and every packet for a
target is on the session of the target, if and only if no handler of a body runs
after the slot of its session has been bound again.
-/
theorem run_routes_iff (lc : LinkCodec B P F)
    (shardId logicShardCount maxLinks : Nat) (inputs : List (LinkInput B P)) :
    (forall e, e ∈ (run lc shardId logicShardCount maxLinks inputs).2 ->
      Right (run lc shardId logicShardCount maxLinks inputs).1 e) <->
      Along (handle lc) (fun n input => ¬ Strays lc n input)
        (create shardId logicShardCount maxLinks) inputs :=
  runMachine_good_iff
    (fun _ input h => (handle_sound lc input h).left)
    (fun _ input _ h he => (handle_sound lc input h).right.known he)
    (fun _ input _ h he => (handle_sound lc input h).right.right_iff he)
    (fun _ input e h he => (handle_right_iff lc input h).left e he)
    (fun _ input h => (handle_right_iff lc input h).right)
    (bound_create shardId logicShardCount maxLinks) inputs

/--
The body of a request has been read; a reply cannot be written, the session is
closed and its only slot is bound again before the request is handed over.
-/
def replyFails : List (LinkInput (Wire Rat) OutPacket) :=
  [LinkInput.start, LinkInput.postedAccept,
    LinkInput.acceptEnds 0 AcceptResult.accepted, LinkInput.readRuns 0 0,
    LinkInput.headArrives 0 (some (MsgId.gateToGameEnvelope, 12)),
    LinkInput.readRuns 0 0,
    LinkInput.bodyArrives 0 (Wire.envelope 7 MsgId.leaveRoomReq Wire.empty),
    LinkInput.task ⟨0, 1, [⟨0, 1, [7]⟩], OutPacket.message MsgId.other⟩,
    LinkInput.writeRuns 0, LinkInput.writeEnds 0 false, LinkInput.retry,
    LinkInput.readRuns 0 0]

theorem replyFails_strays :
    ¬ forall e, e ∈ (run OutPacket.codec 0 1 1 replyFails).2 ->
      Right (run OutPacket.codec 0 1 1 replyFails).1 e := by
  intro h
  have hmem : LinkEvent.forwarded 0
      ⟨MsgId.leaveRoomReq, 7, 0, ⟨0, 0, 2⟩,
        Wire.envelope 7 MsgId.leaveRoomReq Wire.empty⟩ ∈
      (run OutPacket.codec 0 1 1 replyFails).2 :=
    List.mem_cons_of_mem _ (List.mem_cons_self)
  have hright := h _ hmem
  have hroute : (⟨0, 0, 2⟩ : GatewayRoute) = ⟨0, 0, 1⟩ := hright
  exact absurd hroute (by decide)

end NetworkShard

end RtsGame
