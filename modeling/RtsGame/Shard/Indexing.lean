import RtsGame.Shard.Moves

/-!
# The index agrees with the rooms

Creating, joining and leaving update the index of players and the rooms
separately, several of them with early returns.  Every move restores the
agreement, and every handler is a sequence of moves.
-/

namespace RtsGame

variable {B F : Type}

/-!
## Moves keep the agreement
-/

namespace WellIndexed

variable {s : LogicShard F}

theorem member (h : WellIndexed s) {roomId : Nat} {r : DungeonRoom F}
    (hr : s.rooms.lookup roomId = some r) (uid : Nat) :
    uid ∈ r.players <-> s.uidToRoom.lookup uid = some roomId := by
  constructor
  · intro huid
    exact (h.index uid roomId).mpr ⟨r, hr, huid⟩
  · intro hidx
    rcases (h.index uid roomId).mp hidx with ⟨r', hr', huid⟩
    rw [hr] at hr'
    injection hr' with heq
    rw [heq]
    exact huid

/-- The index after one room was written. -/
theorem index_write (h : WellIndexed s) {idx : Table Nat} {roomId : Nat}
    {r' : DungeonRoom F}
    (hidx : forall v k, idx.lookup v = some k <->
      if k = roomId then v ∈ r'.players else s.uidToRoom.lookup v = some k)
    (v k : Nat) :
    idx.lookup v = some k <->
      exists r, (s.rooms.insert roomId r').lookup k = some r ∧ v ∈ r.players := by
  rw [hidx v k, Table.lookup_insert_ite]
  split
  · constructor
    · intro hv
      exact ⟨r', rfl, hv⟩
    · rintro ⟨r, hr, hv⟩
      injection hr with heq
      rw [heq]
      exact hv
  · exact h.index v k

/-- The index after one room was dropped. -/
theorem index_drop (h : WellIndexed s) {idx : Table Nat} {roomId : Nat}
    (hidx : forall v k, idx.lookup v = some k <->
      k ≠ roomId ∧ s.uidToRoom.lookup v = some k) (v k : Nat) :
    idx.lookup v = some k <->
      exists r, (s.rooms.erase roomId).lookup k = some r ∧ v ∈ r.players := by
  rw [hidx v k, Table.lookup_erase_ite]
  split
  · rename_i hk
    constructor
    · rintro ⟨hne, _⟩
      exact absurd hk hne
    · rintro ⟨r, hr, _⟩
      cases hr
  · rename_i hk
    rw [h.index v k]
    constructor
    · exact And.right
    · intro hr
      exact ⟨hk, hr⟩

/-- A new player in the index. -/
theorem index_seat {uid roomId : Nat}
    (huid : s.uidToRoom.lookup uid = none) {r' : DungeonRoom F}
    (hplayers : forall v, v ∈ r'.players <->
      v = uid ∨ s.uidToRoom.lookup v = some roomId) (v k : Nat) :
    (s.uidToRoom.insert uid roomId).lookup v = some k <->
      if k = roomId then v ∈ r'.players else s.uidToRoom.lookup v = some k := by
  rw [Table.lookup_insert_ite, hplayers v]
  by_cases hv : v = uid
  · subst hv
    simp [huid, eq_comm]
  · simp only [hv, if_false, false_or]
    split
    · rename_i hk
      rw [hk]
    · exact Iff.rfl

/-- A player leaves the index. -/
theorem index_leave (uid v k : Nat) :
    (s.uidToRoom.erase uid).lookup v = some k <->
      v ≠ uid ∧ s.uidToRoom.lookup v = some k := by
  rw [Table.lookup_erase_ite]
  by_cases hv : v = uid
  · simp [hv]
  · simp [hv]

theorem fresh (h : WellIndexed s) : s.rooms.lookup s.nextId = none := by
  cases hr : s.rooms.lookup s.nextId with
  | none => rfl
  | some r =>
      have hlt := (h.ids s.nextId r hr).right
      lia

theorem nextId_le (h : WellIndexed s) :
    s.nextId + 1 ≤
      LogicShard.nextId { s with nextRoomId := s.nextRoomId + 1 } := by
  have hcount := h.count
  unfold LogicShard.nextId
  dsimp only
  rw [Nat.mul_add]
  lia

/-- Writing a room that keeps its place in the index. -/
theorem put (h : WellIndexed s) {roomId : Nat} {r r' : DungeonRoom F}
    (hr : s.rooms.lookup roomId = some r) (hshape : RoomShape r')
    (hid : r'.roomId = r.roomId)
    (hplayers : forall uid, uid ∈ r'.players <-> uid ∈ r.players) :
    WellIndexed (s.putRoom roomId r') := by
  refine ⟨?_, h.shapes.insert hshape, ?_, h.count⟩
  · intro v k
    apply h.index_write
    intro v k
    split
    · rename_i hk
      rw [hk, hplayers v]
      exact (h.member hr v).symm
    · exact Iff.rfl
  · apply Table.AllAt.insert h.ids
    exact ⟨hid.trans (h.ids roomId r hr).left, (h.ids roomId r hr).right⟩

end WellIndexed

theorem normalizeMaxPlayers_bounds (n : Nat) :
    1 ≤ LogicShard.normalizeMaxPlayers n ∧
      LogicShard.normalizeMaxPlayers n ≤ 4 := by
  unfold LogicShard.normalizeMaxPlayers kDefaultMaxPlayers kMaxRoomPlayers
  split <;> lia

theorem freshRoom_maxPlayers (roomId : Nat) (roomName : String)
    (maxPlayers : Nat) :
    (freshRoom roomId roomName maxPlayers : DungeonRoom F).maxPlayers =
      LogicShard.normalizeMaxPlayers maxPlayers := by
  have hpos := (normalizeMaxPlayers_bounds maxPlayers).left
  unfold freshRoom DungeonRoom.create
  dsimp only
  rw [if_neg (by lia)]

theorem freshRoom_shape (roomId : Nat) (roomName : String)
    (maxPlayers uid : Nat) :
    RoomShape
      ((freshRoom roomId roomName maxPlayers : DungeonRoom F).seated uid) := by
  rcases normalizeMaxPlayers_bounds maxPlayers with ⟨hpos, hle⟩
  have hmax := freshRoom_maxPlayers (F := F) roomId roomName maxPlayers
  apply RoomShape.seated
  · rw [hmax]
    exact hpos
  · rw [hmax]
    exact hle
  · intro other
    exact Iff.rfl
  · exact Table.allAt_empty _
  · exact DungeonRoom.keyed_create roomId roomName _
  · intro hmem
    cases hmem

variable [Scalar F]

omit [Scalar F] in
theorem WellIndexed.created {s : LogicShard F} (h : WellIndexed s) {uid : Nat}
    (huid : s.uidToRoom.lookup uid = none) (roomName : String) (maxPlayers : Nat) :
    WellIndexed (LogicShard.seat { s with nextRoomId := s.nextRoomId + 1 } uid s.nextId
      ((freshRoom s.nextId roomName maxPlayers).seated uid)) := by
  have hshape := freshRoom_shape (F := F) s.nextId roomName maxPlayers uid
  have hnext := h.nextId_le
  refine ⟨?_, h.shapes.insert hshape, ?_, h.count⟩
  · intro v k
    apply h.index_write
    apply WellIndexed.index_seat huid
    intro v
    have hnone : s.uidToRoom.lookup v ≠ some s.nextId := by
      intro hidx
      rcases (h.index v s.nextId).mp hidx with ⟨r, hr, _⟩
      rw [h.fresh] at hr
      cases hr
    change v ∈ (∅ : Table RoomPlayerState).insert uid _ <-> _
    rw [AList.mem_insert]
    constructor
    · rintro (hv | hmem)
      · exact Or.inl hv
      · cases hmem
    · rintro (hv | hidx)
      · exact Or.inl hv
      · exact absurd hidx hnone
  · have hids : s.rooms.AllAt fun k r => r.roomId = k ∧
        k < LogicShard.nextId { s with nextRoomId := s.nextRoomId + 1 } := by
      intro k r hk
      have hlt := (h.ids k r hk).right
      exact ⟨(h.ids k r hk).left, by lia⟩
    exact hids.insert ⟨rfl, hnext⟩

omit [Scalar F] in
theorem WellIndexed.entered {s : LogicShard F} (h : WellIndexed s) {uid roomId : Nat}
    {r : DungeonRoom F} (huid : s.uidToRoom.lookup uid = none)
    (hr : s.rooms.lookup roomId = some r) (hfits : r.players.size < r.maxPlayers) :
    WellIndexed (LogicShard.seat s uid roomId (r.seated uid)) := by
  have hold := h.shapes roomId r hr
  have hnew : uid ∉ r.players := by
    rw [h.member hr, huid]
    intro hsome
    cases hsome
  have hshape := RoomShape.seated hfits hold.maxLe hold.ledgers hold.uids
    hold.keyed hnew
  refine ⟨?_, h.shapes.insert hshape, ?_, h.count⟩
  · intro v k
    apply h.index_write
    apply WellIndexed.index_seat huid
    intro v
    change v ∈ r.players.insert uid _ <-> _
    rw [AList.mem_insert, h.member hr v]
  · apply Table.AllAt.insert h.ids
    exact h.ids roomId r hr

omit [Scalar F] in
theorem WellIndexed.touched {s : LogicShard F} (h : WellIndexed s) {uid roomId : Nat}
    {r : DungeonRoom F} (huid : s.uidToRoom.lookup uid = some roomId)
    (hr : s.rooms.lookup roomId = some r) : WellIndexed (LogicShard.seat s uid roomId r) := by
  refine ⟨?_, h.shapes.insert (h.shapes roomId r hr), ?_, h.count⟩
  · intro v k
    apply h.index_write
    intro v k
    change (s.uidToRoom.insert uid roomId).lookup v = some k <-> _
    rw [Table.lookup_insert_ite, h.member hr v]
    by_cases hv : v = uid
    · subst hv
      rw [huid]
      simp [eq_comm]
    · simp only [hv, if_false]
      split
      · rename_i hk
        rw [hk]
      · exact Iff.rfl
  · apply Table.AllAt.insert h.ids
    exact h.ids roomId r hr

omit [Scalar F] in
theorem WellIndexed.left {s : LogicShard F} (h : WellIndexed s) {uid roomId : Nat}
    {r r' : DungeonRoom F} {events : List (ShardEvent F)}
    (huid : s.uidToRoom.lookup uid = some roomId) (hr : s.rooms.lookup roomId = some r)
    (hothers : 0 < (r.removePlayer uid).1.players.size) (hleave : LeaveMove uid r events r') :
    WellIndexed (LogicShard.putRoom { s with uidToRoom := s.uidToRoom.erase uid }
      roomId r') := by
  have hold := h.shapes roomId r hr
  rcases hleave.frame with ⟨hid, _, hplayers, _, _⟩
  have hshape := hleave.shape hold ((h.member hr uid).mpr huid) hothers
  refine ⟨?_, h.shapes.insert hshape, ?_, h.count⟩
  · intro v k
    apply h.index_write
    intro v k
    change (s.uidToRoom.erase uid).lookup v = some k <-> _
    rw [WellIndexed.index_leave, hplayers, AList.mem_erase, h.member hr v]
    split
    · rename_i hk
      rw [hk]
    · rename_i hk
      constructor
      · exact And.right
      · intro hv
        refine ⟨?_, hv⟩
        intro heq
        rw [heq, huid] at hv
        injection hv with hkk
        exact hk hkk.symm
  · apply Table.AllAt.insert h.ids
    exact ⟨hid.trans (h.ids roomId r hr).left, (h.ids roomId r hr).right⟩

omit [Scalar F] in
theorem WellIndexed.vanished {s : LogicShard F} (h : WellIndexed s) {uid roomId : Nat}
    {r : DungeonRoom F} (huid : s.uidToRoom.lookup uid = some roomId)
    (hr : s.rooms.lookup roomId = some r)
    (hempty : (r.removePlayer uid).1.players.size = 0) :
    WellIndexed { s with
      uidToRoom := s.uidToRoom.erase uid
      rooms := s.rooms.erase roomId } := by
  have hmem := (h.member hr uid).mpr huid
  refine ⟨?_, h.shapes.erase roomId, h.ids.erase roomId, h.count⟩
  intro v k
  apply h.index_drop
  intro v k
  rw [WellIndexed.index_leave]
  have honly : forall w, s.uidToRoom.lookup w = some roomId -> w = uid := by
    intro w hw
    by_contra hne
    have hstill : w ∈ (r.removePlayer uid).1.players := by
      change w ∈ r.players.erase uid
      rw [AList.mem_erase]
      exact ⟨hne, (h.member hr w).mpr hw⟩
    exact Table.size_eq_zero_iff.mp hempty w hstill
  constructor
  · rintro ⟨hne, hv⟩
    refine ⟨?_, hv⟩
    intro hk
    rw [hk] at hv
    exact hne (honly v hv)
  · rintro ⟨hk, hv⟩
    refine ⟨?_, hv⟩
    intro heq
    rw [heq, huid] at hv
    injection hv with hkk
    exact hk hkk.symm

/-- Every move keeps the index and the rooms in agreement. -/
theorem ShardMove.wellIndexed {p : Policy F}
    {s s' : LogicShard F}
    {events : List (ShardEvent F)} (h : WellIndexed s)
    (hmove : ShardMove p s events s') : WellIndexed s' := by
  cases hmove with
  | route routes => exact ⟨h.index, h.shapes, h.ids, h.count⟩
  | talk _ => exact h
  | create roomName maxPlayers huid _ => exact h.created huid roomName maxPlayers
  | enter huid hr hfits _ => exact h.entered huid hr hfits
  | touch huid hr => exact h.touched huid hr
  | @refresh roomId r hr =>
      exact h.put hr (h.shapes roomId r hr) rfl fun _ => Iff.rfl
  | @inner roomId r r' events hr hinner =>
      have hold := h.shapes roomId r hr
      have hkept := (hinner.kept hold.keyed).1
      exact h.put hr (hinner.shape hold) hkept.roomId hkept.players
  | leave huid hr hothers _ hleave => exact h.left huid hr hothers hleave
  | vanish huid hr hempty => exact h.vanished huid hr hempty

/-- Every sequence of moves keeps the index and the rooms in agreement. -/
theorem WellIndexed.moves {p : Policy F}
    {s s' : LogicShard F} {events : List (ShardEvent F)} (h : WellIndexed s)
    (hmoves : Moves (ShardMove p) s events s') : WellIndexed s' :=
  hmoves.preserves WellIndexed
    (fun _ _ _ hs hmove => ShardMove.wellIndexed hs hmove) h

end RtsGame
