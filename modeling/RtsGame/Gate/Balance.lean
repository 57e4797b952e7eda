import RtsGame.Gate.ConnPool
import RtsGame.Library.RoundRobin

/-!
# Every connection gets its share

The pool hands each message to the next connection that is available.  Connections come and
go between the messages, so the rounds are never the same twice.  Still no connection that is
available whenever there is a message is passed over in favour of another one.
-/

namespace RtsGame

namespace GameServerConnPool

variable {packet : Type}

/-- The slots that a message finds available. -/
def ready (pool : GameServerConnPool packet) (slot : Nat) : Bool :=
  isConnAvailable (pool.conn slot)

/-- The slot whose connection a message is handed to. -/
def handedTo (pool : GameServerConnPool packet) : Option Nat :=
  pool.selectConnUnsafe.2.bind fun number => pool.created[number]?.map PoolConn.slot

/-- A pool that reports for every message where it goes. -/
def reports (pool : GameServerConnPool packet) (input : PoolInput packet) :
    GameServerConnPool packet × List (Option Nat) :=
  (pool.next input,
    match input with
    | PoolInput.posts _ => [pool.handedTo]
    | _ => [])

/-- If there is a message, then the connection in the slot is available for it. -/
def ReadyAt (slot : Nat) (pool : GameServerConnPool packet) : PoolInput packet -> Prop
  | PoolInput.posts _ => pool.ready slot = true
  | _ => True

instance (slot : Nat) (pool : GameServerConnPool packet) (input : PoolInput packet) :
    Decidable (ReadyAt slot pool input) :=
  match input with
  | PoolInput.posts _ => inferInstanceAs (Decidable (pool.ready slot = true))
  | PoolInput.session _ _ => isTrue trivial
  | PoolInput.detects => isTrue trivial

/-!
## One message
-/

section Selection

variable {pool : GameServerConnPool packet}

theorem selectFrom_sweep (tries rrIdx : Nat) :
    pool.selectFrom tries rrIdx =
      ((sweep pool.connCnt pool.ready tries rrIdx).1,
        (sweep pool.connCnt pool.ready tries rrIdx).2.bind fun slot =>
          pool.sessions[slot]?.join) := by
  induction tries generalizing rrIdx with
  | zero => rfl
  | succ tries ih =>
      unfold selectFrom sweep
      dsimp only
      change (if pool.ready (rrIdx % pool.connCnt) = true then _ else _) = _
      split
      · rfl
      · exact ih (rrIdx + 1)

/-- A slot that is available holds a connection that was made for it. -/
theorem Pooled.ready_slot (h : Pooled pool) {slot : Nat} (hready : pool.ready slot = true) :
    exists number c, pool.sessions[slot]? = some (some number) ∧
      pool.created[number]? = some c ∧ c.slot = slot := by
  unfold ready conn at hready
  split at hready
  · rename_i number hslot
    rcases h.current hslot with ⟨c, hc, hown⟩
    exact ⟨number, c, hslot, hc, hown⟩
  · cases hready

/-- A message goes where the sweep over the slots stops. -/
theorem Pooled.handedTo_eq (h : Pooled pool) :
    pool.handedTo = (sweep pool.connCnt pool.ready pool.connCnt pool.rrIdx).2 := by
  unfold handedTo selectConnUnsafe
  rw [selectFrom_sweep]
  dsimp only
  cases hfound : (sweep pool.connCnt pool.ready pool.connCnt pool.rrIdx).2 with
  | none => rfl
  | some slot =>
      rcases h.ready_slot (sweep_ready hfound) with ⟨number, c, hslot, hc, hown⟩
      dsimp only [Option.bind_some]
      rw [hslot]
      dsimp only [Option.join_some, Option.bind_some]
      rw [hc, Option.map_some, hown]

theorem postMessage_cursor (pool : GameServerConnPool packet) (p : packet) :
    (pool.postMessage p).1.rrIdx =
        (sweep pool.connCnt pool.ready pool.connCnt pool.rrIdx).1 ∧
      (pool.postMessage p).1.connCnt = pool.connCnt := by
  have hselected : pool.selectConnUnsafe.1.rrIdx =
      (sweep pool.connCnt pool.ready pool.connCnt pool.rrIdx).1 := by
    unfold selectConnUnsafe
    rw [selectFrom_sweep]
  unfold postMessage
  dsimp only
  split
  · exact ⟨hselected, rfl⟩
  · exact ⟨hselected, rfl⟩

theorem detectSlot_cursor (pool : GameServerConnPool packet) (slot : Nat) :
    (pool.detectSlot slot).rrIdx = pool.rrIdx ∧
      (pool.detectSlot slot).connCnt = pool.connCnt := by
  have hclose : (pool.closeSlot slot).rrIdx = pool.rrIdx ∧
      (pool.closeSlot slot).connCnt = pool.connCnt := by
    unfold closeSlot
    split
    · exact ⟨rfl, rfl⟩
    · exact ⟨rfl, rfl⟩
  unfold detectSlot
  split
  · exact ⟨rfl, rfl⟩
  · exact hclose

theorem detection_cursor (pool : GameServerConnPool packet) :
    pool.detection.rrIdx = pool.rrIdx ∧ pool.detection.connCnt = pool.connCnt := by
  unfold detection
  refine List.foldlRecOn (motive := fun later : GameServerConnPool packet =>
    later.rrIdx = pool.rrIdx ∧ later.connCnt = pool.connCnt) _ _ ⟨rfl, rfl⟩ ?_
  intro later hlater slot _
  have hslot := detectSlot_cursor later slot
  exact ⟨hslot.left.trans hlater.left, hslot.right.trans hlater.right⟩

theorem next_connCnt (pool : GameServerConnPool packet) (input : PoolInput packet) :
    (pool.next input).connCnt = pool.connCnt := by
  cases input with
  | session number input => rfl
  | posts p => exact (postMessage_cursor pool p).right
  | detects => exact (detection_cursor pool).right

theorem run_connCnt (n : Nat) (inputs : List (PoolInput packet)) :
    ((init n).run inputs).connCnt = n := by
  have hinit : (init n : GameServerConnPool packet).connCnt = n :=
    List.foldlRecOn (motive := fun pool : GameServerConnPool packet => pool.connCnt = n) _ _ rfl
      fun _ hpool _ _ => hpool
  exact List.foldlRecOn (motive := fun pool : GameServerConnPool packet => pool.connCnt = n) _ _
    hinit fun pool hpool input _ => (next_connCnt pool input).trans hpool

end Selection

/-!
## Runs
-/

/-- The messages of a run are served in turn, each by the slots that it finds available. -/
theorem Pooled.reports_serve {pool : GameServerConnPool packet} (h : Pooled pool)
    (inputs : List (PoolInput packet)) :
    exists requests, (runMachine reports pool inputs).2 =
        serve pool.connCnt pool.rrIdx requests ∧
      forall slot, Along reports (ReadyAt slot) pool inputs ->
        forall found, found ∈ requests -> found slot = true := by
  induction inputs generalizing pool with
  | nil =>
      refine ⟨[], rfl, ?_⟩
      intro slot _ found hfound
      cases hfound
  | cons input rest ih =>
      rcases ih (h.next input).left with ⟨requests, hserved, hready⟩
      cases input with
      | session number input =>
          refine ⟨requests, hserved, ?_⟩
          intro slot hall
          exact hready slot hall.right
      | detects =>
          have hcursor := detection_cursor pool
          change (runMachine reports pool.detection rest).2 =
            serve pool.detection.connCnt pool.detection.rrIdx requests at hserved
          rw [hcursor.left, hcursor.right] at hserved
          refine ⟨requests, hserved, ?_⟩
          intro slot hall
          exact hready slot hall.right
      | posts p =>
          have hcursor := postMessage_cursor pool p
          change (runMachine reports (pool.postMessage p).1 rest).2 =
            serve (pool.postMessage p).1.connCnt (pool.postMessage p).1.rrIdx requests
            at hserved
          rw [hcursor.left, hcursor.right] at hserved
          refine ⟨pool.ready :: requests, ?_, ?_⟩
          · change pool.handedTo :: (runMachine reports (pool.postMessage p).1 rest).2 = _
            rw [hserved, h.handedTo_eq]
            rfl
          · intro slot hall found hfound
            rcases List.mem_cons.mp hfound with hfirst | hlater
            · rw [hfirst]
              exact hall.left
            · exact hready slot hall.right found hlater

/--
In every run of a pool, over any window of it, however connections come and go: if the
connection in a slot is available for every message of the window, then every message is
handed to some connection, and no slot is handed more than one message more than this one.
-/
theorem run_balanced (n : Nat) (before window : List (PoolInput packet)) (slot : Nat)
    (hslot : slot < n)
    (hready : Along reports (ReadyAt slot) ((init n).run before) window) :
    let handed := (runMachine reports ((init n).run before) window).2
    none ∉ handed ∧
      forall other, other < n ->
        handed.count (some other) ≤ handed.count (some slot) + 1 := by
  intro handed
  have hpooled := ((pooled_init n).run before).left
  rcases hpooled.reports_serve window with ⟨requests, hserved, hall⟩
  rw [run_connCnt] at hserved
  have hfair := serve_fair hslot (hall slot hready) ((init n).run before).rrIdx
  rw [← hserved] at hfair
  exact hfair

/-!
## The cursor is a word

`rr_idx_` starts over after `2 ^ 64` messages.  The number of connections divides that, so
nobody can tell.
-/

/-- The pool with its cursor in a word of 64 bits. -/
def wrapped (pool : GameServerConnPool packet) : GameServerConnPool packet :=
  { pool with rrIdx := pool.rrIdx % 2 ^ 64 }

/-- A pool whose cursor is wrapped after every step. -/
def wrappedReports (pool : GameServerConnPool packet) (input : PoolInput packet) :
    GameServerConnPool packet × List (Option Nat) :=
  ((pool.next input).wrapped, (pool.reports input).2)

section Words

variable {pool : GameServerConnPool packet}

theorem wrapped_wrapped (pool : GameServerConnPool packet) :
    pool.wrapped.wrapped = pool.wrapped := by
  unfold wrapped
  rw [Nat.mod_mod]

theorem wrapped_detectSlot (pool : GameServerConnPool packet) (slot : Nat) :
    pool.wrapped.detectSlot slot = (pool.detectSlot slot).wrapped := by
  have hclose : pool.wrapped.closeSlot slot = (pool.closeSlot slot).wrapped := by
    have hsame : pool.wrapped.sessions[slot]? = pool.sessions[slot]? := rfl
    unfold closeSlot
    rw [hsame]
    cases pool.sessions[slot]? with
    | none => rfl
    | some held =>
        cases held with
        | none => rfl
        | some number => rfl
  unfold detectSlot
  change (if isConnPendingOrAvailable (pool.conn slot) = true then pool.wrapped
    else (pool.wrapped.closeSlot slot).fillSlot slot) = _
  rw [hclose]
  split
  · rfl
  · rfl

theorem wrapped_detection (pool : GameServerConnPool packet) :
    pool.wrapped.detection = pool.detection.wrapped := by
  unfold detection
  change (List.range pool.connCnt).foldl detectSlot pool.wrapped = _
  induction List.range pool.connCnt generalizing pool with
  | nil => rfl
  | cons slot rest ih =>
      rw [List.foldl_cons, List.foldl_cons, wrapped_detectSlot]
      exact ih (pool.detectSlot slot)

/-- Both cursors select the same connection, and agree on where to go on. -/
theorem wrapped_select (hcount : pool.connCnt ∣ 2 ^ 64) :
    pool.wrapped.selectConnUnsafe.2 = pool.selectConnUnsafe.2 ∧
      pool.wrapped.selectConnUnsafe.1.wrapped = pool.selectConnUnsafe.1.wrapped := by
  have hsweep := @sweep_mod pool.connCnt pool.ready (2 ^ 64) hcount pool.connCnt pool.rrIdx
  unfold selectConnUnsafe
  rw [selectFrom_sweep, selectFrom_sweep]
  change (_, (sweep pool.connCnt pool.ready pool.connCnt (pool.rrIdx % 2 ^ 64)).2.bind
    fun slot => pool.sessions[slot]?.join).2 = _ ∧
      ({ pool with rrIdx := (sweep pool.connCnt pool.ready pool.connCnt
        (pool.rrIdx % 2 ^ 64)).1 % 2 ^ 64 } : GameServerConnPool packet) = _
  rw [hsweep.left, hsweep.right]
  exact ⟨rfl, rfl⟩

theorem wrapped_postMessage (hcount : pool.connCnt ∣ 2 ^ 64) (p : packet) :
    (pool.wrapped.postMessage p).1.wrapped = (pool.postMessage p).1.wrapped := by
  rcases wrapped_select hcount with ⟨hsame, hcursor⟩
  unfold postMessage
  dsimp only
  rw [hsame]
  split
  · exact hcursor
  · rename_i number _
    exact congrArg (fun later : GameServerConnPool packet =>
      later.modifyConn number fun s => s.sendData p) hcursor

/-- One step with either cursor. -/
theorem wrappedReports_wrapped (hcount : pool.connCnt ∣ 2 ^ 64) (input : PoolInput packet) :
    pool.wrapped.wrappedReports input =
      ((pool.next input).wrapped, (pool.reports input).2) := by
  cases input with
  | session number input =>
      have hsame := wrapped_wrapped (pool.modifyConn number fun s => s.next input)
      exact congrArg (fun later => (later, [])) hsame
  | detects =>
      change (pool.wrapped.detection.wrapped, []) = (pool.detection.wrapped, [])
      rw [wrapped_detection, wrapped_wrapped]
  | posts p =>
      have hhanded : pool.wrapped.handedTo = pool.handedTo :=
        congrArg (fun found : Option Nat => found.bind fun number =>
          pool.created[number]?.map PoolConn.slot) (wrapped_select hcount).left
      change ((pool.wrapped.postMessage p).1.wrapped, [pool.wrapped.handedTo]) =
        ((pool.postMessage p).1.wrapped, [pool.handedTo])
      rw [wrapped_postMessage hcount, hhanded]

/-- In every run the cursor of 64 bits hands every message to the same connection. -/
theorem run_wrapped (hcount : pool.connCnt ∣ 2 ^ 64) (inputs : List (PoolInput packet)) :
    runMachine wrappedReports pool.wrapped inputs =
      ((pool.run inputs).wrapped, (runMachine reports pool inputs).2) := by
  induction inputs generalizing pool with
  | nil => rfl
  | cons input rest ih =>
      have hnext : (pool.next input).connCnt ∣ 2 ^ 64 := by
        rw [next_connCnt]
        exact hcount
      unfold runMachine
      rw [wrappedReports_wrapped hcount]
      dsimp only
      rw [ih hnext]
      rfl

end Words

/-- Two of three connections come up. -/
def twoConnect : List (PoolInput Unit) :=
  [PoolInput.session 0 (ClientSession.ClientInput.connectRuns ConfigResult.usable () ()),
    PoolInput.session 0 (ClientSession.ClientInput.connectEnds true),
    PoolInput.session 0 (ClientSession.ClientInput.connectRuns ConfigResult.usable () ()),
    PoolInput.session 2 (ClientSession.ClientInput.connectRuns ConfigResult.usable () ()),
    PoolInput.session 2 (ClientSession.ClientInput.connectEnds true),
    PoolInput.session 2 (ClientSession.ClientInput.connectRuns ConfigResult.usable () ())]

theorem twoConnect_balanced :
    let handed := (runMachine reports ((init 3).run twoConnect)
      (List.replicate 5 (PoolInput.posts ()))).2
    handed = [some 0, some 2, some 0, some 2, some 0] ∧
      handed.count (some 2) ≤ handed.count (some 0) + 1 :=
  ⟨by decide +kernel,
    (run_balanced 3 twoConnect (List.replicate 5 (PoolInput.posts ())) 0 (by decide)
      (by decide +kernel)).right 2 (by decide)⟩

end GameServerConnPool

end RtsGame
