import RtsGame.Gate.Indexes

/-!
# Heartbeats of the clients

Every session of the gateway has a timer.  `start_heartbeat` waits for it, every packet
cancels it and so lets the wait begin anew, and when it runs out the session is closed.  The
gateway gets a clock and these timers here.  Nothing is assumed about how long a handler has
to wait for its turn: a session may be closed although a packet was handled after its timer
ran out, but not if one was handled in the thirty seconds before.
-/

namespace RtsGame

namespace Frontend

variable {F : Type} {codec : Codec Bytes F}

/-!
## Sessions open when they are accepted
-/

/-- No session is made, and none opens. -/
structure NoneOpens (f f' : Frontend F) : Prop where
  count : f'.cluster.sessionCount = f.cluster.sessionCount
  opened : forall c, f'.isOpen c = true -> f.isOpen c = true

theorem NoneOpens.of_tables {f f' : Frontend F}
    (h : Cluster.SameTables f.cluster f'.cluster) : NoneOpens f f' := by
  refine ⟨h.sessionCount, ?_⟩
  intro c hopen
  exact (h.isOpen c).symm.trans hopen

theorem noneOpens_of_close (cc : ClientCodec codec) {f f' : Frontend F} {c : Nat}
    (h : f'.cluster = Cluster.closeSession cc.toGateCodec f.cluster c) : NoneOpens f f' := by
  cases hopen : (f.cluster.sessions c).isOpen with
  | false =>
      rw [Cluster.closeSession_idle cc.toGateCodec hopen] at h
      apply NoneOpens.of_tables
      rw [h]
      exact Cluster.SameTables.refl _
  | true =>
      have hsessions := Cluster.closeSession_session cc.toGateCodec hopen
      have htables := Cluster.closeSession_tables cc.toGateCodec hopen
      refine ⟨?_, ?_⟩
      · rw [h, htables.sessionCount]
        exact (Cluster.unregister_tables f.cluster _ c).left
      · intro d hd
        unfold isOpen at hd ⊢
        rw [h, (hsessions d).left] at hd
        split at hd
        · cases hd
        · exact hd

theorem handleMsg_noneOpens (cc : ClientCodec codec) (lh : LoginHash) (f : Frontend F)
    (c : Nat) (msgId : UInt16) (body : Bytes) :
    NoneOpens f (handleMsg cc lh f c msgId body) := by
  have hsame : NoneOpens f f := ⟨rfl, fun _ h => h⟩
  unfold handleMsg
  split
  · exact hsame
  · exact hsame
  · split
    · exact hsame
    · rename_i account token _
      have hown : Cluster.Owns lh c (makeLoginUid lh.hash c account token) :=
        ⟨account, token, rfl⟩
      rcases Cluster.bindUid_sessions f.cluster c hown.ne_zero with ⟨hsessions, hcount, _⟩
      refine ⟨hcount, ?_⟩
      intro d hd
      change ((f.cluster.bindUid c _).sessions d).isOpen = true at hd
      rw [hsessions] at hd
      by_cases hdc : d = c
      · subst hdc
        rw [Function.update_self] at hd
        exact hd
      · rw [Function.update_of_ne hdc] at hd
        exact hd
  · exact NoneOpens.of_tables (Cluster.forward_tables cc.toGateCodec f.cluster c _ body)

theorem handleRead_noneOpens (cc : ClientCodec codec) (lh : LoginHash) (f : Frontend F)
    (c : Nat) : NoneOpens f (handleRead cc lh f c) := by
  rcases handleRead_cases cc lh f c with
    ⟨msgId, body, _, hcluster⟩ | ⟨_, hsame | hclosed⟩
  · have hmsg := handleMsg_noneOpens cc lh f c msgId body
    refine ⟨?_, ?_⟩
    · rw [hcluster]
      exact hmsg.count
    · intro d hd
      unfold isOpen at hd
      rw [hcluster] at hd
      exact hmsg.opened d hd
  · apply NoneOpens.of_tables
    rw [hsame]
    exact Cluster.SameTables.refl _
  · exact noneOpens_of_close cc hclosed

variable [Scalar F]

theorem next_noneOpens (cc : ClientCodec codec) (lh : LoginHash) (f : Frontend F)
    (input : FrontendInput) (h : forall w, input ≠ FrontendInput.accepts w) :
    NoneOpens f (next cc lh f input) := by
  have hsame : NoneOpens f f := ⟨rfl, fun _ h => h⟩
  cases input with
  | accepts w => exact absurd rfl (h w)
  | sends c bytes => exact ⟨rfl, fun _ h => h⟩
  | readEnds c =>
      change NoneOpens f (f.readEnds c)
      unfold readEnds
      split
      · exact hsame
      · split
        · exact hsame
        · exact ⟨rfl, fun _ h => h⟩
  | readBreaks c => exact ⟨rfl, fun _ h => h⟩
  | readRuns c => exact handleRead_noneOpens cc lh f c
  | closes c => exact noneOpens_of_close cc (close_cluster cc f c)
  | backend input =>
      simp only [next]
      split
      · rename_i hinput
        exact NoneOpens.of_tables (Cluster.backend_tables _ lh f.cluster input hinput)
      · exact hsame

end Frontend

/-!
## Timers
-/

/-- `HEART_TIMEOUT`, in the nanoseconds of the steady clock. -/
def heartTimeout : Nat := 30000000000

/-- Where `start_heartbeat` is suspended. -/
inductive HeartPoint where
  | returned
  | spawned
  | waiting (deadline : Nat)
  | expired
  | aborted
  | failed
deriving DecidableEq, Repr

namespace HeartPoint

/-- `timer_.cancel`: what has run out stays so. -/
def cancel : HeartPoint -> HeartPoint
  | waiting _ => aborted
  | point => point

def fault : HeartPoint -> HeartPoint
  | waiting _ => failed
  | point => point

/-- Until then nothing has to happen. -/
def sleepsUntil (time : Nat) : HeartPoint -> Bool
  | returned => true
  | waiting deadline => time ≤ deadline
  | _ => false

theorem cancel_ne_waiting (point : HeartPoint) (deadline : Nat) :
    point.cancel ≠ waiting deadline := by
  cases point with
  | _ => exact fun h => by cases h

end HeartPoint

inductive HeartSign where
  | starts
  | packet
  | expires
  | timesOut
deriving DecidableEq, Repr

/-- Something that happened to a session, with the time. -/
structure HeartEvent where
  session : Nat
  time : Nat
  sign : HeartSign
deriving DecidableEq, Repr

/-- The client has connected or has sent a packet. -/
def HeartEvent.isLife (e : HeartEvent) : Bool :=
  e.sign = HeartSign.starts || e.sign = HeartSign.packet

/-- A gateway, the time, and the timers of its sessions. -/
structure TimedFrontend (F : Type) where
  front : Frontend F
  now : Nat
  hearts : Nat -> HeartPoint

/--
Time passes, a timer runs out or breaks, or `start_heartbeat` has its turn.  The rest is what
happens without the timers; there a session is closed by a failed write only.
-/
inductive TimedInput where
  | passes (elapsed : Nat)
  | expires (session : Nat)
  | breaks (session : Nat)
  | heartRuns (session : Nat)
  | front (input : Frontend.FrontendInput)

namespace TimedFrontend

open Frontend

variable {F : Type} {codec : Codec Bytes F}

def create (workShardCount netShardCount logicShardCount now : Nat) : TimedFrontend F :=
  ⟨Frontend.create workShardCount netShardCount logicShardCount, now,
    fun _ => HeartPoint.returned⟩

def setHeart (t : TimedFrontend F) (c : Nat) (point : HeartPoint) : TimedFrontend F :=
  { t with hearts := Function.update t.hearts c point }

def cancelHeart (t : TimedFrontend F) (c : Nat) : TimedFrontend F :=
  t.setHeart c (t.hearts c).cancel

/-- `Csession::close`, which the heartbeat and failed reads and writes call. -/
def closed (t : TimedFrontend F) (f : Frontend F) (c : Nat) : TimedFrontend F :=
  if t.front.isOpen c && !f.isOpen c then { t with front := f }.cancelHeart c
  else { t with front := f }

/-- The head of the loop of `start_heartbeat`. -/
def armHeart (t : TimedFrontend F) (c : Nat) : TimedFrontend F :=
  if t.front.isOpen c then t.setHeart c (HeartPoint.waiting (t.now + heartTimeout))
  else t.setHeart c HeartPoint.returned

/-- `start_heartbeat` goes on after its wait. -/
def startHeartbeat (cc : ClientCodec codec) (t : TimedFrontend F) (c : Nat) :
    TimedFrontend F × List HeartEvent :=
  match t.hearts c with
  | HeartPoint.returned => (t, [])
  | HeartPoint.waiting _ => (t, [])
  | HeartPoint.expired =>
      ((t.closed (close cc t.front c) c).setHeart c HeartPoint.returned,
        if t.front.isOpen c then [⟨c, t.now, HeartSign.timesOut⟩] else [])
  | _ => (t.armHeart c, [])

/-- The timer runs out, if it is time. -/
def expire (t : TimedFrontend F) (c : Nat) : TimedFrontend F × List HeartEvent :=
  match t.hearts c with
  | HeartPoint.waiting deadline =>
      if deadline ≤ t.now then
        (t.setHeart c HeartPoint.expired, [⟨c, t.now, HeartSign.expires⟩])
      else (t, [])
  | _ => (t, [])

/-- A session is accepted and started. -/
def accept (t : TimedFrontend F) (w : Nat) : TimedFrontend F × List HeartEvent :=
  if w < t.front.cluster.workShardCount then
    ({ t with front := t.front.accept w }.setHeart t.front.cluster.sessionCount
        HeartPoint.spawned,
      [⟨t.front.cluster.sessionCount, t.now, HeartSign.starts⟩])
  else (t, [])

/-- A turn of `handle_read`: a packet that is complete cancels the timer. -/
def handleRead (cc : ClientCodec codec) (lh : LoginHash) (t : TimedFrontend F) (c : Nat) :
    TimedFrontend F × List HeartEvent :=
  let after := Frontend.handleRead cc lh t.front c
  match t.front.dispatched c with
  | some _ => ({ t with front := after }.cancelHeart c, [⟨c, t.now, HeartSign.packet⟩])
  | none => (t.closed after c, [])

variable [Scalar F]

def handle (cc : ClientCodec codec) (lh : LoginHash) (t : TimedFrontend F) :
    TimedInput -> TimedFrontend F × List HeartEvent
  | TimedInput.passes elapsed => ({ t with now := t.now + elapsed }, [])
  | TimedInput.expires c => t.expire c
  | TimedInput.breaks c => (t.setHeart c (t.hearts c).fault, [])
  | TimedInput.heartRuns c => startHeartbeat cc t c
  | TimedInput.front (FrontendInput.accepts w) => t.accept w
  | TimedInput.front (FrontendInput.readRuns c) => handleRead cc lh t c
  | TimedInput.front (FrontendInput.closes c) => (t.closed (close cc t.front c) c, [])
  | TimedInput.front input => ({ t with front := Frontend.next cc lh t.front input }, [])

def run (cc : ClientCodec codec) (lh : LoginHash)
    (workShardCount netShardCount logicShardCount now : Nat) (inputs : List TimedInput) :
    TimedFrontend F × List HeartEvent :=
  runMachine (handle cc lh) (create workShardCount netShardCount logicShardCount now) inputs

/-!
## Without the timers
-/

omit [Scalar F] in
theorem closed_front (t : TimedFrontend F) (f : Frontend F) (c : Nat) :
    (t.closed f c).front = f := by
  unfold closed
  split
  · rfl
  · rfl

/-- A step with timers is a step of the gateway, or nothing. -/
theorem handle_front (cc : ClientCodec codec) (lh : LoginHash) (t : TimedFrontend F)
    (input : TimedInput) :
    exists plain, (handle cc lh t input).1.front =
      (runMachine (Frontend.handle cc lh) t.front plain).1 := by
  have hsame : exists plain,
      t.front = (runMachine (Frontend.handle cc lh) t.front plain).1 := ⟨[], rfl⟩
  cases input with
  | passes elapsed => exact hsame
  | breaks c => exact hsame
  | expires c =>
      change exists plain, (t.expire c).1.front = _
      unfold expire
      split
      · split
        · exact hsame
        · exact hsame
      · exact hsame
  | heartRuns c =>
      change exists plain, (startHeartbeat cc t c).1.front = _
      unfold startHeartbeat
      split
      · exact hsame
      · exact hsame
      · exact ⟨[FrontendInput.closes c], closed_front t _ c⟩
      · unfold armHeart
        split
        · exact hsame
        · exact hsame
  | front input =>
      refine ⟨[input], ?_⟩
      cases input with
      | accepts w =>
          change (t.accept w).1.front = t.front.accept w
          unfold accept Frontend.accept
          split
          · rfl
          · rfl
      | readRuns c =>
          change (handleRead cc lh t c).1.front = Frontend.handleRead cc lh t.front c
          unfold handleRead
          dsimp only
          split
          · rfl
          · exact closed_front t _ c
      | closes c => exact closed_front t _ c
      | _ => rfl

/-- Every run with timers is a run of the gateway. -/
theorem run_front (cc : ClientCodec codec) (lh : LoginHash)
    (workShardCount netShardCount logicShardCount now : Nat) (inputs : List TimedInput) :
    exists plain, (run cc lh workShardCount netShardCount logicShardCount now inputs).1.front =
      (Frontend.run cc lh workShardCount netShardCount logicShardCount plain).1 := by
  have hall := runMachine_invariant
    (fun _ (t : TimedFrontend F) => exists plain, t.front =
      (Frontend.run cc lh workShardCount netShardCount logicShardCount plain).1)
    (fun _ t input h => by
      rcases h with ⟨plain, hplain⟩
      rcases handle_front cc lh t input with ⟨more, hmore⟩
      refine ⟨plain ++ more, ?_⟩
      rw [hmore, hplain, Frontend.run, Frontend.run, runMachine_append])
    [] (create workShardCount netShardCount logicShardCount now) ⟨[], rfl⟩ inputs
  exact hall

/-!
## What a step does to a timer
-/

/-- What a step does in which no time passes and no timer breaks. -/
inductive HeartStep (t t' : TimedFrontend F) : List HeartEvent -> Prop where
  | plain : t'.hearts = t.hearts -> NoneOpens t.front t'.front -> HeartStep t t' []
  | starts : t'.hearts = Function.update t.hearts t.front.cluster.sessionCount
      HeartPoint.spawned ->
      t'.front.cluster.sessionCount = t.front.cluster.sessionCount + 1 ->
      (forall c, t'.front.isOpen c = true ->
        t.front.isOpen c = true ∨ c = t.front.cluster.sessionCount) ->
      HeartStep t t' [⟨t.front.cluster.sessionCount, t.now, HeartSign.starts⟩]
  | expires (c deadline : Nat) : t.hearts c = HeartPoint.waiting deadline ->
      deadline ≤ t.now -> t'.hearts = Function.update t.hearts c HeartPoint.expired ->
      NoneOpens t.front t'.front -> HeartStep t t' [⟨c, t.now, HeartSign.expires⟩]
  | arms (c : Nat) : t.front.isOpen c = true ->
      (forall deadline, t.hearts c ≠ HeartPoint.waiting deadline) ->
      t.hearts c ≠ HeartPoint.expired ->
      t'.hearts = Function.update t.hearts c (HeartPoint.waiting (t.now + heartTimeout)) ->
      NoneOpens t.front t'.front -> HeartStep t t' []
  | packet (c : Nat) : t'.hearts = Function.update t.hearts c (t.hearts c).cancel ->
      NoneOpens t.front t'.front -> HeartStep t t' [⟨c, t.now, HeartSign.packet⟩]
  | closes (c : Nat) : t'.front.isOpen c = false ->
      t'.hearts = Function.update t.hearts c (t.hearts c).cancel ->
      NoneOpens t.front t'.front -> HeartStep t t' []
  | returns (c : Nat) : t'.front.isOpen c = false ->
      t'.hearts = Function.update t.hearts c HeartPoint.returned ->
      NoneOpens t.front t'.front -> HeartStep t t' []
  | timesOut (c : Nat) : t.hearts c = HeartPoint.expired -> t'.front.isOpen c = false ->
      t'.hearts = Function.update t.hearts c HeartPoint.returned ->
      NoneOpens t.front t'.front -> HeartStep t t' [⟨c, t.now, HeartSign.timesOut⟩]

omit [Scalar F] in
theorem HeartStep.idle (t : TimedFrontend F) : HeartStep t t [] :=
  HeartStep.plain rfl ⟨rfl, fun _ h => h⟩

omit [Scalar F] in
theorem closed_step (t : TimedFrontend F) {f : Frontend F} (c : Nat)
    (h : NoneOpens t.front f) : HeartStep t (t.closed f c) [] := by
  unfold closed
  split
  · rename_i hcloses
    rw [Bool.and_eq_true, Bool.not_eq_true'] at hcloses
    exact HeartStep.closes c hcloses.right rfl h
  · exact HeartStep.plain rfl h

omit [Scalar F] in
theorem close_isOpen (cc : ClientCodec codec) (f : Frontend F) (c : Nat) :
    (close cc f c).isOpen c = false := by
  unfold Frontend.isOpen
  rw [close_cluster]
  cases hopen : (f.cluster.sessions c).isOpen with
  | false =>
      rw [Cluster.closeSession_idle cc.toGateCodec hopen]
      exact hopen
  | true => rw [(Cluster.closeSession_session cc.toGateCodec hopen c).left, if_pos rfl]

omit [Scalar F] in
theorem startHeartbeat_step (cc : ClientCodec codec) (t : TimedFrontend F) (c : Nat) :
    HeartStep t (startHeartbeat cc t c).1 (startHeartbeat cc t c).2 := by
  have harm : (forall deadline, t.hearts c ≠ HeartPoint.waiting deadline) ->
      t.hearts c ≠ HeartPoint.expired -> HeartStep t (t.armHeart c) [] := by
    intro hwaiting hexpired
    unfold armHeart
    split
    · rename_i hopen
      exact HeartStep.arms c hopen hwaiting hexpired rfl ⟨rfl, fun _ h => h⟩
    · rename_i hclosed
      exact HeartStep.returns c (Bool.eq_false_iff.mpr hclosed) rfl ⟨rfl, fun _ h => h⟩
  cases hpoint : t.hearts c with
  | returned =>
      unfold startHeartbeat
      rw [hpoint]
      exact HeartStep.idle t
  | waiting deadline =>
      unfold startHeartbeat
      rw [hpoint]
      exact HeartStep.idle t
  | expired =>
      have hfront : ((t.closed (close cc t.front c) c).setHeart c
          HeartPoint.returned).front = close cc t.front c := closed_front t _ c
      have hclosed : ((t.closed (close cc t.front c) c).setHeart c
          HeartPoint.returned).front.isOpen c = false := by
        rw [hfront]
        exact close_isOpen cc t.front c
      have hnone : NoneOpens t.front ((t.closed (close cc t.front c) c).setHeart c
          HeartPoint.returned).front := by
        rw [hfront]
        exact noneOpens_of_close cc (close_cluster cc t.front c)
      have hhearts : ((t.closed (close cc t.front c) c).setHeart c
          HeartPoint.returned).hearts = Function.update t.hearts c HeartPoint.returned := by
        change Function.update (t.closed (close cc t.front c) c).hearts c _ = _
        unfold closed
        split
        · exact Function.update_idem _ _ _
        · rfl
      unfold startHeartbeat
      rw [hpoint]
      dsimp only
      split
      · exact HeartStep.timesOut c hpoint hclosed hhearts hnone
      · exact HeartStep.returns c hclosed hhearts hnone
  | spawned =>
      have hstep := harm (by simp [hpoint]) (by simp [hpoint])
      unfold startHeartbeat
      rw [hpoint]
      exact hstep
  | aborted =>
      have hstep := harm (by simp [hpoint]) (by simp [hpoint])
      unfold startHeartbeat
      rw [hpoint]
      exact hstep
  | failed =>
      have hstep := harm (by simp [hpoint]) (by simp [hpoint])
      unfold startHeartbeat
      rw [hpoint]
      exact hstep

omit [Scalar F] in
theorem closed_now (t : TimedFrontend F) (f : Frontend F) (c : Nat) :
    (t.closed f c).now = t.now := by
  unfold closed
  split
  · rfl
  · rfl

omit [Scalar F] in
theorem startHeartbeat_now (cc : ClientCodec codec) (t : TimedFrontend F) (c : Nat) :
    (startHeartbeat cc t c).1.now = t.now := by
  unfold startHeartbeat
  split
  · rfl
  · rfl
  · exact closed_now t _ c
  · unfold armHeart
    split
    · rfl
    · rfl

omit [Scalar F] in
theorem expire_step (t : TimedFrontend F) (c : Nat) :
    (t.expire c).1.now = t.now ∧ HeartStep t (t.expire c).1 (t.expire c).2 := by
  unfold expire
  split
  · rename_i deadline hwaiting
    split
    · rename_i hdue
      exact ⟨rfl, HeartStep.expires c deadline hwaiting hdue rfl ⟨rfl, fun _ h => h⟩⟩
    · exact ⟨rfl, HeartStep.idle t⟩
  · exact ⟨rfl, HeartStep.idle t⟩

omit [Scalar F] in
theorem accept_step (t : TimedFrontend F) (w : Nat) :
    (t.accept w).1.now = t.now ∧ HeartStep t (t.accept w).1 (t.accept w).2 := by
  unfold accept
  split
  · rename_i hw
    refine ⟨rfl, HeartStep.starts rfl ?_ ?_⟩
    · simp only [setHeart, Frontend.accept, hw, if_true, Cluster.accept]
    · intro c hopen
      by_cases hc : c = t.front.cluster.sessionCount
      · exact Or.inr hc
      · left
        simp only [setHeart, Frontend.accept, hw, if_true, Cluster.accept,
          Frontend.isOpen] at hopen
        rw [Function.update_of_ne hc] at hopen
        exact hopen
  · exact ⟨rfl, HeartStep.idle t⟩

omit [Scalar F] in
theorem handleRead_step (cc : ClientCodec codec) (lh : LoginHash) (t : TimedFrontend F)
    (c : Nat) :
    (handleRead cc lh t c).1.now = t.now ∧
      HeartStep t (handleRead cc lh t c).1 (handleRead cc lh t c).2 := by
  have hnone := handleRead_noneOpens cc lh t.front c
  unfold handleRead
  dsimp only
  split
  · exact ⟨rfl, HeartStep.packet c rfl hnone⟩
  · exact ⟨closed_now t _ c, closed_step t c hnone⟩

/-- Time passes, a timer breaks, or the step is one of those above. -/
theorem handle_cases (cc : ClientCodec codec) (lh : LoginHash) (t : TimedFrontend F)
    (input : TimedInput) :
    (exists elapsed, input = TimedInput.passes elapsed) ∨
      (exists c, input = TimedInput.breaks c) ∨
        (handle cc lh t input).1.now = t.now ∧
          HeartStep t (handle cc lh t input).1 (handle cc lh t input).2 := by
  have hplain : forall input, (forall w, input ≠ FrontendInput.accepts w) ->
      HeartStep t { t with front := Frontend.next cc lh t.front input } [] :=
    fun input h => HeartStep.plain rfl (next_noneOpens cc lh t.front input h)
  cases input with
  | passes elapsed => exact Or.inl ⟨elapsed, rfl⟩
  | breaks c => exact Or.inr (Or.inl ⟨c, rfl⟩)
  | expires c => exact Or.inr (Or.inr (expire_step t c))
  | heartRuns c =>
      exact Or.inr (Or.inr ⟨startHeartbeat_now cc t c, startHeartbeat_step cc t c⟩)
  | front input =>
      right
      right
      cases input with
      | accepts w => exact accept_step t w
      | readRuns c => exact handleRead_step cc lh t c
      | closes c =>
          exact ⟨closed_now t _ c,
            closed_step t c (noneOpens_of_close cc (close_cluster cc t.front c))⟩
      | sends c bytes => exact ⟨rfl, hplain _ (by simp)⟩
      | readEnds c => exact ⟨rfl, hplain _ (by simp)⟩
      | readBreaks c => exact ⟨rfl, hplain _ (by simp)⟩
      | backend input => exact ⟨rfl, hplain _ (by simp)⟩

/-!
## Never too early
-/

variable {past : List HeartEvent} {t t' : TimedFrontend F} {events : List HeartEvent}

/-- The timer of a session ran out when there had been no life for a whole timeout. -/
def RanOut (past : List HeartEvent) (c time : Nat) : Prop :=
  exists early expiry mid, past = early ++ ⟨c, expiry, HeartSign.expires⟩ :: mid ∧
    expiry ≤ time ∧ forall e, e ∈ early -> e.session = c -> e.isLife = true ->
      e.time + heartTimeout ≤ expiry

/-- Timers are set late enough, and sessions time out after their timers ran out. -/
structure Watched (past : List HeartEvent) (t : TimedFrontend F) : Prop where
  young : forall e, e ∈ past -> e.time ≤ t.now
  waits : forall c deadline, t.hearts c = HeartPoint.waiting deadline ->
    forall e, e ∈ past -> e.session = c -> e.isLife = true ->
      e.time + heartTimeout ≤ deadline
  expired : forall c, t.hearts c = HeartPoint.expired -> RanOut past c t.now
  ended : forall front c time back, past = front ++ ⟨c, time, HeartSign.timesOut⟩ :: back ->
    RanOut front c time

omit [Scalar F] in
theorem RanOut.mono {c time later : Nat} (h : RanOut past c time) (hlater : time ≤ later)
    (events : List HeartEvent) : RanOut (past ++ events) c later := by
  rcases h with ⟨early, expiry, mid, heq, hle, hlife⟩
  refine ⟨early, expiry, mid ++ events, ?_, Nat.le_trans hle hlater, hlife⟩
  rw [heq, List.append_assoc]
  rfl

omit [Scalar F] in
theorem HeartStep.now (h : HeartStep t t' events) : forall e, e ∈ events -> e.time = t.now := by
  intro e he
  cases h with
  | plain _ _ => cases he
  | arms _ _ _ _ _ _ => cases he
  | closes _ _ _ _ => cases he
  | returns _ _ _ _ => cases he
  | starts _ _ _ => rw [List.mem_singleton.mp he]
  | expires _ _ _ _ _ _ => rw [List.mem_singleton.mp he]
  | packet _ _ _ => rw [List.mem_singleton.mp he]
  | timesOut _ _ _ _ _ => rw [List.mem_singleton.mp he]

omit [Scalar F] in
/-- A timer that waits was set now, or waited before, and then there is no life. -/
theorem HeartStep.waits (h : HeartStep t t' events) {c deadline : Nat}
    (hc : t'.hearts c = HeartPoint.waiting deadline) :
    (t.hearts c = HeartPoint.waiting deadline ∧
      forall e, e ∈ events -> e.session = c -> e.isLife = false) ∨
      deadline = t.now + heartTimeout ∧ events = [] := by
  have hother : forall {d : Nat} {point : HeartPoint},
      t'.hearts = Function.update t.hearts d point -> point ≠ HeartPoint.waiting deadline ->
        c ≠ d ∧ t.hearts c = HeartPoint.waiting deadline := by
    intro d point hhearts hpoint
    rw [hhearts] at hc
    by_cases hcd : c = d
    · subst hcd
      rw [Function.update_self] at hc
      exact absurd hc hpoint
    · rw [Function.update_of_ne hcd] at hc
      exact ⟨hcd, hc⟩
  cases h with
  | plain hhearts _ =>
      rw [hhearts] at hc
      exact Or.inl ⟨hc, fun e he => by cases he⟩
  | starts hhearts _ _ =>
      rcases hother hhearts (by simp) with ⟨hcd, hsame⟩
      refine Or.inl ⟨hsame, fun e he heq => ?_⟩
      rw [List.mem_singleton.mp he] at heq
      exact absurd heq.symm hcd
  | expires d due _ _ hhearts _ =>
      rcases hother hhearts (by simp) with ⟨hcd, hsame⟩
      refine Or.inl ⟨hsame, fun e he _ => ?_⟩
      rw [List.mem_singleton.mp he]
      rfl
  | arms d _ _ _ hhearts _ =>
      rw [hhearts] at hc
      by_cases hcd : c = d
      · subst hcd
        rw [Function.update_self] at hc
        injection hc with heq
        exact Or.inr ⟨heq.symm, rfl⟩
      · rw [Function.update_of_ne hcd] at hc
        exact Or.inl ⟨hc, fun e he => by cases he⟩
  | packet d hhearts _ =>
      rcases hother hhearts (HeartPoint.cancel_ne_waiting _ _) with ⟨hcd, hsame⟩
      refine Or.inl ⟨hsame, fun e he heq => ?_⟩
      rw [List.mem_singleton.mp he] at heq
      exact absurd heq.symm hcd
  | closes d _ hhearts _ =>
      rcases hother hhearts (HeartPoint.cancel_ne_waiting _ _) with ⟨_, hsame⟩
      exact Or.inl ⟨hsame, fun e he => by cases he⟩
  | returns d _ hhearts _ =>
      rcases hother hhearts (by simp) with ⟨_, hsame⟩
      exact Or.inl ⟨hsame, fun e he => by cases he⟩
  | timesOut d _ _ hhearts _ =>
      rcases hother hhearts (by simp) with ⟨hcd, hsame⟩
      refine Or.inl ⟨hsame, fun e he _ => ?_⟩
      rw [List.mem_singleton.mp he]
      rfl

omit [Scalar F] in
/-- A timer that has run out did so now, or before. -/
theorem HeartStep.expired (h : HeartStep t t' events) {c : Nat}
    (hc : t'.hearts c = HeartPoint.expired) :
    t.hearts c = HeartPoint.expired ∨
      exists deadline, t.hearts c = HeartPoint.waiting deadline ∧ deadline ≤ t.now ∧
        events = [⟨c, t.now, HeartSign.expires⟩] := by
  have hother : forall {d : Nat} {point : HeartPoint},
      t'.hearts = Function.update t.hearts d point ->
        (point = HeartPoint.expired -> t.hearts d = HeartPoint.expired) ->
        t.hearts c = HeartPoint.expired := by
    intro d point hhearts hpoint
    rw [hhearts] at hc
    by_cases hcd : c = d
    · subst hcd
      rw [Function.update_self] at hc
      exact hpoint hc
    · rw [Function.update_of_ne hcd] at hc
      exact hc
  have hcancel : forall point : HeartPoint, point.cancel = HeartPoint.expired ->
      point = HeartPoint.expired := by
    intro point hpoint
    cases point with
    | expired => rfl
    | _ => cases hpoint
  cases h with
  | plain hhearts _ =>
      rw [hhearts] at hc
      exact Or.inl hc
  | starts hhearts _ _ => exact Or.inl (hother hhearts (by simp))
  | expires d deadline hwaiting hdue hhearts _ =>
      by_cases hcd : c = d
      · subst hcd
        exact Or.inr ⟨deadline, hwaiting, hdue, rfl⟩
      · rw [hhearts, Function.update_of_ne hcd] at hc
        exact Or.inl hc
  | arms d _ _ _ hhearts _ => exact Or.inl (hother hhearts (by simp))
  | packet d hhearts _ => exact Or.inl (hother hhearts (hcancel _))
  | closes d _ hhearts _ => exact Or.inl (hother hhearts (hcancel _))
  | returns d _ hhearts _ => exact Or.inl (hother hhearts (by simp))
  | timesOut d _ _ hhearts _ => exact Or.inl (hother hhearts (by simp))

omit [Scalar F] in
theorem HeartStep.timedOut (h : HeartStep t t' events) {c time : Nat}
    (he : ⟨c, time, HeartSign.timesOut⟩ ∈ events) :
    events = [⟨c, time, HeartSign.timesOut⟩] ∧ t.hearts c = HeartPoint.expired := by
  cases h with
  | plain _ _ => cases he
  | arms _ _ _ _ _ _ => cases he
  | closes _ _ _ _ => cases he
  | returns _ _ _ _ => cases he
  | starts _ _ _ => simp at he
  | expires _ _ _ _ _ _ => simp at he
  | packet _ _ _ => simp at he
  | timesOut d hexpired _ _ _ =>
      have heq := List.mem_singleton.mp he
      injection heq with hsession htime _
      subst hsession
      subst htime
      exact ⟨rfl, hexpired⟩

omit [Scalar F] in
theorem Watched.step (h : Watched past t) (hnow : t'.now = t.now)
    (hstep : HeartStep t t' events) : Watched (past ++ events) t' := by
  constructor
  · intro e he
    rw [hnow]
    rcases List.mem_append.mp he with hold | hnew
    · exact h.young e hold
    · exact Nat.le_of_eq (hstep.now e hnew)
  · intro c deadline hc e he hsession hlife
    rcases hstep.waits hc with ⟨hbefore, hquiet⟩ | ⟨hset, hnone⟩
    · rcases List.mem_append.mp he with hold | hnew
      · exact h.waits c deadline hbefore e hold hsession hlife
      · rw [hquiet e hnew hsession] at hlife
        cases hlife
    · rw [hnone, List.append_nil] at he
      rw [hset]
      exact Nat.add_le_add_right (h.young e he) _
  · intro c hc
    rcases hstep.expired hc with hbefore | ⟨deadline, hwaiting, hdue, hevents⟩
    · exact (h.expired c hbefore).mono (Nat.le_of_eq hnow.symm) events
    · refine ⟨past, t.now, [], by rw [hevents], Nat.le_of_eq hnow.symm, ?_⟩
      intro e he hsession hlife
      exact Nat.le_trans (h.waits c deadline hwaiting e he hsession hlife) hdue
  · intro front c time back heq
    rcases append_eq_cons_cases heq with ⟨mid, hpast, _⟩ | ⟨mid, hfront, hnew⟩
    · exact h.ended front c time mid hpast
    · have hmem : ⟨c, time, HeartSign.timesOut⟩ ∈ events := by
        rw [hnew]
        simp
      rcases hstep.timedOut hmem with ⟨hevents, hexpired⟩
      have hnone : mid = [] := by
        rw [hevents] at hnew
        rcases List.append_eq_singleton_iff.mp hnew.symm with ⟨hnone, _⟩ | ⟨_, hcons⟩
        · exact hnone
        · cases hcons
      have htime : time = t.now := hstep.now _ hmem
      rw [hfront, hnone, List.append_nil, htime]
      exact h.expired c hexpired

omit [Scalar F] in
theorem watched_create (workShardCount netShardCount logicShardCount now : Nat) :
    Watched [] (create workShardCount netShardCount logicShardCount now :
      TimedFrontend F) := by
  refine ⟨?_, ?_, ?_, ?_⟩
  · intro e he
    cases he
  · intro c deadline hc
    cases hc
  · intro c hc
    cases hc
  · intro front c time back heq
    simp at heq

theorem Watched.handle (cc : ClientCodec codec) (lh : LoginHash) (h : Watched past t)
    (input : TimedInput) :
    Watched (past ++ (handle cc lh t input).2) (handle cc lh t input).1 := by
  rcases handle_cases cc lh t input with ⟨elapsed, rfl⟩ | ⟨c, rfl⟩ | ⟨hnow, hstep⟩
  · change Watched (past ++ []) { t with now := t.now + elapsed }
    rw [List.append_nil]
    refine ⟨?_, h.waits, ?_, h.ended⟩
    · exact fun e he => Nat.le_trans (h.young e he) (Nat.le_add_right _ _)
    · intro c hc
      have hout := (h.expired c hc).mono (Nat.le_add_right t.now elapsed) []
      rw [List.append_nil] at hout
      exact hout
  · have hfault : forall d point, (t.setHeart c (t.hearts c).fault).hearts d = point ->
        point ≠ HeartPoint.failed -> t.hearts d = point := by
      intro d point hd hpoint
      change Function.update t.hearts c (t.hearts c).fault d = point at hd
      by_cases hdc : d = c
      · subst hdc
        rw [Function.update_self] at hd
        cases hheart : t.hearts d with
        | waiting deadline =>
            rw [hheart] at hd
            exact absurd hd.symm hpoint
        | _ =>
            rw [hheart] at hd
            exact hd
      · rw [Function.update_of_ne hdc] at hd
        exact hd
    change Watched (past ++ []) (t.setHeart c (t.hearts c).fault)
    rw [List.append_nil]
    refine ⟨h.young, ?_, ?_, h.ended⟩
    · exact fun d deadline hd => h.waits d deadline (hfault d _ hd (by simp))
    · exact fun d hd => h.expired d (hfault d _ hd (by simp))
  · exact h.step hnow hstep

/-!
## Never too late
-/

/-- Time passes only as long as nothing has to happen, and no timer breaks. -/
def Prompt (t : TimedFrontend F) : TimedInput -> Prop
  | TimedInput.passes elapsed => forall c, c < t.front.cluster.sessionCount ->
      (t.hearts c).sleepsUntil (t.now + elapsed) = true
  | TimedInput.breaks _ => False
  | _ => True

instance (t : TimedFrontend F) : forall input, Decidable (t.Prompt input)
  | TimedInput.passes elapsed =>
      inferInstanceAs (Decidable (forall c, c < t.front.cluster.sessionCount ->
        (t.hearts c).sleepsUntil (t.now + elapsed) = true))
  | TimedInput.breaks _ => isFalse id
  | TimedInput.expires _ => isTrue trivial
  | TimedInput.heartRuns _ => isTrue trivial
  | TimedInput.front _ => isTrue trivial

/-- How a timer stands when the last life was at the given time. -/
def Beats (now time : Nat) : HeartPoint -> Prop
  | HeartPoint.waiting deadline => deadline = time + heartTimeout ∧ now ≤ deadline
  | HeartPoint.expired => now ≤ time + heartTimeout
  | HeartPoint.spawned => time = now
  | HeartPoint.aborted => time = now
  | HeartPoint.returned => False
  | HeartPoint.failed => False

/-- The timer of every open session is set, or about to be set, for its last life. -/
structure Pulsing (past : List HeartEvent) (t : TimedFrontend F) : Prop where
  made : forall c, t.front.isOpen c = true -> c < t.front.cluster.sessionCount
  alive : forall c, t.front.isOpen c = true -> exists e, e ∈ past ∧ e.session = c ∧
    e.isLife = true ∧ Beats t.now e.time (t.hearts c)

theorem Beats.le {now time : Nat} {point : HeartPoint} (h : Beats now time point) :
    now ≤ time + heartTimeout := by
  cases point with
  | waiting deadline => exact h.left ▸ h.right
  | expired => exact h
  | spawned => exact Nat.le_trans (Nat.le_of_eq h.symm) (Nat.le_add_right _ _)
  | aborted => exact Nat.le_trans (Nat.le_of_eq h.symm) (Nat.le_add_right _ _)
  | returned => exact h.elim
  | failed => exact h.elim

/-- A packet keeps the session alive, whatever its timer was about to do. -/
theorem Beats.cancel {now time : Nat} {point : HeartPoint} (h : Beats now time point) :
    Beats now now point.cancel := by
  cases point with
  | waiting deadline => exact rfl
  | expired => exact Nat.le_add_right _ _
  | spawned => exact rfl
  | aborted => exact rfl
  | returned => exact h.elim
  | failed => exact h.elim

omit [Scalar F] in
theorem Pulsing.step (h : Pulsing past t) (hnow : t'.now = t.now)
    (hstep : HeartStep t t' events) : Pulsing (past ++ events) t' := by
  -- a session whose timer is left alone and that was open before
  have hkeeps : forall c, t.front.isOpen c = true -> t'.hearts c = t.hearts c ->
      exists e, e ∈ past ++ events ∧ e.session = c ∧ e.isLife = true ∧
        Beats t'.now e.time (t'.hearts c) := by
    intro c hopen hsame
    rcases h.alive c hopen with ⟨e, he, hsession, hlife, hbeats⟩
    rw [hnow, hsame]
    exact ⟨e, List.mem_append_left _ he, hsession, hlife, hbeats⟩
  have hmade : NoneOpens t.front t'.front ->
      forall c, t'.front.isOpen c = true -> c < t'.front.cluster.sessionCount := by
    intro hnone c hopen
    rw [hnone.count]
    exact h.made c (hnone.opened c hopen)
  -- a session that is closed now
  have hends : forall d point, t'.front.isOpen d = false ->
      t'.hearts = Function.update t.hearts d point -> NoneOpens t.front t'.front ->
        Pulsing (past ++ events) t' := by
    intro d point hclosed hhearts hnone
    refine ⟨hmade hnone, fun c hopen => ?_⟩
    have hc : c ≠ d := by
      rintro rfl
      cases hclosed.symm.trans hopen
    exact hkeeps c (hnone.opened c hopen) (by rw [hhearts, Function.update_of_ne hc])
  cases hstep with
  | plain hhearts hnone =>
      refine ⟨hmade hnone, fun c hopen => ?_⟩
      exact hkeeps c (hnone.opened c hopen) (by rw [hhearts])
  | starts hhearts hcount hopened =>
      constructor
      · intro c hopen
        rw [hcount]
        rcases hopened c hopen with hbefore | hnew
        · exact Nat.lt_succ_of_lt (h.made c hbefore)
        · exact Nat.lt_succ_of_le (Nat.le_of_eq hnew)
      · intro c hopen
        by_cases hc : c = t.front.cluster.sessionCount
        · subst hc
          refine ⟨_, List.mem_append_right _ (List.mem_singleton.mpr rfl), rfl, rfl, ?_⟩
          rw [hhearts, Function.update_self, hnow]
          exact rfl
        · rcases hopened c hopen with hbefore | hnew
          · exact hkeeps c hbefore (by rw [hhearts, Function.update_of_ne hc])
          · exact absurd hnew hc
  | expires d deadline hwaiting hdue hhearts hnone =>
      refine ⟨hmade hnone, fun c hopen => ?_⟩
      by_cases hc : c = d
      · subst hc
        rcases h.alive c (hnone.opened c hopen) with ⟨e, he, hsession, hlife, hbeats⟩
        refine ⟨e, List.mem_append_left _ he, hsession, hlife, ?_⟩
        rw [hhearts, Function.update_self, hnow]
        exact hbeats.le
      · exact hkeeps c (hnone.opened c hopen) (by rw [hhearts, Function.update_of_ne hc])
  | arms d hbefore hwaiting hexpired hhearts hnone =>
      refine ⟨hmade hnone, fun c hopen => ?_⟩
      by_cases hc : c = d
      · subst hc
        rcases h.alive c hbefore with ⟨e, he, hsession, hlife, hbeats⟩
        refine ⟨e, List.mem_append_left _ he, hsession, hlife, ?_⟩
        have hready : e.time = t.now := by
          cases hheart : t.hearts c with
          | waiting deadline => exact absurd hheart (hwaiting deadline)
          | expired => exact absurd hheart hexpired
          | spawned =>
              rw [hheart] at hbeats
              exact hbeats
          | aborted =>
              rw [hheart] at hbeats
              exact hbeats
          | returned =>
              rw [hheart] at hbeats
              exact hbeats.elim
          | failed =>
              rw [hheart] at hbeats
              exact hbeats.elim
        rw [hhearts, Function.update_self, hnow, hready]
        exact ⟨rfl, Nat.le_add_right _ _⟩
      · exact hkeeps c (hnone.opened c hopen) (by rw [hhearts, Function.update_of_ne hc])
  | packet d hhearts hnone =>
      refine ⟨hmade hnone, fun c hopen => ?_⟩
      by_cases hc : c = d
      · subst hc
        rcases h.alive c (hnone.opened c hopen) with ⟨e, _, _, _, hbeats⟩
        refine ⟨_, List.mem_append_right _ (List.mem_singleton.mpr rfl), rfl, rfl, ?_⟩
        rw [hhearts, Function.update_self, hnow]
        exact hbeats.cancel
      · exact hkeeps c (hnone.opened c hopen) (by rw [hhearts, Function.update_of_ne hc])
  | closes d hclosed hhearts hnone => exact hends d _ hclosed hhearts hnone
  | returns d hclosed hhearts hnone => exact hends d _ hclosed hhearts hnone
  | timesOut d _ hclosed hhearts hnone => exact hends d _ hclosed hhearts hnone

omit [Scalar F] in
theorem pulsing_create (workShardCount netShardCount logicShardCount now : Nat) :
    Pulsing [] (create workShardCount netShardCount logicShardCount now :
      TimedFrontend F) := by
  refine ⟨?_, ?_⟩
  · intro c hc
    cases hc
  · intro c hc
    cases hc

theorem Pulsing.handle (cc : ClientCodec codec) (lh : LoginHash) (h : Pulsing past t)
    {input : TimedInput} (hprompt : t.Prompt input) :
    Pulsing (past ++ (handle cc lh t input).2) (handle cc lh t input).1 := by
  rcases handle_cases cc lh t input with ⟨elapsed, rfl⟩ | ⟨c, rfl⟩ | ⟨hnow, hstep⟩
  · change Pulsing (past ++ []) { t with now := t.now + elapsed }
    rw [List.append_nil]
    refine ⟨h.made, fun c hopen => ?_⟩
    rcases h.alive c hopen with ⟨e, he, hsession, hlife, hbeats⟩
    refine ⟨e, he, hsession, hlife, ?_⟩
    have hsleeps := hprompt c (h.made c hopen)
    change Beats (t.now + elapsed) e.time (t.hearts c)
    cases hheart : t.hearts c with
    | waiting deadline =>
        rw [hheart] at hbeats hsleeps
        exact ⟨hbeats.left, of_decide_eq_true hsleeps⟩
    | returned =>
        rw [hheart] at hbeats
        exact hbeats.elim
    | _ =>
        rw [hheart] at hsleeps
        cases hsleeps
  · exact hprompt.elim
  · exact h.step hnow hstep

/--
In every run of a gateway, however late its handlers are: if the heartbeat closes a session,
then the timer of the session ran out before, and at that moment the client had not connected
or sent a packet for thirty seconds.  And if no handler of a timer is late and no timer
breaks, then every session that is open has connected or sent a packet in the last thirty
seconds.  Whatever the timers do, the gateway goes through one of its own runs.
-/
theorem run_heartbeats (cc : ClientCodec codec) (lh : LoginHash)
    (workShardCount netShardCount logicShardCount now : Nat) (inputs : List TimedInput) :
    let result := run cc lh workShardCount netShardCount logicShardCount now inputs
    (forall front c time back,
      result.2 = front ++ ⟨c, time, HeartSign.timesOut⟩ :: back ->
        exists early expiry mid,
          front = early ++ ⟨c, expiry, HeartSign.expires⟩ :: mid ∧ expiry ≤ time ∧
            forall e, e ∈ early -> e.session = c -> e.isLife = true ->
              e.time + heartTimeout ≤ expiry) ∧
    (Along (handle cc lh) Prompt
        (create workShardCount netShardCount logicShardCount now) inputs ->
      forall c, result.1.front.isOpen c = true ->
        exists e, e ∈ result.2 ∧ e.session = c ∧ e.isLife = true ∧
          result.1.now ≤ e.time + heartTimeout) ∧
    exists plain, result.1.front =
      (Frontend.run cc lh workShardCount netShardCount logicShardCount plain).1 := by
  intro result
  refine ⟨?_, ?_, run_front cc lh workShardCount netShardCount logicShardCount now inputs⟩
  · have hwatched := runMachine_invariant Watched
      (fun _ _ input h => h.handle cc lh input) []
      (create workShardCount netShardCount logicShardCount now)
      (watched_create workShardCount netShardCount logicShardCount now) inputs
    exact hwatched.ended
  · intro hprompt c hopen
    have hpulsing := runMachine_along Pulsing
      (fun _ _ input h hprompt => h.handle cc lh hprompt) []
      (create workShardCount netShardCount logicShardCount now)
      (pulsing_create workShardCount netShardCount logicShardCount now) inputs hprompt
    rcases hpulsing.alive c hopen with ⟨e, he, hsession, hlife, hbeats⟩
    exact ⟨e, he, hsession, hlife, hbeats.le⟩

/-- A client connects and is silent, until its timer runs out. -/
def silentClient : List TimedInput :=
  [TimedInput.front (FrontendInput.accepts 0), TimedInput.heartRuns 0,
    TimedInput.front (FrontendInput.readRuns 0), TimedInput.passes heartTimeout,
    TimedInput.expires 0]

/-- Its session is still open, and then it is closed. -/
theorem silentClient_timed_out :
    (exists e, e ∈ (run (Proto.clientCodec (F := Rat)) LoginHash.byAccount 1 1 1 0
        silentClient).2 ∧ e.session = 0 ∧ e.isLife = true) ∧
      exists early expiry mid,
        (run (Proto.clientCodec (F := Rat)) LoginHash.byAccount 1 1 1 0 silentClient).2 =
          early ++ ⟨0, expiry, HeartSign.expires⟩ :: mid := by
  have hbefore := run_heartbeats (Proto.clientCodec (F := Rat)) LoginHash.byAccount 1 1 1 0
    silentClient
  have hafter := run_heartbeats (Proto.clientCodec (F := Rat)) LoginHash.byAccount 1 1 1 0
    (silentClient ++ [TimedInput.heartRuns 0])
  constructor
  · rcases hbefore.right.left (by decide +kernel) 0 (by decide +kernel) with
      ⟨e, he, hsession, hlife, _⟩
    exact ⟨e, he, hsession, hlife⟩
  · rcases hafter.left (run (Proto.clientCodec (F := Rat)) LoginHash.byAccount 1 1 1 0
      silentClient).2 0 heartTimeout [] (by decide +kernel) with ⟨early, expiry, mid, heq, _⟩
    exact ⟨early, expiry, mid, heq⟩

end TimedFrontend

end RtsGame
