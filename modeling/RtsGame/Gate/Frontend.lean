import RtsGame.Gate.Cluster
import RtsGame.Library.ProtoReader
import RtsGame.Library.Runs
import RtsGame.Wire.Framing

/-!
# Clients on a gateway

The bytes of a client become packets in `handle_read`, and the router runs the
callback that is registered for the message id of a packet.  The loop is
modelled by the point at which it is suspended: a read ends before the loop goes
on, and closing the session lets a read that has not ended fail.  The loop looks
at the session after a header, not after a body.

What comes in from the game server and the connections of the pool are those of
the cluster.  Replies of the gateway itself are left out.
-/

namespace RtsGame

/-!
## The router
-/

inductive ClientHandler where
  | login
  | ping
  | forward (msgId : MsgId)
deriving DecidableEq, Repr

namespace ClientIngressRouter

/-- The callbacks that `Init` registers. -/
def callbacks : List (UInt16 × ClientHandler) :=
  [(10001, ClientHandler.login),
    (10003, ClientHandler.ping),
    (10101, ClientHandler.forward MsgId.createRoomReq),
    (10103, ClientHandler.forward MsgId.joinRoomReq),
    (10105, ClientHandler.forward MsgId.leaveRoomReq),
    (10107, ClientHandler.forward MsgId.playerReadyReq),
    (11001, ClientHandler.forward MsgId.enterBattleReq),
    (11002, ClientHandler.forward MsgId.moveCmd),
    (11003, ClientHandler.forward MsgId.attackCmd),
    (11004, ClientHandler.forward MsgId.skillCmd),
    (11005, ClientHandler.forward MsgId.harvestCmd),
    (11006, ClientHandler.forward MsgId.storeResourceCmd),
    (11007, ClientHandler.forward MsgId.pickupResourceCmd),
    (11008, ClientHandler.forward MsgId.buildCmd),
    (11009, ClientHandler.forward MsgId.constructCmd),
    (11010, ClientHandler.forward MsgId.trainUnitCmd),
    (11011, ClientHandler.forward MsgId.stopCmd)]

def handler (msgId : UInt16) : Option ClientHandler := callbacks.lookup msgId

theorem callbacks_forward : forall entry, entry ∈ callbacks ->
    forall msgId, entry.2 = ClientHandler.forward msgId ->
      Cluster.registersForward msgId = true := by
  intro entry hentry msgId heq
  simp only [callbacks, List.mem_cons, List.not_mem_nil, or_false] at hentry
  rcases hentry with h | h | h | h | h | h | h | h | h | h | h | h | h | h | h | h | h
  all_goals
    subst h
    cases heq
  all_goals rfl

end ClientIngressRouter

/-- What a gateway reads and writes; a login is an account and a token. -/
structure ClientCodec {F : Type} (codec : Codec Bytes F) extends GateCodec codec where
  loginReq : Bytes -> Option (String × String)

/-!
## Sessions
-/

/-- Where `handle_read` is suspended. -/
inductive ClientRead where
  | returned
  | spawned
  | head (completion : Completion Bytes)
  | body (msgId : UInt16) (len : Nat) (completion : Completion Bytes)

namespace ClientRead

/-- `socket_.cancel`: what is outstanding fails, what is ready stays ready. -/
def cancel : ClientRead -> ClientRead
  | head Completion.waiting => head Completion.failed
  | body msgId len Completion.waiting => body msgId len Completion.failed
  | point => point

/-- The number of bytes that an outstanding read asks for. -/
def wanted : ClientRead -> Option Nat
  | head Completion.waiting => some kPacketHeaderLen
  | body _ len Completion.waiting => some len
  | _ => none

def complete (bytes : Bytes) : ClientRead -> ClientRead
  | head Completion.waiting => head (Completion.ready bytes)
  | body msgId len Completion.waiting => body msgId len (Completion.ready bytes)
  | point => point

end ClientRead

/-- A cluster whose clients send bytes: those that have arrived and were not read. -/
structure Frontend (F : Type) where
  cluster : Cluster Bytes F
  reads : Nat -> ClientRead
  arrived : Nat -> Bytes

namespace Frontend

variable {F : Type} {codec : Codec Bytes F}

def create (workShardCount netShardCount logicShardCount : Nat) : Frontend F where
  cluster := Cluster.create workShardCount netShardCount logicShardCount
  reads := fun _ => ClientRead.returned
  arrived := fun _ => []

def setRead (f : Frontend F) (c : Nat) (point : ClientRead) : Frontend F :=
  { f with reads := Function.update f.reads c point }

def isOpen (f : Frontend F) (c : Nat) : Bool := (f.cluster.sessions c).isOpen

/-- A client is accepted and its session started. -/
def accept (f : Frontend F) (w : Nat) : Frontend F :=
  if w < f.cluster.workShardCount then
    { cluster := f.cluster.accept w
      reads := Function.update f.reads f.cluster.sessionCount ClientRead.spawned
      arrived := Function.update f.arrived f.cluster.sessionCount [] }
  else f

def close (cc : ClientCodec codec) (f : Frontend F) (c : Nat) : Frontend F :=
  if f.isOpen c then
    { f with cluster := Cluster.closeSession cc.toGateCodec f.cluster c }.setRead c
      (f.reads c).cancel
  else f

/-- `ClientIngressRouter::HandleMsg`. -/
def handleMsg (cc : ClientCodec codec) (lh : LoginHash) (f : Frontend F) (c : Nat)
    (msgId : UInt16) (body : Bytes) : Frontend F :=
  match ClientIngressRouter.handler msgId with
  | none => f
  | some ClientHandler.ping => f
  | some ClientHandler.login =>
      match cc.loginReq body with
      | none => f
      | some (account, token) =>
          { f with cluster := f.cluster.handleLoginReq lh c account token }
  | some (ClientHandler.forward msgId) =>
      { f with
        cluster := Cluster.forwardClientMsgToGame cc.toGateCodec f.cluster c msgId body }

/-- The head of the loop of `handle_read`. -/
def readNext (f : Frontend F) (c : Nat) : Frontend F :=
  if f.isOpen c then f.setRead c (ClientRead.head Completion.waiting)
  else f.setRead c ClientRead.returned

def readFails (cc : ClientCodec codec) (f : Frontend F) (c : Nat) : Frontend F :=
  (close cc f c).setRead c ClientRead.returned

/-- `handle_read` with the bytes of a header. -/
def handleHead (cc : ClientCodec codec) (lh : LoginHash) (f : Frontend F) (c : Nat)
    (buffer : Bytes) : Frontend F :=
  match readHead Csession.invalidId buffer with
  | none => readFails cc f c
  | some (msgId, _, dataLen, _) =>
      if f.isOpen c then
        if dataLen = 0 then (handleMsg cc lh f c msgId []).readNext c
        else f.setRead c (ClientRead.body msgId dataLen.toNat Completion.waiting)
      else f.setRead c ClientRead.returned

/-- One turn of `handle_read`. -/
def handleRead (cc : ClientCodec codec) (lh : LoginHash) (f : Frontend F) (c : Nat) :
    Frontend F :=
  match f.reads c with
  | ClientRead.returned => f
  | ClientRead.spawned => f.readNext c
  | ClientRead.head Completion.waiting => f
  | ClientRead.head Completion.failed => readFails cc f c
  | ClientRead.head (Completion.ready buffer) => handleHead cc lh f c buffer
  | ClientRead.body _ _ Completion.waiting => f
  | ClientRead.body _ _ Completion.failed => readFails cc f c
  | ClientRead.body msgId _ (Completion.ready body) =>
      (handleMsg cc lh f c msgId body).readNext c

/-- The packet that the next turn of `handle_read` gives to the router. -/
def dispatched (f : Frontend F) (c : Nat) : Option (UInt16 × Bytes) :=
  match f.reads c with
  | ClientRead.head (Completion.ready buffer) =>
      match readHead Csession.invalidId buffer with
      | none => none
      | some (msgId, _, dataLen, _) =>
          if f.isOpen c && dataLen = 0 then some (msgId, []) else none
  | ClientRead.body msgId _ (Completion.ready body) => some (msgId, body)
  | _ => none

/-- A read ends if there are enough bytes for it. -/
def readEnds (f : Frontend F) (c : Nat) : Frontend F :=
  match (f.reads c).wanted with
  | none => f
  | some len =>
      match asyncRead len (f.arrived c) with
      | none => f
      | some (bytes, rest) =>
          { f.setRead c ((f.reads c).complete bytes) with
            arrived := Function.update f.arrived c rest }

/-!
## Runs
-/

/--
Clients connect and send bytes, reads end, break and are handled, and sessions are
closed by a heartbeat timeout or a failed write.  The rest is what the cluster does.
-/
inductive FrontendInput where
  | accepts (w : Nat)
  | sends (session : Nat) (bytes : Bytes)
  | readEnds (session : Nat)
  | readBreaks (session : Nat)
  | readRuns (session : Nat)
  | closes (session : Nat)
  | backend (input : Cluster.ClusterInput Bytes)

/-- What happens in a cluster without its clients. -/
def ofBackend {B : Type} : Cluster.ClusterInput B -> Bool
  | Cluster.ClusterInput.accepts _ => false
  | Cluster.ClusterInput.logsIn _ _ _ => false
  | Cluster.ClusterInput.requests _ _ _ => false
  | Cluster.ClusterInput.closes _ => false
  | _ => true

variable [Scalar F]

def next (cc : ClientCodec codec) (lh : LoginHash) (f : Frontend F) :
    FrontendInput -> Frontend F
  | FrontendInput.accepts w => f.accept w
  | FrontendInput.sends c bytes =>
      { f with arrived := Function.update f.arrived c (f.arrived c ++ bytes) }
  | FrontendInput.readEnds c => f.readEnds c
  | FrontendInput.readBreaks c => f.setRead c (f.reads c).cancel
  | FrontendInput.readRuns c => handleRead cc lh f c
  | FrontendInput.closes c => close cc f c
  | FrontendInput.backend input =>
      if ofBackend input then
        { f with cluster := Cluster.next cc.toGateCodec lh f.cluster input }
      else f

/-- A step, with the state before it if it gives a packet to the pool. -/
def handle (cc : ClientCodec codec) (lh : LoginHash) (f : Frontend F)
    (input : FrontendInput) : Frontend F × List (Frontend F × FrontendInput) :=
  (next cc lh f input,
    if (next cc lh f input).cluster.nextIndex = f.cluster.nextIndex then []
    else [(f, input)])

/-- Start everything and let things happen in the given order. -/
def run (cc : ClientCodec codec) (lh : LoginHash)
    (workShardCount netShardCount logicShardCount : Nat)
    (inputs : List FrontendInput) : Frontend F × List (Frontend F × FrontendInput) :=
  runMachine (handle cc lh) (create workShardCount netShardCount logicShardCount)
    inputs

/-!
## What a step does to the cluster
-/

section Steps

variable {cc : ClientCodec codec} {lh : LoginHash} {f : Frontend F} {c : Nat}

omit [Scalar F] in
@[simp] theorem readNext_cluster (f : Frontend F) (c : Nat) :
    (f.readNext c).cluster = f.cluster := by
  unfold readNext
  split
  · rfl
  · rfl

omit [Scalar F] in
theorem close_cluster (cc : ClientCodec codec) (f : Frontend F) (c : Nat) :
    (close cc f c).cluster = Cluster.closeSession cc.toGateCodec f.cluster c := by
  unfold close isOpen
  split
  · rfl
  · next hclosed =>
      unfold Cluster.closeSession
      simp only [if_neg hclosed]

omit [Scalar F] in
/-- A turn of the loop gives a packet to the router, or else may close the session. -/
theorem handleRead_cases (cc : ClientCodec codec) (lh : LoginHash) (f : Frontend F)
    (c : Nat) :
    (exists msgId body, f.dispatched c = some (msgId, body) ∧
      (handleRead cc lh f c).cluster = (handleMsg cc lh f c msgId body).cluster) ∨
      f.dispatched c = none ∧
        ((handleRead cc lh f c).cluster = f.cluster ∨
          (handleRead cc lh f c).cluster =
            Cluster.closeSession cc.toGateCodec f.cluster c) := by
  have hfails : (readFails cc f c).cluster =
      Cluster.closeSession cc.toGateCodec f.cluster c := close_cluster cc f c
  unfold handleRead dispatched
  cases f.reads c with
  | returned => exact Or.inr ⟨rfl, Or.inl rfl⟩
  | spawned => exact Or.inr ⟨rfl, Or.inl (readNext_cluster f c)⟩
  | head completion =>
      cases completion with
      | waiting => exact Or.inr ⟨rfl, Or.inl rfl⟩
      | failed => exact Or.inr ⟨rfl, Or.inr hfails⟩
      | ready buffer =>
          unfold handleHead
          dsimp only
          split
          · exact Or.inr ⟨rfl, Or.inr hfails⟩
          · next msgId flags dataLen rest _ =>
              cases f.isOpen c with
              | false => exact Or.inr ⟨if_neg Bool.false_ne_true, Or.inl rfl⟩
              | true =>
                  by_cases hzero : dataLen = 0
                  · subst hzero
                    exact Or.inl ⟨msgId, [], rfl, readNext_cluster _ c⟩
                  · right
                    constructor
                    · simp [hzero]
                    · rw [if_pos rfl, if_neg hzero]
                      exact Or.inl rfl
  | body msgId len completion =>
      cases completion with
      | waiting => exact Or.inr ⟨rfl, Or.inl rfl⟩
      | failed => exact Or.inr ⟨rfl, Or.inr hfails⟩
      | ready body => exact Or.inl ⟨msgId, body, rfl, readNext_cluster _ c⟩

end Steps

end Frontend

/-!
## Instances for concrete runs

The messages of the gateway are read and written as protocol buffers; what a
request says is not looked at.
-/

def MsgId.code : MsgId -> Nat
  | MsgId.createRoomReq => 10101
  | MsgId.joinRoomReq => 10103
  | MsgId.leaveRoomReq => 10105
  | MsgId.playerReadyReq => 10107
  | MsgId.enterBattleReq => 11001
  | MsgId.moveCmd => 11002
  | MsgId.attackCmd => 11003
  | MsgId.skillCmd => 11004
  | MsgId.harvestCmd => 11005
  | MsgId.storeResourceCmd => 11006
  | MsgId.pickupResourceCmd => 11007
  | MsgId.buildCmd => 11008
  | MsgId.constructCmd => 11009
  | MsgId.trainUnitCmd => 11010
  | MsgId.stopCmd => 11011
  | MsgId.pingReq => 10003
  | MsgId.gateToGameEnvelope => 20001
  | MsgId.clientDisconnectedNtf => 20004
  | MsgId.other => 20003

def MsgId.ofCode : Nat -> MsgId
  | 10101 => MsgId.createRoomReq
  | 10103 => MsgId.joinRoomReq
  | 10105 => MsgId.leaveRoomReq
  | 10107 => MsgId.playerReadyReq
  | 11001 => MsgId.enterBattleReq
  | 11002 => MsgId.moveCmd
  | 11003 => MsgId.attackCmd
  | 11004 => MsgId.skillCmd
  | 11005 => MsgId.harvestCmd
  | 11006 => MsgId.storeResourceCmd
  | 11007 => MsgId.pickupResourceCmd
  | 11008 => MsgId.buildCmd
  | 11009 => MsgId.constructCmd
  | 11010 => MsgId.trainUnitCmd
  | 11011 => MsgId.stopCmd
  | 10003 => MsgId.pingReq
  | 20001 => MsgId.gateToGameEnvelope
  | 20004 => MsgId.clientDisconnectedNtf
  | _ => MsgId.other

theorem MsgId.ofCode_code (msgId : MsgId) : MsgId.ofCode msgId.code = msgId := by
  cases msgId with
  | _ => rfl

namespace Proto

/-- A number, which is left out if it is 0. -/
def numberField (number n : Nat) : List (Nat × ProtoValue) :=
  if n = 0 then [] else [(number, ProtoValue.varint n)]

def bytesField (number : Nat) (content : Bytes) : List (Nat × ProtoValue) :=
  if content = [] then [] else [(number, ProtoValue.bytes content)]

def readEnvelope (body : Bytes) : Option (GateToGameEnvelope Bytes) :=
  match readMessage body with
  | none => none
  | some fields =>
      some
        { uid := varintOf 1 fields
          roomId := varintOf 3 fields
          innerMsgId :=
            if varintOf 4 fields = 0 then none
            else some (MsgId.ofCode (varintOf 4 fields))
          clientSeq := varintOf 5 fields
          payload := bytesOf 7 fields }

def writeEnvelope (uid : Nat) (msgId : MsgId) (payload : Bytes) : Bytes :=
  writeMessage
    (numberField 1 uid ++ numberField 4 msgId.code ++ bytesField 7 payload)

def readLoginReq (body : Bytes) : Option (String × String) :=
  (readMessage body).map fun fields =>
    (String.ofList ((bytesOf 1 fields).map fun byte => Char.ofNat byte.toNat),
      String.ofList ((bytesOf 2 fields).map fun byte => Char.ofNat byte.toNat))

def codec {F : Type} : Codec Bytes F where
  isEmpty := List.isEmpty
  envelope := readEnvelope
  disconnectedUid := fun body => (readMessage body).map (varintOf 1)
  pingReq := fun body => (readMessage body).map (varintOf 1)
  createRoomReq := fun _ => none
  joinRoomReq := fun _ => none
  leaveRoomReq := fun _ => none
  playerReadyReq := fun _ => none
  enterBattleReq := fun _ => none
  moveCmd := fun _ => none
  stopCmd := fun _ => none
  attackCmd := fun _ => none
  harvestCmd := fun _ => none
  storeResourceCmd := fun _ => none
  pickupResourceCmd := fun _ => none
  buildCmd := fun _ => none
  constructCmd := fun _ => none
  trainUnitCmd := fun _ => none
  roomRouteHint := fun body => (readMessage body).map (varintOf 1)

theorem readEnvelope_writeEnvelope (uid : Nat) (msgId : MsgId) (payload : Bytes) :
    readEnvelope (writeEnvelope uid msgId payload) =
      some (buildGateToGameEnvelope uid msgId payload) := by
  have hcode : msgId.code ≠ 0 := by
    cases msgId with
    | _ => decide
  unfold readEnvelope writeEnvelope
  rw [readMessage_writeMessage]
  unfold numberField bytesField
  rw [if_neg hcode]
  by_cases huid : uid = 0
  · by_cases hpayload : payload = []
    · simp [huid, hpayload, hcode, varintOf, bytesOf, MsgId.ofCode_code,
        buildGateToGameEnvelope]
    · simp [huid, hpayload, hcode, varintOf, bytesOf, MsgId.ofCode_code,
        buildGateToGameEnvelope]
  · by_cases hpayload : payload = []
    · simp [huid, hpayload, hcode, varintOf, bytesOf, MsgId.ofCode_code,
        buildGateToGameEnvelope]
    · simp [huid, hpayload, hcode, varintOf, bytesOf, MsgId.ofCode_code,
        buildGateToGameEnvelope]

def clientCodec {F : Type} : ClientCodec (codec (F := F)) where
  buildEnvelope := fun uid msgId payload =>
    let body := writeEnvelope uid msgId payload
    if body.length > kMaxPacketBodyLen then none else some body
  buildClientDisconnectedNtf := fun uid => writeMessage (numberField 1 uid)
  envelope := by
    intro uid msgId payload body h
    dsimp only at h
    split at h
    · cases h
    · cases h
      exact readEnvelope_writeEnvelope uid msgId payload
  disconnectedUid := by
    intro uid
    change (readMessage (writeMessage (numberField 1 uid))).map (varintOf 1) = some uid
    rw [readMessage_writeMessage]
    unfold numberField
    split
    · next hzero =>
        rw [hzero]
        rfl
    · rfl
  loginReq := readLoginReq

end Proto

end RtsGame
