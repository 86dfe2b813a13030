import ResidentialIPManager.MiniVPN.ControlMessage
import ResidentialIPManager.MiniVPN.Receiver
import ResidentialIPManager.Transition.Calls

/-! # From the hard reset to the tunnel

The goroutines that bring a tunnel up, as steps in any order: the muxer with the hard reset and
its retransmission, the receiver and the control channel above it, the sender and the way down to
the network, the TLS authentication, the worker that takes the keys, the worker of the data
channel, and `StartTUN`, which waits for them. A send on a channel is a step of its own where it
can block. The session manager sets the last state of the negotiation with its lock held until
somebody takes the news. Of `crypto/tls` it is assumed that a handshake does not succeed before a
record of the server has been read.
-/
namespace ResidentialIPManager.MiniVPN
open Sorting Text Transition

/-! ## State -/

inductive NegotiationState where
  | error
  | undef
  | initial
  | preStart
  | start
  | sentKey
  | gotKey
  | active
  | generatedKeys
  deriving DecidableEq, Repr

def NegotiationState.number : NegotiationState → Int
  | .error => -1
  | .undef => 0
  | .initial => 1
  | .preStart => 2
  | .start => 3
  | .sentKey => 4
  | .gotKey => 5
  | .active => 6
  | .generatedKeys => 7

/-- Where `moveUpWorker` of the muxer is: in its select, or at a send. -/
inductive MuxerAt where
  | free
  | toReliable (p : Packet) (handshake : Bool)
  | toTLS
  | toData (p : Packet)
  | done
  deriving DecidableEq

def MuxerAt.telling : MuxerAt → Bool
  | .toReliable _ handshake => handshake
  | .toTLS => true
  | _ => false

/-- `moveUpWorker` of the reliable transport: in its select, with a packet of the muxer, at the send
to the sender, or with packets that the control channel has to take. -/
inductive ReliableAt where
  | idle
  | checking (p : Packet)
  | reporting (seen : IncomingPacketSeen) (ready : List Packet)
  | delivering (first : Packet) (rest : List Packet)
  | done
  deriving DecidableEq

namespace ReliableAt

def deliver : List Packet → ReliableAt
  | [] => .idle
  | first :: rest => .delivering first rest

/-- What follows the sanity checks: a packet that passed them is reported first. -/
def report : List IncomingPacketSeen → List Packet → ReliableAt
  | [], ready => deliver ready
  | seen :: _, ready => .reporting seen ready

/-- The worker does not look at the shutdown. -/
def busy : ReliableAt → Bool
  | .checking _ | .reporting _ _ => true
  | _ => false

def inHand : ReliableAt → List Packet
  | .reporting _ ready => ready
  | .delivering first rest => first :: rest
  | _ => []

@[simp] theorem inHand_deliver (l : List Packet) : (deliver l).inHand = l := by
  cases l <;> rfl

@[simp] theorem inHand_report (seen : List IncomingPacketSeen) (l : List Packet) :
    (report seen l).inHand = l := by
  cases seen
  · exact inHand_deliver l
  · rfl

@[simp] theorem busy_deliver (l : List Packet) : (deliver l).busy = false := by
  cases l <;> rfl

end ReliableAt

/-- `moveDownWorker` of the reliable transport: in its select, about to ask the session manager, or
at the send of a packet to the muxer. Behind that packet some more are to be sent. -/
inductive SenderAt where
  | free
  | asking (left : Nat)
  | sending (left : Nat)
  | done
  deriving DecidableEq, Repr

/-- `blockOnTryingToSend` with a number of packets. -/
def SenderAt.flush : Nat → SenderAt
  | 0 => .free
  | left + 1 => .asking left

/-- `moveDownWorker` of the muxer: in its select, or at the send to the network. -/
inductive MuxerDownAt where
  | free
  | sending
  | done
  deriving DecidableEq, Repr

/-- `moveDownWorker` of networkio: in its select, or writing to a connection that was open or closed
when it began. -/
inductive NetworkAt where
  | free
  | writing (connected : Bool)
  | done
  deriving DecidableEq, Repr

def NetworkAt.writes : NetworkAt → Bool
  | .writing _ => true
  | _ => false

/-- `moveUpWorker` of the control channel: in its select, or at a send to the TLS session. -/
inductive ControlAt where
  | free
  | record (p : Packet)
  | resetting
  | done
  deriving DecidableEq

inductive AuthAt where
  | notStarted
  | handshaking
  | sentKey
  | gotKey
  | active
  | ended
  deriving DecidableEq, Repr

/-- It reads from the TLS connection, and can fail. -/
def AuthAt.reads : AuthAt → Bool
  | .handshaking | .sentKey | .gotKey => true
  | _ => false

inductive TLSWorkerAt where
  | idle
  | authenticating
  | done
  deriving DecidableEq, Repr

/-- `keyWorker`: in its select, or at the send on `Ready` with the lock of the session. -/
inductive KeyWorkerAt where
  | waiting
  | offering
  | done
  deriving DecidableEq, Repr

/-- `moveUpWorker` of the data channel. Its send to the device has no way out. -/
inductive DataWorkerAt where
  | waitingForKey
  | waiting
  | delivering
  | done
  deriving DecidableEq, Repr

inductive StartAt where
  | awaiting
  | ready
  | closing
  | closed
  deriving DecidableEq, Repr

def muxerToDataCapacity : Nat := 32

structure Client where
  session : Manager
  negState : NegotiationState := .undef
  ticking : Bool := false
  /-- a request in the channel `HardReset` -/
  hardReset : Bool := true
  muxer : MuxerAt := .free
  muxerToData : List Packet := []
  receiver : Receiver := {}
  reliable : ReliableAt := .idle
  incomingSeen : List IncomingPacketSeen := []
  sender : SenderAt := .free
  muxerDown : MuxerDownAt := .free
  network : NetworkAt := .free
  control : ControlAt := .free
  /-- the channels `NotifyTLS` and `KeyReady` have room for one -/
  notifyTLS : Bool := false
  keyReady : Bool := false
  tls : TLSWorkerAt := .idle
  auth : AuthAt := .notStarted
  /-- what the TLS session has taken of the control channel -/
  records : List Packet := []
  /-- the messages that came out of the TLS session -/
  received : List (List UInt8) := []
  keyWorker : KeyWorkerAt := .waiting
  firstKeyReady : Bool := false
  dataWorker : DataWorkerAt := .waitingForKey
  start : StartAt := .awaiting
  shouldShutdown : Bool := false
  crashed : Option GoString := none

inductive ClientAction where
  | hardReset
  | tick
  | arrive (raw : List UInt8)
  | handOver
  | notify
  | enqueue
  | receive
  | report
  | notice
  | flush (packets : Nat)
  | ask
  | emit
  | leave
  | emitData
  | transmit
  | written (ok : Bool)
  | route
  | softReset
  | startAuth
  | readRecord
  | finishHandshake
  | authReply (message : List UInt8)
  | pushReply (message : List UInt8)
  | keyUp
  | authFails
  | takeKey (derived : Bool)
  | ready
  | firstKey
  | takeData (deliver : Bool)
  | read
  | giveUp
  | close
  | workerEnds
  | exitMuxer
  | exitReliable
  | exitSender
  | exitMuxerDown
  | exitNetwork
  | exitControl
  | exitTLS
  | exitKey
  | exitData
  | closed

namespace Client

/-- The key worker has the lock of the session manager while it waits for `Ready`. -/
def locked (c : Client) : Bool := decide (c.keyWorker = .offering)

/-- `Close` closes the connection before anything else. -/
def connected (c : Client) : Bool := decide (c.start = .awaiting ∨ c.start = .ready)

/-! ## The muxer -/

def startHardReset (c : Client) : Client := { c with negState := .preStart, ticking := true }

/-- `finishThreeWayHandshake` up to its first send, with the assertion of `SetRemoteSessionID`. -/
def finishThreeWayHandshake (c : Client) (p : Packet) : Client :=
  match c.session.remoteSessionID with
  | some _ => { c with crashed := some (lit "SetRemoteSessionID called more than once") }
  | none => { c with
      session := { c.session with remoteSessionID := some p.localSessionID }
      negState := .start
      muxer := .toReliable p true }

/-- `handleRawPacket` up to its first send. -/
def handleRawPacket (c : Client) (raw : List UInt8) : Client :=
  match parsePacket raw with
  | .error _ => c
  | .ok p =>
    if c.negState = .preStart ∧ p.opcode = .controlHardResetServerV2 then
      -- a stopped ticker leaves no tick behind
      { c with ticking := false }.finishThreeWayHandshake p
    else if p.opcode.isReliable then { c with muxer := .toReliable p false }
    else if c.negState.number < NegotiationState.generatedKeys.number ∧ p.opcode.isData = false then
      c
    else { c with muxer := .toData p }

/-! ## The control channel -/

/-- What `moveUpWorker` of the control channel does with a packet. It needs the lock for a soft
reset. -/
def route (c : Client) (p : Packet) : Option Client :=
  if p.opcode = .controlSoftResetV1 then
    if c.locked = true then none
    else if c.negState.number < NegotiationState.generatedKeys.number then some c
    else some { c with negState := .initial, control := .resetting }
  else if p.opcode = .controlV1 then some { c with control := .record p }
  else some c

/-! ## Authentication -/

/-- The end of `doTLSAuth` with an error. If the worker still waits for it, it tells `StartTUN` and
returns. -/
def authFailed (c : Client) : Client :=
  if c.tls = .authenticating then
    { c with auth := .ended, tls := .done, shouldShutdown := true,
             start := if c.start = .awaiting then .closing else c.start }
  else { c with auth := .ended }

/-- `recvAuthReplyMessage` and the parsing of `InitTunnelInfo`. -/
def initTunnelInfo (message : List UInt8) : Option TunnelInfo :=
  match parseServerControlMessage message with
  | .error _ => none
  | .ok (_, serverOptions) => (newTunnelInfoFromRemoteOptionsString serverOptions).toOption

def authReply (c : Client) (message : List UInt8) : Client :=
  match initTunnelInfo message with
  | none => c.authFailed
  | some info => { c with
      session := { c.session with tunnelInfo := info }
      received := c.received ++ [message]
      negState := .gotKey
      auth := .gotKey }

/-- `UpdateTunnelInfo`, which keeps the MTU. -/
def updateTunnelInfo (m : Manager) (info : TunnelInfo) : Manager :=
  { m with tunnelInfo := { info with mtu := m.tunnelInfo.mtu } }

def pushReply (c : Client) (message : List UInt8) : Client :=
  match parseServerPushReply message with
  | .error _ => c.authFailed
  | .ok info => { c with
      session := updateTunnelInfo c.session info
      received := c.received ++ [message]
      negState := .active
      auth := .active }

/-- `keyWorker` with a key, up to the send on `Ready`. -/
def handleKey (c : Client) (derived : Bool) : Client :=
  if derived then
    { c with keyReady := false, keyWorker := .offering, negState := .generatedKeys }
  else { c with keyReady := false }

/-! ## Steps -/

def move (sorter : Sorter byID) (c : Client) : ClientAction → Option Client
  | .hardReset =>
    if c.muxer = .free ∧ c.hardReset = true ∧ c.locked = false then
      some { c with hardReset := false }.startHardReset
    else none
  | .tick =>
    if c.muxer = .free ∧ c.ticking = true ∧ c.locked = false then some c.startHardReset else none
  | .arrive raw =>
    if c.muxer = .free ∧ c.locked = false then some (c.handleRawPacket raw) else none
  | .handOver =>
    match c.muxer, c.reliable with
    | .toReliable p handshake, .idle =>
      some { c with reliable := .checking p, muxer := if handshake then .toTLS else .free }
    | _, _ => none
  | .notify =>
    if c.muxer = .toTLS ∧ c.notifyTLS = false then
      some { c with notifyTLS := true, muxer := .free }
    else none
  | .enqueue =>
    match c.muxer with
    | .toData p =>
      if c.muxerToData.length < muxerToDataCapacity then
        some { c with muxerToData := c.muxerToData ++ [p], muxer := .free }
      else none
    | _ => none
  | .receive =>
    match c.reliable with
    | .checking p =>
      if c.locked = false then
        let moved := moveUpPacket sorter c.session c.receiver p
        some { c with reliable := .report moved.seen moved.delivered, receiver := moved.receiver }
      else none
    | _ => none
  | .report =>
    match c.reliable with
    | .reporting seen ready =>
      if c.incomingSeen.length < incomingSeenCapacity then
        some { c with incomingSeen := c.incomingSeen ++ [seen], reliable := .deliver ready }
      else none
    | _ => none
  | .notice =>
    if c.sender = .free ∧ c.incomingSeen ≠ [] then
      some { c with incomingSeen := c.incomingSeen.tail }
    else none
  -- the ticker, with what the sender finds to send
  | .flush packets =>
    if c.sender = .free then some { c with sender := .flush packets } else none
  | .ask =>
    match c.sender with
    | .asking left => if c.locked = false then some { c with sender := .sending left } else none
    | _ => none
  | .emit =>
    match c.sender, c.muxerDown with
    | .sending left, .free => some { c with sender := .flush left, muxerDown := .sending }
    | _, _ => none
  -- at a shutdown `blockOnTryingToSend` returns, and the worker is back in its select
  | .leave =>
    match c.sender with
    | .sending _ => if c.shouldShutdown = true then some { c with sender := .free } else none
    | _ => none
  | .emitData =>
    if c.firstKeyReady = true ∧ c.muxerDown = .free then some { c with muxerDown := .sending }
    else none
  | .transmit =>
    if c.muxerDown = .sending ∧ c.network = .free then
      some { c with muxerDown := .free, network := .writing c.connected }
    else none
  -- a write that began on a closed connection fails, and a failure ends the worker
  | .written ok =>
    match c.network with
    | .writing connected =>
      if ok = false then some { c with network := .done, shouldShutdown := true }
      else if connected = true then some { c with network := .free }
      else none
    | _ => none
  | .route =>
    match c.control, c.reliable with
    | .free, .delivering p rest => { c with reliable := .deliver rest }.route p
    | _, _ => none
  | .softReset =>
    if c.control = .resetting ∧ c.notifyTLS = false then
      some { c with notifyTLS := true, control := .free }
    else none
  | .startAuth =>
    if c.tls = .idle ∧ c.notifyTLS = true then
      some { c with notifyTLS := false, tls := .authenticating, auth := .handshaking }
    else none
  | .readRecord =>
    match c.control with
    | .record p =>
      if c.auth.reads = true then some { c with records := c.records ++ [p], control := .free }
      else none
    | _ => none
  -- the TLS client has to read something of the server
  | .finishHandshake =>
    if c.auth = .handshaking ∧ c.records ≠ [] ∧ c.locked = false then
      some { c with negState := .sentKey, auth := .sentKey }
    else none
  | .authReply message =>
    if c.auth = .sentKey ∧ c.locked = false then some (c.authReply message) else none
  | .pushReply message =>
    if c.auth = .gotKey ∧ c.locked = false then some (c.pushReply message) else none
  | .keyUp =>
    if c.auth = .active ∧ c.keyReady = false then
      some { c with keyReady := true, auth := .ended,
                    tls := if c.tls = .authenticating then .idle else c.tls }
    else none
  | .authFails => if c.auth.reads = true then some c.authFailed else none
  | .takeKey derived =>
    if c.keyWorker = .waiting ∧ c.keyReady = true then some (c.handleKey derived) else none
  | .ready =>
    if c.keyWorker = .offering ∧ c.start = .awaiting then
      some { c with keyWorker := .waiting, firstKeyReady := true, start := .ready }
    else none
  | .firstKey =>
    if c.dataWorker = .waitingForKey ∧ c.firstKeyReady = true then
      some { c with dataWorker := .waiting }
    else none
  | .takeData deliver =>
    if c.dataWorker = .waiting ∧ c.muxerToData ≠ [] then
      some { c with muxerToData := c.muxerToData.tail,
                    dataWorker := if deliver then .delivering else .waiting }
    else none
  | .read =>
    if c.dataWorker = .delivering then some { c with dataWorker := .waiting } else none
  -- the timeout, or the end of the context
  | .giveUp =>
    if c.start = .awaiting then some { c with start := .closing, shouldShutdown := true } else none
  | .close =>
    if c.start = .ready then some { c with start := .closing, shouldShutdown := true } else none
  -- a worker that returns makes all others return
  | .workerEnds => if c.shouldShutdown = false then some { c with shouldShutdown := true } else none
  | .exitMuxer =>
    if c.shouldShutdown = true then some { c with muxer := .done } else none
  | .exitReliable =>
    if c.shouldShutdown = true ∧ c.reliable.busy = false then some { c with reliable := .done }
    else none
  | .exitSender =>
    if c.shouldShutdown = true ∧ c.sender = .free then some { c with sender := .done } else none
  | .exitMuxerDown =>
    if c.shouldShutdown = true then some { c with muxerDown := .done } else none
  | .exitNetwork =>
    if c.shouldShutdown = true ∧ c.network.writes = false then some { c with network := .done }
    else none
  | .exitControl =>
    if c.shouldShutdown = true then some { c with control := .done } else none
  | .exitTLS =>
    if c.shouldShutdown = true then some { c with tls := .done } else none
  | .exitKey =>
    if c.shouldShutdown = true ∧ c.keyWorker ≠ .offering then some { c with keyWorker := .done }
    else none
  | .exitData =>
    if c.shouldShutdown = true ∧ c.dataWorker ≠ .delivering then some { c with dataWorker := .done }
    else none
  -- `WaitWorkersShutdown`
  | .closed =>
    if c.start = .closing ∧ c.muxer = .done ∧ c.reliable = .done ∧ c.sender = .done ∧
        c.muxerDown = .done ∧ c.network = .done ∧ c.control = .done ∧ c.tls = .done ∧
        c.keyWorker = .done ∧ c.dataWorker = .done then
      some { c with start := .closed }
    else none

/-- A panic ends the program. -/
def step (sorter : Sorter byID) (c : Client) (a : ClientAction) : Option Client :=
  if c.crashed = none then c.move sorter a else none

def initial (localSessionID : SessionID) : Client := { session := { localSessionID } }

end Client

/-! ## What a step can do -/

/-- What waits for the control channel is all for the TLS session. -/
def Client.Plain (c : Client) : Prop :=
  (∀ p ∈ c.receiver.incomingPackets, p.opcode = .controlV1) ∧
    (∀ p ∈ c.reliable.inHand, p.opcode = .controlV1) ∧ c.control ≠ .resetting

/-- The steps of a client that waits for an answer only as long as it has none, and whose control
channel gets nothing but records. -/
inductive Client.Moves (sorter : Sorter byID) (c : Client) : ClientAction → Client → Prop where
  | hardReset (h : c.hardReset = true) :
      c.Moves sorter .hardReset { c with hardReset := false, negState := .preStart, ticking := true }
  | tick (h : c.ticking = true) :
      c.Moves sorter .tick { c with negState := .preStart, ticking := true }
  | arrive {raw : List UInt8} (muxer : MuxerAt) (hfree : c.muxer = .free)
      (hsilent : muxer.telling = false) : c.Moves sorter (.arrive raw) { c with muxer }
  | answer {raw : List UInt8} (p : Packet) (hfree : c.muxer = .free)
      (hstate : c.negState = .preStart) (hnew : c.session.remoteSessionID = none) :
      c.Moves sorter (.arrive raw) { c with
        session := { c.session with remoteSessionID := some p.localSessionID }
        negState := .start
        ticking := false
        muxer := .toReliable p true }
  | handOver (p : Packet) (handshake : Bool) (hmuxer : c.muxer = .toReliable p handshake)
      (hidle : c.reliable = .idle) :
      c.Moves sorter .handOver
        { c with reliable := .checking p, muxer := if handshake then .toTLS else .free }
  | notify (hmuxer : c.muxer = .toTLS) :
      c.Moves sorter .notify { c with notifyTLS := true, muxer := .free }
  | enqueue (p : Packet) (hmuxer : c.muxer = .toData p)
      (hroom : c.muxerToData.length < muxerToDataCapacity) :
      c.Moves sorter .enqueue { c with muxerToData := c.muxerToData ++ [p], muxer := .free }
  | receive (p : Packet) (hchecking : c.reliable = .checking p) :
      c.Moves sorter .receive { c with
        reliable := .report (moveUpPacket sorter c.session c.receiver p).seen
          (moveUpPacket sorter c.session c.receiver p).delivered
        receiver := (moveUpPacket sorter c.session c.receiver p).receiver }
  | report (seen : IncomingPacketSeen) (ready : List Packet)
      (hreporting : c.reliable = .reporting seen ready)
      (hroom : c.incomingSeen.length < incomingSeenCapacity) :
      c.Moves sorter .report
        { c with incomingSeen := c.incomingSeen ++ [seen], reliable := .deliver ready }
  | notice (hfree : c.sender = .free) :
      c.Moves sorter .notice { c with incomingSeen := c.incomingSeen.tail }
  | flush {packets : Nat} (hfree : c.sender = .free) :
      c.Moves sorter (.flush packets) { c with sender := .flush packets }
  | ask (left : Nat) (hasking : c.sender = .asking left) :
      c.Moves sorter .ask { c with sender := .sending left }
  | emit (left : Nat) (hsending : c.sender = .sending left) (hfree : c.muxerDown = .free) :
      c.Moves sorter .emit { c with sender := .flush left, muxerDown := .sending }
  | leave (left : Nat) (hsending : c.sender = .sending left) :
      c.Moves sorter .leave { c with sender := .free }
  | emitData (hfree : c.muxerDown = .free) :
      c.Moves sorter .emitData { c with muxerDown := .sending }
  | transmit (hsending : c.muxerDown = .sending) (hfree : c.network = .free) :
      c.Moves sorter .transmit { c with muxerDown := .free, network := .writing c.connected }
  | written {ok : Bool} (hwriting : c.network = .writing true) :
      c.Moves sorter (.written ok) { c with network := .free }
  | writeFails {ok : Bool} (connected : Bool) (hwriting : c.network = .writing connected) :
      c.Moves sorter (.written ok) { c with network := .done, shouldShutdown := true }
  | route (p : Packet) (rest : List Packet) (hfree : c.control = .free)
      (hready : c.reliable = .delivering p rest) :
      c.Moves sorter .route { c with reliable := .deliver rest, control := .record p }
  | startAuth (h : c.notifyTLS = true) :
      c.Moves sorter .startAuth
        { c with notifyTLS := false, tls := .authenticating, auth := .handshaking }
  | readRecord (p : Packet) (hrecord : c.control = .record p) (hreads : c.auth.reads = true) :
      c.Moves sorter .readRecord { c with records := c.records ++ [p], control := .free }
  | finishHandshake (hauth : c.auth = .handshaking) (hrecords : c.records ≠ []) :
      c.Moves sorter .finishHandshake { c with negState := .sentKey, auth := .sentKey }
  | authReply {message : List UInt8} (info : TunnelInfo) (hauth : c.auth = .sentKey)
      (hinfo : Client.initTunnelInfo message = some info) :
      c.Moves sorter (.authReply message) { c with
        session := { c.session with tunnelInfo := info }
        received := c.received ++ [message]
        negState := .gotKey
        auth := .gotKey }
  | pushReply {message : List UInt8} (info : TunnelInfo) (hauth : c.auth = .gotKey)
      (hinfo : parseServerPushReply message = .ok info) :
      c.Moves sorter (.pushReply message) { c with
        session := Client.updateTunnelInfo c.session info
        received := c.received ++ [message]
        negState := .active
        auth := .active }
  | keyUp (tls : TLSWorkerAt) (hauth : c.auth = .active) :
      c.Moves sorter .keyUp { c with keyReady := true, auth := .ended, tls }
  | fail {a : ClientAction} (tls : TLSWorkerAt) (shouldShutdown : Bool) (start : StartAt)
      (hauth : c.auth.reads = true) (hstays : c.shouldShutdown = true → shouldShutdown = true)
      (hstart : start = c.start ∨ c.start = .awaiting ∧ start = .closing ∧ shouldShutdown = true) :
      c.Moves sorter a { c with auth := .ended, tls, shouldShutdown, start }
  | takeKey {derived : Bool} (hwaiting : c.keyWorker = .waiting) (hkey : c.keyReady = true) :
      c.Moves sorter (.takeKey derived)
        { c with keyReady := false, keyWorker := .offering, negState := .generatedKeys }
  | refuseKey {derived : Bool} :
      c.Moves sorter (.takeKey derived) { c with keyReady := false }
  | ready (hoffering : c.keyWorker = .offering) (hstart : c.start = .awaiting) :
      c.Moves sorter .ready
        { c with keyWorker := .waiting, firstKeyReady := true, start := .ready }
  | firstKey (hwaiting : c.dataWorker = .waitingForKey) (hkey : c.firstKeyReady = true) :
      c.Moves sorter .firstKey { c with dataWorker := .waiting }
  | takeData {deliver : Bool} (hwaiting : c.dataWorker = .waiting) :
      c.Moves sorter (.takeData deliver)
        { c with muxerToData := c.muxerToData.tail,
                 dataWorker := if deliver then .delivering else .waiting }
  | read (h : c.dataWorker = .delivering) : c.Moves sorter .read { c with dataWorker := .waiting }
  | giveUp (h : c.start = .awaiting) :
      c.Moves sorter .giveUp { c with start := .closing, shouldShutdown := true }
  | close (h : c.start = .ready) :
      c.Moves sorter .close { c with start := .closing, shouldShutdown := true }
  | workerEnds : c.Moves sorter .workerEnds { c with shouldShutdown := true }
  | exitMuxer (h : c.shouldShutdown = true) : c.Moves sorter .exitMuxer { c with muxer := .done }
  | exitReliable (h : c.shouldShutdown = true) (hfree : c.reliable.busy = false) :
      c.Moves sorter .exitReliable { c with reliable := .done }
  | exitSender (h : c.shouldShutdown = true) : c.Moves sorter .exitSender { c with sender := .done }
  | exitMuxerDown (h : c.shouldShutdown = true) :
      c.Moves sorter .exitMuxerDown { c with muxerDown := .done }
  | exitNetwork (h : c.shouldShutdown = true) :
      c.Moves sorter .exitNetwork { c with network := .done }
  | exitControl (h : c.shouldShutdown = true) :
      c.Moves sorter .exitControl { c with control := .done }
  | exitTLS (h : c.shouldShutdown = true) : c.Moves sorter .exitTLS { c with tls := .done }
  | exitKey (h : c.shouldShutdown = true) (hfree : c.keyWorker ≠ .offering) :
      c.Moves sorter .exitKey { c with keyWorker := .done }
  | exitData (h : c.shouldShutdown = true) (hfree : c.dataWorker ≠ .delivering) :
      c.Moves sorter .exitData { c with dataWorker := .done }
  | closed (hreliable : c.reliable = .done) (hkey : c.keyWorker = .done)
      (hdata : c.dataWorker = .done) :
      c.Moves sorter .closed { c with start := .closed }

section Inversion
variable {sorter : Sorter byID} {c d : Client} {a : ClientAction}
namespace Client

theorem handleRawPacket_moves
    (hnew : c.negState = .preStart → c.session.remoteSessionID = none) (hfree : c.muxer = .free)
    (raw : List UInt8) : c.Moves sorter (.arrive raw) (c.handleRawPacket raw) := by
  have hsilent : c.muxer.telling = false := by rw [hfree]; rfl
  unfold handleRawPacket
  cases parsePacket raw with
  | error err => exact .arrive c.muxer hfree hsilent
  | ok p =>
    dsimp only
    split_ifs with hanswer
    · have hnone := hnew hanswer.1
      simp only [finishThreeWayHandshake, hnone]
      exact .answer p hfree hanswer.1 hnone
    · exact .arrive (.toReliable p false) hfree rfl
    · exact .arrive c.muxer hfree hsilent
    · exact .arrive (.toData p) hfree rfl

theorem authFailed_moves (hauth : c.auth.reads = true) (a : ClientAction) :
    c.Moves sorter a c.authFailed := by
  unfold authFailed
  split_ifs with htls hstart
  · exact .fail .done true .closing hauth (fun _ => rfl) (.inr ⟨hstart, rfl, rfl⟩)
  · exact .fail .done true c.start hauth (fun _ => rfl) (.inl rfl)
  · exact .fail c.tls c.shouldShutdown c.start hauth id (.inl rfl)

theorem route_record {p : Packet} (hp : p.opcode = .controlV1) :
    c.route p = some { c with control := .record p } := by
  have hne : p.opcode ≠ .controlSoftResetV1 := by
    rw [hp]
    decide
  rw [route, if_neg hne, if_pos hp]

/-- Every step is one of the moves. -/
theorem move_moves (hnew : c.negState = .preStart → c.session.remoteSessionID = none)
    (hplain : c.Plain) (h : c.move sorter a = some d) : c.Moves sorter a d := by
  obtain ⟨-, hready, hcontrol⟩ := hplain
  cases a
  -- the steps that need a packet at a place
  case handOver =>
    simp only [move] at h
    split at h
    · next p handshake hmuxer hidle =>
      obtain rfl := Option.some.inj h
      exact .handOver p handshake hmuxer hidle
    · cases h
  case enqueue =>
    simp only [move] at h
    split at h
    · next p hmuxer =>
      simp only [Option.ite_none_right_eq_some, Option.some.injEq] at h
      obtain ⟨hroom, rfl⟩ := h
      exact .enqueue p hmuxer hroom
    · cases h
  case receive =>
    simp only [move] at h
    split at h
    · next p hchecking =>
      simp only [Option.ite_none_right_eq_some, Option.some.injEq] at h
      obtain ⟨-, rfl⟩ := h
      exact .receive p hchecking
    · cases h
  case report =>
    simp only [move] at h
    split at h
    · next seen ready hreporting =>
      simp only [Option.ite_none_right_eq_some, Option.some.injEq] at h
      obtain ⟨hroom, rfl⟩ := h
      exact .report seen ready hreporting hroom
    · cases h
  case ask =>
    simp only [move] at h
    split at h
    · next left hasking =>
      simp only [Option.ite_none_right_eq_some, Option.some.injEq] at h
      obtain ⟨-, rfl⟩ := h
      exact .ask left hasking
    · cases h
  case emit =>
    simp only [move] at h
    split at h
    · next left hsending hfree =>
      obtain rfl := Option.some.inj h
      exact .emit left hsending hfree
    · cases h
  case leave =>
    simp only [move] at h
    split at h
    · next left hsending =>
      simp only [Option.ite_none_right_eq_some, Option.some.injEq] at h
      obtain ⟨-, rfl⟩ := h
      exact .leave left hsending
    · cases h
  case written ok =>
    simp only [move] at h
    split at h
    · next connected hwriting =>
      split_ifs at h with hfails hconnected
      · obtain rfl := Option.some.inj h
        exact .writeFails connected hwriting
      · obtain rfl := Option.some.inj h
        exact .written (hconnected ▸ hwriting)
    · cases h
  case route =>
    simp only [move] at h
    split at h
    · next p rest hfree hdelivering =>
      rw [hdelivering] at hready
      rw [route_record (hready p (List.mem_cons_self ..))] at h
      obtain rfl := Option.some.inj h
      exact .route p rest hfree hdelivering
    · cases h
  case readRecord =>
    simp only [move] at h
    split at h
    · next p hrecord =>
      simp only [Option.ite_none_right_eq_some, Option.some.injEq] at h
      obtain ⟨hreads, rfl⟩ := h
      exact .readRecord p hrecord hreads
    · cases h
  -- all others have one guard
  all_goals
    simp only [move, Option.ite_none_right_eq_some, Option.some.injEq] at h
    obtain ⟨hguard, rfl⟩ := h
  case hardReset => exact .hardReset hguard.2.1
  case tick => exact .tick hguard.2.1
  case arrive raw => exact handleRawPacket_moves hnew hguard.1 raw
  case notify => exact .notify hguard.1
  case softReset => exact absurd hguard.1 hcontrol
  case startAuth => exact .startAuth hguard.2
  case finishHandshake => exact .finishHandshake hguard.1 hguard.2.1
  case authReply message =>
    unfold authReply
    split
    · exact authFailed_moves (by rw [hguard.1]; rfl) _
    · next info hinfo => exact .authReply info hguard.1 hinfo
  case pushReply message =>
    unfold pushReply
    split
    · exact authFailed_moves (by rw [hguard.1]; rfl) _
    · next info hinfo => exact .pushReply info hguard.1 hinfo
  case keyUp => exact .keyUp _ hguard.1
  case authFails => exact authFailed_moves hguard _
  case takeKey derived =>
    unfold handleKey
    split_ifs
    · exact .takeKey hguard.1 hguard.2
    · exact .refuseKey
  case ready => exact .ready hguard.1 hguard.2
  case firstKey => exact .firstKey hguard.1 hguard.2
  case takeData deliver => exact .takeData hguard.1
  case read => exact .read hguard
  case giveUp => exact .giveUp hguard
  case close => exact .close hguard
  case workerEnds => exact .workerEnds
  case exitMuxer => exact .exitMuxer hguard
  case notice => exact .notice hguard.1
  case flush packets => exact .flush hguard
  case emitData => exact .emitData hguard.2
  case transmit => exact .transmit hguard.1 hguard.2
  case exitReliable => exact .exitReliable hguard.1 hguard.2
  case exitSender => exact .exitSender hguard.1
  case exitMuxerDown => exact .exitMuxerDown hguard
  case exitNetwork => exact .exitNetwork hguard.1
  case exitControl => exact .exitControl hguard
  case exitTLS => exact .exitTLS hguard
  case exitKey => exact .exitKey hguard.1 hguard.2
  case exitData => exact .exitData hguard.1 hguard.2
  case closed =>
    obtain ⟨-, -, hreliable, -, -, -, -, -, hkey, hdata⟩ := hguard
    exact .closed hreliable hkey hdata

/-- The receiver lets nothing but records through. -/
theorem Moves.plain (h : c.Moves sorter a d) (hplain : c.Plain) : d.Plain := by
  obtain ⟨hbuffered, hready, hcontrol⟩ := hplain
  cases h
  case handOver => exact ⟨hbuffered, by simp [ReliableAt.inHand], hcontrol⟩
  case receive p _ =>
    have hall : ∀ q ∈ (moveUpPacket sorter c.session c.receiver p).delivered ++
        (moveUpPacket sorter c.session c.receiver p).receiver.incomingPackets,
        q.opcode = .controlV1 := by
      intro q hq
      rcases List.mem_append.mp ((moveUpPacket_subperm sorter _ _ p).subset hq) with hold | hnew
      · exact hbuffered q hold
      · exact (forControl_iff.mp (List.mem_filter.mp hnew).2).2
    refine ⟨fun q hq => hall q (List.mem_append_right _ hq), fun q hq => ?_, hcontrol⟩
    rw [ReliableAt.inHand_report] at hq
    exact hall q (List.mem_append_left _ hq)
  case report seen ready hreporting _ =>
    rw [hreporting] at hready
    refine ⟨hbuffered, fun q hq => ?_, hcontrol⟩
    rw [ReliableAt.inHand_deliver] at hq
    exact hready q hq
  case route p rest _ hdelivering =>
    rw [hdelivering] at hready
    refine ⟨hbuffered, fun q hq => ?_, by simp⟩
    rw [ReliableAt.inHand_deliver] at hq
    exact hready q (List.mem_cons_of_mem p hq)
  case readRecord => exact ⟨hbuffered, hready, by simp⟩
  case exitReliable => exact ⟨hbuffered, by simp [ReliableAt.inHand], hcontrol⟩
  case exitControl => exact ⟨hbuffered, hready, by simp⟩
  all_goals exact ⟨hbuffered, hready, hcontrol⟩

end Client
end Inversion

end ResidentialIPManager.MiniVPN
