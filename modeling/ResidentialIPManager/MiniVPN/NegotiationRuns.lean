import ResidentialIPManager.MiniVPN.Negotiation

/-! # Runs of the negotiation

What holds in every interleaving of a client's goroutines. The states of the negotiation come one
after the other, and the assertion that a session is set once never fails. `StartTUN` returns a
tunnel only after the server's two messages have been read. Two states from which there is no way
on are reachable: the muxer can be stuck behind data that came before the first record, or behind
records that came after the authentication.

The invariant is about a view of the client that leaves out the packets.
-/
namespace ResidentialIPManager.MiniVPN
open Sorting Text Transition

/-! ## Where the workers are -/

def MuxerAt.isToData : MuxerAt → Bool
  | .toData _ => true
  | _ => false

theorem MuxerAt.isToData_iff {m : MuxerAt} : m.isToData = true ↔ ∃ p, m = .toData p := by
  cases m <;> simp [isToData]

def MuxerAt.isToReliable : MuxerAt → Bool
  | .toReliable _ _ => true
  | _ => false

theorem MuxerAt.isToReliable_iff {m : MuxerAt} :
    m.isToReliable = true ↔ ∃ p handshake, m = .toReliable p handshake := by
  cases m <;> simp [isToReliable]

def ControlAt.isRecord : ControlAt → Bool
  | .record _ => true
  | _ => false

theorem ControlAt.isRecord_iff {c : ControlAt} : c.isRecord = true ↔ ∃ p, c = .record p := by
  cases c <;> simp [isRecord]

def ReliableAt.isDelivering : ReliableAt → Bool
  | .delivering _ _ => true
  | _ => false

theorem ReliableAt.isDelivering_iff {r : ReliableAt} :
    r.isDelivering = true ↔ ∃ first rest, r = .delivering first rest := by
  cases r <;> simp [isDelivering]

/-- The receiver has nothing for the control channel in hand. -/
def ReliableAt.mute : ReliableAt → Bool
  | .idle | .done => true
  | .checking p => decide (p.opcode ≠ .controlV1)
  | .reporting _ ready => ready.isEmpty
  | .delivering _ _ => false

/-! ## The view -/

structure View where
  negState : NegotiationState
  answered : Bool := false
  hardReset : Bool := false
  ticking : Bool := false
  telling : Bool := false
  notifyTLS : Bool := false
  heard : Bool := false
  auth : AuthAt := .notStarted
  keyReady : Bool := false
  offering : Bool := false
  firstKeyReady : Bool := false

def Client.view (c : Client) : View where
  negState := c.negState
  answered := c.session.remoteSessionID.isSome
  hardReset := c.hardReset
  ticking := c.ticking
  telling := c.muxer.telling
  notifyTLS := c.notifyTLS
  heard := !c.records.isEmpty
  auth := c.auth
  keyReady := c.keyReady
  offering := c.locked
  firstKeyReady := c.firstKeyReady

namespace View

inductive Moves (v : View) : View → Prop where
  | stay : v.Moves v
  | reset (h : v.hardReset = true) :
      v.Moves { v with hardReset := false, negState := .preStart, ticking := true }
  | tick (h : v.ticking = true) : v.Moves { v with negState := .preStart, ticking := true }
  | answer (hstate : v.negState = .preStart) (hnew : v.answered = false) :
      v.Moves { v with answered := true, negState := .start, ticking := false, telling := true }
  | notify (h : v.telling = true) : v.Moves { v with telling := false, notifyTLS := true }
  | leave : v.Moves { v with telling := false }
  | startAuth (h : v.notifyTLS = true) :
      v.Moves { v with notifyTLS := false, auth := .handshaking }
  | hear (h : v.auth.reads = true) : v.Moves { v with heard := true }
  | finishHandshake (h : v.auth = .handshaking) (hheard : v.heard = true) :
      v.Moves { v with negState := .sentKey, auth := .sentKey }
  | gotKey (h : v.auth = .sentKey) : v.Moves { v with negState := .gotKey, auth := .gotKey }
  | active (h : v.auth = .gotKey) : v.Moves { v with negState := .active, auth := .active }
  | keyUp (h : v.auth = .active) : v.Moves { v with auth := .ended, keyReady := true }
  | fail (h : v.auth.reads = true) : v.Moves { v with auth := .ended }
  | takeKey (h : v.keyReady = true) :
      v.Moves { v with keyReady := false, offering := true, negState := .generatedKeys }
  | refuseKey : v.Moves { v with keyReady := false }
  | ready (h : v.offering = true) : v.Moves { v with offering := false, firstKeyReady := true }

inductive Stage : View → Prop where
  | unsent : Stage { negState := .undef, hardReset := true }
  | waiting (ticking : Bool) : Stage { negState := .preStart, ticking }
  | answered (telling notifyTLS : Bool) (h : telling = false ∨ notifyTLS = false) :
      Stage { negState := .start, answered := true, telling, notifyTLS }
  | handshaking (heard : Bool) :
      Stage { negState := .start, answered := true, heard, auth := .handshaking }
  | sentKey : Stage { negState := .sentKey, answered := true, heard := true, auth := .sentKey }
  | gotKey : Stage { negState := .gotKey, answered := true, heard := true, auth := .gotKey }
  | active : Stage { negState := .active, answered := true, heard := true, auth := .active }
  | failed (negState : NegotiationState) (heard : Bool)
      (h : negState ∈ [.start, .sentKey, .gotKey]) :
      Stage { negState, answered := true, heard, auth := .ended }
  | keyed (keyReady : Bool) :
      Stage { negState := .active, answered := true, heard := true, auth := .ended, keyReady }
  | offering : Stage
      { negState := .generatedKeys, answered := true, heard := true, auth := .ended,
        offering := true }
  | ready : Stage
      { negState := .generatedKeys, answered := true, heard := true, auth := .ended,
        firstKeyReady := true }

variable {v w : View}

theorem Moves.stage (h : v.Moves w) (hstage : v.Stage) : w.Stage := by
  cases hstage
  case unsent =>
    cases h
    case reset => exact .waiting true
    all_goals first | exact .unsent | contradiction
  case waiting ticking =>
    cases h
    case tick => exact .waiting true
    case answer => exact .answered true false (.inr rfl)
    all_goals first | exact .waiting ticking | contradiction
  case answered telling notifyTLS hone =>
    cases h
    case notify => exact .answered false true (.inl rfl)
    case leave => exact .answered false notifyTLS (.inl rfl)
    case startAuth hnotify =>
      obtain rfl | rfl := hone
      · exact .handshaking false
      · contradiction
    all_goals first | exact .answered telling notifyTLS hone | contradiction
  case handshaking heard =>
    cases h
    case hear => exact .handshaking true
    case finishHandshake _ hheard =>
      obtain rfl : heard = true := hheard
      exact .sentKey
    case fail => exact .failed .start heard (by simp)
    all_goals first | exact .handshaking heard | contradiction
  case sentKey =>
    cases h
    case gotKey => exact .gotKey
    case fail => exact .failed .sentKey true (by simp)
    all_goals first | exact .sentKey | contradiction
  case gotKey =>
    cases h
    case active => exact .active
    case fail => exact .failed .gotKey true (by simp)
    all_goals first | exact .gotKey | contradiction
  case active =>
    cases h
    case keyUp => exact .keyed true
    all_goals first | exact .active | contradiction
  case failed negState heard hstate =>
    cases h
    case answer hpre _ =>
      obtain rfl : negState = .preStart := hpre
      simp at hstate
    all_goals first | exact .failed negState heard hstate | contradiction
  case keyed keyReady =>
    cases h
    case takeKey hkey => exact .offering
    case refuseKey => exact .keyed false
    all_goals first | exact .keyed keyReady | contradiction
  case offering =>
    cases h
    case ready => exact .ready
    all_goals first | exact .offering | contradiction
  case ready =>
    cases h
    all_goals first | exact .ready | contradiction

/-- The states come one after the other. -/
theorem Moves.number_le (h : v.Moves w) (hstage : v.Stage) :
    v.negState.number ≤ w.negState.number := by
  cases h
  case reset hreset =>
    cases hstage
    case unsent => simp [NegotiationState.number]
    all_goals contradiction
  case tick htick =>
    cases hstage
    case waiting => simp [NegotiationState.number]
    all_goals contradiction
  case answer hstate _ =>
    simp [hstate, NegotiationState.number]
  case finishHandshake hauth _ =>
    cases hstage
    case handshaking => simp [NegotiationState.number]
    all_goals contradiction
  case gotKey hauth =>
    cases hstage
    case sentKey => simp [NegotiationState.number]
    all_goals contradiction
  case active hauth =>
    cases hstage
    case gotKey => simp [NegotiationState.number]
    all_goals contradiction
  case takeKey hkey =>
    cases hstage
    case keyed => simp [NegotiationState.number]
    all_goals contradiction
  all_goals exact le_rfl

namespace Stage

theorem unanswered (h : v.Stage) (hstate : v.negState = .preStart) : v.answered = false := by
  cases h
  case failed negState heard hmem =>
    obtain rfl : negState = .preStart := hstate
    simp at hmem
  all_goals first | rfl | contradiction

/-- A notification starts the first authentication. -/
theorem notStarted (h : v.Stage) (hnotify : v.notifyTLS = true) : v.auth = .notStarted := by
  cases h
  all_goals first | rfl | contradiction

/-- There is no key as long as the authentication can fail. -/
theorem keyless (h : v.Stage) (hreads : v.auth.reads = true) :
    v.keyReady = false ∧ v.offering = false ∧ v.firstKeyReady = false := by
  cases h
  all_goals first | exact ⟨rfl, rfl, rfl⟩ | contradiction

theorem of_firstKeyReady (h : v.Stage) (hfirst : v.firstKeyReady = true) :
    v.negState = .generatedKeys ∧ v.answered = true ∧ v.heard = true := by
  cases h
  case ready => exact ⟨rfl, rfl, rfl⟩
  all_goals contradiction

end Stage
end View

section Steps
variable {sorter : Sorter byID} {c d : Client} {a : ClientAction}
namespace Client

theorem Moves.view (h : c.Moves sorter a d) : c.view.Moves d.view := by
  cases h
  case hardReset hreset => exact .reset hreset
  case tick htick => exact .tick htick
  case arrive muxer _ hsilent =>
    change c.view.Moves { c.view with telling := muxer.telling }
    rw [hsilent]
    exact .leave
  case answer p _ hstate hnew => exact .answer hstate (by simp [Client.view, hnew])
  case handOver p handshake hmuxer _ =>
    cases handshake
    case false => exact .leave
    case true =>
      have htelling : c.view.telling = true := by simp [Client.view, hmuxer, MuxerAt.telling]
      change c.view.Moves { c.view with telling := true }
      rw [← htelling]
      exact .stay
  case notify hmuxer => exact .notify (by simp [Client.view, hmuxer, MuxerAt.telling])
  case enqueue => exact .leave
  case startAuth hnotify => exact .startAuth hnotify
  case readRecord p _ hreads =>
    have hheard : (!(c.records ++ [p]).isEmpty) = true := by simp
    change c.view.Moves { c.view with heard := !(c.records ++ [p]).isEmpty }
    rw [hheard]
    exact .hear hreads
  case finishHandshake hauth hrecords =>
    exact .finishHandshake hauth (by simpa [Client.view] using hrecords)
  case authReply info hauth _ => exact .gotKey hauth
  case pushReply info hauth _ => exact .active hauth
  case keyUp tls hauth => exact .keyUp hauth
  case fail hreads _ _ => exact .fail hreads
  case takeKey _ hkey => exact .takeKey hkey
  case refuseKey => exact .refuseKey
  case ready hoffering _ => exact .ready (by simp [Client.view, Client.locked, hoffering])
  case exitMuxer => exact .leave
  case exitKey _ hfree =>
    have hunlocked : c.view.offering = false := by simp [Client.view, Client.locked, hfree]
    change c.view.Moves { c.view with offering := false }
    rw [← hunlocked]
    exact .stay
  all_goals exact .stay

theorem Moves.crashed (h : c.Moves sorter a d) : d.crashed = c.crashed := by
  cases h
  all_goals rfl

theorem Moves.remoteSessionID (h : c.Moves sorter a d) {id : SessionID}
    (hid : c.session.remoteSessionID = some id) : d.session.remoteSessionID = some id := by
  cases h
  case answer hnew => simp [hnew] at hid
  all_goals exact hid

/-! ## What the server has said -/

/-- The information about the tunnel is that of the two messages of the server: the MTU is the
one of the first, everything else is of the second. -/
def Informed (c : Client) : Prop :=
  ∃ reply push offered info, c.received = [reply, push] ∧ initTunnelInfo reply = some offered ∧
    parseServerPushReply push = .ok info ∧
    c.session.tunnelInfo = { info with mtu := offered.mtu }

/-- What has been received at each point of the authentication. -/
def Told (c : Client) : Prop :=
  (c.auth ∈ [.notStarted, .handshaking, .sentKey] → c.received = []) ∧
    (c.auth = .gotKey → ∃ reply offered, c.received = [reply] ∧
      initTunnelInfo reply = some offered ∧ c.session.tunnelInfo = offered) ∧
    (c.auth = .active ∨ c.keyReady = true ∨ c.keyWorker = .offering ∨ c.firstKeyReady = true →
      c.Informed)

theorem Moves.told (h : c.Moves sorter a d) (hstage : c.view.Stage) (htold : c.Told) :
    d.Told := by
  obtain ⟨hbefore, hreply, hinformed⟩ := htold
  cases h
  case startAuth hnotify =>
    have hauth : c.auth = .notStarted := hstage.notStarted hnotify
    refine ⟨fun _ => hbefore (by simp [hauth]), by simp, fun hkey => hinformed (.inr ?_)⟩
    simpa using hkey
  case finishHandshake hauth _ =>
    refine ⟨fun _ => hbefore (by simp [hauth]), by simp, fun hkey => hinformed (.inr ?_)⟩
    simpa using hkey
  case authReply message info hauth hinfo =>
    have hnothing : c.received = [] := hbefore (by simp [hauth])
    have hkeyless := hstage.keyless (by simp [Client.view, hauth, AuthAt.reads])
    refine ⟨by simp, fun _ => ⟨message, info, by simp [hnothing], hinfo, rfl⟩, ?_⟩
    simp_all [Client.view, Client.locked]
  case pushReply message info hauth hinfo =>
    obtain ⟨reply, offered, hreceived, hoffered, htunnel⟩ := hreply hauth
    refine ⟨by simp, by simp, fun _ => ⟨reply, message, offered, info, ?_, hoffered, hinfo, ?_⟩⟩
    · simp [hreceived]
    · simp [updateTunnelInfo, htunnel]
  case keyUp tls hauth => exact ⟨by simp, by simp, fun _ => hinformed (.inl hauth)⟩
  case fail =>
    refine ⟨by simp, by simp, fun hkey => hinformed (.inr ?_)⟩
    simpa using hkey
  case takeKey hkey => exact ⟨hbefore, hreply, fun _ => hinformed (.inr (.inl hkey))⟩
  case refuseKey =>
    refine ⟨hbefore, hreply, fun hkey => hinformed ?_⟩
    simp only [Bool.false_eq_true, false_or] at hkey
    exact hkey.imp_right .inr
  case ready hoffering _ =>
    exact ⟨hbefore, hreply, fun _ => hinformed (.inr (.inr (.inl hoffering)))⟩
  case exitKey =>
    refine ⟨hbefore, hreply, fun hkey => hinformed ?_⟩
    simp only [reduceCtorEq, false_or] at hkey
    exact hkey.imp_right fun hrest => hrest.imp_right .inr
  all_goals exact ⟨hbefore, hreply, hinformed⟩

/-! ## The invariant -/

/-- `StartTUN` returns with a key, `Close` has told the workers, and the data channel waits for the
key. -/
def Settled (c : Client) : Prop :=
  (c.start = .ready → c.firstKeyReady = true) ∧
    (c.start = .closing → c.shouldShutdown = true) ∧
    (c.dataWorker = .waiting ∨ c.dataWorker = .delivering → c.firstKeyReady = true)

theorem Moves.settled (h : c.Moves sorter a d) (hsettled : c.Settled) : d.Settled := by
  obtain ⟨hready, hclosing, hdata⟩ := hsettled
  cases h
  case fail hstays hstart =>
    obtain rfl | ⟨-, rfl, hshutdown⟩ := hstart
    · exact ⟨hready, fun h => hstays (hclosing h), hdata⟩
    · exact ⟨by simp, fun _ => hshutdown, hdata⟩
  case ready => exact ⟨fun _ => rfl, by simp, fun _ => rfl⟩
  case firstKey hkey => exact ⟨hready, hclosing, fun _ => hkey⟩
  case takeData hwaiting => exact ⟨hready, hclosing, fun _ => hdata (.inl hwaiting)⟩
  case read hdelivering => exact ⟨hready, hclosing, fun _ => hdata (.inr hdelivering)⟩
  case giveUp => exact ⟨by simp, fun _ => rfl, hdata⟩
  case close => exact ⟨by simp, fun _ => rfl, hdata⟩
  case workerEnds => exact ⟨hready, fun _ => rfl, hdata⟩
  case writeFails => exact ⟨hready, fun _ => rfl, hdata⟩
  case exitData => exact ⟨hready, hclosing, by simp⟩
  case closed => exact ⟨by simp, by simp, hdata⟩
  all_goals exact ⟨hready, hclosing, hdata⟩

theorem Moves.incomingSeen (h : c.Moves sorter a d)
    (hseen : c.incomingSeen.length ≤ incomingSeenCapacity) :
    d.incomingSeen.length ≤ incomingSeenCapacity := by
  cases h
  case report hroom =>
    rw [List.length_append, List.length_singleton]
    omega
  case notice =>
    rw [List.length_tail]
    omega
  all_goals exact hseen

structure Sound (c : Client) : Prop where
  stage : c.view.Stage
  alive : c.crashed = none
  plain : c.Plain
  told : c.Told
  settled : c.Settled
  seen : c.incomingSeen.length ≤ incomingSeenCapacity

theorem sound_initial (id : SessionID) : (initial id).Sound where
  stage := .unsent
  alive := rfl
  plain := ⟨by simp [initial], by simp [initial, ReliableAt.inHand], by simp [initial]⟩
  told := ⟨fun _ => rfl, by simp [initial], by simp [initial]⟩
  settled := ⟨by simp [initial], by simp [initial], by simp [initial]⟩
  seen := by simp [initial]

namespace Sound

theorem moves (hc : c.Sound) (h : c.step sorter a = some d) : c.Moves sorter a d := by
  rw [step, if_pos hc.alive] at h
  refine move_moves (fun hstate => ?_) hc.plain h
  simpa [Client.view] using hc.stage.unanswered hstate

theorem next (hc : c.Sound) (h : c.step sorter a = some d) : d.Sound := by
  have hmoves := hc.moves h
  exact
    { stage := hmoves.view.stage hc.stage
      alive := hmoves.crashed.trans hc.alive
      plain := hmoves.plain hc.plain
      told := hmoves.told hc.stage hc.told
      settled := hmoves.settled hc.settled
      seen := hmoves.incomingSeen hc.seen }

theorem invariant (hc : c.Sound) {ok : Client → ClientAction → Prop}
    (h : Reaches (step sorter) ok c d) (Inv : Client → Prop) (h0 : Inv c)
    (hmove : ∀ t u a, t.Sound → Inv t → ok t a → t.Moves sorter a u → Inv u) :
    d.Sound ∧ Inv d := by
  apply h.invariant
  · exact ⟨hc, h0⟩
  rintro t u a ⟨ht, hinv⟩ hok hstep
  exact ⟨ht.next hstep, hmove t u a ht hinv hok (ht.moves hstep)⟩

theorem of_reaches {id : SessionID} {ok : Client → ClientAction → Prop}
    (h : Reaches (step sorter) ok (initial id) c) : c.Sound :=
  h.invariant (sound_initial id) fun _ _ _ ht _ hstep => ht.next hstep

theorem records_of_firstKeyReady (hc : c.Sound) (hfirst : c.firstKeyReady = true) :
    c.records ≠ [] := by
  simpa [Client.view] using (hc.stage.of_firstKeyReady hfirst).2.2

end Sound

/-! ## A whole negotiation -/

/-- In every run the states of the negotiation come one after the other and the session of the
server stays the same. The client does not panic at a second answer, and no soft reset gets to the
control channel. -/
theorem negotiation_advances {id : SessionID} (hc : Reaches (step sorter) anyStep (initial id) c)
    (h : Reaches (step sorter) anyStep c d) :
    d.crashed = none ∧ d.control ≠ .resetting ∧ c.negState.number ≤ d.negState.number ∧
      ∀ remote, c.session.remoteSessionID = some remote →
        d.session.remoteSessionID = some remote := by
  have hkept := (Sound.of_reaches hc).invariant h
    (fun t => c.negState.number ≤ t.negState.number ∧
      ∀ remote, c.session.remoteSessionID = some remote →
        t.session.remoteSessionID = some remote) ⟨le_rfl, fun _ hid => hid⟩ ?_
  · obtain ⟨hd, hnumber, hremote⟩ := hkept
    exact ⟨hd.alive, hd.plain.2.2, hnumber, hremote⟩
  · rintro t u a ht ⟨hnumber, hremote⟩ - hmove
    exact ⟨hnumber.trans (hmove.view.number_le ht.stage),
      fun remote hid => hmove.remoteSessionID (hremote remote hid)⟩

def serverReset : List UInt8 := [64, 1, 1, 1, 1, 1, 1, 1, 1, 0, 0, 0, 0, 0]

def serverRecord (n : UInt8) : List UInt8 := [32, 1, 1, 1, 1, 1, 1, 1, 1, 0, 0, 0, 0, n, 22]

def serverKey : List UInt8 :=
  controlMessageHeader ++ 2 :: (List.replicate 64 0 ++
    [0, 13] ++ GoString.bytes (lit "tun-mtu 1500") ++ [0])

def serverPush : List UInt8 :=
  GoString.bytes (lit "PUSH_REPLY,ifconfig 10.8.0.2 10.8.0.1") ++ [0]

/-- A negotiation up to the point at which the key worker offers `Ready`. -/
def bringUp : List ClientAction :=
  [.hardReset, .arrive serverReset, .handOver, .receive, .report, .notify, .startAuth,
    .arrive (serverRecord 1), .handOver, .receive, .report, .route, .readRecord, .finishHandshake,
    .authReply serverKey, .pushReply serverPush, .keyUp, .takeKey true]

theorem negotiation_advances_generatedKeys :
    ∃ d, Reaches (step (.insertion byID)) anyStep (initial (zeroArray 8)) d ∧
      d.negState = .generatedKeys ∧ d.crashed = none := by
  have hrun : ∃ d, Reaches (step (.insertion byID)) anyStep (initial (zeroArray 8)) d ∧
      d.negState = .generatedKeys := exists_reaches _ _ bringUp (by decide +kernel)
  obtain ⟨d, hd, hstate⟩ := hrun
  exact ⟨d, hd, hstate, (negotiation_advances .refl hd).1⟩

/-- When `StartTUN` has returned a tunnel, the server has answered and said something over TLS, and
the information about the tunnel is that of its two messages. -/
theorem ready_informed {id : SessionID} (hc : Reaches (step sorter) anyStep (initial id) c)
    (hready : c.start = .ready) :
    c.negState = .generatedKeys ∧ c.session.remoteSessionID ≠ none ∧ c.records ≠ [] ∧
      c.Informed := by
  have hsound := Sound.of_reaches hc
  have hfirst : c.firstKeyReady = true := hsound.settled.1 hready
  obtain ⟨hstate, hanswered, -⟩ := hsound.stage.of_firstKeyReady hfirst
  have hremote : c.session.remoteSessionID ≠ none := by
    intro hnone
    simp [Client.view, hnone] at hanswered
  exact ⟨hstate, hremote, hsound.records_of_firstKeyReady hfirst,
    hsound.told.2.2 (.inr (.inr (.inr hfirst)))⟩

theorem ready_informed_up :
    ∃ c, Reaches (step (.insertion byID)) anyStep (initial (zeroArray 8)) c ∧
      c.start = .ready ∧ c.Informed := by
  have hrun : ∃ c, Reaches (step (.insertion byID)) anyStep (initial (zeroArray 8)) c ∧
      c.start = .ready := exists_reaches _ _ (bringUp ++ [.ready]) (by decide +kernel)
  obtain ⟨c, hc, hready⟩ := hrun
  exact ⟨c, hc, hready, (ready_informed hc hready).2.2.2⟩

/-! ## Data before the first record -/

/-- The muxer waits for room in the queue of the data channel, and no record has come. The receiver
may still be at the server's reset. -/
def Choked (c : Client) : Prop :=
  (∃ p, c.muxer = .toData p) ∧ muxerToDataCapacity ≤ c.muxerToData.length ∧
    c.reliable.mute = true ∧ c.control = .free ∧ c.records = []

/-- The same with workers that have left. -/
def Muted (c : Client) : Prop :=
  (c.muxer = .done ∨ (∃ p, c.muxer = .toData p) ∧ muxerToDataCapacity ≤ c.muxerToData.length) ∧
    c.reliable.mute = true ∧ (c.control = .free ∨ c.control = .done) ∧ c.records = []

/-- A packet that is no record gives the control channel nothing. -/
theorem mute_report (session : Manager) (r : Receiver) {p : Packet} (hp : p.opcode ≠ .controlV1) :
    (ReliableAt.report (moveUpPacket sorter session r p).seen
      (moveUpPacket sorter session r p).delivered).mute = true := by
  have hnone : (moveUpPacket sorter session r p).delivered = [] := by
    cases moveUpPacket_handles sorter session r p with
    | passedOver _ _ _ hdelivered => exact hdelivered
    | full _ _ _ _ hdelivered => exact hdelivered
    | inserted hfor _ _ _ _ _ => exact absurd (forControl_iff.mp hfor).2 hp
  rw [hnone]
  cases (moveUpPacket sorter session r p).seen <;> rfl

theorem Moves.muted (h : c.Moves sorter a d) (hc : c.Sound) (hmuted : c.Muted) : d.Muted := by
  obtain ⟨hmuxer, hreliable, hcontrol, hrecords⟩ := hmuted
  cases h
  case arrive hfree _ => simp [hfree] at hmuxer
  case answer hfree _ _ => simp [hfree] at hmuxer
  case handOver hat _ => simp [hat] at hmuxer
  case notify hat => simp [hat] at hmuxer
  case enqueue p hat hroom =>
    obtain hdone | ⟨-, hfull⟩ := hmuxer
    · simp [hat] at hdone
    · omega
  case receive p hchecking =>
    have hp : p.opcode ≠ .controlV1 := by simpa [hchecking, ReliableAt.mute] using hreliable
    exact ⟨hmuxer, mute_report c.session c.receiver hp, hcontrol, hrecords⟩
  case report seen ready hreporting _ =>
    obtain rfl : ready = [] := by simpa [hreporting, ReliableAt.mute] using hreliable
    exact ⟨hmuxer, rfl, hcontrol, hrecords⟩
  case route p rest _ hready => simp [hready, ReliableAt.mute] at hreliable
  case readRecord p hrecord _ => simp [hrecord] at hcontrol
  case takeData hwaiting =>
    -- the data channel takes nothing before there is a key
    exact absurd hrecords (hc.records_of_firstKeyReady (hc.settled.2.2 (.inl hwaiting)))
  case exitMuxer => exact ⟨.inl rfl, hreliable, hcontrol, hrecords⟩
  case exitReliable => exact ⟨hmuxer, rfl, hcontrol, hrecords⟩
  case exitControl => exact ⟨hmuxer, hreliable, .inr rfl, hrecords⟩
  all_goals exact ⟨hmuxer, hreliable, hcontrol, hrecords⟩

/-- A client whose muxer is stuck behind early data never becomes ready, whatever the server
sends. -/
theorem choked_never_ready {id : SessionID} (hc : Reaches (step sorter) anyStep (initial id) c)
    (hchoked : c.Choked) (h : Reaches (step sorter) anyStep c d) : d.start ≠ .ready := by
  obtain ⟨hmuxer, hfull, hreliable, hcontrol, hrecords⟩ := hchoked
  have hmuted : c.Muted := ⟨.inr ⟨hmuxer, hfull⟩, hreliable, .inl hcontrol, hrecords⟩
  obtain ⟨hd, -, -, -, hnone⟩ := (Sound.of_reaches hc).invariant h Muted hmuted
    fun t u a ht hinv _ hmove => hmove.muted ht hinv
  intro hready
  exact hd.records_of_firstKeyReady (hd.settled.1 hready) hnone

def earlyData : List UInt8 := [48, 0, 0, 0, 0]

/-- Thirty-three datagrams with a data opcode are enough, behind the server's reset too. -/
theorem choked_never_ready_early_data :
    ∃ c, Reaches (step (.insertion byID)) anyStep (initial (zeroArray 8)) c ∧ c.Choked ∧
      ∀ d, Reaches (step (.insertion byID)) anyStep c d → d.start ≠ .ready := by
  have hrun : ∃ c, Reaches (step (.insertion byID)) anyStep (initial (zeroArray 8)) c ∧
      c.muxer.isToData = true ∧ muxerToDataCapacity ≤ c.muxerToData.length ∧
      c.reliable.mute = true ∧ c.control = .free ∧ c.records = [] :=
    exists_reaches _ _ ([.hardReset, .arrive serverReset, .handOver, .notify] ++
      (List.replicate 32 [.arrive earlyData, .enqueue]).flatten ++ [.arrive earlyData])
      (by decide +kernel)
  obtain ⟨c, hc, hmuxer, hrest⟩ := hrun
  have hchoked : c.Choked := ⟨MuxerAt.isToData_iff.mp hmuxer, hrest⟩
  exact ⟨c, hc, hchoked, fun d => choked_never_ready hc hchoked⟩

/-! ## Records after the authentication -/

/-- Nobody reads records any more, and the control channel, the receiver and the muxer each have
one in hand. -/
def Stalled (c : Client) : Prop :=
  c.auth.reads = false ∧ c.auth ≠ .notStarted ∧ (∃ p, c.control = .record p) ∧
    (∃ first rest, c.reliable = .delivering first rest) ∧
    ∃ p handshake, c.muxer = .toReliable p handshake

theorem Moves.stalled (h : c.Moves sorter a d) (hc : c.Sound) (hstalled : c.Stalled)
    (hopen : d.shouldShutdown = false) :
    d.Stalled ∧ d.muxer = c.muxer ∧ d.muxerToData <:+ c.muxerToData := by
  have hsame : c.muxerToData <:+ c.muxerToData := List.suffix_refl _
  obtain ⟨hreads, hstarted, hcontrol, hreliable, hmuxer⟩ := id hstalled
  cases h
  case arrive hfree _ => simp [hfree] at hmuxer
  case answer hfree _ _ => simp [hfree] at hmuxer
  case handOver _ hidle => simp [hidle] at hreliable
  case notify hat => simp [hat] at hmuxer
  case enqueue hat _ => simp [hat] at hmuxer
  case receive hchecking => simp [hchecking] at hreliable
  case report hreporting _ => simp [hreporting] at hreliable
  case route hfree _ => simp [hfree] at hcontrol
  case startAuth hnotify => exact absurd (hc.stage.notStarted hnotify) hstarted
  case readRecord hyes => simp [hyes] at hreads
  case finishHandshake hauth _ => simp [hauth, AuthAt.reads] at hreads
  case authReply hauth _ => simp [hauth, AuthAt.reads] at hreads
  case pushReply hauth _ => simp [hauth, AuthAt.reads] at hreads
  case keyUp => exact ⟨⟨rfl, by simp, hcontrol, hreliable, hmuxer⟩, rfl, hsame⟩
  case fail hyes _ _ => simp [hyes] at hreads
  case takeData => exact ⟨hstalled, rfl, List.tail_suffix _⟩
  case giveUp => cases hopen
  case close => cases hopen
  case workerEnds => cases hopen
  case writeFails => cases hopen
  case exitMuxer hshutdown => simp [hshutdown] at hopen
  case exitReliable hshutdown _ => simp [hshutdown] at hopen
  case exitControl hshutdown => simp [hshutdown] at hopen
  all_goals exact ⟨hstalled, rfl, hsame⟩

theorem Moves.stays_open (h : c.Moves sorter a d) (hopen : d.shouldShutdown = false) :
    c.shouldShutdown = false := by
  cases h
  case fail hstays _ =>
    rw [Bool.eq_false_iff]
    intro hshutdown
    simp [hstays hshutdown] at hopen
  case giveUp => cases hopen
  case close => cases hopen
  case workerEnds => cases hopen
  case writeFails => cases hopen
  all_goals exact hopen

/-- Once the records that came after the authentication have filled the way up, the muxer takes
nothing more from the network as long as the client runs: the tunnel gets what is queued and no
more. -/
theorem stalled_reads_nothing {id : SessionID}
    (hc : Reaches (step sorter) anyStep (initial id) c) (hstalled : c.Stalled)
    (h : Reaches (step sorter) anyStep c d) (hopen : d.shouldShutdown = false) :
    d.muxer = c.muxer ∧ d.muxerToData <:+ c.muxerToData := by
  have hkept := (Sound.of_reaches hc).invariant h
    (fun t => t.shouldShutdown = false →
      t.Stalled ∧ t.muxer = c.muxer ∧ t.muxerToData <:+ c.muxerToData)
    (fun _ => ⟨hstalled, rfl, List.suffix_refl _⟩) ?_
  · exact (hkept.2 hopen).2
  · intro t u a ht hinv _ hmove hu
    obtain ⟨hstalled, hmuxer, hqueue⟩ := hinv (hmove.stays_open hu)
    obtain ⟨hnext, hmuxer', hqueue'⟩ := hmove.stalled ht hstalled hu
    exact ⟨hnext, hmuxer'.trans hmuxer, hqueue'.trans hqueue⟩

/-- Three records after the push reply are enough. -/
theorem stalled_reads_nothing_three :
    ∃ c, Reaches (step (.insertion byID)) anyStep (initial (zeroArray 8)) c ∧ c.start = .ready ∧
      ∀ d, Reaches (step (.insertion byID)) anyStep c d → d.shouldShutdown = false →
        d.muxer = c.muxer := by
  have hrun : ∃ c, Reaches (step (.insertion byID)) anyStep (initial (zeroArray 8)) c ∧
      c.start = .ready ∧ c.auth = .ended ∧ c.control.isRecord = true ∧
      c.reliable.isDelivering = true ∧
      c.muxer.isToReliable = true :=
    exists_reaches _ _ (bringUp ++ [.ready, .arrive (serverRecord 2), .handOver, .receive, .report,
      .route, .arrive (serverRecord 3), .handOver, .receive, .report, .arrive (serverRecord 4)])
      (by decide +kernel)
  obtain ⟨c, hc, hready, hauth, hcontrol, hreliable, hmuxer⟩ := hrun
  have hstalled : c.Stalled := ⟨by simp [hauth, AuthAt.reads], by simp [hauth],
    ControlAt.isRecord_iff.mp hcontrol, ReliableAt.isDelivering_iff.mp hreliable,
    MuxerAt.isToReliable_iff.mp hmuxer⟩
  exact ⟨c, hc, hready, fun d h hopen => (stalled_reads_nothing hc hstalled h hopen).1⟩

end Client
end Steps

end ResidentialIPManager.MiniVPN
