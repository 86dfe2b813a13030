import ResidentialIPManager.Transition.Calls
import ResidentialIPManager.Tunnel.Controller

/-! # Callers of one controller

Concurrent `Connect` and `Disconnect` calls and `watch` goroutines on one controller, each
mutex-protected section one step. The handshake is outside the lock, the bridge of a session
may report an error from the moment the session is made, and `close` is guarded by its
`sync.Once`.
-/
namespace ResidentialIPManager.Tunnel.Ownership
open Text Domain Transition

/-- The controller and its sessions: how many were made, the error queued in `done` of
each, and its `close`. -/
structure Shared where
  controller : OpenVPNController := {}
  made : Nat := 0
  done : Nat → Option GoString := fun _ => none
  close : Nat → OnceState := fun _ => .uncalled

/-- A call or goroutine, by the section it is about to do. `closing` is about to call
`close` on a session and remembers whether it took the session out of the controller. -/
inductive Call where
  | connect (nodeID : GoString)
  | handshake (nodeID : GoString)
  | failed (err : GoString)
  | holding (session : VpnSession)
  | stored (session : Nat)
  | disconnect
  | bridge (session : Nat)
  | watch (session : Nat)
  | received (session : Nat) (err : GoString)
  | closing (session : Nat) (removed : Bool)
  | inClose (session : Nat)
  | awaitClose (session : Nat)
  | returned
  deriving DecidableEq, Repr

inductive Input where
  | go
  | handshake (answer : Except GoString Unit)
  | error (err : GoString)
  | receive
  | closed

/-- What the controller held when a session was stored, and what a `watch` took out. -/
inductive Event where
  | stored (session : Nat) (before : Option Nat)
  | watchCleared (session cleared : Nat)
  deriving DecidableEq, Repr

abbrev Sessions := Pool Shared Call Event
abbrev Result := Outcome Shared Call Event

def current (c : OpenVPNController) : Option Nat := c.session.map (·.id)

def cleared (before after : OpenVPNController) : Option Nat :=
  match before.session, after.session with
  | some session, none => some session.id
  | _, _ => none

/-- The second section of `Connect` with a session. -/
def store (c : OpenVPNController) (session : VpnSession) : OpenVPNController :=
  { c with connecting := false, session := some session, created := c.created + 1 }

/-- `reportBridgeError`: the channel holds one error, further ones are dropped. -/
def report (s : Shared) (session : Nat) (err : GoString) : Shared :=
  match s.done session with
  | some _ => s
  | none => { s with done := Function.update s.done session (some err) }

/-- A call of `close`: the first one runs the body, others wait for it. -/
def callClose (s : Shared) (session : Nat) : Shared × Call :=
  match s.close session with
  | .uncalled => ({ s with close := Function.update s.close session .running }, .inClose session)
  | .running => (s, .awaitClose session)
  | .returned => (s, .returned)

def sectionStep (s : Shared) (t : Call) (input : Input) : Option Result :=
  match t, input with
  | .connect nodeID, .go =>
    match s.controller.beginConnect with
    | .error _ => some { shared := s, thread := .returned }
    | .ok c => some { shared := { s with controller := c }, thread := .handshake nodeID }
  | .handshake _, .handshake (.error err) => some { shared := s, thread := .failed err }
  | .handshake nodeID, .handshake (.ok ()) =>
    some { shared := { s with made := s.made + 1 }, thread := .holding ⟨s.made, nodeID⟩,
           spawned := [.bridge s.made] }
  | .failed err, .go =>
    some { shared := { s with controller := s.controller.failConnect err }, thread := .returned }
  | .holding session, .go =>
    some { shared := { s with controller := store s.controller session },
           thread := .stored session.id,
           events := [.stored session.id (current s.controller)] }
  | .stored session, .go => some { shared := s, thread := .returned, spawned := [.watch session] }
  | .disconnect, .go =>
    some { shared := { s with controller := s.controller.disconnect },
           thread := match s.controller.session with
             | some session => .closing session.id true
             | none => .returned }
  | .bridge session, .error err =>
    some { shared := report s session err, thread := .bridge session }
  | .watch session, .receive =>
    (s.done session).map fun err =>
      { shared := { s with done := Function.update s.done session none },
        thread := .received session err }
  | .watch session, .closed =>
    if s.close session = .returned then some { shared := s, thread := .returned } else none
  | .received session err, .go =>
    let c := s.controller.watch session err
    some { shared := { s with controller := c },
           thread := .closing session (decide (cleared s.controller c = some session)),
           events := (cleared s.controller c).toList.map (.watchCleared session) }
  | .closing session _, .go =>
    some { shared := (callClose s session).1, thread := (callClose s session).2 }
  | .inClose session, .go =>
    some { shared := { s with close := Function.update s.close session .returned },
           thread := .returned }
  | .awaitClose session, .go =>
    if s.close session = .returned then some { shared := s, thread := .returned } else none
  | _, _ => none

def Call.entry : Call → Bool
  | .connect _ => true
  | .disconnect => true
  | _ => false

def step : Sessions → CallAction Call Input → Option Sessions :=
  Pool.callStep Call.entry sectionStep

def start : Sessions := ⟨{}, [], []⟩

def Call.between : Call → Bool
  | .handshake _ => true
  | .failed _ => true
  | .holding _ => true
  | _ => false

def Call.quiet : Call → Bool
  | .bridge _ => true
  | .watch _ => true
  | .returned => true
  | _ => false

inductive Moves (s : Shared) : Call → Result → Prop
  | refused (nodeID : GoString) : Moves s (.connect nodeID) { shared := s, thread := .returned }
  | begun (nodeID : GoString) (c : OpenVPNController) (h : s.controller.beginConnect = .ok c) :
      Moves s (.connect nodeID)
        { shared := { s with controller := c }, thread := .handshake nodeID }
  | failed (nodeID err : GoString) :
      Moves s (.handshake nodeID) { shared := s, thread := .failed err }
  | made (nodeID : GoString) :
      Moves s (.handshake nodeID)
        { shared := { s with made := s.made + 1 }, thread := .holding ⟨s.made, nodeID⟩,
          spawned := [.bridge s.made] }
  | reported (err : GoString) :
      Moves s (.failed err)
        { shared := { s with controller := s.controller.failConnect err }, thread := .returned }
  | stored (session : VpnSession) :
      Moves s (.holding session)
        { shared := { s with controller := store s.controller session },
          thread := .stored session.id,
          events := [.stored session.id (current s.controller)] }
  | spawned (id : Nat) :
      Moves s (.stored id) { shared := s, thread := .returned, spawned := [.watch id] }
  | disconnected (session : VpnSession) (h : s.controller.session = some session) :
      Moves s .disconnect
        { shared := { s with controller := s.controller.disconnect },
          thread := .closing session.id true }
  | idle (h : s.controller.session = none) :
      Moves s .disconnect
        { shared := { s with controller := s.controller.disconnect }, thread := .returned }
  | bridged (id : Nat) (err : GoString) :
      Moves s (.bridge id) { shared := report s id err, thread := .bridge id }
  | received (id : Nat) (err : GoString) :
      Moves s (.watch id)
        { shared := { s with done := Function.update s.done id none }, thread := .received id err }
  | unwatched (id : Nat) : Moves s (.watch id) { shared := s, thread := .returned }
  | cleared (id : Nat) (err : GoString) (h : current s.controller = some id) :
      Moves s (.received id err)
        { shared := { s with controller := s.controller.watch id err },
          thread := .closing id true, events := [.watchCleared id id] }
  | kept (id : Nat) (err : GoString) (h : current s.controller ≠ some id) :
      Moves s (.received id err) { shared := s, thread := .closing id false }
  | entered (id : Nat) (removed : Bool) (h : s.close id = .uncalled) :
      Moves s (.closing id removed)
        { shared := { s with close := Function.update s.close id .running },
          thread := .inClose id }
  | awaited (id : Nat) (removed : Bool) (h : s.close id = .running) :
      Moves s (.closing id removed) { shared := s, thread := .awaitClose id }
  | late (id : Nat) (removed : Bool) (h : s.close id = .returned) :
      Moves s (.closing id removed) { shared := s, thread := .returned }
  | closed (id : Nat) :
      Moves s (.inClose id)
        { shared := { s with close := Function.update s.close id .returned },
          thread := .returned }
  | resumed (id : Nat) : Moves s (.awaitClose id) { shared := s, thread := .returned }

theorem watch_own {c : OpenVPNController} {id : Nat} {err : GoString} (h : current c = some id) :
    (c.watch id err).session = none ∧ cleared c (c.watch id err) = some id := by
  obtain ⟨session, hsession, rfl⟩ := Option.map_eq_some_iff.mp h
  have hnone : (c.watch session.id err).session = none := by
    simp [OpenVPNController.watch, hsession]
  exact ⟨hnone, by simp [cleared, hsession, hnone]⟩

theorem watch_other {c : OpenVPNController} {id : Nat} (h : current c ≠ some id) (err : GoString) :
    c.watch id err = c :=
  if_neg h

theorem cleared_self (c : OpenVPNController) : cleared c c = none := by
  unfold cleared
  cases c.session <;> rfl

theorem moves_of_sectionStep {s : Shared} {t : Call} {input : Input} {o : Result}
    (h : sectionStep s t input = some o) : Moves s t o := by
  unfold sectionStep at h
  split at h
  · next nodeID =>
    split at h
    · obtain rfl := Option.some.inj h
      exact .refused nodeID
    · next c hc =>
      obtain rfl := Option.some.inj h
      exact .begun nodeID c hc
  · obtain rfl := Option.some.inj h
    exact .failed _ _
  · obtain rfl := Option.some.inj h
    exact .made _
  · obtain rfl := Option.some.inj h
    exact .reported _
  · obtain rfl := Option.some.inj h
    exact .stored _
  · obtain rfl := Option.some.inj h
    exact .spawned _
  · obtain rfl := Option.some.inj h
    cases hsession : s.controller.session with
    | none => exact .idle hsession
    | some session => exact .disconnected session hsession
  · obtain rfl := Option.some.inj h
    exact .bridged _ _
  · obtain ⟨err, -, rfl⟩ := Option.map_eq_some_iff.mp h
    exact .received _ err
  · split_ifs at h
    obtain rfl := Option.some.inj h
    exact .unwatched _
  · next id err =>
    obtain rfl := Option.some.inj h
    by_cases hown : current s.controller = some id
    · simp only [(watch_own hown).2]
      exact .cleared id err hown
    · simp only [watch_other hown err, cleared_self]
      exact .kept id err hown
  · next id removed =>
    obtain rfl := Option.some.inj h
    unfold callClose
    cases hclose : s.close id with
    | uncalled => exact .entered id removed hclose
    | running => exact .awaited id removed hclose
    | returned => exact .late id removed hclose
  · obtain rfl := Option.some.inj h
    exact .closed _
  · split_ifs at h
    obtain rfl := Option.some.inj h
    exact .resumed _
  · cases h

end ResidentialIPManager.Tunnel.Ownership
