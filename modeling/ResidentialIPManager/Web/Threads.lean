import ResidentialIPManager.Web.Snapshots
import ResidentialIPManager.Web.Failover
import ResidentialIPManager.Classify.Residential
import ResidentialIPManager.Probe.Tcp
import ResidentialIPManager.Transition.Pool

/-! # Server state, goroutines and events

`Shared` is what the mutexes of the server and of the controller protect. A
`Thread` is one goroutine, stopped before its next protected section and holding
the local variables that the section and the rest of the function use. An `Event`
records what a section did, for the statements about whole runs.
-/
namespace ResidentialIPManager.Web
open Text Domain Tunnel

/-- State behind the mutexes, the sessions whose connections are closed, the clock, and the
contexts that were cancelled. -/
structure Shared where
  nodes : NodeCache
  snapshot : ConnectionSnapshot
  tunnel : OpenVPNController := {}
  closed : List Nat := []
  clock : Time := 0
  stopped : Bool := false
  cancelled : List Nat := []

inductive Removal where
  | dataPath
  | health
  | user
  | rejection
  deriving DecidableEq, Repr

inductive Write where
  | progress
  | maintained
  | applied (session : Nat) (passed : Bool)
  | reset
  | prepared
  | fetchFailed
  | published (session : Nat)
  | exhausted
  deriving DecidableEq, Repr

inductive Event where
  | connectRequested (tid : Nat)
  | disconnectRequested (tid : Nat)
  | disconnectReturned (tid : Nat)
  | passBegan (tid : Nat)
  | recovering (tid : Nat) (node : GoString)
  | accepted (tid : Nat) (node : GoString)
  | refused (tid : Nat) (node : GoString)
  | attemptFailed (tid : Nat) (node : GoString) (cancelled : Bool)
  | established (session : Nat) (node : GoString)
  | removed (session : Nat) (node : GoString) (cause : Removal)
  | verified (session : Nat) (node : GoString) (passed : Bool)
  | healthCheck (session : Option Nat) (passed : Bool)
  | wrote (tid : Nat) (write : Write)
  | recorded (node : GoString) (session : Nat) (held : Option Nat) (active : GoString)
  | cooldownNode (tid : Nat) (node : GoString) (deadline : Option Time)
  | installed (ids : List GoString)
  deriving DecidableEq, Repr

/-- The events of one run, newest first. -/
abbrev History := List Event

/-- The maintenance handlers: read the snapshot, copy the list, announce, do the
network work and commit, or report a failed fetch. -/
inductive MaintenancePc where
  | start
  | copy (previous : ConnectionSnapshot)
  | announce (previous : ConnectionSnapshot) (copied : NodeCache)
  | work (previous : ConnectionSnapshot) (copied : NodeCache)
  | fail (previous : ConnectionSnapshot) (environment : EnvironmentReport) (err : GoString)

inductive VerifyExitPc where
  | start
  | dial (node : VpnNode)
  | await (node : VpnNode) (via : Nat)
  | apply (node : VpnNode) (via : Nat) (result : Verify.Result)

inductive ConnectPc where
  | start (requestedID : GoString)
  | running (environment : EnvironmentReport)
  | keep (environment : EnvironmentReport) (snapshot : ConnectionSnapshot)
  | select (requestedID : GoString)

/-- `Disconnect` takes the session out under the mutex and closes it afterwards. -/
inductive DisconnectPc where
  | start
  | close (session : Option Nat)
  | reset
  | finish

inductive AutoPc where
  | start
  | announce (previousNodes : NodeCache)
  | fetch (previousNodes : NodeCache)
  | classify (previousNodes nodes : NodeCache)
  | probe (previousNodes nodes : NodeCache)

structure Loop where
  origin : Origin
  total : Nat
  attempt : Nat
  node : VpnNode
  rest : List VpnNode

/-- One attempt of a candidate loop: `announce` is before the loop's own snapshot,
`cool` is before `cooldownNode`, the others are inside `connectCandidate`. -/
inductive Phase where
  | announce
  | connect
  | handshake
  | verify (session : Nat)
  | dial (session : Nat) (since : Time)
  | await (session : Nat) (since : Time) (via : Nat)
  | reject (session : Nat) (err : GoString)
  | close (session : Option Nat) (err : GoString)
  | publish (session : Nat) (since : Time) (via : Nat) (result : Verify.Result)
  | cool (err : GoString)

/-- `monitorExit` with its local `healthFailures`; the `recover` constructors are
inside `recoverExit`, before its candidate loop. -/
inductive MonitorPc where
  | idle (healthFailures : Nat)
  | transport (healthFailures : Nat) (connected : Bool)
  | recover (reason : GoString)
  | recoverCheck (reason : GoString) (connected : Bool)
  | recoverNode (reason : GoString)
  | recoverReason (reason failedNodeID : GoString)
  | recoverCool (reason failedNodeID : GoString)
  | recoverSelect
  | health (healthFailures : Nat)
  | healthNode (healthFailures : Nat)
  | healthDial (healthFailures : Nat) (node : VpnNode)
  | healthAwait (healthFailures : Nat) (node : VpnNode) (via : Nat)
  | healthRecord (node : VpnNode) (via : Nat) (result : Verify.Result)
  | healthReach (healthFailures : Nat) (via : Option Nat) (err : GoString)
  | healthReachAwait (healthFailures : Nat) (via : Option Nat) (reach : Nat) (err : GoString)
  | healthDrop (reason : GoString)
  | healthClose (session : Option Nat) (reason : GoString)

inductive Thread where
  | maintenance (kind : Maintenance) (pc : MaintenancePc)
  | verifyExit (pc : VerifyExitPc)
  | connect (pc : ConnectPc)
  | disconnect (pc : DisconnectPc)
  | autoConnectExit (pc : AutoPc)
  | loop (l : Loop) (phase : Phase)
  | exhausted (origin : Origin) (total : Nat) (lastErr : Option GoString)
  | monitor (pc : MonitorPc)
  | watch (session : Nat)
  | closing (session : Nat)
  | done

/-- What the environment supplies to a section: the outcome of the network call
before it, ticks, and readings of the clock. -/
inductive Input where
  | go
  | time (now : Time)
  | fetched (answer : Except GoString NodeCache) (now : Time)
  | classified (answer : Except GoString (List Classify.IpApiRecord)) (now : Time)
  | probed (logs : Nat → Probe.DialLog) (now later : Time)
  | handshake (answer : Except GoString Unit)
  | verified (answer : Except GoString Verify.Result)
  | reached (answer : Except GoString Unit)
  | transportTick
  | healthTick
  | dataPath (err : GoString)

def Input.handshakeDone : Input → Bool
  | .handshake (.ok _) => true
  | _ => false

inductive Request where
  | maintenance (kind : Maintenance)
  | verifyExit
  | connect (requestedID : GoString)
  | disconnect

inductive Action where
  | request (r : Request)
  | run (tid : Nat) (input : Input)
  | advance (elapsed : Nat)
  | cancel (tid : Nat)
  | stop

abbrev World := Transition.Pool Shared Thread Event
abbrev Result := Transition.Outcome Shared Thread Event

namespace Shared

def setSnapshot (s : Shared) (snapshot : ConnectionSnapshot) : Shared :=
  { s with snapshot := snapshot }

def setTunnel (s : Shared) (tunnel : OpenVPNController) : Shared := { s with tunnel := tunnel }

/-- `close` of a session that was taken out: what is dialed through it fails from now on. -/
def closeSession (s : Shared) (session : Option Nat) : Shared :=
  { s with closed := session.toList ++ s.closed }

def commit (s : Shared) (nodes : NodeCache) (snapshot : ConnectionSnapshot) : Shared :=
  { s with nodes := nodes, snapshot := snapshot }

def activeNode (s : Shared) : Option VpnNode :=
  if s.snapshot.activeNodeID = [] then none
  else s.nodes.nodes.find? (fun n => n.id = s.snapshot.activeNodeID)

/-- Whether the context of thread `tid` is cancelled: a handler has the context of
its request, the startup connection and the monitor that of the server. -/
def ctxCancelled (s : Shared) (tid : Nat) : Origin → Bool
  | .connect => decide (tid ∈ s.cancelled)
  | .auto => s.stopped
  | .recover => s.stopped

def cooldownOf (cfg : Config) : Duration := scaled cfg.failover.cooldownSeconds second

def cooldownNode (s : Shared) (cfg : Config) (nodeID message : GoString) (now : Time) : Shared :=
  { s with
    nodes := s.nodes.withNodes (markNodeFailure s.nodes.nodes nodeID message (cooldownOf cfg) now)
      (ids_markNodeFailure _ _ _ _ _) }

def deadline (s : Shared) (cfg : Config) (nodeID : GoString) (now : Time) : Option Time :=
  if 0 < cooldownOf cfg ∧ nodeID ∈ ids s.nodes.nodes then some (now + cooldownOf cfg) else none

def removal (s : Shared) (cause : Removal) : List Event :=
  match s.tunnel.session with
  | some session => [.removed session.id session.nodeID cause]
  | none => []

section fields

variable (s : Shared) (cfg : Config) (x : ConnectionSnapshot) (c : OpenVPNController)
  (nodes : NodeCache) (id message : GoString) (now : Time) (session : Option Nat)

@[simp] theorem setSnapshot_nodes : (s.setSnapshot x).nodes = s.nodes := rfl
@[simp] theorem setSnapshot_snapshot : (s.setSnapshot x).snapshot = x := rfl
@[simp] theorem setSnapshot_tunnel : (s.setSnapshot x).tunnel = s.tunnel := rfl
@[simp] theorem setSnapshot_clock : (s.setSnapshot x).clock = s.clock := rfl
@[simp] theorem setTunnel_nodes : (s.setTunnel c).nodes = s.nodes := rfl
@[simp] theorem setTunnel_snapshot : (s.setTunnel c).snapshot = s.snapshot := rfl
@[simp] theorem setTunnel_tunnel : (s.setTunnel c).tunnel = c := rfl
@[simp] theorem setTunnel_clock : (s.setTunnel c).clock = s.clock := rfl
@[simp] theorem setTunnel_closed : (s.setTunnel c).closed = s.closed := rfl
@[simp] theorem closeSession_nodes : (s.closeSession session).nodes = s.nodes := rfl
@[simp] theorem closeSession_snapshot : (s.closeSession session).snapshot = s.snapshot := rfl
@[simp] theorem closeSession_tunnel : (s.closeSession session).tunnel = s.tunnel := rfl
@[simp] theorem closeSession_clock : (s.closeSession session).clock = s.clock := rfl
@[simp] theorem commit_nodes : (s.commit nodes x).nodes = nodes := rfl
@[simp] theorem commit_snapshot : (s.commit nodes x).snapshot = x := rfl
@[simp] theorem commit_tunnel : (s.commit nodes x).tunnel = s.tunnel := rfl
@[simp] theorem commit_clock : (s.commit nodes x).clock = s.clock := rfl
@[simp] theorem cooldownNode_snapshot : (s.cooldownNode cfg id message now).snapshot = s.snapshot :=
  rfl
@[simp] theorem cooldownNode_tunnel : (s.cooldownNode cfg id message now).tunnel = s.tunnel := rfl
@[simp] theorem cooldownNode_clock : (s.cooldownNode cfg id message now).clock = s.clock := rfl
@[simp] theorem cooldownNode_nodes : (s.cooldownNode cfg id message now).nodes.nodes =
    markNodeFailure s.nodes.nodes id message (cooldownOf cfg) now := rfl

end fields

theorem mem_removal {s : Shared} {cause : Removal} {e : Event} (h : e ∈ s.removal cause) :
    ∃ S, s.tunnel.session = some S ∧ e = .removed S.id S.nodeID cause := by
  unfold removal at h
  split at h
  · exact ⟨_, ‹_›, List.mem_singleton.mp h⟩
  · simp at h

theorem activeNode_some {s : Shared} {n : VpnNode} (h : s.activeNode = some n) :
    n ∈ s.nodes.nodes ∧ n.id = s.snapshot.activeNodeID ∧ n.id ≠ [] := by
  unfold activeNode at h
  split_ifs at h with ha
  have hid : n.id = s.snapshot.activeNodeID := by simpa using List.find?_some h
  exact ⟨List.mem_of_find?_eq_some h, hid, fun he => ha (hid ▸ he)⟩

end Shared

end ResidentialIPManager.Web
