import ResidentialIPManager.Tunnel.ProfileCheck
import ResidentialIPManager.Web.Threads

/-! # The protected sections as steps

One function for each family of goroutines. A step runs the code from one
protected section to the next: it consumes the outcome of the network call in
between, performs the section and stops before the following one. A clock reading
made before a section is not later than the section; one made after it is not
earlier. An answer through the tunnel comes only while its session is not closed, and a
handshake completes only for a profile that reaches it.
-/
namespace ResidentialIPManager.Web
open Text Domain Tunnel

def goTo (s : Shared) (t : Thread) (events : List Event) : Result :=
  { shared := s, thread := t, events := events }

def next (s : Shared) (t : Thread) (events : List Event) : Option Result := some (goTo s t events)

section goTo

variable (s : Shared) (t : Thread) (events : List Event)

@[simp] theorem goTo_shared : (goTo s t events).shared = s := rfl
@[simp] theorem goTo_thread : (goTo s t events).thread = t := rfl
@[simp] theorem goTo_spawned : (goTo s t events).spawned = [] := rfl
@[simp] theorem goTo_events : (goTo s t events).events = events := rfl

end goTo

def maintained (cfg : Config) (kind : Maintenance) (copied : NodeCache) (s : Shared)
    (input : Input) : Option NodeCache :=
  match kind, input with
  | .refresh, .fetched (.ok fetched) now =>
    if now ≤ s.clock then
      some (fetched.withNodes (preserveNodeCooldowns fetched.nodes copied.nodes now)
        (ids_preserveNodeCooldowns _ _ _))
    else none
  | .classify, .classified answer now =>
    some (copied.withNodes (Classify.classify answer now copied.nodes)
      (Classify.ids_classify _ _ _))
  | .probe, .probed logs _ _ =>
    some (copied.withNodes (Probe.probe cfg.probe logs copied.nodes) (Probe.ids_probe _ _ _))
  | _, _ => none

/-- The error of a failed fetch, which only a refresh can report. -/
def fetchError (kind : Maintenance) (input : Input) : Option GoString :=
  match kind, input with
  | .refresh, .fetched (.error err) _ => some err
  | _, _ => none

/-- `refreshNodes`, `classifyNodes` and `probeNodes`. -/
def maintenanceStep (cfg : Config) (kind : Maintenance) (s : Shared) (tid : Nat)
    (pc : MaintenancePc) (input : Input) : Option Result :=
  match pc, input with
  | .start, .go => next s (.maintenance kind (.copy s.snapshot)) []
  | .copy previous, .go =>
    if kind ≠ .refresh ∧ s.nodes.nodes = [] then next s .done []
    else next s (.maintenance kind (.announce previous s.nodes)) []
  | .announce previous copied, .go =>
    next (s.setSnapshot (maintenanceProgress kind)) (.maintenance kind (.work previous copied))
      [.wrote tid .progress]
  | .work previous copied, input =>
    match fetchError kind input, maintained cfg kind copied s input with
    | some err, _ =>
      next s (.maintenance kind (.fail previous s.tunnel.checkEnvironment err)) []
    | none, some nodes =>
      next (s.commit nodes (nodeMaintenanceSnapshot previous s.tunnel.checkEnvironment
          (maintenanceMessage kind nodes.nodes.length))) .done
        [.wrote tid .maintained, .installed (ids nodes.nodes)]
    | none, none => none
  | .fail previous environment err, .go =>
    next (s.setSnapshot (nodeMaintenanceSnapshot previous environment
        (lit "节点刷新失败: " ++ err))) .done [.wrote tid .maintained]
  | _, _ => none

/-- The handler `verifyExit`; `applyVerifyResult` reads the clock inside its section. -/
def verifyExitStep (s : Shared) (tid : Nat) (pc : VerifyExitPc) (input : Input) : Option Result :=
  match pc, input with
  | .start, .go =>
    match s.activeNode with
    | none => next s .done []
    | some node => next s (.verifyExit (.dial node)) []
  | .dial node, .go =>
    match s.tunnel.session with
    | none => next s .done []
    | some session => next s (.verifyExit (.await node session.id)) []
  | .await node via, .verified (.ok result) =>
    if via ∈ s.closed then none
    else next s (.verifyExit (.apply node via result)) [.verified via node.id result.passed]
  | .await _ _, .verified (.error _) => next s .done []
  | .apply node via result, .go =>
    next (s.setSnapshot (applyVerifyResult s.snapshot node result s.clock)) .done
      [.wrote tid (.applied via result.passed),
        .recorded node.id via (s.tunnel.session.map (·.id)) s.snapshot.activeNodeID]
  | _, _ => none

def enterLoop (origin : Origin) (candidates : List VpnNode) (empty : Thread) : Thread :=
  match candidates with
  | [] => empty
  | node :: rest => .loop ⟨origin, candidates.length, 0, node, rest⟩ .announce

def connectAttempts (cfg : Config) (requestedID : GoString) : Int :=
  if requestedID = [] ∧ cfg.failover.enabled then cfg.failover.maxAttempts else 1

/-- The handler `connect` up to its candidate loop. -/
def connectStep (cfg : Config) (s : Shared) (tid : Nat) (pc : ConnectPc) (input : Input) :
    Option Result :=
  match pc, input with
  | .start requestedID, .go =>
    if s.tunnel.checkEnvironment.running then
      next s (.connect (.running s.tunnel.checkEnvironment)) []
    else next s (.connect (.select requestedID)) []
  | .running environment, .go => next s (.connect (.keep environment s.snapshot)) []
  | .keep environment snapshot, .go =>
    next (s.setSnapshot (nodeMaintenanceSnapshot snapshot environment
        (lit "VPNGate 出口已保持连接"))) .done [.wrote tid .maintained]
  | .select requestedID, .time now =>
    if s.clock ≤ now then
      next s (enterLoop .connect (connectionCandidates s.nodes.nodes requestedID
        (connectAttempts cfg requestedID) now) .done) [.passBegan tid]
    else none
  | _, _ => none

def disconnectStep (s : Shared) (tid : Nat) (pc : DisconnectPc) (input : Input) : Option Result :=
  match pc, input with
  | .start, .go =>
    next (s.setTunnel s.tunnel.disconnect) (.disconnect (.close (s.tunnel.session.map (·.id))))
      (s.removal .user)
  | .close session, .go => next (s.closeSession session) (.disconnect .reset) []
  | .reset, .go => next (s.setSnapshot initialSnapshot) (.disconnect .finish) [.wrote tid .reset]
  | .finish, .go => next s .done [.disconnectReturned tid]
  | _, _ => none

def prepared (cfg : Config) (previousNodes nodes : NodeCache) (logs : Nat → Probe.DialLog)
    (now : Time) : NodeCache :=
  nodes.withNodes
    (preserveNodeCooldowns (Probe.probe cfg.probe logs nodes.nodes) previousNodes.nodes now)
    ((ids_preserveNodeCooldowns _ _ _).trans (Probe.ids_probe _ _ _))

/-- `autoConnectExit` up to its candidate loop. -/
def autoConnectExitStep (cfg : Config) (s : Shared) (tid : Nat) (pc : AutoPc) (input : Input) :
    Option Result :=
  match pc, input with
  | .start, .go => next s (.autoConnectExit (.announce s.nodes)) []
  | .announce previousNodes, .go =>
    next (s.setSnapshot autoFetchingSnapshot) (.autoConnectExit (.fetch previousNodes))
      [.wrote tid .progress]
  | .fetch _, .fetched (.error err) _ =>
    next (s.setSnapshot (autoFetchFailedSnapshot err)) .done [.wrote tid .fetchFailed]
  | .fetch previousNodes, .fetched (.ok nodes) _ =>
    if cfg.classifier.enabled then
      next (s.setSnapshot autoClassifyingSnapshot)
        (.autoConnectExit (.classify previousNodes nodes)) [.wrote tid .progress]
    else
      next (s.setSnapshot autoProbingSnapshot)
        (.autoConnectExit (.probe previousNodes nodes)) [.wrote tid .progress]
  | .classify previousNodes nodes, .classified answer now =>
    next (s.setSnapshot autoProbingSnapshot)
      (.autoConnectExit (.probe previousNodes
        (nodes.withNodes (Classify.classify answer now nodes.nodes)
          (Classify.ids_classify _ _ _)))) [.wrote tid .progress]
  | .probe previousNodes nodes, .probed logs now later =>
    if now ≤ s.clock ∧ s.clock ≤ later then
      let installed := prepared cfg previousNodes nodes logs now
      next (s.commit installed (autoPreparedSnapshot installed.nodes.length))
        (enterLoop .auto (connectionCandidates installed.nodes []
          (if cfg.failover.maxAttempts ≤ 0 then 1 else cfg.failover.maxAttempts) later) .done)
        [.passBegan tid, .wrote tid .prepared, .installed (ids installed.nodes)]
    else none
  | _, _ => none

def loopReturn : Origin → Thread
  | .connect => .done
  | .auto => .done
  | .recover => .monitor (.idle 0)

def nextAttempt (l : Loop) (err : GoString) : Thread :=
  match l.rest with
  | [] => .exhausted l.origin l.total (some err)
  | node :: rest => .loop { l with attempt := l.attempt + 1, node := node, rest := rest } .announce

/-- A completed handshake stores the session and starts its `watch`. -/
def established (s : Shared) (l : Loop) : Result where
  shared := s.setTunnel (s.tunnel.install l.node.id)
  thread := .loop l (.verify s.tunnel.created)
  spawned := [.watch s.tunnel.created]
  events := [.established s.tunnel.created l.node.id]

@[simp] theorem established_shared (s : Shared) (l : Loop) :
    (established s l).shared = s.setTunnel (s.tunnel.install l.node.id) := rfl
@[simp] theorem established_thread (s : Shared) (l : Loop) :
    (established s l).thread = .loop l (.verify s.tunnel.created) := rfl
@[simp] theorem established_spawned (s : Shared) (l : Loop) :
    (established s l).spawned = [.watch s.tunnel.created] := rfl
@[simp] theorem established_events (s : Shared) (l : Loop) :
    (established s l).events = [.established s.tunnel.created l.node.id] := rfl

/-- One attempt of a candidate loop, with `connectCandidate` and `Connect` inlined. -/
def connectCandidateStep (cfg : Config) (s : Shared) (tid : Nat) (l : Loop) (phase : Phase)
    (input : Input) : Option Result :=
  match phase, input with
  | .announce, .go =>
    next (s.setSnapshot (attemptSnapshot l.origin l.attempt l.total l.node)) (.loop l .connect)
      [.wrote tid .progress]
  | .connect, .go =>
    match s.tunnel.beginConnect with
    | .error err =>
      next s (.loop l (.cool (lit "OpenVPN 连接失败: " ++ err))) [.refused tid l.node.id]
    | .ok tunnel => next (s.setTunnel tunnel) (.loop l .handshake) [.accepted tid l.node.id]
  | .handshake, .handshake (.error err) =>
    next (s.setTunnel (s.tunnel.failConnect err))
      (.loop l (.cool (lit "OpenVPN 连接失败: " ++ err)))
      [.attemptFailed tid l.node.id (s.ctxCancelled tid l.origin)]
  | .handshake, .handshake (.ok ()) =>
    if reachesHandshake l.node then some (established s l) else none
  | .verify session, .time now =>
    if now ≤ s.clock then
      if cfg.verify.enabled then
        next (s.setSnapshot (verifyingSnapshot l.node now)) (.loop l (.dial session now))
          [.wrote tid .progress]
      else
        next (s.setSnapshot (connectedSnapshot l.node now none)) (loopReturn l.origin)
          [.wrote tid (.published session)]
    else none
  | .dial session since, .go =>
    match s.tunnel.session with
    | none =>
      next s (.loop l (.reject session (lit "出口复核失败: " ++ Verify.notConnected
          (Verify.requestURL cfg.verify.apiURL))))
        [.attemptFailed tid l.node.id (s.ctxCancelled tid l.origin)]
    | some current => next s (.loop l (.await session since current.id)) []
  | .await session _ _, .verified (.error err) =>
    next s (.loop l (.reject session (lit "出口复核失败: " ++ err)))
      [.attemptFailed tid l.node.id (s.ctxCancelled tid l.origin)]
  | .await session since via, .verified (.ok result) =>
    if via ∈ s.closed then none
    else if result.passed then
      next s (.loop l (.publish session since via result)) [.verified via l.node.id true]
    else
      next s (.loop l (.reject session (lit "出口复核未通过: " ++ result.message)))
        [.attemptFailed tid l.node.id (s.ctxCancelled tid l.origin),
          .verified via l.node.id false]
  | .reject _ err, .go =>
    next (s.setTunnel s.tunnel.disconnect) (.loop l (.close (s.tunnel.session.map (·.id)) err))
      (s.removal .rejection)
  | .close session err, .go => next (s.closeSession session) (.loop l (.cool err)) []
  | .publish session since _ result, .time now =>
    if now ≤ s.clock then
      next (s.setSnapshot (connectedSnapshot l.node since (some (result, now))))
        (loopReturn l.origin) [.wrote tid (.published session)]
    else none
  | .cool err, .time now =>
    if now ≤ s.clock then
      next (s.cooldownNode cfg l.node.id err now) (nextAttempt l err)
        [.cooldownNode tid l.node.id (s.deadline cfg l.node.id now)]
    else none
  | _, _ => none

def exhaustedStep (s : Shared) (tid : Nat) (origin : Origin) (total : Nat)
    (lastErr : Option GoString) (input : Input) : Option Result :=
  match input with
  | .go =>
    next (s.setSnapshot (exhaustedSnapshot origin total lastErr)) (loopReturn origin)
      [.wrote tid .exhausted]
  | _ => none

def failureThreshold (cfg : Config) : Nat :=
  if cfg.failover.failureThreshold ≤ 0 then 2 else cfg.failover.failureThreshold.toNat

def healthFailed (cfg : Config) (healthFailures : Nat) (reason : GoString) : Thread :=
  if failureThreshold cfg ≤ healthFailures + 1 then .monitor (.healthDrop reason)
  else .monitor (.idle (healthFailures + 1))

/-- The session on which a health check with two dials was performed, if it is one. -/
def sameSession (via : Option Nat) (reach : Nat) : Option Nat :=
  if via = some reach then some reach else none

def reachFailure (err reachErr : GoString) : GoString :=
  lit "严格验证失败: " ++ err ++ lit "；备用公网探测失败: " ++ reachErr

def recoveryReason (s : Shared) (reason : GoString) : GoString :=
  if reason ≠ [] then reason
  else if s.tunnel.checkEnvironment.message ≠ [] then s.tunnel.checkEnvironment.message
  else lit "VPNGate 数据通道已停止"

/-- `monitorExit`, and `recoverExit` up to its candidate loop. -/
def monitorExitStep (cfg : Config) (s : Shared) (tid : Nat) (pc : MonitorPc) (input : Input) :
    Option Result :=
  match pc, input with
  | .idle _, .go => if s.stopped then next s .done [] else none
  | .idle hf, .transportTick =>
    next s (.monitor (.transport hf (decide (s.snapshot.state = .connected)))) []
  | .transport hf connected, .go =>
    if connected ∧ s.tunnel.session = none ∧ s.tunnel.connecting = false then
      next s (.monitor (.recover [])) []
    else next s (.monitor (.idle hf)) []
  | .recover reason, .go =>
    next s (.monitor (.recoverCheck reason (decide (s.snapshot.state = .connected)))) []
  | .recoverCheck reason connected, .go =>
    if connected ∧ s.tunnel.session = none ∧ s.tunnel.connecting = false ∧ s.stopped = false then
      next s (.monitor (.recoverNode reason)) []
    else next s (.monitor (.idle 0)) []
  | .recoverNode reason, .go =>
    next s (.monitor (.recoverReason reason s.snapshot.activeNodeID))
      [.recovering tid s.snapshot.activeNodeID]
  | .recoverReason reason failedNodeID, .go =>
    next s (.monitor (.recoverCool (recoveryReason s reason) failedNodeID)) []
  | .recoverCool reason failedNodeID, .time now =>
    if now ≤ s.clock then
      if failedNodeID ≠ [] then
        next (s.cooldownNode cfg failedNodeID reason now) (.monitor .recoverSelect)
          [.cooldownNode tid failedNodeID (s.deadline cfg failedNodeID now)]
      else next s (.monitor .recoverSelect) []
    else none
  | .recoverSelect, .time now =>
    if s.clock ≤ now then
      next s (enterLoop .recover (connectionCandidates s.nodes.nodes [] cfg.failover.maxAttempts
        now) (.exhausted .recover 0 none)) [.passBegan tid]
    else none
  | .idle hf, .healthTick =>
    if cfg.verify.enabled ∧ s.snapshot.state = .connected then next s (.monitor (.health hf)) []
    else next s (.monitor (.idle 0)) []
  | .health hf, .go =>
    if s.tunnel.checkEnvironment.running then next s (.monitor (.healthNode hf)) []
    else next s (.monitor (.idle 0)) []
  | .healthNode hf, .go =>
    match s.activeNode with
    | none => next s (healthFailed cfg hf (lit "活动节点状态缺失")) [.healthCheck none false]
    | some node => next s (.monitor (.healthDial hf node)) []
  | .healthDial hf node, .go =>
    match s.tunnel.session with
    | none =>
      next s (.monitor (.healthReach hf none (Verify.notConnected
        (Verify.requestURL cfg.verify.apiURL)))) []
    | some session => next s (.monitor (.healthAwait hf node session.id)) []
  | .healthAwait hf _ via, .verified (.error err) =>
    next s (.monitor (.healthReach hf (some via) err)) []
  | .healthAwait hf node via, .verified (.ok result) =>
    if via ∈ s.closed then none
    else if result.passed then
      next s (.monitor (.healthRecord node via result)) [.verified via node.id true]
    else
      next s (healthFailed cfg hf result.message)
        [.healthCheck (some via) false, .verified via node.id false]
  | .healthRecord node via result, .time now =>
    if now ≤ s.clock then
      next (s.setSnapshot (recordVerification s.snapshot result now)) (.monitor (.idle 0))
        [.healthCheck (some via) true,
          .recorded node.id via (s.tunnel.session.map (·.id)) s.snapshot.activeNodeID]
    else none
  | .healthReach hf via err, .go =>
    match s.tunnel.session with
    | none =>
      next s (healthFailed cfg hf (reachFailure err
          (Verify.notConnected (lit "https://api.ipify.org"))))
        [.healthCheck none false]
    | some session => next s (.monitor (.healthReachAwait hf via session.id err)) []
  | .healthReachAwait _ via reach _, .reached (.ok ()) =>
    if reach ∈ s.closed then none
    else next s (.monitor (.idle 0)) [.healthCheck (sameSession via reach) true]
  | .healthReachAwait hf via reach err, .reached (.error reachErr) =>
    next s (healthFailed cfg hf (reachFailure err reachErr))
      [.healthCheck (sameSession via reach) false]
  | .healthDrop reason, .go =>
    next (s.setTunnel s.tunnel.disconnect)
      (.monitor (.healthClose (s.tunnel.session.map (·.id)) reason)) (s.removal .health)
  | .healthClose session reason, .go =>
    next (s.closeSession session) (.monitor (.recover reason)) []
  | _, _ => none

/-- `watch` of one session, which ends with the session; its removal event is recorded when the
session was current. -/
def watchStep (s : Shared) (session : Nat) (input : Input) : Option Result :=
  match input with
  | .dataPath err =>
    next (s.setTunnel (s.tunnel.watch session err)) (.closing session)
      (if s.tunnel.session.map (·.id) = some session then s.removal .dataPath else [])
  | .go => if session ∈ s.closed then next s .done [] else none
  | _ => none

/-- The end of `watch` after an error of the data path. -/
def closingStep (s : Shared) (session : Nat) (input : Input) : Option Result :=
  match input with
  | .go => next (s.closeSession (some session)) .done []
  | _ => none

def stepThread (cfg : Config) (s : Shared) (tid : Nat) (t : Thread) (input : Input) :
    Option Result :=
  match t with
  | .maintenance kind pc => maintenanceStep cfg kind s tid pc input
  | .verifyExit pc => verifyExitStep s tid pc input
  | .connect pc => connectStep cfg s tid pc input
  | .disconnect pc => disconnectStep s tid pc input
  | .autoConnectExit pc => autoConnectExitStep cfg s tid pc input
  | .loop l phase => connectCandidateStep cfg s tid l phase input
  | .exhausted origin total lastErr => exhaustedStep s tid origin total lastErr input
  | .monitor pc => monitorExitStep cfg s tid pc input
  | .watch session => watchStep s session input
  | .closing session => closingStep s session input
  | .done => none

end ResidentialIPManager.Web
