import ResidentialIPManager.Tunnel.Controller
import ResidentialIPManager.Verify.Exit
import ResidentialIPManager.Domain.Config

/-! # The snapshots that the server publishes

Every `domain.ConnectionSnapshot` literal of web/server.go and the functions that
derive one snapshot from another.
-/
namespace ResidentialIPManager.Web
open Text Domain Tunnel

inductive Origin where
  | connect
  | auto
  | recover
  deriving DecidableEq, Repr

inductive Maintenance where
  | refresh
  | classify
  | probe
  deriving DecidableEq, Repr

def nodeMaintenanceSnapshot (previous : ConnectionSnapshot) (environment : EnvironmentReport)
    (message : GoString) : ConnectionSnapshot :=
  if !environment.running then { initialSnapshot with message := message }
  else
    { previous with
      state := .connected
      message := message
      activeNodeID := if environment.nodeID ≠ [] then environment.nodeID else previous.activeNodeID
      metadata := if environment.nodeID ≠ [] then
        previous.metadata.set (lit "node_id") environment.nodeID else previous.metadata }

def maintenanceProgress : Maintenance → ConnectionSnapshot
  | .refresh => { state := .fetchingNodes, message := lit "正在获取 VPNGate 节点" }
  | .classify => { state := .probingNodes, message := lit "正在执行严格家宽判定" }
  | .probe => { state := .probingNodes, message := lit "正在 TCP 探活节点" }

def maintenanceMessage (kind : Maintenance) (n : Nat) : GoString :=
  match kind with
  | .refresh => lit "已刷新 " ++ itoa n ++ lit " 个节点"
  | .classify => lit "严格家宽判定完成"
  | .probe => lit "TCP 探活完成"

def connectionAttemptState (attempt : Nat) : ConnectionState :=
  if attempt = 0 then .connecting else .failingOver

def attemptText (attempt total : Nat) : GoString :=
  itoa (attempt + 1) ++ lit "/" ++ itoa total

def attemptSnapshot (origin : Origin) (attempt total : Nat) (node : VpnNode) : ConnectionSnapshot :=
  match origin with
  | .connect =>
    { state := connectionAttemptState attempt
      message := lit "正在连接节点 " ++ attemptText attempt total ++ lit "：" ++ node.ip
      activeNodeID := node.id
      metadata := [(lit "node_ip", node.ip), (lit "attempt", attemptText attempt total)] }
  | .auto =>
    { state := connectionAttemptState attempt
      message := lit "正在自动连接 VPNGate 出口 " ++ attemptText attempt total ++ lit "：" ++ node.ip
      activeNodeID := node.id
      metadata := [(lit "node_ip", node.ip), (lit "attempt", attemptText attempt total)] }
  | .recover =>
    { state := .failingOver
      message := lit "出口失效，正在切换节点 " ++ attemptText attempt total ++ lit "：" ++ node.ip
      activeNodeID := node.id
      metadata := [(lit "attempt", attemptText attempt total)] }

def exhaustedSnapshot (origin : Origin) (total : Nat) (lastErr : Option GoString) :
    ConnectionSnapshot :=
  match origin with
  | .connect =>
    { state := .error
      message := lit "所有候选节点连接失败" ++ (lastErr.map (lit ": " ++ ·)).getD []
      metadata := [(lit "attempts", itoa total)] }
  | .auto => { state := .error, message := lit "自动连接 VPNGate/OpenVPN 出口失败" }
  | .recover => { state := .error, message := lit "VPNGate 出口失效，缓存中的候选节点均不可用" }

def verifyingSnapshot (node : VpnNode) (since : Time) : ConnectionSnapshot where
  state := .verifying
  message := lit "正在复核公网出口"
  activeNodeID := node.id
  connectedSince := some since
  metadata := [(lit "node_ip", node.ip)]

def passedText (b : Bool) : GoString := if b then lit "true" else lit "false"

/-- The last snapshot of `connectCandidate`. Without verification the result is the
zero `verify.Result` and no verification time is shown. -/
def connectedSnapshot (node : VpnNode) (since : Time) (verified : Option (Verify.Result × Time)) :
    ConnectionSnapshot where
  state := .connected
  message := if verified.isSome then lit "OpenVPN 已连接，出口复核通过"
    else lit "OpenVPN 已连接，等待出口复核接入"
  activeNodeID := node.id
  exitIP := (verified.map (·.1.exitIP)).getD []
  connectedSince := some since
  lastVerifiedAt := verified.map Prod.snd
  metadata :=
    [(lit "node_ip", node.ip),
      (lit "exit_country", (verified.map (·.1.countryCode)).getD []),
      (lit "exit_asn", (verified.map (·.1.asn)).getD []),
      (lit "verify_passed", passedText ((verified.map (·.1.passed)).getD false))]

def resultMetadata (m : Metadata) (result : Verify.Result) : Metadata :=
  ((m.set (lit "exit_country") result.countryCode).set (lit "exit_asn") result.asn).set
    (lit "verify_passed") (passedText result.passed)

def applyVerifyResult (snapshot : ConnectionSnapshot) (node : VpnNode) (result : Verify.Result)
    (now : Time) : ConnectionSnapshot :=
  { snapshot with
    state := if result.passed then .connected else .error
    activeNodeID := node.id
    exitIP := result.exitIP
    lastVerifiedAt := some now
    message := result.message
    metadata := resultMetadata (snapshot.metadata.set (lit "node_ip") node.ip) result }

def recordVerification (snapshot : ConnectionSnapshot) (result : Verify.Result) (now : Time) :
    ConnectionSnapshot :=
  { snapshot with
    lastVerifiedAt := some now
    exitIP := result.exitIP
    metadata := resultMetadata snapshot.metadata result }

/-- The snapshots of the startup connection before its candidate loop. -/
def autoFetchingSnapshot : ConnectionSnapshot :=
  { state := .fetchingNodes, message := lit "正在自动获取 VPNGate 节点" }

def autoClassifyingSnapshot : ConnectionSnapshot :=
  { state := .probingNodes, message := lit "正在自动执行家宽判定" }

def autoProbingSnapshot : ConnectionSnapshot :=
  { state := .probingNodes, message := lit "正在自动 TCP 探活" }

def autoFetchFailedSnapshot (err : GoString) : ConnectionSnapshot :=
  { state := .error, message := lit "自动获取 VPNGate 节点失败: " ++ err }

def autoPreparedSnapshot (n : Nat) : ConnectionSnapshot :=
  { initialSnapshot with message := lit "自动准备完成，已缓存 " ++ itoa n ++ lit " 个节点" }

theorem nodeMaintenanceSnapshot_stopped {previous : ConnectionSnapshot} {env : EnvironmentReport}
    {message : GoString} (h : env.running = false) :
    nodeMaintenanceSnapshot previous env message = { initialSnapshot with message := message } := by
  simp [nodeMaintenanceSnapshot, h]

theorem nodeMaintenanceSnapshot_state (previous : ConnectionSnapshot) (env : EnvironmentReport)
    (message : GoString) :
    (nodeMaintenanceSnapshot previous env message).state =
      if env.running then .connected else .idle := by
  unfold nodeMaintenanceSnapshot
  cases env.running <;> simp

theorem running_of_connected {previous : ConnectionSnapshot} {env : EnvironmentReport}
    {message : GoString} (hc : (nodeMaintenanceSnapshot previous env message).state = .connected) :
    env.running = true := by
  rw [nodeMaintenanceSnapshot_state] at hc
  by_contra hr
  simp [hr] at hc

@[simp] theorem attemptSnapshot_activeNodeID (origin : Origin) (attempt total : Nat)
    (node : VpnNode) : (attemptSnapshot origin attempt total node).activeNodeID = node.id := by
  cases origin <;> rfl

theorem connectionAttemptState_ne (attempt : Nat) :
    connectionAttemptState attempt ≠ .connected ∧ connectionAttemptState attempt ≠ .idle := by
  unfold connectionAttemptState
  split_ifs <;> simp

theorem attemptSnapshot_state_ne (origin : Origin) (attempt total : Nat) (node : VpnNode) :
    (attemptSnapshot origin attempt total node).state ≠ .connected ∧
      (attemptSnapshot origin attempt total node).state ≠ .idle := by
  cases origin with
  | connect => exact connectionAttemptState_ne attempt
  | auto => exact connectionAttemptState_ne attempt
  | recover => exact ⟨by simp [attemptSnapshot], by simp [attemptSnapshot]⟩

@[simp] theorem exhaustedSnapshot_state (origin : Origin) (total : Nat) (e : Option GoString) :
    (exhaustedSnapshot origin total e).state = .error := by
  cases origin <;> rfl

@[simp] theorem exhaustedSnapshot_activeNodeID (origin : Origin) (total : Nat)
    (e : Option GoString) : (exhaustedSnapshot origin total e).activeNodeID = [] := by
  cases origin <;> rfl

theorem maintenanceProgress_state (kind : Maintenance) :
    (maintenanceProgress kind).state ≠ .connected ∧ (maintenanceProgress kind).state ≠ .idle := by
  cases kind <;> simp [maintenanceProgress]

@[simp] theorem maintenanceProgress_activeNodeID (kind : Maintenance) :
    (maintenanceProgress kind).activeNodeID = [] := by
  cases kind <;> rfl

end ResidentialIPManager.Web
