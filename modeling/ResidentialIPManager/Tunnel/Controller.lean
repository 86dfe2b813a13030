import ResidentialIPManager.Domain.Models
import ResidentialIPManager.Text.HostPort

/-! # The OpenVPN controller

The mutex-protected sections of `OpenVPNController`. A session is named by its
creation number, which stands for the pointer that `watch` compares. `Connect`
has two sections with the handshake between them.
-/
namespace ResidentialIPManager.Tunnel
open Text Domain

structure VpnSession where
  id : Nat
  nodeID : GoString
  deriving DecidableEq, Repr

/-- The fields of `EnvironmentReport` that the server reads; `Ready` is always true. -/
structure EnvironmentReport where
  running : Bool
  connecting : Bool
  nodeID : GoString
  message : GoString
  deriving DecidableEq, Repr

structure OpenVPNController where
  connecting : Bool := false
  session : Option VpnSession := none
  lastError : GoString := []
  created : Nat := 0
  deriving DecidableEq, Repr

namespace OpenVPNController

/-- The message of the report, last assignment first. -/
def reportMessage (c : OpenVPNController) : GoString :=
  match c.session with
  | some _ => lit "内置 OpenVPN 隧道已连接"
  | none =>
    if c.lastError ≠ [] then lit "上次连接失败: " ++ c.lastError
    else if c.connecting then lit "正在建立 VPNGate 隧道"
    else lit "内置 OpenVPN 协议引擎就绪"

def checkEnvironment (c : OpenVPNController) : EnvironmentReport where
  running := c.session.isSome
  connecting := c.connecting
  nodeID := (c.session.map (·.nodeID)).getD []
  message := c.reportMessage

/-- The first section of `Connect`. -/
def beginConnect (c : OpenVPNController) : Except GoString OpenVPNController :=
  if c.session.isSome then .error (lit "VPNGate tunnel is already connected")
  else if c.connecting then .error (lit "VPNGate tunnel connection is already in progress")
  else .ok { c with connecting := true, lastError := [] }

/-- The second section of `Connect` after a failed handshake. -/
def failConnect (c : OpenVPNController) (err : GoString) : OpenVPNController :=
  { c with connecting := false, lastError := err }

/-- The second section of `Connect` after a handshake: the new session is stored. -/
def install (c : OpenVPNController) (nodeID : GoString) : OpenVPNController :=
  { c with
    connecting := false
    session := some ⟨c.created, nodeID⟩
    created := c.created + 1 }

def disconnect (c : OpenVPNController) : OpenVPNController :=
  { c with session := none, lastError := [] }

/-- The section of `watch` once the data path of its session reported an error. -/
def watch (c : OpenVPNController) (session : Nat) (err : GoString) : OpenVPNController :=
  if c.session.map (·.id) = some session then
    { c with session := none, lastError := lit "tunnel data path stopped: " ++ err }
  else c

theorem beginConnect_ok {c d : OpenVPNController} (h : c.beginConnect = .ok d) :
    c.session = none ∧ c.connecting = false ∧ d = { c with connecting := true, lastError := [] } := by
  unfold beginConnect at h
  split_ifs at h with hs hc
  exact ⟨by simpa using hs, by simpa using hc, (Except.ok.inj h).symm⟩

theorem beginConnect_error {c : OpenVPNController} {err : GoString}
    (h : c.beginConnect = .error err) : c.session.isSome ∨ c.connecting = true := by
  unfold beginConnect at h
  split_ifs at h with hs hc
  · exact .inl hs
  · exact .inr hc

section fields

variable (c : OpenVPNController) (err nodeID : GoString)

@[simp] theorem failConnect_session : (c.failConnect err).session = c.session := rfl
@[simp] theorem failConnect_connecting : (c.failConnect err).connecting = false := rfl
@[simp] theorem failConnect_created : (c.failConnect err).created = c.created := rfl
@[simp] theorem install_session : (c.install nodeID).session = some ⟨c.created, nodeID⟩ := rfl
@[simp] theorem install_connecting : (c.install nodeID).connecting = false := rfl
@[simp] theorem install_created : (c.install nodeID).created = c.created + 1 := rfl
@[simp] theorem disconnect_session : c.disconnect.session = none := rfl
@[simp] theorem disconnect_connecting : c.disconnect.connecting = c.connecting := rfl
@[simp] theorem disconnect_created : c.disconnect.created = c.created := rfl

end fields

@[simp] theorem checkEnvironment_running (c : OpenVPNController) :
    c.checkEnvironment.running = c.session.isSome := rfl

@[simp] theorem checkEnvironment_connecting (c : OpenVPNController) :
    c.checkEnvironment.connecting = c.connecting := rfl

end OpenVPNController

/-- The loop of `configuredDNS`; how `fmt` quotes a text for `%q` is a parameter. -/
def parseServers (quote : GoString → GoString) : List GoString → Except GoString (List Addr)
  | [] => .ok []
  | value :: rest =>
    match parseAddr value with
    | none => .error (lit "invalid openvpn.dns_servers address " ++ quote value)
    | some ip => (parseServers quote rest).map (ip :: ·)

def configuredDNS (quote : GoString → GoString) (values : List GoString) :
    Except GoString (List Addr) :=
  if values = [] then .ok ([lit "1.1.1.1", lit "8.8.8.8"].filterMap parseAddr)
  else parseServers quote values

theorem configuredDNS_ok {quote : GoString → GoString} {values : List GoString}
    (h : ∀ value ∈ values, (parseIP value).isSome = true) :
    ∃ servers, configuredDNS quote values = .ok servers := by
  have hloop : ∃ servers, parseServers quote values = .ok servers := by
    induction values with
    | nil => exact ⟨[], rfl⟩
    | cons value rest ih =>
      obtain ⟨ip, hip⟩ := Option.isSome_iff_exists.mp (h value List.mem_cons_self)
      obtain ⟨addr, haddr, -⟩ := parseAddr_of_parseIP hip
      obtain ⟨servers, hservers⟩ := ih fun v hv => h v (List.mem_cons_of_mem _ hv)
      exact ⟨addr :: servers, by simp [parseServers, haddr, hservers, Except.map]⟩
  unfold configuredDNS
  split_ifs
  · exact ⟨_, rfl⟩
  · exact hloop

end ResidentialIPManager.Tunnel
