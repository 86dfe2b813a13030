import ResidentialIPManager.Domain.Settings
import ResidentialIPManager.Tunnel.Controller

/-! # The configuration of the embedded core

`RenderXrayConfig` checks its input again, under other guards than `Validate`: whether the
subscription is enabled plays no role here, the network has to be TCP, and the port of the
local SOCKS address has to be a number. `served_iff` says for which validated
configurations the two agree.
-/
namespace ResidentialIPManager.ProxyCore
open Text Domain

def valueOr (value fallback : GoString) : GoString := if value = [] then fallback else value

structure XrayClient where
  id : GoString
  alterID : Int
  security : GoString
  deriving DecidableEq

/-- The settings of an inbound: `xrayVMESSInboundSettings` or `xraySOCKSInboundSettings`. -/
inductive InboundSettings where
  | vmess (clients : List XrayClient)
  | socks (auth : GoString) (udp : Bool) (ip : GoString)
  deriving DecidableEq

structure XrayInbound where
  tag : GoString
  listen : GoString
  port : Int
  protocol : GoString
  settings : InboundSettings
  network : GoString := []
  deriving DecidableEq

structure XrayOutbound where
  protocol : GoString
  tag : GoString
  deriving DecidableEq

structure XrayConfig where
  logLevel : GoString
  inbounds : List XrayInbound
  outbounds : List XrayOutbound
  deriving DecidableEq

def vmessInbound (core : ProxyCoreConfig) (sub : SubscriptionConfig) : XrayInbound where
  tag := lit "vmess-in"
  listen := valueOr core.listen (lit "0.0.0.0")
  port := sub.port
  protocol := lit "vmess"
  settings := .vmess [⟨sub.uuid, sub.alterID, valueOr sub.security (lit "auto")⟩]
  network := lit "tcp"

def socksInbound (host : GoString) (port : Int) : XrayInbound where
  tag := lit "socks-in"
  listen := host
  port := port
  protocol := lit "socks"
  settings := .socks (lit "noauth") true host

def xrayConfig (core : ProxyCoreConfig) (inbounds : List XrayInbound) : XrayConfig where
  logLevel := valueOr core.logLevel (lit "warning")
  inbounds := inbounds
  outbounds := [⟨lit "freedom", lit "vpngate-exit"⟩]

def portRange (port : Int) : Bool := decide (1 ≤ port ∧ port ≤ 65535)

def renderXrayConfig (core : ProxyCoreConfig) (sub : SubscriptionConfig) :
    Except GoString XrayConfig :=
  if sub.uuid = [] then .error (lit "subscription uuid is required")
  else if !portRange sub.port then
    .error (lit "subscription port must be between 1 and 65535")
  else if valueOr sub.network (lit "tcp") ≠ lit "tcp" then
    .error (lit "embedded VMESS currently supports tcp transport")
  else if core.localSOCKSEnabled then
    match splitHostPort core.localSOCKSListen with
    | .error err => .error (lit "invalid local SOCKS listen address: " ++ err)
    | .ok (host, rawPort) =>
      match atoi rawPort with
      | (port, none) =>
        if portRange port then
          .ok (xrayConfig core [vmessInbound core sub, socksInbound host port])
        else .error (lit "invalid local SOCKS port")
      | (_, some _) => .error (lit "invalid local SOCKS port")
  else .ok (xrayConfig core [vmessInbound core sub])

def socksPort (listen : GoString) : Bool :=
  match splitHostPort listen with
  | .ok (_, rawPort) => decide ((atoi rawPort).2 = none) && portRange (atoi rawPort).1
  | .error _ => false

/-- What `RenderXrayConfig` demands beyond the loopback host. -/
def renderable (core : ProxyCoreConfig) (sub : SubscriptionConfig) : Bool :=
  decide (sub.uuid ≠ []) && portRange sub.port &&
    decide (sub.network = [] ∨ sub.network = lit "tcp") &&
    (!core.localSOCKSEnabled || socksPort core.localSOCKSListen)

theorem valueOr_eq_fallback {value fallback : GoString} :
    valueOr value fallback = fallback ↔ value = [] ∨ value = fallback := by
  unfold valueOr
  by_cases h : value = []
  · simp [h]
  · simp [h]

theorem renderXrayConfig_ok_iff (core : ProxyCoreConfig) (sub : SubscriptionConfig) :
    (∃ rendered, renderXrayConfig core sub = .ok rendered) ↔ renderable core sub = true := by
  unfold renderXrayConfig renderable socksPort
  by_cases huuid : sub.uuid = []
  · simp [huuid]
  by_cases hport : portRange sub.port = true
  swap
  · simp [huuid, hport]
  by_cases hnetwork : valueOr sub.network (lit "tcp") = lit "tcp"
  swap
  · have hnot : ¬(sub.network = [] ∨ sub.network = lit "tcp") := fun h =>
      hnetwork (valueOr_eq_fallback.mpr h)
    simp [huuid, hport, hnetwork, hnot]
  have htcp := valueOr_eq_fallback.mp hnetwork
  by_cases hsocks : core.localSOCKSEnabled = true
  swap
  · simp [huuid, hport, hnetwork, htcp, hsocks]
  simp only [huuid, hport, hnetwork, htcp, hsocks]
  cases hsplit : splitHostPort core.localSOCKSListen with
  | error err => simp
  | ok parts =>
    rcases hatoi : atoi parts.2 with ⟨port, _ | err⟩
    · by_cases hrange : portRange port = true
      · simp [huuid, hatoi, hrange]
      · simp [huuid, hatoi, hrange]
    · simp [huuid, hatoi]

/-- The SOCKS inbound of a rendered configuration has the host of the local address. -/
theorem socks_listen {core : ProxyCoreConfig} {sub : SubscriptionConfig} {rendered : XrayConfig}
    {inbound : XrayInbound} (h : renderXrayConfig core sub = .ok rendered)
    (hmem : inbound ∈ rendered.inbounds) (hprotocol : inbound.protocol = lit "socks") :
    core.localSOCKSEnabled = true ∧
      ∃ rawPort, splitHostPort core.localSOCKSListen = .ok (inbound.listen, rawPort) := by
  have hvmess : inbound ≠ vmessInbound core sub := by
    rintro rfl
    change lit "vmess" = lit "socks" at hprotocol
    exact absurd hprotocol (by decide)
  unfold renderXrayConfig at h
  split_ifs at h with huuid hport hnetwork hsocks
  · split at h
    · cases h
    · next host rawPort hsplit =>
      split at h
      · split_ifs at h
        obtain rfl := Except.ok.inj h
        rcases List.mem_cons.mp hmem with rfl | hmem
        · exact absurd rfl hvmess
        · rw [List.mem_singleton.mp hmem]
          exact ⟨hsocks, rawPort, hsplit⟩
      · cases h
  · obtain rfl := Except.ok.inj h
    exact absurd (List.mem_singleton.mp hmem) hvmess

/-- The configuration can be served: it renders, with a SOCKS inbound, if any, on a
loopback address, and its name servers are accepted. -/
structure Served (quote : GoString → GoString) (cfg : Settings) : Prop where
  renders : ∃ rendered, renderXrayConfig cfg.proxyCore cfg.subscription = .ok rendered ∧
    ∀ inbound ∈ rendered.inbounds, inbound.protocol = lit "socks" →
      ∃ ip, parseIP inbound.listen = some ip ∧ ip.isLoopback = true
  dns : ∃ servers, Tunnel.configuredDNS quote cfg.openvpn.dnsServers = .ok servers

section Validated

variable {quote : GoString → GoString} {cfg : Settings}

theorem checked_of_validate (h : cfg.validate quote = .ok ()) :
    (∀ server ∈ cfg.openvpn.dnsServers, (parseIP server).isSome = true) ∧
      (cfg.proxyCore.enabled = true → Settings.validateProxyCore cfg.proxyCore = .ok ()) := by
  simp only [Settings.validate, check_bind_ok, address_bind_ok, requireDNS_ok, whenever_ok] at h
  obtain ⟨-, -, parts, -, -, -, -, -, -, -, -, -, -, -, -, hdns, -, hcore⟩ := h
  exact ⟨hdns, hcore⟩

theorem loopback_of_validateProxyCore {core : ProxyCoreConfig}
    (h : Settings.validateProxyCore core = .ok ()) (hsocks : core.localSOCKSEnabled = true)
    {host rawPort : GoString} (hsplit : splitHostPort core.localSOCKSListen = .ok (host, rawPort)) :
    ∃ ip, parseIP host = some ip ∧ ip.isLoopback = true := by
  simp only [Settings.validateProxyCore, check_bind_ok, whenever_ok, address_bind_ok,
    requireAddress_ok] at h
  obtain ⟨-, -, -, -, hlocal⟩ := h
  obtain ⟨parts, hparts, hloopback⟩ := hlocal hsocks
  obtain rfl := Except.ok.inj (hparts.symm.trans hsplit)
  exact (Option.any_eq_true _ _).mp (require_ok.mp hloopback)

/-- A validated configuration with the core enabled can be served exactly if the core
can render it: there is a UUID, the port is one, the network is TCP, and the port of the
local SOCKS address, if there is one, is a number between 1 and 65535. -/
theorem served_iff (h : cfg.validate quote = .ok ()) (hcore : cfg.proxyCore.enabled = true) :
    Served quote cfg ↔ renderable cfg.proxyCore cfg.subscription = true := by
  obtain ⟨hdns, hchecked⟩ := checked_of_validate h
  rw [← renderXrayConfig_ok_iff]
  constructor
  · rintro ⟨⟨rendered, hrender, -⟩, -⟩
    exact ⟨rendered, hrender⟩
  · rintro ⟨rendered, hrender⟩
    refine ⟨⟨rendered, hrender, ?_⟩, Tunnel.configuredDNS_ok hdns⟩
    intro inbound hmem hprotocol
    obtain ⟨hsocks, rawPort, hsplit⟩ := socks_listen hrender hmem hprotocol
    exact loopback_of_validateProxyCore (hchecked hcore) hsocks hsplit

end Validated

def initialized : Settings where
  server := { sessionSecret := lit "s3cret" }
  auth := { password := lit "pa55" }
  subscription := { token := lit "t0ken", uuid := lit "b831381d-6324-4d53-ad4f-8cda48b30811" }

theorem served_initialized : initialized.validate id = .ok () ∧ Served id initialized := by
  have h : initialized.validate id = .ok () := by decide +kernel
  exact ⟨h, (served_iff h rfl).mpr (by decide +kernel)⟩

/-- Another transport passes the validation, and the core refuses it. -/
theorem validated_not_served :
    ¬ ∀ (quote : GoString → GoString) (cfg : Settings), cfg.validate quote = .ok () →
      cfg.proxyCore.enabled = true → Served quote cfg := by
  intro hclaim
  let cfg : Settings :=
    { initialized with subscription := { initialized.subscription with network := lit "ws" } }
  have h : cfg.validate id = .ok () := by decide +kernel
  obtain ⟨rendered, hrender, -⟩ := (hclaim id cfg h rfl).renders
  have hnot : renderable cfg.proxyCore cfg.subscription = false := by decide +kernel
  have hyes := (renderXrayConfig_ok_iff cfg.proxyCore cfg.subscription).mp ⟨rendered, hrender⟩
  rw [hnot] at hyes
  cases hyes

end ResidentialIPManager.ProxyCore
