import ResidentialIPManager.Domain.Config
import ResidentialIPManager.Text.HostPort

/-! # The whole configuration and its validation

`config.Config` with the sections that `Config.Validate` reads beyond those of `Config`,
and `Validate` with the texts of its errors. Defaults are those of `config.Default`. How
`fmt` quotes a text for `%q` is a parameter.
-/
namespace ResidentialIPManager.Domain
open Text

structure ServerConfig where
  listen : GoString := lit "127.0.0.1:8899"
  sessionSecret : GoString := []

structure AuthConfig where
  username : GoString := lit "admin"
  password : GoString := []

structure VPNGateConfig where
  apiURL : GoString := lit "https://www.vpngate.net/api/iphone/"
  maxNodes : Int := 300

structure OpenVPNSettings where
  username : GoString := lit "vpn"
  password : GoString := lit "vpn"
  connectTimeoutMS : Int := 45000
  mtu : Int := 1420
  dnsServers : List GoString := [lit "1.1.1.1", lit "8.8.8.8"]

structure SubscriptionConfig where
  enabled : Bool := true
  listen : GoString := lit "0.0.0.0:8898"
  token : GoString := []
  host : GoString := lit "auto"
  port : Int := 10086
  uuid : GoString := []
  alterID : Int := 0
  security : GoString := lit "auto"
  network : GoString := lit "tcp"

structure ProxyCoreConfig where
  enabled : Bool := true
  type : GoString := lit "embedded"
  listen : GoString := lit "0.0.0.0"
  logLevel : GoString := lit "warning"
  localSOCKSEnabled : Bool := true
  localSOCKSListen : GoString := lit "127.0.0.1:1080"

/-- `config.Config`. -/
structure Settings extends Config where
  server : ServerConfig := {}
  auth : AuthConfig := {}
  vpngate : VPNGateConfig := {}
  openvpn : OpenVPNSettings := {}
  subscription : SubscriptionConfig := {}
  proxyCore : ProxyCoreConfig := {}

/-- A check of the validation: it passes, or ends it with the message. -/
def require (passes : Bool) (message : GoString) : Except GoString Unit :=
  if passes then .ok () else .error message

def whenever (condition : Bool) (checks : Except GoString Unit) : Except GoString Unit :=
  if condition then checks else .ok ()

def requireAddress (listen message : GoString) : Except GoString (GoString × GoString) :=
  match splitHostPort listen with
  | .ok parts => .ok parts
  | .error err => .error (message ++ lit ": " ++ err)

def requireDNS (quote : GoString → GoString) : List GoString → Except GoString Unit
  | [] => .ok ()
  | server :: rest =>
    if (parseIP server).isNone then
      .error (lit "openvpn.dns_servers contains invalid IP " ++ quote server)
    else requireDNS quote rest

def requireLoopback (host : GoString) : Except GoString Unit :=
  require ((parseIP host).any IP.isLoopback)
    (lit "proxy_core.local_socks_listen must use a loopback IP")

namespace Settings

def validateSubscription (sub : SubscriptionConfig) : Except GoString Unit := do
  whenever (decide (sub.listen ≠ [])) do
    let _ ← requireAddress sub.listen (lit "subscription.listen is invalid")
    return
  require (decide (sub.token ≠ []))
    (lit "subscription.token is required when subscription is enabled")
  require (decide (1 ≤ sub.port ∧ sub.port ≤ 65535)) (lit "subscription port is required")
  require (decide (sub.uuid ≠ [])) (lit "subscription.uuid is required")

def validateProxyCore (core : ProxyCoreConfig) : Except GoString Unit := do
  require (decide (core.type ≠ []))
    (lit "proxy_core.type is required when proxy core is enabled")
  require (decide (core.type = lit "embedded")) (lit "proxy_core.type must be embedded")
  require (decide (core.listen ≠ []))
    (lit "proxy_core.listen is required when proxy core is enabled")
  require (parseIP core.listen).isSome (lit "proxy_core.listen must be an IP address")
  whenever core.localSOCKSEnabled do
    let (host, _) ← requireAddress core.localSOCKSListen
      (lit "proxy_core.local_socks_listen is invalid")
    requireLoopback host

def validate (quote : GoString → GoString) (cfg : Settings) : Except GoString Unit := do
  require (decide (cfg.deployment.mode = [] ∨ cfg.deployment.mode = lit "gateway"))
    (lit "deployment.mode must be gateway")
  require (decide (cfg.server.listen ≠ [])) (lit "server.listen is required")
  let _ ← requireAddress cfg.server.listen (lit "server.listen is invalid")
  require (decide (cfg.server.sessionSecret ≠ [])) (lit "server.session_secret is required")
  require (decide (cfg.auth.username ≠ [] ∧ cfg.auth.password ≠ []))
    (lit "auth.username and auth.password are required")
  require (decide (cfg.vpngate.apiURL ≠ [])) (lit "vpngate.api_url is required")
  require (decide (0 ≤ cfg.classifier.timeoutMS ∧ 0 ≤ cfg.classifier.maxConcurrency))
    (lit "classifier timeout and concurrency must not be negative")
  require (decide (0 ≤ cfg.probe.timeoutMS ∧ 0 ≤ cfg.probe.maxConcurrency ∧ 0 ≤ cfg.probe.samples))
    (lit "probe timeout, concurrency, and samples must not be negative")
  require (decide (0 ≤ cfg.failover.maxAttempts ∧ 0 ≤ cfg.failover.cooldownSeconds ∧
      0 ≤ cfg.failover.healthCheckSeconds ∧ 0 ≤ cfg.failover.failureThreshold))
    (lit "failover values must not be negative")
  require (decide (cfg.verify.enabled = false ∨ cfg.verify.apiURL ≠ []))
    (lit "verify.api_url is required when verify is enabled")
  require (decide (0 ≤ cfg.verify.timeoutMS)) (lit "verify.timeout_ms must not be negative")
  whenever (decide (cfg.deployment.mode = lit "gateway")) do
    require cfg.subscription.enabled (lit "subscription.enabled must be true in gateway mode")
    require cfg.proxyCore.enabled (lit "proxy_core.enabled must be true in gateway mode")
  require (decide (0 ≤ cfg.openvpn.connectTimeoutMS))
    (lit "openvpn.connect_timeout_ms must not be negative")
  require (decide (cfg.openvpn.mtu = 0 ∨ (576 ≤ cfg.openvpn.mtu ∧ cfg.openvpn.mtu ≤ 9000)))
    (lit "openvpn.mtu must be between 576 and 9000")
  requireDNS quote cfg.openvpn.dnsServers
  whenever cfg.subscription.enabled (validateSubscription cfg.subscription)
  whenever cfg.proxyCore.enabled (validateProxyCore cfg.proxyCore)

end Settings

section Checks

variable {α : Type} {quote : GoString → GoString} {message : GoString}

/-- The checks before the rest have passed if the whole passes. -/
theorem check_bind_ok {checks : Except GoString Unit} {rest : Unit → Except GoString α} {a : α} :
    (checks >>= rest) = .ok a ↔ checks = .ok () ∧ rest () = .ok a := by
  cases checks with
  | error err => simp [Bind.bind, Except.bind]
  | ok u => simp [Bind.bind, Except.bind]

theorem address_bind_ok {x : Except GoString (GoString × GoString)}
    {rest : GoString × GoString → Except GoString α} {a : α} :
    (x >>= rest) = .ok a ↔ ∃ parts, x = .ok parts ∧ rest parts = .ok a := by
  cases x with
  | error err => simp [Bind.bind, Except.bind]
  | ok parts => simp [Bind.bind, Except.bind]

theorem require_ok {passes : Bool} : require passes message = .ok () ↔ passes = true := by
  cases passes <;> simp [require]

theorem whenever_ok {condition : Bool} {checks : Except GoString Unit} :
    whenever condition checks = .ok () ↔ (condition = true → checks = .ok ()) := by
  cases condition <;> simp [whenever]

theorem requireAddress_ok {listen : GoString} {parts : GoString × GoString} :
    requireAddress listen message = .ok parts ↔ splitHostPort listen = .ok parts := by
  unfold requireAddress
  cases splitHostPort listen <;> simp

theorem requireDNS_ok {servers : List GoString} :
    requireDNS quote servers = .ok () ↔ ∀ server ∈ servers, (parseIP server).isSome = true := by
  induction servers with
  | nil => simp [requireDNS]
  | cons server rest ih =>
    cases hp : parseIP server with
    | none => simp [requireDNS, hp]
    | some ip => simp [requireDNS, hp, ih]

end Checks

end ResidentialIPManager.Domain
