import ResidentialIPManager.ProxyCore.Xray
import ResidentialIPManager.Web.Threads

/-! # Durations from the configuration

The configuration gives seconds and milliseconds; the program multiplies them in 64-bit
nanoseconds. `Validate` refuses negative values only, so a large value wraps around: a
timeout becomes another one or the default, and the interval of the health ticker can
become negative, which `time.NewTicker` answers with a panic.
-/
namespace ResidentialIPManager.Web
open Text Domain Probe

/-- A timeout of the configuration; a product that is not positive is replaced. -/
def timeoutOr (ms : Int) (fallback : Duration) : Duration :=
  if scaled ms millisecond ≤ 0 then fallback else scaled ms millisecond

def classifierTimeout (cfg : Settings) : Duration :=
  timeoutOr cfg.classifier.timeoutMS (10 * second)

def probeTimeout (cfg : Settings) : Duration := timeoutOr cfg.probe.timeoutMS (3 * second)

/-- The timeout of `verifyNodeExit` and of `checkExitReachability`. -/
def verifyTimeout (cfg : Settings) : Duration := timeoutOr cfg.verify.timeoutMS (10 * second)

def connectTimeout (cfg : Settings) : Duration :=
  timeoutOr cfg.openvpn.connectTimeoutMS (45 * second)

def healthSeconds (cfg : Settings) : Int :=
  if cfg.failover.healthCheckSeconds ≤ 0 then 60 else cfg.failover.healthCheckSeconds

def healthInterval (cfg : Settings) : Duration := scaled (healthSeconds cfg) second

def configuredTimeout (ms : Int) (fallback : Duration) : Duration :=
  if ms = 0 then fallback else ms * millisecond

/-- The ticker does not panic, and the durations used are the configured ones. -/
structure DurationsAsConfigured (cfg : Settings) : Prop where
  ticker : 0 < healthInterval cfg
  cooldown : Shared.cooldownOf cfg.toConfig = cfg.failover.cooldownSeconds * second
  classifier : classifierTimeout cfg = configuredTimeout cfg.classifier.timeoutMS (10 * second)
  probe : probeTimeout cfg = configuredTimeout cfg.probe.timeoutMS (3 * second)
  verify : verifyTimeout cfg = configuredTimeout cfg.verify.timeoutMS (10 * second)
  connect : connectTimeout cfg = configuredTimeout cfg.openvpn.connectTimeoutMS (45 * second)

/-- The values of the configuration fit: 292 years of nanoseconds for the cooldown and the
timeouts, and for the ticker seconds whose nanoseconds are positive modulo `2^64`. -/
structure DurationsFit (cfg : Settings) : Prop where
  ticker : 0 < healthSeconds cfg * 1000000000 % 2 ^ 64 ∧
    healthSeconds cfg * 1000000000 % 2 ^ 64 < 2 ^ 63
  cooldown : cfg.failover.cooldownSeconds ≤ 9223372036
  classifier : cfg.classifier.timeoutMS ≤ 9223372036854
  probe : cfg.probe.timeoutMS ≤ 9223372036854
  verify : cfg.verify.timeoutMS ≤ 9223372036854
  connect : cfg.openvpn.connectTimeoutMS ≤ 9223372036854

section Wrapping

variable {n : Int}

theorem wrap64_le (n : Int) : wrap64 n ≤ maxInt64 := by
  unfold wrap64 maxInt64
  omega

theorem wrap64_pos_iff : 0 < wrap64 n ↔ 0 < n % 2 ^ 64 ∧ n % 2 ^ 64 < 2 ^ 63 := by
  unfold wrap64
  omega

theorem wrap64_eq_self_iff (h : 0 ≤ n) : wrap64 n = n ↔ n ≤ maxInt64 := by
  unfold wrap64 maxInt64
  omega

end Wrapping

theorem scaled_second_eq_iff {n : Int} (h : 0 ≤ n) :
    scaled n second = n * second ↔ n ≤ 9223372036 := by
  rw [scaled, wrap64_eq_self_iff (by unfold second; omega)]
  unfold second maxInt64
  omega

/-- A timeout is the configured one if it fits; the default has to fit. -/
theorem timeoutOr_eq_iff {ms : Int} {fallback : Duration} (h : 0 ≤ ms)
    (hfallback : fallback ≤ maxInt64) :
    timeoutOr ms fallback = configuredTimeout ms fallback ↔ ms ≤ 9223372036854 := by
  have hle : timeoutOr ms fallback ≤ maxInt64 := by
    unfold timeoutOr
    split_ifs
    · exact hfallback
    · exact wrap64_le _
  have hexact : scaled ms millisecond = ms * millisecond ↔ ms ≤ 9223372036854 := by
    rw [scaled, wrap64_eq_self_iff (by unfold millisecond; omega)]
    unfold millisecond maxInt64
    omega
  by_cases hzero : ms = 0
  · subst hzero
    exact ⟨fun _ => by omega, fun _ => rfl⟩
  · rw [configuredTimeout, if_neg hzero]
    constructor
    · intro heq
      rw [heq] at hle
      have hfits : ms * 1000000 ≤ 9223372036854775807 := hle
      omega
    · intro hfits
      have hpos : ¬ms * millisecond ≤ 0 := by
        unfold millisecond
        omega
      rw [timeoutOr, hexact.mpr hfits, if_neg hpos]

/-- The checks of `Validate` on numbers that become durations. -/
theorem nonnegative_of_validate {quote : GoString → GoString} {cfg : Settings}
    (h : cfg.validate quote = .ok ()) :
    0 ≤ cfg.failover.cooldownSeconds ∧ 0 ≤ cfg.classifier.timeoutMS ∧ 0 ≤ cfg.probe.timeoutMS ∧
      0 ≤ cfg.verify.timeoutMS ∧ 0 ≤ cfg.openvpn.connectTimeoutMS := by
  simp only [Settings.validate, check_bind_ok, address_bind_ok, require_ok, decide_eq_true_eq] at h
  obtain ⟨-, -, parts, -, -, -, -, hclassifier, hprobe, hfailover, -, hverify, -, hconnect, -⟩ := h
  exact ⟨hfailover.2.1, hclassifier.1, hprobe.1, hverify, hconnect⟩

/-- A validated configuration has the durations it says exactly if its values fit. -/
theorem durations_as_configured_iff {quote : GoString → GoString} {cfg : Settings}
    (h : cfg.validate quote = .ok ()) : DurationsAsConfigured cfg ↔ DurationsFit cfg := by
  obtain ⟨hcooldown, hclassifier, hprobe, hverify, hconnect⟩ := nonnegative_of_validate h
  have hdefaults : 10 * second ≤ maxInt64 ∧ 3 * second ≤ maxInt64 ∧ 45 * second ≤ maxInt64 := by
    decide
  have hticker : 0 < healthInterval cfg ↔ 0 < healthSeconds cfg * 1000000000 % 2 ^ 64 ∧
      healthSeconds cfg * 1000000000 % 2 ^ 64 < 2 ^ 63 := wrap64_pos_iff
  constructor
  · intro used
    exact ⟨hticker.mp used.ticker, (scaled_second_eq_iff hcooldown).mp used.cooldown,
      (timeoutOr_eq_iff hclassifier hdefaults.1).mp used.classifier,
      (timeoutOr_eq_iff hprobe hdefaults.2.1).mp used.probe,
      (timeoutOr_eq_iff hverify hdefaults.1).mp used.verify,
      (timeoutOr_eq_iff hconnect hdefaults.2.2).mp used.connect⟩
  · intro fit
    exact ⟨hticker.mpr fit.ticker, (scaled_second_eq_iff hcooldown).mpr fit.cooldown,
      (timeoutOr_eq_iff hclassifier hdefaults.1).mpr fit.classifier,
      (timeoutOr_eq_iff hprobe hdefaults.2.1).mpr fit.probe,
      (timeoutOr_eq_iff hverify hdefaults.1).mpr fit.verify,
      (timeoutOr_eq_iff hconnect hdefaults.2.2).mpr fit.connect⟩

/-- The defaults, with the secrets that an initialized configuration has. -/
theorem durations_as_configured_initialized :
    ProxyCore.initialized.validate id = .ok () ∧ DurationsAsConfigured ProxyCore.initialized := by
  have h : ProxyCore.initialized.validate id = .ok () := by decide +kernel
  refine ⟨h, (durations_as_configured_iff h).mpr ⟨?_, ?_, ?_, ?_, ?_, ?_⟩⟩ <;> decide

/-- A health check every 293 years passes the validation, and the ticker panics. -/
theorem health_ticker_overflows :
    ¬ ∀ (quote : GoString → GoString) (cfg : Settings), cfg.validate quote = .ok () →
      DurationsAsConfigured cfg := by
  intro hclaim
  let cfg : Settings := { ProxyCore.initialized with
    failover := { healthCheckSeconds := 9223372037 } }
  have h : cfg.validate id = .ok () := by decide +kernel
  have hpos := (hclaim id cfg h).ticker
  exact absurd hpos (by decide)

end ResidentialIPManager.Web
