import ResidentialIPManager.Domain.Models

/-! # Configuration

The sections of `config.Config` that the modelled operations read. Defaults are
those of `config.Default`.
-/
namespace ResidentialIPManager.Domain
open Text

structure DeploymentConfig where
  mode : GoString := lit "gateway"
  autoStartVMESS : Bool := true
  autoConnectExit : Bool := true

structure ClassifierConfig where
  enabled : Bool := true
  timeoutMS : Int := 10000
  maxConcurrency : Int := 50

structure ProbeConfig where
  timeoutMS : Int := 3000
  maxConcurrency : Int := 64
  samples : Int := 3

structure FailoverConfig where
  enabled : Bool := true
  maxAttempts : Int := 5
  cooldownSeconds : Int := 300
  healthCheckSeconds : Int := 20
  failureThreshold : Int := 2

structure VerifyConfig where
  enabled : Bool := true
  apiURL : GoString := lit "http://ip-api.com/json/?fields=status,message,query,country," ++
    lit "countryCode,isp,as,asname,proxy,hosting,mobile"
  timeoutMS : Int := 10000

structure Config where
  deployment : DeploymentConfig := {}
  classifier : ClassifierConfig := {}
  probe : ProbeConfig := {}
  failover : FailoverConfig := {}
  verify : VerifyConfig := {}

def second : Duration := 1000000000

/-- `time.Duration(n) * unit` in 64-bit arithmetic. -/
def scaled (n : Int) (unit : Duration) : Duration := wrap64 (n * unit)

end ResidentialIPManager.Domain
