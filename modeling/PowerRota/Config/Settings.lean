import PowerRota.Duration

/-! Settings of the daemon, their defaults and their limits. -/

set_option autoImplicit false

namespace PowerRota

structure Settings where
  timezone : String
  maxConcurrentJobs : Nat
  validationInterval : Duration
  reloadInterval : Duration
  shutdownTimeout : Duration
  metricsEnabled : Bool
  metricsPort : Nat
  schedulesDir : String
  deriving DecidableEq, Repr

inductive SettingsFault where
  | noConcurrency
  | zeroReloadInterval
  | zeroShutdownTimeout
  | noMetricsPort
  deriving DecidableEq, Repr

def SettingsFault.message : SettingsFault → String
  | .noConcurrency => "max_concurrent_jobs must be at least 1"
  | .zeroReloadInterval => "reload_interval must be greater than zero"
  | .zeroShutdownTimeout => "shutdown_timeout must be greater than zero"
  | .noMetricsPort => "metrics_port must be set when metrics are enabled"

namespace Settings

def standard : Settings where
  timezone := ""
  maxConcurrentJobs := 5
  validationInterval := .seconds 600
  reloadInterval := .seconds 10
  shutdownTimeout := .seconds 300
  metricsEnabled := false
  metricsPort := 9090
  schedulesDir := "schedules"

def validate (settings : Settings) : Except SettingsFault Unit :=
  if settings.maxConcurrentJobs = 0 then .error .noConcurrency
  else if settings.reloadInterval.isZero then .error .zeroReloadInterval
  else if settings.shutdownTimeout.isZero then .error .zeroShutdownTimeout
  else if settings.metricsEnabled && settings.metricsPort == 0 then .error .noMetricsPort
  else .ok ()

end Settings

end PowerRota
