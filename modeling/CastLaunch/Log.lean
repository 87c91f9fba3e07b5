import CastLaunch.Text.Numeral

/-!
Log records: how severe, from which part of the launcher, and what is said.
-/

namespace CastLaunch

inductive Severity where
  | debug
  | info
  | warning
  | error
  | critical
  deriving DecidableEq, Repr

namespace Severity

def level : Severity → Nat
  | .debug => 10
  | .info => 20
  | .warning => 30
  | .error => 40
  | .critical => 50

def name : Severity → String
  | .debug => "DEBUG"
  | .info => "INFO"
  | .warning => "WARNING"
  | .error => "ERROR"
  | .critical => "CRITICAL"

theorem level_injective {a b : Severity} (h : a.level = b.level) : a = b := by
  cases a <;> cases b <;> first | rfl | exact absurd h (by decide)

end Severity

inductive Channel where
  | bootstrap
  | identifier
  | session
  | bridge
  | cycle
  | lifecycle
  | discovery
  | collaborator
  deriving DecidableEq, Repr

def Channel.name : Channel → String
  | .bootstrap => "uxlaunch.server.bootstrap"
  | .identifier => "uxlaunch.server.device_id"
  | .session => "uxlaunch.server.state"
  | .bridge => "uxlaunch.server.callbacks"
  | .cycle => "uxlaunch.server.orchestrator"
  | .lifecycle => "uxlaunch.server.lifecycle"
  | .discovery => "uxlaunch.discovery.zeroconf_registrar"
  | .collaborator => "uxlaunch.collaborator"

structure LogRecord where
  severity : Severity
  channel : Channel
  message : String
  deriving DecidableEq, Repr

end CastLaunch
