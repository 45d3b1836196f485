import BeanMeter.Agent.Connection
import BeanMeter.Mapping.Registry
import BeanMeter.Scheduling.Scheduler

/-! # Failures

Everything that the program can fail with, and what it says then. -/

namespace BeanMeter

/-- What the program can fail with. -/
inductive Failure where
  | config (e : ConfigError)
  | mapping (e : MappingError)
  | connection (e : ConnectionError)
  | scheduler (e : SchedulerError)
  deriving DecidableEq, Repr

namespace Failure

/-- What the failed part has to say; `detail` is what a lower layer has to say about it. -/
def cause (detail : String) : Failure → String
  | .config e => e.message
  | .mapping e => e.message detail
  | .connection e => e.message detail
  | .scheduler e => e.message

/-- The part that failed. -/
def area : Failure → String
  | .config _ => "Configuration error"
  | .mapping _ => "Mapping load error"
  | .connection _ => "Connection error"
  | .scheduler _ => "Scheduler error"

/-- The wording of a failure. -/
def message (detail : String) (f : Failure) : String := f.area ++ ": " ++ f.cause detail

/-- Whether the program must not start with this failure. -/
def isStartup : Failure → Bool
  | .config _ | .mapping _ => true
  | .connection e => e.isFatal
  | .scheduler _ => false

end Failure

/-- What the log says where a capability of the platform is missing. -/
def unsupportedMessage (capability reason : String) : String :=
  capability ++ " unsupported in current environment: " ++ reason

end BeanMeter
