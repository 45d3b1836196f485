import BeanMeter.Host.Files

/-! # Configuration errors

* `ConfigError` — why a property set is no usable configuration.
* `ConfigError.message` — the wording.
-/

namespace BeanMeter

/-- The form a property value was expected to have. -/
inductive ValueForm where
  | integer
  | portNumber
  | boolean
  deriving DecidableEq, Repr

/-- The name of a form. -/
def ValueForm.name : ValueForm → String
  | .integer => "integer"
  | .portNumber => "port number"
  | .boolean => "boolean"

/-- Why a property set is no usable configuration. -/
inductive ConfigError where
  /-- The properties document could not be read. -/
  | unreadable (origin : String) (fault : FileFault)
  /-- A required key, or one of several, has no value. -/
  | missing (key : String)
  /-- A value does not have the expected form. -/
  | malformed (key value : String) (form : ValueForm)
  /-- Some target systems have no catalog. -/
  | unknownTargets (unknown allowed : List String)
  /-- A value breaks a rule. -/
  | invalid (key reason : String)
  /-- There is no emitter for the exporter type. -/
  | unsupportedExporter (name : String)
  deriving DecidableEq, Repr

/-- The wording of an error. -/
def ConfigError.message : ConfigError → String
  | .unreadable origin fault =>
    "Failed to read config properties from " ++ origin ++ ": " ++ fault.message
  | .missing key => key ++ " must be specified."
  | .malformed key value form =>
    "Failed to parse " ++ key ++ ": '" ++ value ++ "' is not a valid " ++ form.name
  | .unknownTargets unknown allowed =>
    "otel.jmx.target.system must specify targets from [" ++ ", ".intercalate allowed ++
      "], unknown: [" ++ ", ".intercalate unknown ++ "]"
  | .invalid key reason => "Invalid configuration: " ++ key ++ " " ++ reason
  | .unsupportedExporter name =>
    "Unsupported exporter '" ++ name ++ "' in otel.metrics.exporter"

end BeanMeter
