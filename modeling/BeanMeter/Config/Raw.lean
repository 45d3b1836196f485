import BeanMeter.Config.PropertySet
import BeanMeter.Text.LowerCase

/-! # Raw configuration

The recognized properties with numbers and flags read, before any rule is applied to them.

* `RawConfig` — the fields.
* `RawConfig.ofProperties` — reads them; the first malformed value is reported.
-/

namespace BeanMeter

/-- The recognized properties, not yet checked. -/
structure RawConfig where
  serviceUrl : Option String
  customCatalog : Option String
  /-- The list of target systems in lower case, still separated by commas. -/
  targetSystem : String
  intervalMs : Int
  exporter : String
  otlpEndpoint : Option String
  prometheusHost : String
  prometheusPort : Nat
  username : Option String
  password : Option String
  remoteProfile : Option String
  realm : Option String
  registrySsl : Bool
  callTimeoutMs : Int
  caCertificate : Option String
  deriving DecidableEq, Repr

/-- The time between polls if none is configured, in milliseconds. -/
def defaultIntervalMs : Nat := 10000

/-- The time allowed for one request if none is configured, in milliseconds. -/
def defaultCallTimeoutMs : Nat := 5000

/-- The exporter type if none is configured. -/
def defaultExporter : String := "logging"

/-- The address on which the exposition is served if none is configured. -/
def defaultPrometheusHost : String := "0.0.0.0"

/-- The port on which the exposition is served if none is configured. -/
def defaultPrometheusPort : Nat := 9464

namespace RawConfig

/-- Reads a value without the blanks around it; an absent or empty one has a default. -/
def readValue (p : PropertySet) (key : String) (default : α) (form : ValueForm)
    (read : List Char → Option α) : Except ConfigError α :=
  match p.get? key with
  | none => .ok default
  | some text =>
    match Text.trimChars text.toList with
    | [] => .ok default
    | cs =>
      match read cs with
      | some v => .ok v
      | none => .error (.malformed key (String.ofList cs) form)

/-- A whole number of 64 bits with sign. -/
def readInteger (p : PropertySet) (key : String) (default : Int) : Except ConfigError Int :=
  readValue p key default .integer readInt64?

/-- A port number: a natural number of 16 bits. -/
def readPort (p : PropertySet) (key : String) (default : Nat) : Except ConfigError Nat :=
  readValue p key default .portNumber fun cs => (readNatural? cs).filter (· < 0x10000)

/-- A flag: one of six words in any case. An absent or empty one is off. -/
def readFlag (p : PropertySet) (key : String) : Except ConfigError Bool :=
  match p.get? key with
  | none => .ok false
  | some text =>
    let word := Text.lower (Text.trim text)
    if word = "" then .ok false
    else if word ∈ ["true", "yes", "1"] then .ok true
    else if word ∈ ["false", "no", "0"] then .ok false
    else .error (.malformed key word .boolean)

/-- Reads the recognized properties. -/
def ofProperties (p : PropertySet) : Except ConfigError RawConfig := do
  let intervalMs ← readInteger p Key.interval defaultIntervalMs
  let prometheusPort ← readPort p Key.prometheusPort defaultPrometheusPort
  let registrySsl ← readFlag p Key.registrySsl
  let callTimeoutMs ← readInteger p Key.callTimeout defaultCallTimeoutMs
  return {
    serviceUrl := p.get? Key.serviceUrl
    customCatalog := p.get? Key.customCatalog
    targetSystem := Text.trim (Text.lower ((p.get? Key.targetSystem).getD ""))
    intervalMs
    exporter := Text.lower (Text.trim ((p.get? Key.exporter).getD defaultExporter))
    otlpEndpoint := p.get? Key.otlpEndpoint
    prometheusHost := Text.trim ((p.get? Key.prometheusHost).getD defaultPrometheusHost)
    prometheusPort
    username := p.get? Key.username
    password := p.get? Key.password
    remoteProfile := p.get? Key.remoteProfile
    realm := p.get? Key.realm
    registrySsl
    callTimeoutMs
    caCertificate := p.get? Key.caCertificate }

end RawConfig

end BeanMeter
