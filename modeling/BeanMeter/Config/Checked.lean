import BeanMeter.Config.Raw

/-! # Checked configuration

The immutable configuration of a run. It only exists if every rule holds; rules are applied in a
fixed order, and the first one that is broken is reported.

* `Config` — the configuration.
* `RawConfig.validate` — applies the rules.
* `Config.ofProperties` — the configuration in a property set.
-/

namespace BeanMeter

/-- Exporter settings. -/
structure ExporterConfig where
  /-- The exporter type in lower case. -/
  exporterType : String
  otlpEndpoint : Option String
  prometheusHost : String
  prometheusPort : Nat
  deriving DecidableEq, Repr

/-- Settings of the connection to the agent. -/
structure ConnectionConfig where
  username : Option String
  password : Option String
  remoteProfile : Option String
  realm : Option String
  registrySsl : Bool
  callTimeoutMs : Nat
  caCertificate : Option String
  deriving DecidableEq, Repr

/-- The configuration of a run. -/
structure Config where
  serviceUrl : String
  /-- The target systems in the order given, each once. -/
  targetSystems : List String
  /-- A custom mapping catalog, merged after those of the target systems. -/
  customCatalog : Option String
  intervalMs : Nat
  exporter : ExporterConfig
  connection : ConnectionConfig
  deriving DecidableEq, Repr

/-- The target systems that have a catalog. -/
def availableTargets : List String :=
  ["activemq", "cassandra", "hbase", "hadoop", "jetty", "jvm", "kafka", "kafka-consumer",
    "kafka-producer", "solr", "tomcat", "wildfly"]

/-- The elements of a list in order of their first occurrence, each once, after those seen. -/
def distinctAfter (seen : List String) : List String → List String
  | [] => []
  | x :: xs => if x ∈ seen then distinctAfter seen xs else x :: distinctAfter (x :: seen) xs

/-- The elements of a list in order of their first occurrence, each once. -/
def distinct (xs : List String) : List String := distinctAfter [] xs

/-- The items of a list of target systems: trimmed, not empty, each once. -/
def targetList (text : String) : List String :=
  distinct (((Text.splitString ',' text).map Text.trim).filter (· ≠ ""))

/-- Whether an optional value is absent or blank. -/
def isUnset : Option String → Bool
  | none => true
  | some s => Text.isBlankText s

/-- A value unless it is blank. -/
def unlessBlank (v : Option String) : Option String := v.filter fun s => !Text.isBlankText s

/-- A duration in milliseconds: zero stands for the default, and none is negative. -/
def checkedMillis (key : String) (value : Int) (default : Nat) : Except ConfigError Nat :=
  if value < 0 then .error (.invalid key "must be positive.")
  else if value = 0 then .ok default
  else .ok value.toNat

namespace RawConfig

/-- Fails with an error if a rule is broken. -/
def reject (broken : Prop) [Decidable broken] (e : ConfigError) : Except ConfigError Unit :=
  if broken then .error e else .ok ()

/-- The listed target systems that have no catalog. -/
def unknownTargets (raw : RawConfig) : List String :=
  (targetList raw.targetSystem).filter fun t => !availableTargets.contains t

/-- Applies the rules, in this order: there is a service URL; there is a custom catalog or a target
system; every target system has a catalog; the `otlp` exporter has an endpoint; the interval is not
negative; the call timeout is not negative. -/
def validate (raw : RawConfig) : Except ConfigError Config := do
  -- The order of the rules is the order in which a user is told about broken ones.
  reject (isUnset raw.serviceUrl) (.missing Key.serviceUrl)
  reject (isUnset raw.customCatalog ∧ raw.targetSystem = "")
    (.missing (Key.customCatalog ++ " or " ++ Key.targetSystem))
  reject (raw.unknownTargets ≠ []) (.unknownTargets raw.unknownTargets availableTargets)
  reject (Text.equalIgnoringCase raw.exporter "otlp" ∧ isUnset raw.otlpEndpoint)
    (.invalid Key.otlpEndpoint "must be specified for otlp format.")
  let intervalMs ← checkedMillis Key.interval raw.intervalMs defaultIntervalMs
  let callTimeoutMs ← checkedMillis Key.callTimeout raw.callTimeoutMs defaultCallTimeoutMs
  return {
    serviceUrl := Text.trim (raw.serviceUrl.getD "")
    targetSystems := targetList raw.targetSystem
    customCatalog := (unlessBlank raw.customCatalog).map Text.trim
    intervalMs
    exporter := {
      exporterType := raw.exporter
      otlpEndpoint := unlessBlank raw.otlpEndpoint
      prometheusHost := raw.prometheusHost
      prometheusPort := raw.prometheusPort }
    connection := {
      username := unlessBlank raw.username
      password := raw.password
      remoteProfile := unlessBlank raw.remoteProfile
      realm := unlessBlank raw.realm
      registrySsl := raw.registrySsl
      callTimeoutMs
      caCertificate := unlessBlank raw.caCertificate } }

end RawConfig

/-- The configuration in a property set. -/
def Config.ofProperties (p : PropertySet) : Except ConfigError Config := do
  (← RawConfig.ofProperties p).validate

end BeanMeter
