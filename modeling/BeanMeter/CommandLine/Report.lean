import BeanMeter.CommandLine.Startup
import BeanMeter.Json.Printer
import BeanMeter.Yaml.Printer

/-! # Reports

What the program prints instead of polling an agent.

* `Report.validation` — that the configuration is valid, and what it comes to.
* `Report.dryRun` — what would be read, and which metrics would follow.
-/

namespace BeanMeter

/-! ## Documents -/

/-- A text that may be missing. -/
def Json.ofOption (s : Option String) : Json := (s.map Json.str).getD .null

/-- Exporter settings as a document. -/
def ExporterConfig.toJson (c : ExporterConfig) : Json := .obj [
  ("exporter_type", .str c.exporterType),
  ("otlp_endpoint", .ofOption c.otlpEndpoint),
  ("prometheus_host", .str c.prometheusHost),
  ("prometheus_port", .int c.prometheusPort)]

/-- Connection settings as a document; the password is not part of it. -/
def ConnectionConfig.toJson (c : ConnectionConfig) : Json := .obj [
  ("username", .ofOption c.username),
  ("remote_profile", .ofOption c.remoteProfile),
  ("realm", .ofOption c.realm),
  ("registry_ssl", .bool c.registrySsl),
  ("call_timeout_ms", .int c.callTimeoutMs),
  ("tls_ca_certificate", .ofOption c.caCertificate)]

/-- A configuration as a document. -/
def Config.toJson (c : Config) : Json := .obj [
  ("service_url", .str c.serviceUrl),
  ("target_systems", .arr (c.targetSystems.map .str)),
  ("custom_scraping_config", .ofOption c.customCatalog),
  ("interval_ms", .int c.intervalMs),
  ("exporter", c.exporter.toJson),
  ("connection", c.connection.toJson)]

/-- A field that is left out where there is nothing to say. -/
def Json.optionalField (name : String) (s : Option String) : List (String × Json) :=
  (s.map fun s => (name, Json.str s)).toList

/-- A mapping as a document. -/
def AttributeMapping.toJson (m : AttributeMapping) : Json := .obj (
  [("pattern", .str m.pattern.source), ("attribute", .str m.attr)] ++
  Json.optionalField "sub_key" m.subKey ++
  [("metric", .str m.metric)] ++
  Json.optionalField "unit" m.unit ++
  Json.optionalField "description" m.description ++
  [("kind", .str m.kind.name),
    ("labels", .arr (m.labels.map fun l =>
      .obj [("name", .str l.name), ("source", .str l.source.text)])),
    ("origin", .str m.origin)])

/-! ## Reports -/

namespace Report

/-- The text of lines that are each ended. -/
def ofLines (lines : List String) : String := String.join (lines.map fun l => l ++ "\n")

/-- A document in one of the formats for programs. -/
def ofJson (yaml : Bool) (document : Json) : String :=
  if yaml then Yaml.print document else document.pretty ++ "\n"

/-- The report on a valid configuration. -/
def validation (s : Startup) (format : OutputFormat) : String :=
  let endpoint := s.connector.endpoint.url
  let document : Json := .obj [
    ("valid", .bool true),
    ("config", s.config.toJson),
    ("endpoint", .str endpoint),
    ("mappings", .int s.registry.size),
    ("read_requests", .int s.registry.readPlan.length)]
  match format with
  | .text => ofLines [
      "Configuration is valid",
      "  service url:    " ++ s.config.serviceUrl,
      "  endpoint:       " ++ endpoint,
      "  target systems: " ++ ",".intercalate s.config.targetSystems,
      "  interval:       " ++ naturalText s.config.intervalMs ++ "ms",
      "  exporter:       " ++ s.config.exporter.exporterType,
      "  mappings:       " ++ naturalText s.registry.size,
      "  read requests:  " ++ naturalText s.registry.readPlan.length]
  | .json => ofJson false document
  | .yaml => ofJson true document

/-- The line of a request. -/
def requestLine (r : ReadRequest) : String :=
  "  " ++ r.mbean ++ " [" ++ ", ".intercalate r.attributes ++ "]"

/-- The line of a mapping. -/
def mappingLine (m : AttributeMapping) : String :=
  let path := m.attr ++ (m.subKey.map fun key => "." ++ key).getD ""
  "  " ++ m.metric ++ " (" ++ m.kind.name ++ ") <- " ++ m.pattern.source ++ " " ++ path

/-- The report on what would be read. -/
def dryRun (s : Startup) (format : OutputFormat) : String :=
  let reads := s.registry.readPlan
  let mappings := s.registry.mappings
  let document : Json := .obj [
    ("reads", .arr (reads.map ReadRequest.toJson)),
    ("mappings", .arr (mappings.map AttributeMapping.toJson))]
  match format with
  | .text => ofLines (
      ["Read plan (" ++ naturalText reads.length ++ " requests):"] ++
      reads.map requestLine ++
      ["", "Mappings (" ++ naturalText mappings.length ++ "):"] ++
      mappings.map mappingLine)
  | .json => ofJson false document
  | .yaml => ofJson true document

end Report

end BeanMeter
