/-! # Configuration keys

The property keys that the program understands.

* `Key.all` — every key.
* `Key.marker` — how keys begin that are meant for the program.
-/

namespace BeanMeter.Key

/-- How keys begin that are meant for the program. -/
def marker : String := "otel."

/-- The service URL of the agent. -/
def serviceUrl : String := "otel.jmx.service.url"

/-- The path of a custom mapping catalog. -/
def customCatalog : String := "otel.jmx.custom.jmx.scraping.config"

/-- The target systems, separated by commas. -/
def targetSystem : String := "otel.jmx.target.system"

/-- The time between polls in milliseconds. -/
def interval : String := "otel.jmx.interval.milliseconds"

/-- The exporter type. -/
def exporter : String := "otel.metrics.exporter"

/-- The endpoint of the `otlp` exporter. -/
def otlpEndpoint : String := "otel.exporter.otlp.endpoint"

/-- The address on which the exposition is served. -/
def prometheusHost : String := "otel.exporter.prometheus.host"

/-- The port on which the exposition is served. -/
def prometheusPort : String := "otel.exporter.prometheus.port"

/-- Whether the agent is reached over an encrypted transport. -/
def registrySsl : String := "otel.jmx.remote.registry.ssl"

/-- The user name presented to the agent. -/
def username : String := "otel.jmx.username"

/-- The password presented to the agent. -/
def password : String := "otel.jmx.password"

/-- The authentication profile. -/
def remoteProfile : String := "otel.jmx.remote.profile"

/-- The authentication realm. -/
def realm : String := "otel.jmx.realm"

/-- The time allowed for one request in milliseconds. -/
def callTimeout : String := "otel.jmx.remote.timeout.milliseconds"

/-- The path of a certificate trusted by the encrypted transport. -/
def caCertificate : String := "otel.jmx.remote.tls.ca.certificate"

/-- Every key that the program understands. -/
def all : List String :=
  [serviceUrl, customCatalog, targetSystem, interval, exporter, otlpEndpoint, prometheusHost,
    prometheusPort, registrySsl, username, password, remoteProfile, realm, callTimeout,
    caCertificate]

end BeanMeter.Key
