import BeanMeter.Config.Checked
import BeanMeter.Net.IpAddress

/-! # Exporters

What the exporter settings of a configuration ask for.

* `Exporter.ofConfig` — where observations go.
* `ExporterConfig.bindAddress` — where the exposition is served.
-/

namespace BeanMeter

/-- Where observations go. -/
inductive Exporter where
  | logging
  | prometheus
  deriving DecidableEq, Repr

/-- The exporter for a type in any case; nothing stands for the log. -/
def Exporter.ofConfig (c : ExporterConfig) : Except ConfigError Exporter :=
  let type := Text.lower (Text.trim c.exporterType)
  if type = "logging" ∨ type = "" then .ok .logging
  else if type = "prometheus" then .ok .prometheus
  else .error (.unsupportedExporter type)

/-- The address at which the exposition is served: an IP address or the word for this machine. -/
def ExporterConfig.bindAddress (c : ExporterConfig) : Except ConfigError SocketAddress :=
  let host := Text.trim c.prometheusHost
  let ip? := if host = "localhost" then IpAddress.parse? "127.0.0.1" else IpAddress.parse? host
  match ip? with
  | some ip => .ok ⟨ip, c.prometheusPort⟩
  | none =>
    .error (.invalid Key.prometheusHost
      ("'" ++ host ++ "' is not an IP address: invalid IP address syntax"))

end BeanMeter
