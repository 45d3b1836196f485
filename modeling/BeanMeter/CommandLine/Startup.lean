import BeanMeter.CommandLine.Arguments
import BeanMeter.Config.Exporter
import BeanMeter.Failure
import BeanMeter.Mapping.Builtin

/-! # Startup

What is settled before the first tick. Properties of the command line count before those
of the file; the first thing that is wrong ends the program.

* `Libraries` — what the program leaves to others.
* `Startup` — what is settled.
* `Startup.configure`, `mappings`, `connection` — the parts of it, in this order.
-/

namespace BeanMeter

/-- What the program finds around it. -/
structure Surroundings where
  files : Files
  stdin : List UInt8
  environment : String → Option String

/-- What the program leaves to others before the first tick: to read URLs, and to make the settings
of requests. -/
structure Libraries where
  readUrl : UrlReader
  client : ClientLibrary

/-- The libraries that the program is run with. -/
def Libraries.standard : Libraries := ⟨Url.reader, .standard⟩

/-- Everything that is settled before the first tick. -/
structure Startup where
  config : Config
  exporter : Exporter
  registry : Registry
  connector : Connector

namespace Startup

/-- The properties of a run. -/
def properties (around : Surroundings) (args : Arguments) : Except ConfigError PropertySet := do
  let base ← match args.config with
    | none => .ok .empty
    | some path =>
      if args.configFromStdin then PropertySet.ofBytes "stdin" around.stdin
      else PropertySet.load around.files path
  .ok (base.overlay (.ofList args.properties))

/-- The configuration, and where observations go. -/
def configure (around : Surroundings) (args : Arguments) : Except Failure (Config × Exporter) := do
  let p ← (properties around args).mapError .config
  let config ← (Config.ofProperties p).mapError .config
  let exporter ← (Exporter.ofConfig config.exporter).mapError .config
  .ok (config, exporter)

/-- The mappings of a configuration. -/
def mappings (around : Surroundings) (config : Config) : Except Failure Registry :=
  (Registry.resolve around.files config.targetSystems config.customCatalog).mapError .mapping

/-- How the agent of a configuration is reached, once that is known to be possible. -/
def connection (around : Surroundings) (config : Config) (libraries : Libraries := .standard) :
    Except Failure Connector := do
  let connector ← (Connector.ofConfig config libraries.readUrl).mapError .config
  let _ ← (connector.preflight around.files libraries.client).mapError .connection
  .ok connector

/-- The files that a run looks at, as far as they are known: the property file, and those that the
configuration in it names. -/
def filePaths (around : Surroundings) (args : Arguments) : List String :=
  (if args.configFromStdin then [] else args.config.toList) ++
    match configure around args with
    | .ok (config, _) => config.customCatalog.toList ++ config.connection.caCertificate.toList
    | .error _ => []

end Startup

end BeanMeter
