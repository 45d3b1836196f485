import BeanMeter.Mapping.Builtin.Messaging
import BeanMeter.Mapping.Builtin.Platform
import BeanMeter.Mapping.Builtin.Storage
import BeanMeter.Mapping.Builtin.WebServers
import BeanMeter.Mapping.Catalog.Document

/-! # Built-in catalogs

* `Catalog.builtin?` — the catalog of a target system.
* `Registry.resolve` — the registry of some target systems and possibly a document of the user's.
-/

namespace BeanMeter

/-- The target systems that have a catalog. -/
def Catalog.builtins : List (String × Catalog) := [
  ("activemq", Builtin.activeMq),
  ("cassandra", Builtin.cassandra),
  ("hbase", Builtin.hbase),
  ("hadoop", Builtin.hadoop),
  ("jetty", Builtin.jetty),
  ("jvm", Builtin.jvm),
  ("kafka", Builtin.kafka),
  ("kafka-consumer", Builtin.kafkaConsumer),
  ("kafka-producer", Builtin.kafkaProducer),
  ("solr", Builtin.solr),
  ("tomcat", Builtin.tomcat),
  ("wildfly", Builtin.wildfly)]

/-- The catalog of a target system. -/
def Catalog.builtin? (system : String) : Option Catalog :=
  (Catalog.builtins.find? fun c => c.1 == system).map (·.2)

/-- Where the mappings of a target system come from. -/
def Catalog.builtinOrigin (system : String) : String := "builtin:" ++ system

namespace Registry

/-- The catalogs of target systems, in order. -/
def builtinCatalogs (targets : List String) : Except MappingError (List (String × Catalog)) :=
  targets.mapM fun system =>
    match Catalog.builtin? system with
    | some c => .ok (Catalog.builtinOrigin system, c)
    | none => .error (.unknownTarget system)

/-- The text of the document of the user's, if there is one. -/
def customDocument (files : Files) (path : Option String) :
    Except MappingError (Option (String × String)) :=
  match path with
  | none => .ok none
  | some path =>
    match files.readText path with
    | .ok text => .ok (some (path, text))
    | .error fault => .error (.unreadable path fault)

/-- The registry of the target systems in order, and of the document of the user's after them. All
of them are looked up before the first one is merged. -/
def resolve (files : Files) (targets : List String) (custom : Option String) :
    Except MappingError Registry := do
  let catalogs ← builtinCatalogs targets
  let document ← customDocument files custom
  let registry ← catalogs.foldlM (fun r (origin, c) => (c.mappings origin).bind r.extend) empty
  match document with
  | none => .ok registry
  | some (origin, text) => (Catalog.parseMappings text origin).bind registry.extend

end Registry

end BeanMeter
