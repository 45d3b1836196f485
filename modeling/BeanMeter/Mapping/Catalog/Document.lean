import BeanMeter.Mapping.Catalog
import BeanMeter.Yaml.Node

/-! # Catalog documents

Catalogs are written as YAML: a mapping with a list `rules`. Every scalar is accepted as a text,
unknown fields are not accepted, and a field must not occur twice; in the mappings from labels and
attributes the last of two entries counts.

* `Catalog.parse` — the catalog in a text.
* `Registry.ofDocuments` — the registry that the catalogs of several texts define.
-/

namespace BeanMeter

open Yaml (Node fieldOr?)

/-- Reads the rules for labels. -/
def Catalog.labels? (d : Yaml.Document) (n : Node) : Option (SortedMap String String) :=
  d.map? d.text? n

/-- Reads the kind of a metric. -/
def MetricKind.ofNode? (d : Yaml.Document) (n : Node) : Option MetricKind :=
  (d.text? n).bind fun word => (MetricKind.parse word).toOption

/-- Reads what a rule says about a metric. -/
def MetricEntry.ofNode? (d : Yaml.Document) (n : Node) : Option MetricEntry := do
  let fields ← d.fields? ["metric", "type", "unit", "desc", "metricAttribute"] n
  return {
    metric := ← fieldOr? fields "metric" none (d.optional? d.text?)
    kind := ← fieldOr? fields "type" .gauge (MetricKind.ofNode? d)
    unit := ← fieldOr? fields "unit" none (d.optional? d.text?)
    description := ← fieldOr? fields "desc" none (d.optional? d.text?)
    labels := ← fieldOr? fields "metricAttribute" .empty (Catalog.labels? d) }

/-- Reads a rule; its attributes must be given. -/
def CatalogRule.ofNode? (d : Yaml.Document) (n : Node) : Option CatalogRule := do
  let fields ← d.fields? ["bean", "beans", "prefix", "metricAttribute", "mapping"] n
  let (_, entries) ← fields.find? fun f => f.1 == "mapping"
  return {
    bean := ← fieldOr? fields "bean" none (d.optional? d.text?)
    beans := ← fieldOr? fields "beans" [] fun n => (d.items? n).bind fun items => items.mapM d.text?
    namePrefix := ← fieldOr? fields "prefix" none (d.optional? d.text?)
    labels := ← fieldOr? fields "metricAttribute" .empty (Catalog.labels? d)
    entries := ← d.map? (d.optional? (MetricEntry.ofNode? d)) entries }

namespace Catalog

/-- Reads the catalog of a document. -/
def ofDocument? (d : Yaml.Document) : Option Catalog := do
  let fields ← d.fields? ["rules"] d.content
  let rules ← fieldOr? fields "rules" [] fun n =>
    (d.items? n).bind fun items => items.mapM (CatalogRule.ofNode? d)
  return ⟨rules⟩

/-- The catalog in the text of the document called `origin`. -/
def parse (text origin : String) : Except MappingError Catalog :=
  match (Yaml.Document.parse? text).bind ofDocument? with
  | some c => .ok c
  | none => .error (.malformed origin)

/-- The mappings that a text defines. -/
def parseMappings (text origin : String) : Except MappingError (List AttributeMapping) :=
  (parse text origin).bind fun c => c.mappings origin

end Catalog

/-- The registry that documents define, each given by its origin and its text. -/
def Registry.ofDocuments (documents : List (String × String)) : Except MappingError Registry :=
  documents.foldlM (fun r (origin, text) => (Catalog.parseMappings text origin).bind r.extend)
    .empty

end BeanMeter
