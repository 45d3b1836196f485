import BeanMeter.Mapping.Catalog

/-! # Rules of the built-in catalogs

Short forms for the values that the built-in catalogs are made of. -/

namespace BeanMeter.Builtin

/-- The unit of a number of things. -/
def counted (thing : String) : String := "\x7b" ++ thing ++ "\x7d"

/-- The metric of an attribute. -/
def metric (kind : MetricKind) (path name unit description : String) : String × MetricEntry :=
  (path, ⟨some name, kind, some unit, some description, .empty⟩)

/-- A metric that goes up and down freely. -/
def gauge : String → String → String → String → String × MetricEntry := metric .gauge

/-- A metric that only goes up. -/
def counter : String → String → String → String → String × MetricEntry := metric .counter

/-- A metric that counts things that come and go. -/
def upDownCounter : String → String → String → String → String × MetricEntry :=
  metric .upDownCounter

/-- A rule for the objects with one pattern. -/
def rule (bean namePrefix : String) (labels : List (String × LabelSource))
    (entries : List (String × MetricEntry)) : CatalogRule where
  bean := some bean
  beans := []
  namePrefix := some namePrefix
  labels := .ofList (labels.map fun (label, source) => (label, source.text))
  entries := .ofList (entries.map fun (path, entry) => (path, some entry))

end BeanMeter.Builtin
