import BeanMeter.Mapping.Registry

/-! # Mapping catalogs

Catalogs define mappings by rules: each names some objects by patterns and says for each attribute
of theirs which metric it becomes.

* `Catalog` — the rules of a document.
* `Catalog.mappings` — the mappings that they define, or the first thing that is wrong with them.
-/

namespace BeanMeter

/-- What a rule says about the metric of an attribute. -/
structure MetricEntry where
  /-- The name of the metric, if it is not that of the attribute. -/
  metric : Option String
  kind : MetricKind
  unit : Option String
  description : Option String
  /-- Rules for labels, by label; they count before those of the rule around them. -/
  labels : SortedMap String String
  deriving DecidableEq, Repr

/-- The entry that says nothing. -/
def MetricEntry.plain : MetricEntry := ⟨none, .gauge, none, none, .empty⟩

/-- A rule of a catalog. -/
structure CatalogRule where
  /-- A pattern, in front of the others. -/
  bean : Option String
  beans : List String
  /-- What the names of all metrics of the rule start with. -/
  namePrefix : Option String
  labels : SortedMap String String
  /-- The attributes, each a name or a name and the key of an item, and their metrics. -/
  entries : SortedMap String (Option MetricEntry)
  deriving DecidableEq, Repr

/-- The rules of a document. -/
structure Catalog where
  rules : List CatalogRule
  deriving DecidableEq, Repr

/-- An attribute, or an item in the value of one. -/
structure AttributePath where
  attr : String
  subKey : Option String
  deriving DecidableEq, Repr

namespace AttributePath

/-- Reads a path: up to the first dot it is the attribute. Neither part may be blank. -/
def parse? (path : String) : Option AttributePath :=
  match Text.splitFirst? '.' path.toList with
  | none => if Text.isBlankText path then none else some ⟨path, none⟩
  | some (attr, key) =>
    let attr := String.ofList attr
    let key := String.ofList key
    if Text.isBlankText attr || Text.isBlankText key then none else some ⟨attr, some key⟩

end AttributePath

namespace CatalogRule

/-- The patterns of a rule. -/
def patterns (r : CatalogRule) : List String := r.bean.toList ++ r.beans

/-- The rule for a label, read. -/
def labelRule (origin label rule : String) : Except MappingError LabelRule :=
  match LabelSource.parse? rule with
  | some source =>
    if Text.isBlankText label then .error (.invalidLabelRule origin label rule)
    else .ok ⟨label, source⟩
  | none => .error (.invalidLabelRule origin label rule)

/-- The mapping of one attribute of the objects with one pattern. -/
def mapping (r : CatalogRule) (origin : String) (index : Nat) (pattern : NamePattern)
    (path : String) (entry : Option MetricEntry) : Except MappingError AttributeMapping := do
  let entry := entry.getD .plain
  match AttributePath.parse? path with
  | none => .error (.invalidAttribute origin path)
  | some p =>
    -- Labels of the entry take the place of those of the rule before any is read.
    let labels ← (r.labels.overlay entry.labels).entries.mapM fun (label, rule) =>
      labelRule origin label rule
    .ok {
      pattern := pattern
      attr := p.attr
      subKey := p.subKey
      metric := r.namePrefix.getD "" ++ entry.metric.getD path
      unit := entry.unit
      description := entry.description
      kind := entry.kind
      labels := labels
      origin := origin
      rule := index }

/-- The mappings of a rule for one of its patterns. -/
def mappingsFor (r : CatalogRule) (origin : String) (index : Nat) (bean : String) :
    Except MappingError (List AttributeMapping) :=
  match NamePattern.compile bean with
  | .error fault => .error (.invalidPattern origin bean fault.message)
  | .ok pattern =>
    r.entries.entries.mapM fun (path, entry) => r.mapping origin index pattern path entry

/-- The mappings of a rule: for each pattern in order, the attributes in ascending order. -/
def mappings (r : CatalogRule) (origin : String) (index : Nat) :
    Except MappingError (List AttributeMapping) :=
  if r.patterns = [] then .error (.invalidPattern origin "" "rule has no bean")
  else (r.patterns.mapM (r.mappingsFor origin index)).map List.flatten

end CatalogRule

namespace Catalog

/-- The mappings of the rules from a position on. -/
def mappingsFrom (origin : String) (index : Nat) :
    List CatalogRule → Except MappingError (List AttributeMapping)
  | [] => .ok []
  | r :: rules => do
    let first ← r.mappings origin index
    let rest ← mappingsFrom origin (index + 1) rules
    .ok (first ++ rest)

/-- The mappings of a catalog in the document called `origin`. -/
def mappings (c : Catalog) (origin : String) : Except MappingError (List AttributeMapping) :=
  mappingsFrom origin 0 c.rules

end Catalog

end BeanMeter
