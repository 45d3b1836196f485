import BeanMeter.Agent.Exchange
import BeanMeter.Agent.ReadResults
import BeanMeter.Mapping.LabelSource
import BeanMeter.Mapping.Observation
import BeanMeter.Naming.NamePattern

/-! # Mapping registry

The mappings from attributes to metrics of a run: what to read, and which observations follow from
what was read.

* `AttributeMapping` — how one attribute becomes a metric.
* `Registry.extend` — adds the mappings of a document; a metric name has one definition only.
* `Registry.readPlan` — the requests that cover all mappings.
* `Registry.observe` — the observations in read results.
-/

namespace BeanMeter

/-- A label of a metric and where its value comes from. -/
structure LabelRule where
  name : String
  source : LabelSource
  deriving DecidableEq, Repr

/-- How one attribute of the objects with matching names becomes a metric. -/
structure AttributeMapping where
  pattern : NamePattern
  attr : String
  /-- The item of a composite value, or the index of an array element. -/
  subKey : Option String
  metric : String
  unit : Option String
  description : Option String
  kind : MetricKind
  labels : List LabelRule
  /-- The document that defines the mapping. -/
  origin : String
  /-- The position of the defining rule in its document. -/
  rule : Nat
  deriving DecidableEq, Repr

namespace AttributeMapping

/-- Whether two mappings come from one entry of one rule, for possibly different objects. -/
def sameDefinition (m n : AttributeMapping) : Bool :=
  m.origin == n.origin && m.rule == n.rule && m.attr == n.attr && m.subKey == n.subKey

/-- The number that a mapping takes from the attributes of an object. -/
def value? (m : AttributeMapping) (attributes : Attributes) : Option Binary64 :=
  (attributes.get? m.attr).bind fun v =>
    (match m.subKey with
      | none => some v
      | some key => v.item? key).bind AttributeValue.number?

/-- The value of a label for an object. -/
def labelValue? (name : ObjectName) (attributes : Attributes) : LabelSource → Option String
  | .param key => name.property? key
  | .beanAttr attr => (attributes.get? attr).bind AttributeValue.label?
  | .const value => some value

/-- The labels that have a value for an object; of two with one name the later counts. -/
def labelValues (m : AttributeMapping) (name : ObjectName) (attributes : Attributes) :
    SortedMap String String :=
  SortedMap.ofList (m.labels.filterMap fun rule =>
    (labelValue? name attributes rule.source).map fun v => (rule.name, v))

/-- The observation that a mapping makes of an object, if its attribute holds a number. -/
def extract? (m : AttributeMapping) (name : ObjectName) (attributes : Attributes)
    (timestamp : Int) : Option Observation :=
  (m.value? attributes).map fun value =>
    ⟨m.metric, m.kind, value, m.labelValues name attributes, timestamp, m.unit, m.description⟩

end AttributeMapping

/-- Why the mappings of a run could not be loaded. -/
inductive MappingError where
  | unknownTarget (system : String)
  /-- The custom document could not be read. -/
  | unreadable (path : String) (fault : FileFault)
  /-- A document is no catalog. -/
  | malformed (origin : String)
  | invalidPattern (origin pattern reason : String)
  | invalidLabelRule (origin label rule : String)
  | invalidAttribute (origin attr : String)
  | duplicateMetric (metric first second : String)
  deriving DecidableEq, Repr

/-- The wording of an error; `detail` is what a lower layer has to say about it. -/
def MappingError.message (detail : String) : MappingError → String
  | .unknownTarget system => "No mapping catalog for target system '" ++ system ++ "'"
  | .unreadable path fault =>
    "Failed to read mapping document '" ++ path ++ "': " ++ fault.message
  | .malformed origin => "Malformed mapping catalog '" ++ origin ++ "': " ++ detail
  | .invalidPattern origin pattern reason =>
    "Invalid object name pattern '" ++ pattern ++ "' in '" ++ origin ++ "': " ++ reason
  | .invalidLabelRule origin label rule =>
    "Invalid label rule '" ++ rule ++ "' for label '" ++ label ++ "' in '" ++ origin ++ "'"
  | .invalidAttribute origin attr => "Invalid attribute '" ++ attr ++ "' in '" ++ origin ++ "'"
  | .duplicateMetric metric first second =>
    "Duplicate metric name '" ++ metric ++ "' defined in '" ++ first ++ "' and '" ++ second ++ "'"

/-- The mappings of a run, in the order in which they were defined. -/
structure Registry where
  mappings : List AttributeMapping
  deriving DecidableEq, Repr

namespace Registry

/-- A registry without mappings. -/
def empty : Registry := ⟨[]⟩

/-- The number of mappings. -/
def size (r : Registry) : Nat := r.mappings.length

/-- Whether there is no mapping. -/
def isEmpty (r : Registry) : Bool := r.mappings.isEmpty

/-! ## Merging -/

/-- The last mapping of a list that defines a metric. -/
def lastDefinition? (ms : List AttributeMapping) (metric : String) : Option AttributeMapping :=
  ms.reverse.find? fun m => m.metric == metric

/-- The origin of a mapping that defines the metric of `m` otherwise: any of those already merged,
or the last one before it in its own document, unless it is the same definition. -/
def clash? (merged before : List AttributeMapping) (m : AttributeMapping) : Option String :=
  match lastDefinition? merged m.metric with
  | some first => some first.origin
  -- Within a document the same entry may be defined for several patterns.
  | none =>
    (lastDefinition? before m.metric).bind fun first =>
      if first.sameDefinition m then none else some first.origin

/-- Checks the mappings of a document one after the other. -/
def checkFrom (merged before : List AttributeMapping) :
    List AttributeMapping → Except MappingError Unit
  | [] => .ok ()
  | m :: ms =>
    match clash? merged before m with
    | some first => .error (.duplicateMetric m.metric first m.origin)
    | none => checkFrom merged (before ++ [m]) ms

/-- Adds the mappings of a document. -/
def extend (r : Registry) (ms : List AttributeMapping) : Except MappingError Registry :=
  (checkFrom r.mappings [] ms).map fun _ => ⟨r.mappings ++ ms⟩

/-- The registry of a list of mappings. -/
def ofMappings (ms : List AttributeMapping) : Except MappingError Registry := empty.extend ms

/-! ## Reading -/

/-- The attributes that a mapping looks at: its own and those of its labels. -/
def neededAttributes (m : AttributeMapping) : List String :=
  m.attr :: m.labels.filterMap fun rule =>
    match rule.source with
    | .beanAttr attr => some attr
    | _ => none

/-- The attributes to read, by pattern. -/
def attributesByPattern (r : Registry) : SortedMap String (SortedMap String Unit) :=
  r.mappings.foldl (fun plan m =>
    plan.alter m.pattern.source fun attributes =>
      (neededAttributes m).foldl (fun set attr => set.insert attr ()) (attributes.getD .empty))
    .empty

/-- The requests that cover all mappings: one for each pattern, in ascending order, with its
attributes in ascending order. -/
def readPlan (r : Registry) : List ReadRequest :=
  r.attributesByPattern.entries.map fun (pattern, attributes) => ⟨pattern, attributes.keys⟩

/-- The objects in read results whose names can be read, in ascending order of their texts. -/
def namedObjects (results : ReadResults) : List (ObjectName × Attributes) :=
  results.beans.entries.filterMap fun (name, attributes) =>
    (ObjectName.parse? name).map fun n => (n, attributes)

/-- The observations in read results: for each mapping in order, one for each object that matches
and has a number to offer. -/
def observe (r : Registry) (results : ReadResults) (timestamp : Int) : List Observation :=
  r.mappings.flatMap fun m =>
    (namedObjects results).filterMap fun (name, attributes) =>
      if m.pattern.accepts name then m.extract? name attributes timestamp else none

end Registry

end BeanMeter
