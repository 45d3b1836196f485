import BeanMeter.Proofs.Mapping.Loading
import Mathlib.Data.List.Basic

/-! # The read plan

What is planned from the mappings of a registry and what is looked at when observations are made:
two passes over the same mappings that have to agree.

* `AttributeMapping.extract?_congr` — a mapping looks at nothing but the attributes that it needs.
* `Registry.lists_attributesByPattern_iff` — the plan lists these, and nothing else.
* `ReadResults.restrict` — what is left of read results if only planned attributes are kept.
* `Registry.readPlan_exact` — that is enough for all observations, and no more than is needed.
-/

namespace BeanMeter

/-! ## What a mapping looks at -/

theorem Registry.mem_neededAttributes_iff {m : AttributeMapping} {attr : String} :
    attr ∈ neededAttributes m ↔
      attr = m.attr ∨ ∃ rule ∈ m.labels, rule.source = .beanAttr attr := by
  rw [neededAttributes, List.mem_cons, List.mem_filterMap]
  apply or_congr_right
  constructor
  · rintro ⟨rule, member, same⟩
    cases source : rule.source with
    | beanAttr other =>
      simp only [source, Option.some.injEq] at same
      exact ⟨rule, member, by rw [source, same]⟩
    | param | const => simp [source] at same
  · rintro ⟨rule, member, source⟩
    exact ⟨rule, member, by simp [source]⟩

namespace AttributeMapping

variable {m : AttributeMapping} {first second : Attributes}

theorem labelValues_congr (name : ObjectName)
    (agree : ∀ attr, ∀ rule ∈ m.labels, rule.source = .beanAttr attr →
      first.get? attr = second.get? attr) :
    m.labelValues name first = m.labelValues name second := by
  unfold labelValues
  congr 1
  apply List.filterMap_congr
  intro rule member
  cases source : rule.source with
  | param key => rfl
  | const value => rfl
  | beanAttr attr => rw [labelValue?, labelValue?, agree attr rule member source]

theorem extract?_congr (name : ObjectName) (timestamp : Int)
    (agree : ∀ attr ∈ Registry.neededAttributes m, first.get? attr = second.get? attr) :
    m.extract? name first timestamp = m.extract? name second timestamp := by
  have own : first.get? m.attr = second.get? m.attr :=
    agree m.attr (Registry.mem_neededAttributes_iff.mpr (.inl rfl))
  have labels : m.labelValues name first = m.labelValues name second := by
    apply labelValues_congr
    intro attr rule member source
    exact agree attr (Registry.mem_neededAttributes_iff.mpr (.inr ⟨rule, member, source⟩))
  rw [extract?, extract?, value?, value?, own, labels]

end AttributeMapping

/-! ## What the plan lists -/

namespace Registry

theorem mem_keys_foldl_insert {attrs : List String} {set : SortedMap String Unit} {attr : String} :
    attr ∈ (attrs.foldl (fun set attr => set.insert attr ()) set).keys ↔
      attr ∈ attrs ∨ attr ∈ set.keys := by
  induction attrs generalizing set with
  | nil => simp
  | cons first rest ih =>
    have inserted : attr ∈ (set.insert first ()).keys ↔ attr = first ∨ attr ∈ set.keys := by
      simp only [SortedMap.mem_keys_iff, SortedMap.get?_insert]
      by_cases same : attr = first <;> simp [same]
    rw [List.foldl_cons, ih, inserted, List.mem_cons, or_left_comm, or_assoc]

/-- A plan in the making lists an attribute for a pattern. -/
def Lists (plan : SortedMap String (SortedMap String Unit)) (pattern attr : String) : Prop :=
  ∃ attributes, plan.get? pattern = some attributes ∧ attr ∈ attributes.keys

/-- A mapping is added to a plan in the making. -/
def planStep (plan : SortedMap String (SortedMap String Unit)) (m : AttributeMapping) :
    SortedMap String (SortedMap String Unit) :=
  plan.alter m.pattern.source fun attributes =>
    (neededAttributes m).foldl (fun set attr => set.insert attr ()) (attributes.getD .empty)

theorem attributesByPattern_eq (r : Registry) :
    r.attributesByPattern = r.mappings.foldl planStep .empty := rfl

section

variable {plan : SortedMap String (SortedMap String Unit)} {m : AttributeMapping}
  {ms : List AttributeMapping} {pattern attr : String}

theorem lists_planStep_iff : Lists (planStep plan m) pattern attr ↔
    m.pattern.source = pattern ∧ attr ∈ neededAttributes m ∨ Lists plan pattern attr := by
  unfold Lists planStep
  by_cases same : pattern = m.pattern.source
  · subst same
    simp only [SortedMap.get?_alter, if_true, Option.some.injEq, exists_eq_left',
      mem_keys_foldl_insert, true_and]
    apply or_congr_right
    cases plan.get? m.pattern.source with
    | none => simp [SortedMap.keys, SortedMap.empty]
    | some attributes => simp
  · simp [SortedMap.get?_alter, same, Ne.symm same]

theorem lists_foldl_iff : Lists (ms.foldl planStep plan) pattern attr ↔
    (∃ m ∈ ms, m.pattern.source = pattern ∧ attr ∈ neededAttributes m) ∨
      Lists plan pattern attr := by
  induction ms generalizing plan with
  | nil => simp
  | cons first rest ih =>
    rw [List.foldl_cons, ih, lists_planStep_iff]
    simp only [List.mem_cons, exists_eq_or_imp]
    rw [or_left_comm, or_assoc]

theorem mem_keys_foldl_iff : pattern ∈ (ms.foldl planStep plan).keys ↔
    (∃ m ∈ ms, m.pattern.source = pattern) ∨ pattern ∈ plan.keys := by
  induction ms generalizing plan with
  | nil => simp
  | cons first rest ih =>
    have added : pattern ∈ (planStep plan first).keys ↔
        first.pattern.source = pattern ∨ pattern ∈ plan.keys := by
      simp only [SortedMap.mem_keys_iff, planStep, SortedMap.get?_alter]
      by_cases same : pattern = first.pattern.source
      · simp [same]
      · simp [same, Ne.symm same]
    rw [List.foldl_cons, ih, added]
    simp only [List.mem_cons, exists_eq_or_imp]
    rw [or_left_comm, or_assoc]

end

/-! ## The plan -/

variable {r : Registry} {request : ReadRequest}

theorem mem_readPlan_iff : request ∈ r.readPlan ↔ ∃ attributes,
    r.attributesByPattern.get? request.mbean = some attributes ∧
      request.attributes = attributes.keys := by
  simp only [readPlan, List.mem_map, SortedMap.get?_eq_some_iff]
  constructor
  · rintro ⟨⟨pattern, attributes⟩, entry, rfl⟩
    exact ⟨attributes, entry, rfl⟩
  · rintro ⟨attributes, entry, same⟩
    exact ⟨_, entry, by rw [← same]⟩

theorem map_mbean_readPlan (r : Registry) :
    r.readPlan.map (·.mbean) = r.attributesByPattern.keys := by
  rw [readPlan, List.map_map]
  rfl

theorem mem_attributes_iff (planned : request ∈ r.readPlan) {attr : String} :
    attr ∈ request.attributes ↔
      ∃ m ∈ r.mappings, m.pattern.source = request.mbean ∧ attr ∈ neededAttributes m := by
  obtain ⟨attributes, entry, listed⟩ := mem_readPlan_iff.mp planned
  have lists : attr ∈ request.attributes ↔ Lists r.attributesByPattern request.mbean attr := by
    simp [Lists, entry, listed]
  have none : ¬ Lists .empty request.mbean attr := by simp [Lists]
  rw [lists, attributesByPattern_eq, lists_foldl_iff, or_iff_left none]

theorem mem_keys_attributesByPattern_iff {pattern : String} :
    pattern ∈ r.attributesByPattern.keys ↔ ∃ m ∈ r.mappings, m.pattern.source = pattern := by
  have none : pattern ∉ (SortedMap.empty : SortedMap String (SortedMap String Unit)).keys := by
    simp [SortedMap.keys, SortedMap.empty]
  rw [attributesByPattern_eq, mem_keys_foldl_iff, or_iff_left none]

/-- Everything that a mapping needs is listed in the request for its pattern. -/
theorem exists_request {m : AttributeMapping} (member : m ∈ r.mappings) :
    ∃ request ∈ r.readPlan, request.mbean = m.pattern.source ∧
      ∀ attr ∈ neededAttributes m, attr ∈ request.attributes := by
  have present : m.pattern.source ∈ r.attributesByPattern.keys :=
    mem_keys_attributesByPattern_iff.mpr ⟨m, member, rfl⟩
  obtain ⟨attributes, entry⟩ := SortedMap.mem_keys_iff.mp present
  have planned : ⟨m.pattern.source, attributes.keys⟩ ∈ r.readPlan :=
    mem_readPlan_iff.mpr ⟨attributes, entry, rfl⟩
  refine ⟨_, planned, rfl, ?_⟩
  intro attr needed
  exact (mem_attributes_iff planned).mpr ⟨m, member, rfl, needed⟩

/-- What a plan has to be: one request for each pattern, with the attributes of the mappings with
that pattern and those of their labels. -/
structure IsPlan (r : Registry) (plan : List ReadRequest) : Prop where
  distinct : (plan.map (·.mbean)).Nodup
  patterns : ∀ pattern, (∃ request ∈ plan, request.mbean = pattern) ↔
    ∃ m ∈ r.mappings, m.pattern.source = pattern
  nonempty : ∀ request ∈ plan, request.attributes ≠ []
  ordered : ∀ request ∈ plan, request.attributes.Pairwise (· < ·)
  listed : ∀ request ∈ plan, ∀ attr, attr ∈ request.attributes ↔
    ∃ m ∈ r.mappings, m.pattern.source = request.mbean ∧
      (attr = m.attr ∨ ∃ rule ∈ m.labels, rule.source = .beanAttr attr)

theorem keys_sorted {β : Type} (m : SortedMap String β) : m.keys.Pairwise (· < ·) :=
  m.keys_ascending.imp compareOfLessAndEq_eq_lt.mp

theorem isPlan_readPlan (r : Registry) : r.IsPlan r.readPlan where
  distinct := by
    rw [map_mbean_readPlan]
    exact SortedMap.keys_nodup _
  patterns := by
    intro pattern
    rw [← mem_keys_attributesByPattern_iff, ← map_mbean_readPlan, List.mem_map]
  nonempty := by
    intro request planned empty
    have present : request.mbean ∈ r.attributesByPattern.keys := by
      rw [← map_mbean_readPlan]
      exact List.mem_map_of_mem planned
    obtain ⟨m, member, pattern⟩ := mem_keys_attributesByPattern_iff.mp present
    have own : m.attr ∈ request.attributes :=
      (mem_attributes_iff planned).mpr
        ⟨m, member, pattern, mem_neededAttributes_iff.mpr (.inl rfl)⟩
    simp [empty] at own
  ordered := by
    intro request planned
    obtain ⟨attributes, _, listed⟩ := mem_readPlan_iff.mp planned
    rw [listed]
    exact keys_sorted attributes
  listed := by
    intro request planned attr
    rw [mem_attributes_iff planned]
    simp only [mem_neededAttributes_iff]

end Registry

/-! ## Keeping only what is planned -/

/-- Whether a request asks for an attribute of an object. -/
def ReadRequest.covers (name : ObjectName) (attr : String) (request : ReadRequest) : Bool :=
  request.attributes.contains attr &&
    (NamePattern.compile request.mbean).toOption.any fun pattern => pattern.accepts name

/-- The results with only those attributes of each object for which some request asks. -/
def ReadResults.restrict (plan : List ReadRequest) (results : ReadResults) : ReadResults where
  beans := results.beans.mapValues fun text attributes => attributes.filter fun attr _ =>
    (ObjectName.parse? text).any fun name => plan.any fun request => request.covers name attr

namespace Registry

theorem namedObjects_restrict (plan : List ReadRequest) (results : ReadResults) :
    namedObjects (results.restrict plan) = (namedObjects results).map fun (name, attributes) =>
      (name, attributes.filter fun attr _ => plan.any fun request => request.covers name attr) := by
  simp only [namedObjects, ReadResults.restrict, SortedMap.mapValues, List.filterMap_map,
    List.map_filterMap]
  apply List.filterMap_congr
  rintro ⟨text, attributes⟩ _
  cases parsed : ObjectName.parse? text <;> simp [parsed]

theorem observe_restrict {r : Registry} (compiled : r.Compiled) (results : ReadResults)
    (timestamp : Int) :
    r.observe (results.restrict r.readPlan) timestamp = r.observe results timestamp := by
  unfold observe
  rw [namedObjects_restrict]
  apply List.flatMap_congr
  intro m member
  rw [List.filterMap_map]
  apply List.filterMap_congr
  rintro ⟨name, attributes⟩ _
  dsimp only [Function.comp]
  split
  · next accepted =>
    apply AttributeMapping.extract?_congr
    intro attr needed
    obtain ⟨request, planned, pattern, listed⟩ := exists_request member
    have covered : request.covers name attr = true := by
      have text : NamePattern.compile request.mbean = .ok m.pattern := pattern ▸ compiled m member
      simp [ReadRequest.covers, listed attr needed, text, accepted, Except.toOption]
    have kept : (r.readPlan.any fun request => request.covers name attr) = true :=
      List.any_eq_true.mpr ⟨request, planned, covered⟩
    rw [SortedMap.get?_filter]
    cases attributes.get? attr <;> simp [kept]
  · rfl

/-- The plan of a registry has one request for each pattern, with what its mappings need and nothing
else, and that is enough for all observations. -/
theorem readPlan_exact (r : Registry) (compiled : r.Compiled) :
    r.IsPlan r.readPlan ∧ ∀ results timestamp,
      r.observe (results.restrict r.readPlan) timestamp = r.observe results timestamp :=
  ⟨r.isPlan_readPlan, observe_restrict compiled⟩

namespace Sample

/-- Two attributes share a pattern, one of them needs another attribute for a label, and the second
pattern overlaps with the first. -/
def documents : List (String × String) :=
  [("sample", "rules:\n- bean: java.lang:type=Memory\n  mapping:\n    Peak:\n    Usage:\n" ++
    "      metricAttribute:\n        verbose: beanattr(Verbose)\n" ++
    "- bean: java.lang:type=*\n  mapping:\n    Count:\n")]

def mapping (pattern : NamePattern) (attr : String) (labels : List LabelRule) (rule : Nat) :
    AttributeMapping :=
  ⟨pattern, attr, none, attr, none, none, .gauge, labels, "sample", rule⟩

def memory : NamePattern :=
  ⟨"java.lang:type=Memory", "java.lang".toList, [("type", "Memory".toList)], false⟩

def everything : NamePattern := ⟨"java.lang:type=*", "java.lang".toList, [("type", ['*'])], false⟩

def registry : Registry :=
  ⟨[mapping memory "Peak" [] 0, mapping memory "Usage" [⟨"verbose", .beanAttr "Verbose"⟩] 0,
    mapping everything "Count" [] 1]⟩

theorem loaded : ofDocuments documents = .ok registry := by decide +kernel

def results : ReadResults :=
  ((((ReadResults.empty.insert "java.lang:type=Memory" "Usage" (.integer 5)).insert
    "java.lang:type=Memory" "Verbose" (.flag true)).insert
    "java.lang:type=Memory" "Other" (.integer 7)).insert
    "java.lang:type=Threading" "Usage" (.integer 9))

end Sample

theorem sample_readPlan :
    Sample.registry.Compiled ∧
      Sample.registry.readPlan =
        [⟨"java.lang:type=*", ["Count"]⟩,
          ⟨"java.lang:type=Memory", ["Peak", "Usage", "Verbose"]⟩] ∧
      Sample.registry.IsPlan Sample.registry.readPlan ∧
      (Sample.registry.observe Sample.results 0).map (·.name) = ["Usage"] ∧
      Sample.registry.observe (Sample.results.restrict Sample.registry.readPlan) 0 =
        Sample.registry.observe Sample.results 0 := by
  have compiled := compiled_ofDocuments Sample.loaded
  obtain ⟨plan, enough⟩ := readPlan_exact Sample.registry compiled
  exact ⟨compiled, by decide +kernel, plan, by decide +kernel, enough Sample.results 0⟩

end Registry

end BeanMeter
