import BeanMeter.Proofs.Mapping.Uniqueness
import Mathlib.Algebra.Order.BigOperators.Group.List
import Mathlib.Algebra.Order.Group.Nat
import Mathlib.Data.List.Basic

/-! # How often an object is counted

Every mapping of a metric looks at every record on its own, and so the observations of one object
add up: its rule may list several patterns that accept it, and it may have been recorded under
several spellings of its name.

* `Registry.sightings` — the observations of a poll together with the objects that were observed.
* `Registry.observationsOf_eq_flatMap` — those of one object, mapping by mapping.
* `Registry.observationsOf_exact` — one for each pattern that accepts the object and each of its
  records that holds a number.
-/

namespace BeanMeter

/-! ## Lists made piece by piece -/

theorem flatMap_ite {α β : Type} (p : α → Bool) (f : α → List β) (xs : List α) :
    (xs.flatMap fun x => if p x then f x else []) = (xs.filter p).flatMap f := by
  induction xs with
  | nil => rfl
  | cons x xs ih => cases held : p x <;> simp [held, ih]

theorem length_flatMap_le {α β : Type} {f : α → List β} {xs : List α} {bound : Nat}
    (short : ∀ x ∈ xs, (f x).length ≤ bound) : (xs.flatMap f).length ≤ xs.length * bound := by
  rw [List.length_flatMap]
  have total := List.sum_le_card_nsmul (xs.map fun x => (f x).length) bound (by simpa using short)
  simpa using total

namespace Registry

/-! ## Observations by object -/

/-- The observations that one mapping makes of recorded objects, each with its object. -/
def sightingsBy (m : AttributeMapping) (records : List (ObjectName × Attributes))
    (timestamp : Int) : List (ObjectName × Observation) :=
  records.filterMap fun (name, attributes) =>
    if m.pattern.accepts name then
      (m.extract? name attributes timestamp).map fun observation => (name, observation)
    else none

/-- The observations in read results, each with the object that it was made of. -/
def sightings (r : Registry) (results : ReadResults) (timestamp : Int) :
    List (ObjectName × Observation) :=
  r.mappings.flatMap fun m => sightingsBy m (namedObjects results) timestamp

/-- The observations of one metric that were made of one object. -/
def observationsOf (r : Registry) (results : ReadResults) (timestamp : Int) (metric : String)
    (object : ObjectName) : List Observation :=
  ((r.sightings results timestamp).filter fun sighting =>
    sighting.1 = object ∧ sighting.2.name = metric).map (·.2)

/-- The mappings of a metric whose patterns accept an object. -/
def mappingsFor (r : Registry) (metric : String) (object : ObjectName) : List AttributeMapping :=
  r.mappings.filter fun m => m.metric = metric ∧ m.pattern.accepts object

/-- What was recorded of an object, once for each spelling of its name. -/
def recordsOf (results : ReadResults) (object : ObjectName) : List Attributes :=
  ((namedObjects results).filter fun record => record.1 = object).map (·.2)

section

variable {r : Registry} {results : ReadResults} {timestamp : Int} {metric : String}
  {object name : ObjectName} {m : AttributeMapping} {attributes : Attributes}

theorem map_snd_sightings (r : Registry) (results : ReadResults) (timestamp : Int) :
    (r.sightings results timestamp).map (·.2) = r.observe results timestamp := by
  unfold sightings observe
  rw [List.map_flatMap]
  apply List.flatMap_congr
  intro m _
  rw [sightingsBy, List.map_filterMap]
  apply List.filterMap_congr
  rintro ⟨name, attributes⟩ _
  dsimp only
  split
  · cases m.extract? name attributes timestamp <;> rfl
  · rfl

theorem name_of_extract? {observation : Observation}
    (made : m.extract? name attributes timestamp = some observation) :
    observation.name = m.metric := by
  obtain ⟨value, _, rfl⟩ := Option.map_eq_some_iff.mp made
  rfl

/-- One mapping makes of an object what it finds in each of its records. -/
theorem filter_sightingsBy (m : AttributeMapping) (results : ReadResults) (timestamp : Int)
    (metric : String) (object : ObjectName) :
    ((sightingsBy m (namedObjects results) timestamp).filter fun sighting =>
        sighting.1 = object ∧ sighting.2.name = metric).map (·.2) =
      if m.metric = metric ∧ m.pattern.accepts object then
        (recordsOf results object).filterMap (m.extract? object · timestamp)
      else [] := by
  rw [sightingsBy, recordsOf, List.filter_filterMap, List.map_filterMap, List.filterMap_map,
    List.filterMap_filter]
  split
  · next looks =>
    obtain ⟨own, accepted⟩ := looks
    apply List.filterMap_congr
    rintro ⟨name, attributes⟩ _
    by_cases same : name = object
    · subst same
      cases made : m.extract? name attributes timestamp with
      | none => simp [accepted, made]
      | some observation => simp [accepted, made, name_of_extract? made, own]
    · cases m.extract? name attributes timestamp <;> by_cases m.pattern.accepts name <;> simp [*]
  · next ignores =>
    apply List.filterMap_eq_nil_iff.mpr
    rintro ⟨name, attributes⟩ _
    cases made : m.extract? name attributes timestamp with
    | none => simp [made]
    | some observation =>
      by_cases accepted : m.pattern.accepts name
      · have other : ¬ (name = object ∧ m.metric = metric) := by
          rintro ⟨rfl, own⟩
          exact ignores ⟨own, accepted⟩
        simpa [accepted, made, name_of_extract? made] using other
      · simp [accepted]

theorem observationsOf_eq_flatMap (r : Registry) (results : ReadResults) (timestamp : Int)
    (metric : String) (object : ObjectName) :
    r.observationsOf results timestamp metric object =
      (r.mappingsFor metric object).flatMap fun m =>
        (recordsOf results object).filterMap (m.extract? object · timestamp) := by
  rw [observationsOf, sightings, List.filter_flatMap, List.map_flatMap, mappingsFor, ← flatMap_ite]
  apply List.flatMap_congr
  intro m _
  rw [filter_sightingsBy]
  simp only [decide_eq_true_eq]

/-- Mappings that differ in the pattern only make the same of an object. -/
theorem extract?_eq_of_pattern {n : AttributeMapping} (same : n = { m with pattern := n.pattern }) :
    n.extract? = m.extract? := by
  rw [same]
  rfl

end

/-- A metric is observed of an object once for each mapping that accepts the object and each record
of the object that holds a number; the mappings differ in nothing but the pattern. -/
theorem observationsOf_exact {documents : List (String × String)} {r : Registry}
    (loaded : ofDocuments documents = .ok r) (results : ReadResults) (timestamp : Int) :
    (r.sightings results timestamp).map (·.2) = r.observe results timestamp ∧
    ∀ metric object,
      (∀ m ∈ r.mappingsFor metric object, ∀ n ∈ r.mappingsFor metric object,
        n = { m with pattern := n.pattern }) ∧
      (∀ m ∈ r.mappingsFor metric object, r.observationsOf results timestamp metric object =
        (r.mappingsFor metric object).flatMap fun _ =>
          (recordsOf results object).filterMap (m.extract? object · timestamp)) ∧
      (r.observationsOf results timestamp metric object).length ≤
        (r.mappingsFor metric object).length * (recordsOf results object).length := by
  obtain ⟨batches, read, mergeable, rfl⟩ := ofDocuments_eq_ok_iff.mp loaded
  refine ⟨map_snd_sightings _ results timestamp, fun metric object => ?_⟩
  have unique : ∀ m ∈ mappingsFor ⟨batches.flatten⟩ metric object,
      ∀ n ∈ mappingsFor ⟨batches.flatten⟩ metric object, n = { m with pattern := n.pattern } := by
    intro m first n second
    simp only [mappingsFor, List.mem_filter, decide_eq_true_eq] at first second
    exact unique_of_mergeable read mergeable first.1 second.1 (first.2.1.trans second.2.1.symm)
  have repeated : ∀ m ∈ mappingsFor ⟨batches.flatten⟩ metric object,
      observationsOf ⟨batches.flatten⟩ results timestamp metric object =
        (mappingsFor ⟨batches.flatten⟩ metric object).flatMap fun _ =>
          (recordsOf results object).filterMap (m.extract? object · timestamp) := by
    intro m member
    rw [observationsOf_eq_flatMap]
    apply List.flatMap_congr
    intro n other
    rw [extract?_eq_of_pattern (unique m member n other)]
  refine ⟨unique, repeated, ?_⟩
  rw [observationsOf_eq_flatMap]
  exact length_flatMap_le fun _ _ => List.length_filterMap_le _ _

namespace Counted

/-- The second pattern of the rule accepts everything that the first one does. -/
def documents : List (String × String) :=
  [("rules", "rules:\n- beans: ['a:type=X,*', 'a:*']\n  mapping:\n    Count:\n")]

def mapping (pattern : NamePattern) : AttributeMapping :=
  ⟨pattern, "Count", none, "Count", none, none, .gauge, [], "rules", 0⟩

def ofType : NamePattern := ⟨"a:type=X,*", ['a'], [("type", ['X'])], true⟩

def anything : NamePattern := ⟨"a:*", ['a'], [], true⟩

def registry : Registry := ⟨[mapping ofType, mapping anything]⟩

theorem loaded : ofDocuments documents = .ok registry := by decide +kernel

def queue : ObjectName := ⟨"a", SortedMap.ofList [("name", "Y"), ("type", "X")]⟩

def topic : ObjectName := ⟨"a", SortedMap.ofList [("name", "Y"), ("type", "Z")]⟩

/-- Each object under one name. -/
def results : ReadResults :=
  (ReadResults.empty.insert "a:name=Y,type=X" "Count" (.integer 5)).insert
    "a:name=Y,type=Z" "Count" (.integer 7)

/-- One object under two names. -/
def respelled : ReadResults := results.insert "a:type=Z,name=Y" "Count" (.integer 8)

end Counted

theorem sample_counting :
    ofDocuments Counted.documents = .ok Counted.registry ∧
      (Counted.registry.sightings Counted.results 0).map (·.2) =
        Counted.registry.observe Counted.results 0 ∧
      (Counted.registry.mappingsFor "Count" Counted.topic).length = 1 ∧
      (recordsOf Counted.results Counted.topic).length = 1 ∧
      (Counted.registry.observationsOf Counted.results 0 "Count" Counted.topic).length ≤ 1 := by
  obtain ⟨tagged, counted⟩ := observationsOf_exact Counted.loaded Counted.results 0
  have mappings : (Counted.registry.mappingsFor "Count" Counted.topic).length = 1 := by
    decide +kernel
  have records : (recordsOf Counted.results Counted.topic).length = 1 := by decide +kernel
  obtain ⟨_, _, bound⟩ := counted "Count" Counted.topic
  rw [mappings, records] at bound
  exact ⟨Counted.loaded, tagged, mappings, records, bound⟩

/-- One object is observed twice through two patterns of a rule, another through two spellings. -/
theorem sample_counted_twice :
    ofDocuments Counted.documents = .ok Counted.registry ∧
      (Counted.registry.observationsOf Counted.results 0 "Count" Counted.queue).length = 2 ∧
      (Counted.registry.mappingsFor "Count" Counted.topic).length = 1 ∧
      (Counted.registry.observationsOf Counted.respelled 0 "Count" Counted.topic).length = 2 :=
  ⟨Counted.loaded, by decide +kernel, by decide +kernel, by decide +kernel⟩

end Registry

end BeanMeter
