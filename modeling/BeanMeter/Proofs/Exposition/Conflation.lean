import BeanMeter.Proofs.Collection.Entries
import BeanMeter.Proofs.Exposition.Retention
import BeanMeter.Proofs.Mapping.Counting
import Mathlib.Data.Finset.Card

/-! # Which observations share a series

Metrics and labels are told apart by their names when a registry is loaded, and by what is left of
the names in the exposition when samples are stored. Names that differ only in characters which may
not stand in an exposition become one there.

* `Registry.Distinguishable` — the exposition leaves the names of a registry apart.
* `SeriesStore.series_of_poll` — how many series the observations of a poll make.
-/

namespace BeanMeter

/-- What was observed: a metric, and labels with values. -/
def Observation.identity (o : Observation) : String × SortedMap String String := (o.name, o.labels)

/-- What is left of an identity in the exposition. -/
def exposedKey (identity : String × SortedMap String String) : SeriesKey :=
  (sanitizeName identity.1, (sanitizeLabels identity.2).entries)

/-! ## Labels -/

section

variable {names : List String} {labels others : SortedMap String String} {label value : String}

/-- No two of the names become one in the exposition. -/
def LabelsApart (names : List String) : Prop :=
  ∀ label ∈ names, ∀ other ∈ names, sanitizeLabel label = sanitizeLabel other → label = other

instance decidableLabelsApart : Decidable (LabelsApart names) :=
  inferInstanceAs (Decidable (∀ label ∈ names, ∀ other ∈ names, _ → label = other))

theorem mem_sanitizeLabels_iff (apart : LabelsApart names)
    (within : ∀ e ∈ labels.entries, e.1 ∈ names) (listed : label ∈ names) :
    (sanitizeLabel label, value) ∈ (sanitizeLabels labels).entries ↔
      (label, value) ∈ labels.entries := by
  have distinct :
      ((labels.entries.map fun e => (sanitizeLabel e.1, e.2)).map (·.1)).Nodup := by
    have renamed := labels.keys_nodup.map_on fun label first other second =>
      apart label (by
        obtain ⟨e, held, rfl⟩ := List.mem_map.mp first
        exact within e held) other (by
        obtain ⟨e, held, rfl⟩ := List.mem_map.mp second
        exact within e held)
    simpa [SortedMap.keys, Function.comp_def] using renamed
  rw [sanitizeLabels, SortedMap.mem_entries_ofList_iff distinct, List.mem_map]
  constructor
  · rintro ⟨⟨other, own⟩, held, same⟩
    rw [Prod.mk.injEq] at same
    obtain ⟨names, rfl⟩ := same
    rwa [← apart other (within _ held) label listed names]
  · intro held
    exact ⟨(label, value), held, rfl⟩

/-- Labels whose names stay apart can be told from what is exposed of them. -/
theorem eq_of_sanitizeLabels_eq (apart : LabelsApart names)
    (within : ∀ e ∈ labels.entries, e.1 ∈ names) (within' : ∀ e ∈ others.entries, e.1 ∈ names)
    (same : sanitizeLabels labels = sanitizeLabels others) : labels = others := by
  apply SortedMap.ext_entries
  apply SortedMap.entries_eq_of_mem_iff labels.ascending others.ascending
  rintro ⟨label, value⟩
  constructor
  · intro held
    have listed := within _ held
    rwa [← mem_sanitizeLabels_iff apart within listed, same,
      mem_sanitizeLabels_iff apart within' listed] at held
  · intro held
    have listed := within' _ held
    rwa [← mem_sanitizeLabels_iff apart within' listed, ← same,
      mem_sanitizeLabels_iff apart within listed] at held

end

/-! ## Registries -/

namespace Registry

/-- The exposition leaves the names of metrics apart, and those of the labels of each metric. -/
structure Distinguishable (r : Registry) : Prop where
  metrics : ∀ m ∈ r.mappings, ∀ n ∈ r.mappings,
    sanitizeName m.metric = sanitizeName n.metric → m.metric = n.metric
  labels : ∀ m ∈ r.mappings, LabelsApart (m.labels.map (·.name))

variable {r : Registry} {results : ReadResults} {timestamp : Int} {o p : Observation}

theorem exists_mapping_of_mem_observe (made : o ∈ r.observe results timestamp) :
    ∃ m ∈ r.mappings, ∃ name attributes, m.extract? name attributes timestamp = some o := by
  obtain ⟨m, member, made⟩ := List.mem_flatMap.mp made
  obtain ⟨⟨name, attributes⟩, -, made⟩ := List.mem_filterMap.mp made
  dsimp only at made
  split at made
  · exact ⟨m, member, name, attributes, made⟩
  · cases made

theorem labels_of_extract? {m : AttributeMapping} {name : ObjectName} {attributes : Attributes}
    (made : m.extract? name attributes timestamp = some o) :
    ∀ e ∈ o.labels.entries, e.1 ∈ m.labels.map (·.name) := by
  obtain ⟨value, -, rfl⟩ := Option.map_eq_some_iff.mp made
  intro e held
  obtain ⟨rule, listed, labelled⟩ := List.mem_filterMap.mp (SortedMap.mem_of_mem_ofList held)
  obtain ⟨text, -, rfl⟩ := Option.map_eq_some_iff.mp labelled
  exact List.mem_map.mpr ⟨rule, listed, rfl⟩

/-- The labels of a metric have the same names wherever it is observed, since it has one
definition. -/
theorem identity_eq_of_seriesKey_eq {documents : List (String × String)}
    (loaded : ofDocuments documents = .ok r) (distinguishable : r.Distinguishable)
    (first : o ∈ r.observe results timestamp) (second : p ∈ r.observe results timestamp)
    (same : o.seriesKey = p.seriesKey) : o.identity = p.identity := by
  obtain ⟨batches, read, mergeable, rfl⟩ := ofDocuments_eq_ok_iff.mp loaded
  obtain ⟨m, member, _, _, made⟩ := exists_mapping_of_mem_observe first
  obtain ⟨n, member', _, _, made'⟩ := exists_mapping_of_mem_observe second
  have name := name_of_extract? made
  have name' := name_of_extract? made'
  have names : sanitizeName o.name = sanitizeName p.name := congrArg Prod.fst same
  have labels : (sanitizeLabels o.labels).entries = (sanitizeLabels p.labels).entries :=
    congrArg Prod.snd same
  have metric : m.metric = n.metric := by
    rw [name, name'] at names
    exact distinguishable.metrics m member n member' names
  -- Without one definition for both, the label names of one might meet those of the other.
  have definition := unique_of_mergeable read mergeable member member' metric
  have within := labels_of_extract? made
  have within' : ∀ e ∈ p.labels.entries, e.1 ∈ m.labels.map (·.name) := by
    have own := labels_of_extract? made'
    rwa [definition] at own
  have alike := eq_of_sanitizeLabels_eq (distinguishable.labels m member) within within'
    (SortedMap.ext_entries labels)
  rw [Observation.identity, Observation.identity, name, name', metric, alike]

end Registry

/-! ## Polls -/

namespace SeriesStore

theorem sinceBegin_poll (past : List Emission) (os : List Observation) :
    Emission.sinceBegin (past ++ .beginTick :: os.map .observation) = os := by
  induction os using List.reverseRecOn with
  | nil => exact Emission.sinceBegin_beginTick
  | append_singleton os o ih =>
    have whole : past ++ .beginTick :: (os ++ [o]).map .observation =
        (past ++ .beginTick :: os.map .observation) ++ [.observation o] := by simp
    rw [whole, Emission.sinceBegin_observation, ih]

theorem count_poll (past : List Emission) (os : List Observation) :
    List.count .beginTick (past ++ Emission.beginTick :: os.map .observation) =
      past.count .beginTick + 1 := by
  have none : (os.map Emission.observation).count .beginTick = 0 :=
    List.count_eq_zero.mpr (by simp)
  rw [List.count_append, List.count_cons_self, none]

theorem size_eq_card (s : SeriesStore) : s.size = s.series.keys.toFinset.card := by
  rw [List.toFinset_card_of_nodup s.series.keys_nodup, SortedMap.keys, List.length_map]
  rfl

/-- A poll leaves the series that its own observations make. -/
theorem size_run_poll {past : List Emission} (few : past.count .beginTick + 1 < UInt64.size)
    (os : List Observation) : (empty.run (past ++ Emission.ofObservations os)).size =
      (os.map Observation.seriesKey).toFinset.card := by
  have whole : past ++ Emission.ofObservations os =
      (past ++ .beginTick :: os.map .observation) ++ [.endTick] := by
    simp [Emission.ofObservations]
  rw [← count_poll past os] at few
  rw [size_eq_card, whole, run_append]
  congr 1
  ext key
  rw [List.mem_toFinset, mem_keys_iff]
  change ((empty.run _).endTick.sample? key).isSome ↔ _
  rw [(stamped_run _).sample?_endTick few key, sinceBegin_poll, isSome_newest?_iff,
    List.mem_toFinset, List.mem_map]

/-- Nothing is lost in the exposition if what it shows alike is the same. -/
theorem card_exposed_eq_iff (os : List Observation) :
    (os.map Observation.seriesKey).toFinset.card = (os.map Observation.identity).toFinset.card ↔
      ∀ o ∈ os, ∀ p ∈ os, o.seriesKey = p.seriesKey → o.identity = p.identity := by
  have exposed : (os.map Observation.seriesKey).toFinset =
      (os.map Observation.identity).toFinset.image exposedKey := by
    ext key
    simp [Observation.seriesKey, exposedKey, Observation.identity]
  rw [exposed, Finset.card_image_iff, List.coe_toFinset]
  constructor
  · intro injective o first p second same
    exact injective (List.mem_map_of_mem first) (List.mem_map_of_mem second) same
  · rintro told _ first _ second same
    obtain ⟨o, listed, rfl⟩ := List.mem_map.mp first
    obtain ⟨p, listed', rfl⟩ := List.mem_map.mp second
    exact told o listed p listed' same

/-- The observations of a poll make as many series as there are metrics and labels among them that
can be told apart in the exposition. That is one for each metric and set of labels if no two of them
are exposed alike, and they are not if the names in the registry stay apart. -/
theorem series_of_poll {documents : List (String × String)} {r : Registry}
    (loaded : Registry.ofDocuments documents = .ok r) (results : ReadResults) (timestamp : Int)
    {past : List Emission} (few : past.count .beginTick + 1 < UInt64.size) :
    let os := r.observe results timestamp
    let s := empty.run (past ++ Emission.ofObservations os)
    s.size = (os.map Observation.seriesKey).toFinset.card ∧
      (s.size = (os.map Observation.identity).toFinset.card ↔
        ∀ o ∈ os, ∀ p ∈ os, o.seriesKey = p.seriesKey → o.identity = p.identity) ∧
      (r.Distinguishable → s.size = (os.map Observation.identity).toFinset.card) := by
  intro os s
  have size : s.size = (os.map Observation.seriesKey).toFinset.card := size_run_poll few os
  have apart := card_exposed_eq_iff os
  rw [← size] at apart
  exact ⟨size, apart, fun distinguishable => apart.mpr fun o first p second same =>
    Registry.identity_eq_of_seriesKey_eq loaded distinguishable first second same⟩

namespace Conflated

/-- Two metrics of one object, and a metric whose objects are told apart by one label or another. -/
def documents (second other : String) : List (String × String) :=
  [("rules",
    "rules:\n- bean: a:type=X\n  mapping:\n    Count:\n      metric: a.b\n    Peak:\n" ++
      "      metric: " ++ second ++ "\n- bean: b:*\n  metricAttribute:\n    p.q: param(p)\n    " ++
      other ++ ": param(q)\n  mapping:\n    Size:\n")]

def total : NamePattern := ⟨"a:type=X", ['a'], [("type", ['X'])], false⟩

def parts : NamePattern := ⟨"b:*", ['b'], [], true⟩

def registry (second other : String) : Registry := ⟨[
  ⟨total, "Count", none, "a.b", none, none, .gauge, [], "rules", 0⟩,
  ⟨total, "Peak", none, second, none, none, .gauge, [], "rules", 0⟩,
  ⟨parts, "Size", none, "Size", none, none, .gauge,
    [⟨"p.q", .param "p"⟩, ⟨other, .param "q"⟩], "rules", 1⟩]⟩

def results : ReadResults :=
  (((ReadResults.empty.insert "a:type=X" "Count" (.integer 5)).insert
    "a:type=X" "Peak" (.integer 7)).insert "b:p=1" "Size" (.integer 3)).insert
    "b:q=1" "Size" (.integer 4)

end Conflated

theorem sample_series_of_poll :
    let r := Conflated.registry "a.c" "p.r"
    let os := r.observe Conflated.results 0
    Registry.ofDocuments (Conflated.documents "a.c" "p.r") = .ok r ∧ r.Distinguishable ∧
      (empty.run ([.beginTick] ++ Emission.ofObservations os)).size =
        (os.map Observation.identity).toFinset.card := by
  intro r os
  have loaded : Registry.ofDocuments (Conflated.documents "a.c" "p.r") = .ok r := by
    decide +kernel
  have distinguishable : r.Distinguishable := ⟨by decide +kernel, by decide +kernel⟩
  have few : List.count .beginTick [Emission.beginTick] + 1 < UInt64.size := by decide +kernel
  obtain ⟨-, -, apart⟩ := series_of_poll loaded Conflated.results 0 few
  exact ⟨loaded, distinguishable, apart distinguishable⟩

/-- Two metrics share a series, and so do two values of one metric with different labels. -/
theorem sample_conflated :
    let r := Conflated.registry "a_b" "p_q"
    let os := r.observe Conflated.results 0
    Registry.ofDocuments (Conflated.documents "a_b" "p_q") = .ok r ∧
      (os.map Observation.identity).toFinset.card = 4 ∧
      (empty.run (Emission.ofObservations os)).size = 2 := by
  decide +kernel

end SeriesStore

end BeanMeter
