import BeanMeter.Mapping.Builtin
import BeanMeter.Proofs.Collection.Entries
import BeanMeter.Proofs.Config.TargetList
import BeanMeter.Proofs.Mapping.Acceptance
import BeanMeter.Proofs.Mapping.Uniqueness
import Mathlib.Data.List.Nodup

/-! # The built-in catalogs

Every target system that a configuration may name has a catalog, and all of the catalogs fit
together: each can be loaded by itself, and no metric is defined by two entries, be it of one
catalog or of two. What fits together as a whole fits together in part and in any order.

* `Catalog.entryMetrics` — the metrics that the entries of a catalog define.
* `Catalog.builtins_acceptable`, `Catalog.builtins_distinct` — the tables are in order.
* `Registry.resolve_of_checked` — the target systems of a checked configuration can be resolved.
-/

namespace BeanMeter

/-! ## Metrics of entries -/

/-- The metric that an entry of a rule defines. -/
def CatalogRule.metricOf (r : CatalogRule) (path : String) (entry : Option MetricEntry) : String :=
  r.namePrefix.getD "" ++ (entry.getD .plain).metric.getD path

theorem CatalogRule.metric_of_mapping {r : CatalogRule} {origin : String} {index : Nat}
    {pattern : NamePattern} {path : String} {entry : Option MetricEntry} {m : AttributeMapping}
    (made : r.mapping origin index pattern path entry = .ok m) : m.metric = r.metricOf path entry := by
  unfold mapping at made
  dsimp only at made
  split at made
  · cases made
  · obtain ⟨labels, _, same⟩ := Except.bind_eq_ok_iff.mp made
    cases same
    rfl

namespace Catalog

/-- The metrics of a catalog, each with the rule and the path of the entry that defines it. -/
def entryMetrics (c : Catalog) : List ((Nat × String) × String) :=
  c.rules.zipIdx.flatMap fun (r, index) =>
    r.entries.entries.map fun (path, entry) => ((index, path), r.metricOf path entry)

/-- The names of the metrics of a catalog. -/
def metrics (c : Catalog) : List String := c.entryMetrics.map (·.2)

variable {c d : Catalog} {origin : String} {m : AttributeMapping} {ms ns : List AttributeMapping}

theorem Gives.mem_entryMetrics (gives : c.Gives origin m) :
    ∃ path, ((m.rule, path), m.metric) ∈ c.entryMetrics ∧
      AttributePath.parse? path = some ⟨m.attr, m.subKey⟩ := by
  obtain ⟨r, found, _, _, _, path, entry, held, made⟩ := gives
  have place : (r, m.rule) ∈ c.rules.zipIdx := List.mk_mem_zipIdx_iff_getElem?.mpr found
  refine ⟨path, ?_, (CatalogRule.of_mapping made).2.2.2⟩
  rw [CatalogRule.metric_of_mapping made]
  exact List.mem_flatMap.mpr
    ⟨_, place, List.mem_map.mpr ⟨_, SortedMap.get?_eq_some_iff.mp held, rfl⟩⟩

/-- If the entries define different metrics, a metric stands for one entry. -/
theorem coherent_mappings (distinct : c.metrics.Nodup) (made : c.mappings origin = .ok ms) :
    Registry.Coherent ms := by
  intro m first n second metric
  have gives := gives_of_mappings made
  obtain ⟨path, listed, read⟩ := (gives m first).mem_entryMetrics
  obtain ⟨path', listed', read'⟩ := (gives n second).mem_entryMetrics
  have same := List.inj_on_of_nodup_map distinct listed listed' metric
  simp only [Prod.mk.injEq] at same
  obtain ⟨⟨rule, rfl⟩, -⟩ := same
  rw [read, Option.some.injEq, AttributePath.mk.injEq] at read'
  exact AttributeMapping.sameDefinition_iff.mpr
    ⟨(gives m first).origin_eq.trans (gives n second).origin_eq.symm, rule, read'⟩

theorem mem_metrics (made : c.mappings origin = .ok ms) : ∀ m ∈ ms, m.metric ∈ c.metrics := by
  intro m member
  obtain ⟨path, listed, -⟩ := (gives_of_mappings made m member).mem_entryMetrics
  exact List.mem_map.mpr ⟨_, listed, rfl⟩

end Catalog

/-! ## The tables -/

/-- The part of reading a pattern that comes after its characters have been taken apart. -/
def NamePattern.isReadable (cs : List Char) : Bool :=
  match Text.splitFirst? ':' cs with
  | none => false
  | some (_, list) =>
    match readParts (splitProperties list) with
    | .ok (_ :: _) => true
    | _ => false

theorem NamePattern.compiles_ofList {cs : List Char} (readable : isReadable cs = true) :
    ∃ pattern, compile (String.ofList cs) = .ok pattern := by
  rw [isReadable] at readable
  rw [compile, String.toList_ofList]
  cases halves : Text.splitFirst? ':' cs with
  | none => simp [halves] at readable
  | some found =>
    cases parts : readParts (splitProperties found.2) with
    | error => simp [halves, parts] at readable
    | ok read =>
      cases read with
      | nil => simp [halves, parts] at readable
      | cons =>
        simp only [parts]
        exact ⟨_, rfl⟩

/-- The part of reading a path that comes after its characters have been taken apart. -/
def AttributePath.isReadable (cs : List Char) : Bool :=
  match Text.splitFirst? '.' cs with
  | none => !cs.all Text.isBlank
  | some (attr, key) => !attr.all Text.isBlank && !key.all Text.isBlank

theorem AttributePath.parses_ofList {cs : List Char} (readable : isReadable cs = true) :
    (parse? (String.ofList cs)).isSome := by
  rw [isReadable] at readable
  rw [parse?, String.toList_ofList]
  cases halves : Text.splitFirst? '.' cs with
  | none => simp_all [Text.isBlankText]
  | some found => simp_all [Text.isBlankText]

/-- The rules of the built-in catalogs look up nothing but what they say: their labels are those of
the rule, in the plain form. -/
theorem Builtin.acceptable_rule {bean namePrefix : String} {labels : List (String × LabelSource)}
    {entries : List (String × MetricEntry)}
    (compiles : ∃ pattern, NamePattern.compile bean = .ok pattern)
    (sources : ∀ label ∈ labels, label.2.Plain ∧ ¬ Text.isBlankText label.1)
    (paths : ∀ entry ∈ entries, (AttributePath.parse? entry.1).isSome ∧ entry.2.labels = .empty) :
    (rule bean namePrefix labels entries).Acceptable where
  named := by simp [rule, CatalogRule.patterns]
  compiles := by simpa [rule, CatalogRule.patterns] using compiles
  paths := by
    intro entry held
    obtain ⟨given, listed, rfl⟩ := List.mem_map.mp (SortedMap.mem_of_mem_ofList held)
    exact (paths given listed).1
  labels := by
    intro entry held label inForce
    obtain ⟨given, listed, rfl⟩ := List.mem_map.mp (SortedMap.mem_of_mem_ofList held)
    dsimp only [Option.getD_some] at inForce
    rw [(paths given listed).2] at inForce
    obtain ⟨named, written, rfl⟩ := List.mem_map.mp (SortedMap.mem_of_mem_ofList inForce)
    obtain ⟨plain, visible⟩ := sources named written
    exact ⟨by simp [LabelSource.parse?_text plain], visible⟩

namespace Catalog

/-- Each text of the tables is read by itself: taking apart the characters of a literal is left to
unification, which is much faster than to compute them. -/
theorem builtins_acceptable : ∀ c ∈ builtins, ∀ r ∈ c.2.rules, r.Acceptable := by
  simp only [builtins, Builtin.activeMq, Builtin.cassandra, Builtin.hbase, Builtin.hadoop,
    Builtin.jetty, Builtin.jvm, Builtin.kafka, Builtin.kafkaConsumer, Builtin.kafkaProducer,
    Builtin.solr, Builtin.tomcat, Builtin.wildfly, List.forall_mem_cons, List.not_mem_nil,
    false_imp_iff, implies_true, and_true]
  -- One goal for every rule, and within it one for every path.
  and_intros
  all_goals
    apply Builtin.acceptable_rule
    · exact NamePattern.compiles_ofList (by decide +kernel)
    · decide +kernel
    · simp only [Builtin.gauge, Builtin.counter, Builtin.upDownCounter, Builtin.metric,
        List.forall_mem_cons, List.not_mem_nil, false_imp_iff, implies_true, and_true]
      and_intros
      all_goals exact AttributePath.parses_ofList (by decide +kernel)

/-- The bytes of a text as the digits of a number: texts with different numbers are different, and
numbers are compared fast. -/
def code (name : String) : Nat :=
  name.toByteArray.data.toList.foldl (fun n byte => 256 * n + byte.toNat) 0

theorem builtins_distinct : (builtins.flatMap fun c => c.2.metrics).Nodup := by
  have codes : ((builtins.flatMap fun c => c.2.metrics).map code).Nodup := by decide +kernel
  exact codes.of_map

theorem mem_builtins_of_builtin? {system : String} {c : Catalog}
    (found : builtin? system = some c) : (system, c) ∈ builtins := by
  obtain ⟨⟨name, d⟩, first, rfl⟩ := Option.map_eq_some_iff.mp found
  obtain rfl : name = system := by simpa using List.find?_some first
  exact List.mem_of_find?_eq_some first

theorem exists_builtin? {system : String} (available : system ∈ availableTargets) :
    ∃ c, builtin? system = some c := by
  have named : builtins.map (·.1) = availableTargets := rfl
  rw [← named] at available
  obtain ⟨entry, listed, rfl⟩ := List.mem_map.mp available
  rw [← Option.isSome_iff_exists, builtin?, Option.isSome_map, List.find?_isSome]
  exact ⟨entry, listed, by simp⟩

end Catalog

/-! ## Target systems -/

namespace Registry

/-- The mappings of a target system. -/
def builtinMappings (system : String) : Except MappingError (List AttributeMapping) :=
  match Catalog.builtin? system with
  | some c => c.mappings (Catalog.builtinOrigin system)
  | none => .error (.unknownTarget system)

variable {targets : List String} {batches : List (List AttributeMapping)}

theorem builtinMappings_eq_ok_iff {system : String} {ms : List AttributeMapping} :
    builtinMappings system = .ok ms ↔ ∃ c, Catalog.builtin? system = some c ∧
      c.mappings (Catalog.builtinOrigin system) = .ok ms := by
  unfold builtinMappings
  cases Catalog.builtin? system <;> simp

theorem exists_builtinMappings {system : String} (available : system ∈ availableTargets) :
    ∃ ms, builtinMappings system = .ok ms := by
  obtain ⟨c, found⟩ := Catalog.exists_builtin? available
  have acceptable := Catalog.builtins_acceptable _ (Catalog.mem_builtins_of_builtin? found)
  obtain ⟨ms, made⟩ :=
    (@Catalog.exists_mappings_iff c (Catalog.builtinOrigin system)).mpr acceptable
  exact ⟨ms, builtinMappings_eq_ok_iff.mpr ⟨c, found, made⟩⟩

theorem coherent_builtin {system : String} {ms : List AttributeMapping}
    (made : builtinMappings system = .ok ms) : Coherent ms := by
  obtain ⟨c, found, made⟩ := builtinMappings_eq_ok_iff.mp made
  have distinct := (List.nodup_flatMap.mp Catalog.builtins_distinct).1
  exact Catalog.coherent_mappings (distinct _ (Catalog.mem_builtins_of_builtin? found)) made

theorem apart_builtin {first second : String} {ms ns : List AttributeMapping}
    (other : first ≠ second) (made : builtinMappings first = .ok ms)
    (made' : builtinMappings second = .ok ns) : Apart ms ns := by
  obtain ⟨c, found, made⟩ := builtinMappings_eq_ok_iff.mp made
  obtain ⟨d, found', made'⟩ := builtinMappings_eq_ok_iff.mp made'
  have disjoint := (List.nodup_flatMap.mp Catalog.builtins_distinct).2
  have symm : Std.Symm (Function.onFun List.Disjoint fun c : String × Catalog => c.2.metrics) :=
    ⟨fun _ _ disjoint _ left right => disjoint right left⟩
  have apart := disjoint.forall (Catalog.mem_builtins_of_builtin? found)
    (Catalog.mem_builtins_of_builtin? found') (by simp [other])
  intro m member n member' same
  exact apart (Catalog.mem_metrics made m member)
    (same ▸ Catalog.mem_metrics made' n member')

/-- The catalogs are looked up first and merged afterwards, which comes to the same. -/
theorem resolve_eq_ok (files : Files) (each : targets.mapM builtinMappings = .ok batches)
    (mergeable : Mergeable batches) : resolve files targets none = .ok ⟨batches.flatten⟩ := by
  obtain ⟨g, made, rfl⟩ := mapM_eq_ok_iff.mp each
  have catalogs : builtinCatalogs targets = .ok (targets.map fun system =>
      (Catalog.builtinOrigin system, (Catalog.builtin? system).getD ⟨[]⟩)) := by
    apply mapM_eq_ok_map
    intro system listed
    obtain ⟨c, found, -⟩ := builtinMappings_eq_ok_iff.mp (made system listed)
    simp [found]
  have loaded : targets.mapM (fun system => ((Catalog.builtin? system).getD ⟨[]⟩).mappings
      (Catalog.builtinOrigin system)) = .ok (targets.map g) := by
    apply mapM_eq_ok_map
    intro system listed
    obtain ⟨c, found, made⟩ := builtinMappings_eq_ok_iff.mp (made system listed)
    simp [found, made]
  have merged := foldlM_extend_eq_ok_iff.mpr ⟨_, loaded, mergeable, rfl⟩
  -- Three steps: the catalogs, the custom document that there is not, and the merging.
  refine Except.bind_eq_ok_iff.mpr ⟨_, catalogs, ?_⟩
  refine Except.bind_eq_ok_iff.mpr ⟨none, rfl, ?_⟩
  refine Except.bind_eq_ok_iff.mpr ⟨_, ?_, rfl⟩
  rw [List.foldlM_map]
  exact merged

/-- The target systems of a checked configuration have catalogs that fit together: the registry of
a run consists of their mappings, in the order of the systems. -/
theorem resolve_of_checked {p : PropertySet} {c : Config} (checked : Config.ofProperties p = .ok c)
    (files : Files) : ∃ batches, c.targetSystems.mapM builtinMappings = .ok batches ∧
      resolve files c.targetSystems none = .ok ⟨batches.flatten⟩ := by
  obtain ⟨distinct, known⟩ := targetSystems_known checked
  obtain ⟨batches, each⟩ := exists_mapM_eq_ok_iff.mpr fun system listed =>
    exists_builtinMappings (known system listed)
  obtain ⟨g, made, rfl⟩ := mapM_eq_ok_iff.mp each
  refine ⟨_, each, resolve_eq_ok files each ⟨?_, ?_⟩⟩
  · apply List.pairwise_map.mpr
    apply distinct.pairwise_of_forall_ne
    intro first listed second listed' other
    exact apart_builtin other (made first listed) (made second listed')
  · rw [List.forall_mem_map]
    intro system listed
    exact coherent_builtin (made system listed)

/-- Letters of either case, blanks, an empty item and a repetition. -/
theorem sample_resolved :
    Config.ofProperties (Config.Sample.properties " KAFKA,jvm, ,Jvm") =
        .ok (Config.Sample.config ["kafka", "jvm"]) ∧
      ∃ batches, ["kafka", "jvm"].mapM builtinMappings = .ok batches ∧
        resolve (.ofList []) ["kafka", "jvm"] none = .ok ⟨batches.flatten⟩ := by
  have checked : Config.ofProperties (Config.Sample.properties " KAFKA,jvm, ,Jvm") =
      .ok (Config.Sample.config ["kafka", "jvm"]) := rfl
  exact ⟨checked, resolve_of_checked checked (.ofList [])⟩

end Registry

end BeanMeter
