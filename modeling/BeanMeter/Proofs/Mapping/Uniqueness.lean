import BeanMeter.Proofs.Mapping.DocumentFaults
import Mathlib.Data.List.Induction
import Mathlib.Data.List.Pairwise

/-! # Uniqueness of metric names

A metric name stands for one entry of one rule, however many documents are merged. While they are,
only the last definition of a name is looked at; that is enough because the earlier ones have been
found to agree with it.

* `Registry.Coherent` — what the merged mappings of one document have in common.
* `Registry.Clash` — two mappings that cannot both be merged.
* `Registry.ofDocuments_exact` — documents are merged exactly if there is no clash between them, and
  an error names one.
-/

namespace BeanMeter

/-! ## Entries -/

theorem AttributePath.toList_of_parse? {path : String} {p : AttributePath}
    (read : parse? path = some p) :
    path.toList = p.attr.toList ++ (p.subKey.map fun key => '.' :: key.toList).getD [] := by
  unfold parse? at read
  split at read
  · split at read
    · cases read
    · cases read
      simp
  · next attr key found =>
    dsimp only at read
    split at read
    · cases read
    · cases read
      simpa using (Text.splitFirst?_eq_some_iff.mp found).1

namespace AttributeMapping

/-- Two mappings come from entries at the same place in their documents. -/
def SameEntry (m n : AttributeMapping) : Prop :=
  m.rule = n.rule ∧ m.attr = n.attr ∧ m.subKey = n.subKey

variable {m n k : AttributeMapping}

theorem SameEntry.refl (m : AttributeMapping) : m.SameEntry m := ⟨rfl, rfl, rfl⟩

theorem SameEntry.symm (same : m.SameEntry n) : n.SameEntry m := by
  obtain ⟨rule, attr, subKey⟩ := same
  exact ⟨rule.symm, attr.symm, subKey.symm⟩

theorem sameDefinition_iff : m.sameDefinition n = true ↔ m.origin = n.origin ∧ m.SameEntry n := by
  simp [sameDefinition, SameEntry, and_assoc]

theorem sameDefinition_symm (same : m.sameDefinition n = true) : n.sameDefinition m = true := by
  obtain ⟨origin, rule, attr, subKey⟩ := sameDefinition_iff.mp same
  exact sameDefinition_iff.mpr ⟨origin.symm, rule.symm, attr.symm, subKey.symm⟩

theorem sameDefinition_trans (same : m.sameDefinition n = true) (next : n.sameDefinition k = true) :
    m.sameDefinition k = true := by
  obtain ⟨origin, rule, attr, subKey⟩ := sameDefinition_iff.mp same
  obtain ⟨origin', rule', attr', subKey'⟩ := sameDefinition_iff.mp next
  exact sameDefinition_iff.mpr
    ⟨origin.trans origin', rule.trans rule', attr.trans attr', subKey.trans subKey'⟩

end AttributeMapping

/-- The paths of a rule are distinct texts, and so an entry is known by its attribute and item. -/
theorem Catalog.Gives.unique {c : Catalog} {origin : String} {m n : AttributeMapping}
    (first : c.Gives origin m) (second : c.Gives origin n) (same : m.SameEntry n) :
    n = { m with pattern := n.pattern } := by
  obtain ⟨r, found, _, _, _, path, entry, held, made⟩ := first
  obtain ⟨r', found', _, _, _, path', entry', held', made'⟩ := second
  obtain ⟨rule, attr, subKey⟩ := same
  have sameRule : r = r' := by
    rw [rule, found'] at found
    exact (Option.some.inj found).symm
  subst sameRule
  have read := (CatalogRule.of_mapping made).2.2.2
  have read' := (CatalogRule.of_mapping made').2.2.2
  rw [attr, subKey] at read
  have samePath : path = path' := by
    apply String.toList_inj.mp
    rw [AttributePath.toList_of_parse? read, AttributePath.toList_of_parse? read']
  subst samePath
  have sameEntry : entry = entry' := by
    rw [held] at held'
    exact Option.some.inj held'
  subst sameEntry
  rw [rule] at made
  exact CatalogRule.mapping_unique made made'

namespace Registry

/-! ## Checking one document -/

/-- If two mappings define one metric, they are from one entry. -/
def Agree (m n : AttributeMapping) : Prop := m.metric = n.metric → m.sameDefinition n = true

/-- Every metric that the mappings define is defined by one entry. -/
def Coherent (ms : List AttributeMapping) : Prop := ∀ m ∈ ms, ∀ n ∈ ms, Agree m n

/-- No metric is defined on both sides. -/
def Apart (ms ns : List AttributeMapping) : Prop := ∀ m ∈ ms, ∀ n ∈ ns, m.metric ≠ n.metric

instance : Std.Symm Apart := ⟨fun _ _ apart n second m first => (apart m first n second).symm⟩

section

variable {merged before ms : List AttributeMapping} {m : AttributeMapping} {metric : String}

theorem coherent_nil : Coherent [] := by
  intro m member
  cases member

theorem coherent_concat : Coherent (ms ++ [m]) ↔ Coherent ms ∧ ∀ n ∈ ms, Agree n m := by
  constructor
  · intro coherent
    refine ⟨fun n hn k hk => ?_, fun n hn => ?_⟩
    · exact coherent n (List.mem_append_left _ hn) k (List.mem_append_left _ hk)
    · exact coherent n (List.mem_append_left _ hn) m (by simp)
  · rintro ⟨coherent, agree⟩ n hn k hk
    rw [List.mem_append, List.mem_singleton] at hn hk
    rcases hn with hn | rfl <;> rcases hk with hk | rfl
    · exact coherent n hn k hk
    · exact agree n hn
    · exact fun same => AttributeMapping.sameDefinition_symm (agree k hk same.symm)
    · exact fun _ => AttributeMapping.sameDefinition_iff.mpr ⟨rfl, rfl, rfl, rfl⟩

theorem lastDefinition?_eq_none_iff :
    lastDefinition? ms metric = none ↔ ∀ m ∈ ms, m.metric ≠ metric := by
  simp [lastDefinition?]

theorem of_lastDefinition? (found : lastDefinition? ms metric = some m) :
    m ∈ ms ∧ m.metric = metric := by
  unfold lastDefinition? at found
  have member := List.mem_of_find?_eq_some found
  have named := List.find?_some found
  exact ⟨List.mem_reverse.mp member, beq_iff_eq.mp named⟩

/-- Any definition of the metric would do for the comparison, not only the last one. -/
theorem clash?_eq_none_iff (coherent : Coherent before) :
    clash? merged before m = none ↔
      (∀ n ∈ merged, n.metric ≠ m.metric) ∧ ∀ n ∈ before, Agree n m := by
  unfold clash?
  cases found : lastDefinition? merged m.metric with
  | some first =>
    obtain ⟨member, named⟩ := of_lastDefinition? found
    simp only [reduceCtorEq, false_iff, not_and]
    intro fresh
    exact absurd named (fresh first member)
  | none =>
    have fresh := lastDefinition?_eq_none_iff.mp found
    rw [and_iff_right fresh]
    cases last : lastDefinition? before m.metric with
    | none =>
      have unseen := lastDefinition?_eq_none_iff.mp last
      simp only [Option.bind_none, true_iff]
      intro n member same
      exact absurd same (unseen n member)
    | some first =>
      obtain ⟨member, named⟩ := of_lastDefinition? last
      simp only [Option.bind_some, ite_eq_left_iff, reduceCtorEq, imp_false, not_not]
      constructor
      · intro same n among metric
        have agree := coherent n among first member (metric.trans named.symm)
        exact AttributeMapping.sameDefinition_trans agree same
      · intro agree
        exact agree first member named

theorem of_clash? {origin : String} (found : clash? merged before m = some origin) :
    ∃ first, first.metric = m.metric ∧ first.origin = origin ∧
      (first ∈ merged ∨ first ∈ before ∧ ¬ first.sameDefinition m = true) := by
  unfold clash? at found
  split at found
  · next first last =>
    obtain ⟨member, named⟩ := of_lastDefinition? last
    cases found
    exact ⟨first, named, rfl, .inl member⟩
  · obtain ⟨first, last, found⟩ := Option.bind_eq_some_iff.mp found
    obtain ⟨member, named⟩ := of_lastDefinition? last
    split at found
    · cases found
    · next differs =>
      cases found
      exact ⟨first, named, rfl, .inr ⟨member, differs⟩⟩

theorem checkFrom_eq_ok_iff (coherent : Coherent before) :
    checkFrom merged before ms = .ok () ↔ Apart merged ms ∧ Coherent (before ++ ms) := by
  induction ms generalizing before with
  | nil => simp [checkFrom, Apart, coherent]
  | cons m rest ih =>
    have front : before ++ m :: rest = (before ++ [m]) ++ rest := by simp
    have apart : Apart merged (m :: rest) ↔
        (∀ n ∈ merged, n.metric ≠ m.metric) ∧ Apart merged rest := by
      simp only [Apart, List.forall_mem_cons]
      exact forall₂_and
    unfold checkFrom
    cases clash : clash? merged before m with
    | some first =>
      simp only [reduceCtorEq, false_iff, apart, front]
      rintro ⟨⟨fresh, -⟩, whole⟩
      have agree : ∀ n ∈ before, Agree n m := fun n member =>
        whole n (by simp [member]) m (by simp)
      have none := (clash?_eq_none_iff coherent).mpr ⟨fresh, agree⟩
      rw [clash] at none
      cases none
    | none =>
      obtain ⟨fresh, agree⟩ := (clash?_eq_none_iff coherent).mp clash
      have longer : Coherent (before ++ [m]) := coherent_concat.mpr ⟨coherent, agree⟩
      simp only [ih longer, apart, front]
      exact and_congr_left fun _ => ⟨fun rest => ⟨fresh, rest⟩, fun both => both.2⟩

theorem of_checkFrom_error {e : MappingError} (failed : checkFrom merged before ms = .error e) :
    ∃ first second, e = .duplicateMetric second.metric first.origin second.origin ∧
      first.metric = second.metric ∧
      (first ∈ merged ∧ second ∈ ms ∨
        [first, second].Sublist (before ++ ms) ∧ ¬ first.sameDefinition second = true) := by
  induction ms generalizing before with
  | nil => cases failed
  | cons m rest ih =>
    unfold checkFrom at failed
    split at failed
    · next origin clash =>
      cases failed
      obtain ⟨first, named, rfl, where_⟩ := of_clash? clash
      refine ⟨first, m, rfl, named, where_.imp (fun member => ⟨member, by simp⟩) ?_⟩
      rintro ⟨member, differs⟩
      have order : ([first] ++ [m]).Sublist (before ++ m :: rest) :=
        (List.singleton_sublist.mpr member).append (by simp)
      exact ⟨order, differs⟩
    · obtain ⟨first, second, rfl, named, where_⟩ := ih failed
      refine ⟨first, second, rfl, named, where_.imp (fun among => ⟨among.1, by simp [among.2]⟩) ?_⟩
      rintro ⟨order, differs⟩
      exact ⟨by simpa using order, differs⟩

end

/-! ## Merging documents -/

/-- The mappings of each of several documents. -/
def definitions (documents : List (String × String)) :
    Except MappingError (List (List AttributeMapping)) :=
  documents.mapM fun (origin, text) => Catalog.parseMappings text origin

/-- No metric is defined in two documents, or in one of them by two entries. -/
structure Mergeable (batches : List (List AttributeMapping)) : Prop where
  apart : batches.Pairwise Apart
  coherent : ∀ ms ∈ batches, Coherent ms

/-- Two mappings, the one before the other, define one metric in two documents, or in one document
by two entries. -/
inductive Clash (batches : List (List AttributeMapping)) (m n : AttributeMapping) : Prop
  | documents {ms ns : List AttributeMapping} (order : [ms, ns].Sublist batches)
      (first : m ∈ ms) (second : n ∈ ns) (metric : m.metric = n.metric)
  | entries {ms : List AttributeMapping} (document : ms ∈ batches) (order : [m, n].Sublist ms)
      (metric : m.metric = n.metric) (differ : ¬ m.SameEntry n)

section

variable {r s : Registry} {ms : List AttributeMapping} {batches : List (List AttributeMapping)}
  {documents : List (String × String)} {origin text : String} {m n : AttributeMapping}

theorem extend_eq_ok_iff : r.extend ms = .ok s ↔
    (Apart r.mappings ms ∧ Coherent ms) ∧ s = ⟨r.mappings ++ ms⟩ := by
  rw [extend, Except.map_eq_ok_iff]
  constructor
  · rintro ⟨_, checked, rfl⟩
    exact ⟨(checkFrom_eq_ok_iff coherent_nil).mp checked, rfl⟩
  · rintro ⟨fine, rfl⟩
    exact ⟨(), (checkFrom_eq_ok_iff coherent_nil).mpr fine, rfl⟩

theorem of_extend_error {e : MappingError} (failed : r.extend ms = .error e) :
    ∃ first second, e = .duplicateMetric second.metric first.origin second.origin ∧
      first.metric = second.metric ∧
      (first ∈ r.mappings ∧ second ∈ ms ∨
        [first, second].Sublist ms ∧ ¬ first.sameDefinition second = true) := by
  unfold extend at failed
  cases checked : checkFrom r.mappings [] ms with
  | ok =>
    rw [checked] at failed
    cases failed
  | error e =>
    rw [checked] at failed
    cases failed
    exact of_checkFrom_error checked

theorem ofDocuments_concat : ofDocuments (documents ++ [(origin, text)]) =
    (ofDocuments documents).bind fun r => (Catalog.parseMappings text origin).bind r.extend := by
  simp [ofDocuments, List.foldlM_append]
  rfl

theorem mergeable_concat :
    Mergeable (batches ++ [ms]) ↔ Mergeable batches ∧ Apart batches.flatten ms ∧ Coherent ms := by
  constructor
  · rintro ⟨aparts, coherents⟩
    obtain ⟨before, -, apart⟩ := List.pairwise_append.mp aparts
    refine ⟨⟨before, fun ns member => coherents ns (by simp [member])⟩, ?_, coherents ms (by simp)⟩
    intro m among n second
    obtain ⟨ns, member, first⟩ := List.mem_flatten.mp among
    exact apart ns member ms (by simp) m first n second
  · rintro ⟨⟨aparts, coherents⟩, apart, coherent⟩
    constructor
    · refine List.pairwise_append.mpr ⟨aparts, List.pairwise_singleton _ _, ?_⟩
      intro ns member last isLast m first n second
      obtain rfl := List.mem_singleton.mp isLast
      exact apart m (List.mem_flatten_of_mem member first) n second
    · intro ns member
      rcases List.mem_append.mp member with old | last
      · exact coherents ns old
      · obtain rfl := List.mem_singleton.mp last
        exact coherent

/-- Batches of mappings are merged exactly if they fit together, wherever they are read from. -/
theorem foldlM_extend_eq_ok_iff {α : Type} {read : α → Except MappingError (List AttributeMapping)}
    {xs : List α} : xs.foldlM (fun r x => (read x).bind r.extend) empty = .ok r ↔
      ∃ batches, xs.mapM read = .ok batches ∧ Mergeable batches ∧ r = ⟨batches.flatten⟩ := by
  induction xs using List.reverseRecOn generalizing r with
  | nil =>
    constructor
    · intro loaded
      cases loaded
      exact ⟨[], rfl, ⟨.nil, by simp⟩, rfl⟩
    · rintro ⟨batches, read, -, rfl⟩
      cases read
      rfl
  | append_singleton xs x ih =>
    rw [List.foldlM_append]
    constructor
    · intro loaded
      obtain ⟨s, before, merged⟩ := Except.bind_eq_ok_iff.mp loaded
      obtain ⟨t, merged, done⟩ := Except.bind_eq_ok_iff.mp merged
      cases done
      obtain ⟨ms, last, merged⟩ := Except.bind_eq_ok_iff.mp merged
      obtain ⟨batches, first, mergeable, rfl⟩ := ih.mp before
      obtain ⟨fits, rfl⟩ := extend_eq_ok_iff.mp merged
      exact ⟨batches ++ [ms], mapM_concat_eq_ok_iff.mpr ⟨_, _, first, last, rfl⟩,
        mergeable_concat.mpr ⟨mergeable, fits⟩, by simp⟩
    · rintro ⟨all, each, mergeable, rfl⟩
      obtain ⟨batches, ms, first, last, rfl⟩ := mapM_concat_eq_ok_iff.mp each
      obtain ⟨mergeable, fits⟩ := mergeable_concat.mp mergeable
      have before := ih.mpr ⟨batches, first, mergeable, rfl⟩
      have merged := extend_eq_ok_iff.mpr ⟨fits, rfl⟩
      rw [before]
      simp [last, merged, bind, Except.bind, pure, Except.pure]

theorem ofDocuments_eq_ok_iff : ofDocuments documents = .ok r ↔
    ∃ batches, definitions documents = .ok batches ∧ Mergeable batches ∧
      r = ⟨batches.flatten⟩ :=
  foldlM_extend_eq_ok_iff

/-- A clash between the mappings of a document and those before it, or among its own. -/
theorem clash_of_extend_error {e : MappingError} (named : ∀ m ∈ ms, m.origin = origin)
    (failed : extend ⟨batches.flatten⟩ ms = .error e) :
    ∃ m n, Clash (batches ++ [ms]) m n ∧ e = .duplicateMetric m.metric m.origin n.origin := by
  obtain ⟨m, n, rfl, metric, ⟨before, second⟩ | ⟨order, differs⟩⟩ := of_extend_error failed
  · obtain ⟨ns, member, first⟩ := List.mem_flatten.mp before
    have order : ([ns] ++ [ms]).Sublist (batches ++ [ms]) :=
      (List.singleton_sublist.mpr member).append (List.Sublist.refl _)
    exact ⟨m, n, .documents order first second metric, by rw [metric]⟩
  · have first : m ∈ ms := order.subset (by simp)
    have second : n ∈ ms := order.subset (by simp)
    refine ⟨m, n, .entries (by simp) order metric ?_, by rw [metric]⟩
    intro same
    have sameOrigin : m.origin = n.origin := by rw [named m first, named n second]
    exact differs (AttributeMapping.sameDefinition_iff.mpr ⟨sameOrigin, same⟩)

theorem mergeable_iff (named : ∀ ms ∈ batches, ∃ origin, ∀ m ∈ ms, m.origin = origin) :
    Mergeable batches ↔ ∀ m n, ¬ Clash batches m n := by
  constructor
  · rintro mergeable m n (⟨order, first, second, metric⟩ | ⟨document, order, metric, differ⟩)
    · exact List.pairwise_iff_forall_sublist.mp mergeable.apart order m first n second metric
    · have first : m ∈ _ := order.subset (by simp)
      have second : n ∈ _ := order.subset (by simp)
      have same := mergeable.coherent _ document m first n second metric
      exact differ (AttributeMapping.sameDefinition_iff.mp same).2
  · intro clear
    constructor
    · rw [List.pairwise_iff_forall_sublist]
      intro ms ns order m first n second metric
      exact clear m n (.documents order first second metric)
    · intro ms document
      obtain ⟨origin, named⟩ := named ms document
      have ordered : ms.Pairwise fun m n => m.metric = n.metric → m.SameEntry n := by
        rw [List.pairwise_iff_forall_sublist]
        intro m n order metric
        by_contra differ
        exact clear m n (.entries document order metric differ)
      have symm : Std.Symm fun m n : AttributeMapping => m.metric = n.metric → m.SameEntry n :=
        ⟨fun _ _ same metric => (same metric.symm).symm⟩
      have all := List.Pairwise.forall_of_forall
        (fun m _ _ => AttributeMapping.SameEntry.refl m) ordered
      intro m first n second metric
      exact AttributeMapping.sameDefinition_iff.mpr
        ⟨(named m first).trans (named n second).symm, all first second metric⟩

end

/-! ## Loading documents -/

section

variable {documents : List (String × String)} {batches : List (List AttributeMapping)}
  {r : Registry}

theorem named_of_definitions (read : definitions documents = .ok batches) :
    ∀ ms ∈ batches, ∃ origin, ∀ m ∈ ms, m.origin = origin := by
  intro ms member
  obtain ⟨⟨origin, text⟩, _, parsed⟩ := mem_of_mapM_eq_ok read member
  obtain ⟨c, gives⟩ := Catalog.gives_of_parseMappings parsed
  exact ⟨origin, fun m member => (gives m member).origin_eq⟩

theorem unique_of_mergeable (read : definitions documents = .ok batches)
    (mergeable : Mergeable batches) {m n : AttributeMapping} (first : m ∈ batches.flatten)
    (second : n ∈ batches.flatten) (metric : m.metric = n.metric) :
    n = { m with pattern := n.pattern } := by
  obtain ⟨ms, document, first⟩ := List.mem_flatten.mp first
  obtain ⟨ns, document', second⟩ := List.mem_flatten.mp second
  have sameDocument : ms = ns := by
    by_contra other
    exact mergeable.apart.forall document document' other m first n second metric
  subst sameDocument
  obtain ⟨⟨origin, text⟩, _, parsed⟩ := mem_of_mapM_eq_ok read document
  obtain ⟨c, gives⟩ := Catalog.gives_of_parseMappings parsed
  have same := mergeable.coherent ms document m first n second metric
  exact (gives m first).unique (gives n second) (AttributeMapping.sameDefinition_iff.mp same).2

theorem clash_of_duplicate {metric first second : String}
    (failed : ofDocuments documents = .error (.duplicateMetric metric first second)) :
    ∃ read batches m n, read <+: documents ∧ definitions read = .ok batches ∧
      Clash batches m n ∧ m.metric = metric ∧ m.origin = first ∧ n.origin = second := by
  induction documents using List.reverseRecOn with
  | nil => cases failed
  | append_singleton documents document ih =>
    obtain ⟨origin, text⟩ := document
    rw [ofDocuments_concat] at failed
    rcases Except.bind_eq_error_iff.mp failed with earlier | ⟨r, before, failed⟩
    · obtain ⟨read, batches, m, n, ahead, clash⟩ := ih earlier
      exact ⟨read, batches, m, n, ahead.trans (List.prefix_append _ _), clash⟩
    · obtain ⟨batches, read, -, rfl⟩ := ofDocuments_eq_ok_iff.mp before
      rcases Except.bind_eq_error_iff.mp failed with unreadable | ⟨ms, parsed, failed⟩
      · have blamed := Catalog.document?_of_parseMappings_error unreadable
        cases blamed
      · obtain ⟨c, gives⟩ := Catalog.gives_of_parseMappings parsed
        have named : ∀ m ∈ ms, m.origin = origin := fun m member => (gives m member).origin_eq
        obtain ⟨m, n, clash, same⟩ := clash_of_extend_error named failed
        cases same
        exact ⟨documents ++ [(origin, text)], batches ++ [ms], m, n, List.prefix_rfl,
          mapM_concat_eq_ok_iff.mpr ⟨_, _, read, parsed, rfl⟩, clash, rfl, rfl, rfl⟩

end

/-- Documents are merged exactly if all of them can be read and no metric is defined twice, apart
from one entry that is defined for several patterns. A metric then has one definition, and an error
names two that clash, the earlier one first. -/
theorem ofDocuments_exact (documents : List (String × String)) :
    (∀ r, ofDocuments documents = .ok r ↔
      ∃ batches, definitions documents = .ok batches ∧ (∀ m n, ¬ Clash batches m n) ∧
        r = ⟨batches.flatten⟩) ∧
    (∀ r, ofDocuments documents = .ok r → ∀ m ∈ r.mappings, ∀ n ∈ r.mappings,
      m.metric = n.metric → n = { m with pattern := n.pattern }) ∧
    (∀ metric first second,
      ofDocuments documents = .error (.duplicateMetric metric first second) →
      ∃ read batches m n, read <+: documents ∧ definitions read = .ok batches ∧
        Clash batches m n ∧ m.metric = metric ∧ m.origin = first ∧ n.origin = second) := by
  refine ⟨fun r => ?_, fun r loaded => ?_, fun _ _ _ failed => clash_of_duplicate failed⟩
  · rw [ofDocuments_eq_ok_iff]
    apply exists_congr
    intro batches
    apply and_congr_right
    intro read
    rw [mergeable_iff (named_of_definitions read)]
  · obtain ⟨batches, read, mergeable, rfl⟩ := ofDocuments_eq_ok_iff.mp loaded
    intro m first n second metric
    exact unique_of_mergeable read mergeable first second metric

end Registry

end BeanMeter
