import BeanMeter.Proofs.Mapping.LabelRules
import BeanMeter.Proofs.Mapping.Loading

/-! # Catalogs that can be loaded

What a rule of a catalog must look like for its mappings to exist: patterns, attributes and rules
for labels that can be read.

* `CatalogRule.exists_mappings_iff` — the rules that have mappings.
* `Catalog.exists_mappings_iff` — the catalogs of such rules can be loaded, and no others.
-/

namespace BeanMeter

namespace CatalogRule

/-- A label with a name, and a rule that says where its value comes from. -/
def AcceptableLabel (label rule : String) : Prop :=
  (LabelSource.parse? rule).isSome ∧ ¬ Text.isBlankText label

/-- A rule with a pattern, all of whose parts can be read. Of the labels only those count that are
in force for one of its attributes. -/
structure Acceptable (r : CatalogRule) : Prop where
  named : r.patterns ≠ []
  compiles : ∀ bean ∈ r.patterns, ∃ pattern, NamePattern.compile bean = .ok pattern
  paths : ∀ entry ∈ r.entries.entries, (AttributePath.parse? entry.1).isSome
  labels : ∀ entry ∈ r.entries.entries,
    ∀ label ∈ (r.labels.overlay (entry.2.getD .plain).labels).entries,
      AcceptableLabel label.1 label.2

variable {r : CatalogRule} {origin : String} {index : Nat} {pattern : NamePattern}
  {path : String} {entry : Option MetricEntry}

theorem exists_labelRule_iff {label rule : String} :
    (∃ l, labelRule origin label rule = .ok l) ↔ AcceptableLabel label rule := by
  unfold labelRule AcceptableLabel
  split
  · next source read => cases blank : Text.isBlankText label <;> simp [read]
  · next unread => simp [unread]

theorem exists_mapping_iff : (∃ m, r.mapping origin index pattern path entry = .ok m) ↔
    (AttributePath.parse? path).isSome ∧
      ∀ label ∈ (r.labels.overlay (entry.getD .plain).labels).entries,
        AcceptableLabel label.1 label.2 := by
  have labels : (∃ ls, (r.labels.overlay (entry.getD .plain).labels).entries.mapM
      (fun label => labelRule origin label.1 label.2) = .ok ls) ↔
        ∀ label ∈ (r.labels.overlay (entry.getD .plain).labels).entries,
          AcceptableLabel label.1 label.2 := by
    simp only [exists_mapM_eq_ok_iff, exists_labelRule_iff]
  rw [← labels]
  unfold mapping
  dsimp only
  split
  · next unread => simp [unread]
  · next p read =>
    constructor
    · rintro ⟨m, made⟩
      obtain ⟨ls, found, -⟩ := Except.bind_eq_ok_iff.mp made
      exact ⟨by simp [read], ls, found⟩
    · rintro ⟨-, ls, found⟩
      exact ⟨_, Except.bind_eq_ok_iff.mpr ⟨ls, found, rfl⟩⟩

theorem exists_mappings_iff : (∃ ms, r.mappings origin index = .ok ms) ↔ r.Acceptable := by
  have each : ∀ bean, (∃ ms, r.mappingsFor origin index bean = .ok ms) ↔
      (∃ pattern, NamePattern.compile bean = .ok pattern) ∧ ∀ entry ∈ r.entries.entries,
        (AttributePath.parse? entry.1).isSome ∧
          ∀ label ∈ (r.labels.overlay (entry.2.getD .plain).labels).entries,
            AcceptableLabel label.1 label.2 := by
    intro bean
    unfold mappingsFor
    split
    · next fault => simp [fault]
    · next pattern compiled => simp only [exists_mapM_eq_ok_iff, exists_mapping_iff, compiled,
        Except.ok.injEq, exists_eq', true_and]
  unfold mappings
  split
  · next none =>
    constructor
    · rintro ⟨ms, made⟩
      cases made
    · intro acceptable
      exact absurd none acceptable.named
  · next named =>
    have all : (∃ ms, (r.patterns.mapM (r.mappingsFor origin index)).map List.flatten = .ok ms) ↔
        ∃ parts, r.patterns.mapM (r.mappingsFor origin index) = .ok parts := by
      simp only [Except.map_eq_ok_iff]
      rw [exists_comm]
      simp
    rw [all, exists_mapM_eq_ok_iff]
    simp only [each]
    constructor
    · intro readable
      obtain ⟨bean, listed⟩ := List.exists_mem_of_ne_nil _ named
      exact ⟨named, fun bean listed => (readable bean listed).1,
        fun entry held => ((readable bean listed).2 entry held).1,
        fun entry held => ((readable bean listed).2 entry held).2⟩
    · rintro ⟨-, compiles, paths, labels⟩ bean listed
      exact ⟨compiles bean listed, fun entry held => ⟨paths entry held, labels entry held⟩⟩

end CatalogRule

theorem Catalog.exists_mappings_iff {c : Catalog} {origin : String} :
    (∃ ms, c.mappings origin = .ok ms) ↔ ∀ r ∈ c.rules, r.Acceptable := by
  obtain ⟨rules⟩ := c
  -- Rules are numbered on the way; for the induction the number of the first one is any.
  rw [mappings]
  generalize 0 = index
  induction rules generalizing index with
  | nil => simp [mappingsFrom]
  | cons r rest ih =>
    have own := @CatalogRule.exists_mappings_iff r origin index
    rw [List.forall_mem_cons, ← own, ← ih (index + 1)]
    constructor
    · rintro ⟨ms, made⟩
      obtain ⟨first, mapped, made⟩ := Except.bind_eq_ok_iff.mp made
      obtain ⟨later, others, -⟩ := Except.bind_eq_ok_iff.mp made
      exact ⟨⟨first, mapped⟩, later, others⟩
    · rintro ⟨⟨first, mapped⟩, later, others⟩
      exact ⟨first ++ later, Except.bind_eq_ok_iff.mpr
        ⟨first, mapped, Except.bind_eq_ok_iff.mpr ⟨later, others, rfl⟩⟩⟩

end BeanMeter
