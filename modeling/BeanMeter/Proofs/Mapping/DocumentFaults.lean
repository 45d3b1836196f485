import BeanMeter.Proofs.Collection.Overlay
import BeanMeter.Proofs.Mapping.Acceptance

/-! # What is wrong with a document

Which documents define mappings, said without reference to the order in which their parts are read,
and what the error of any other one stands for.

* `AttributePath.Valid` — the paths that can be read, and how they are written.
* `CatalogRule.WellFormed` — rules all of whose parts that are in force can be read.
* `CatalogRule.Fault`, `Catalog.Refused` — what an error says is so.
* `Catalog.parseMappings_outcome` — documents of well-formed rules are loaded, and no others.
-/

namespace BeanMeter

/-! ## Paths -/

namespace AttributePath

/-- A path as it is written. -/
def text (p : AttributePath) : String := p.subKey.elim p.attr fun key => p.attr ++ "." ++ key

/-- Paths with a visible name of the attribute, and of the item if they have one. Only the key of an
item may hold further dots. -/
structure Valid (p : AttributePath) : Prop where
  undotted : '.' ∉ p.attr.toList
  visible : Text.isBlankText p.attr = false
  keyed : ∀ key ∈ p.subKey, Text.isBlankText key = false

theorem splitFirst?_text {p : AttributePath} (undotted : '.' ∉ p.attr.toList) :
    Text.splitFirst? '.' p.text.toList = p.subKey.map fun key => (p.attr.toList, key.toList) := by
  obtain ⟨attr, _ | key⟩ := p
  · exact Text.splitFirst?_eq_none_iff.mpr undotted
  · exact Text.splitFirst?_eq_some_iff.mpr ⟨by simp [text], undotted⟩

theorem parse?_text {p : AttributePath} (valid : p.Valid) : parse? p.text = some p := by
  obtain ⟨undotted, visible, keyed⟩ := valid
  rw [parse?, splitFirst?_text undotted]
  obtain ⟨attr, _ | key⟩ := p
  · simp_all [text]
  · simp_all

theorem valid_of_parse? {path : String} {p : AttributePath} (read : parse? path = some p) :
    p.Valid ∧ p.text = path := by
  unfold parse? at read
  split at read
  · next undotted =>
    split at read
    · cases read
    · next visible =>
      cases read
      exact ⟨⟨Text.splitFirst?_eq_none_iff.mp undotted, by simpa using visible, by simp⟩, rfl⟩
  · next attr key halves =>
    dsimp only at read
    split at read
    · cases read
    · next visible =>
      cases read
      obtain ⟨whole, undotted⟩ := Text.splitFirst?_eq_some_iff.mp halves
      simp only [Bool.or_eq_true, not_or, Bool.not_eq_true] at visible
      refine ⟨⟨by simpa using undotted, visible.1, by simpa using visible.2⟩, ?_⟩
      rw [← String.toList_inj, whole]
      simp [text]

theorem parse?_isSome_iff {path : String} :
    (parse? path).isSome ↔ ∃ p : AttributePath, p.Valid ∧ p.text = path := by
  rw [Option.isSome_iff_exists]
  exact exists_congr fun p => ⟨valid_of_parse?, fun ⟨valid, written⟩ => written ▸ parse?_text valid⟩

end AttributePath

/-! ## Rules -/

namespace CatalogRule

/-- The rule for a label of an entry that counts: what the entry says, or else what is said around
it. A rule that has been replaced in this way is never read. -/
def inForce? (r : CatalogRule) (entry : Option MetricEntry) (label : String) : Option String :=
  ((entry.getD .plain).labels.get? label).or (r.labels.get? label)

/-- A rule with a pattern, all of whose patterns, paths and rules for labels in force for one of its
entries are such that they can be read. -/
structure WellFormed (r : CatalogRule) : Prop where
  named : r.patterns ≠ []
  compiles : ∀ bean ∈ r.patterns, ∃ pattern, NamePattern.compile bean = .ok pattern
  paths : ∀ path entry, r.entries.get? path = some entry →
    ∃ p : AttributePath, p.Valid ∧ p.text = path
  labels : ∀ path entry, r.entries.get? path = some entry →
    ∀ label rule, r.inForce? entry label = some rule →
      Text.isBlankText label = false ∧ ∃ source : LabelSource, source.WrittenAs rule

/-- What is wrong with a rule for which an error is given. -/
inductive Fault (r : CatalogRule) (origin : String) : MappingError → Prop
  | unnamed : r.patterns = [] → r.Fault origin (.invalidPattern origin "" "rule has no bean")
  | pattern {bean : String} {fault : PatternFault} : bean ∈ r.patterns →
      NamePattern.compile bean = .error fault →
      r.Fault origin (.invalidPattern origin bean fault.message)
  | path {path : String} {entry : Option MetricEntry} : r.entries.get? path = some entry →
      (¬ ∃ p : AttributePath, p.Valid ∧ p.text = path) →
      r.Fault origin (.invalidAttribute origin path)
  | label {path : String} {entry : Option MetricEntry} {label rule : String} :
      r.entries.get? path = some entry → r.inForce? entry label = some rule →
      (Text.isBlankText label = true ∨ ¬ ∃ source : LabelSource, source.WrittenAs rule) →
      r.Fault origin (.invalidLabelRule origin label rule)

variable {r : CatalogRule} {origin : String} {index : Nat} {path : String}
  {entry : Option MetricEntry} {e : MappingError}

theorem acceptableLabel_iff {label rule : String} : AcceptableLabel label rule ↔
    Text.isBlankText label = false ∧ ∃ source : LabelSource, source.WrittenAs rule := by
  simp only [AcceptableLabel, Option.isSome_iff_exists, LabelSource.parse?_eq_some_iff,
    Bool.not_eq_true, and_comm]

theorem mem_overlay_iff {label rule : String} :
    (label, rule) ∈ (r.labels.overlay (entry.getD .plain).labels).entries ↔
      r.inForce? entry label = some rule := by
  rw [← SortedMap.get?_eq_some_iff, SortedMap.get?_overlay, inForce?]

theorem acceptable_iff : r.Acceptable ↔ r.WellFormed := by
  -- The one goes through the entries, the other asks what is found under a key.
  constructor
  · rintro ⟨named, compiles, paths, labels⟩
    refine ⟨named, compiles, fun path entry held => ?_, fun path entry held label rule counts => ?_⟩
    · exact AttributePath.parse?_isSome_iff.mp
        (paths (path, entry) (SortedMap.get?_eq_some_iff.mp held))
    · exact acceptableLabel_iff.mp (labels (path, entry) (SortedMap.get?_eq_some_iff.mp held)
        (label, rule) (mem_overlay_iff.mpr counts))
  · rintro ⟨named, compiles, paths, labels⟩
    refine ⟨named, compiles, fun (path, entry) held => ?_,
      fun (path, entry) held (label, rule) counts => ?_⟩
    · exact AttributePath.parse?_isSome_iff.mpr
        (paths path entry (SortedMap.get?_eq_some_iff.mpr held))
    · exact acceptableLabel_iff.mpr (labels path entry (SortedMap.get?_eq_some_iff.mpr held)
        label rule (mem_overlay_iff.mp counts))

/-! ## Errors -/

theorem eq_of_labelRule_error {label rule : String}
    (failed : labelRule origin label rule = .error e) :
    e = .invalidLabelRule origin label rule ∧ ¬ AcceptableLabel label rule := by
  have refused : ¬ ∃ l, labelRule origin label rule = .ok l := by simp [failed]
  rw [exists_labelRule_iff] at refused
  refine ⟨?_, refused⟩
  unfold labelRule at failed
  split at failed
  · split at failed
    · cases failed
      rfl
    · cases failed
  · cases failed
    rfl

theorem fault_of_mapping_error {pattern : NamePattern} (held : r.entries.get? path = some entry)
    (failed : r.mapping origin index pattern path entry = .error e) : r.Fault origin e := by
  unfold mapping at failed
  dsimp only at failed
  split at failed
  -- The path is read before the labels, so that at most one of the two is reported.
  · next unread =>
    cases failed
    exact .path held (by rw [← AttributePath.parse?_isSome_iff, unread]; simp)
  · rcases Except.bind_eq_error_iff.mp failed with unread | ⟨labels, -, made⟩
    · obtain ⟨⟨label, rule⟩, counts, unread⟩ := exists_of_mapM_eq_error unread
      obtain ⟨rfl, refused⟩ := eq_of_labelRule_error unread
      rw [acceptableLabel_iff, not_and_or, Bool.not_eq_false] at refused
      exact .label held (mem_overlay_iff.mp counts) refused
    · cases made

theorem fault_of_mappings_error (failed : r.mappings origin index = .error e) :
    r.Fault origin e := by
  unfold mappings at failed
  split at failed
  · next none =>
    cases failed
    exact .unnamed none
  · obtain ⟨bean, listed, failed⟩ := exists_of_mapM_eq_error (Except.map_eq_error_iff.mp failed)
    unfold mappingsFor at failed
    split at failed
    · next fault =>
      cases failed
      exact .pattern listed fault
    · obtain ⟨⟨path, entry⟩, held, failed⟩ := exists_of_mapM_eq_error failed
      exact fault_of_mapping_error (SortedMap.get?_eq_some_iff.mpr held) failed

end CatalogRule

/-! ## Documents -/

namespace Catalog

variable {c : Catalog} {text origin : String} {index : Nat} {e : MappingError}

/-- What is wrong with a document for which an error is given: it is no catalog, or the error is
about the first of its rules that is not well-formed. -/
inductive Refused (text origin : String) : MappingError → Prop
  | malformed : (∀ c, parse text origin ≠ .ok c) → Refused text origin (.malformed origin)
  | rule {c : Catalog} {before after : List CatalogRule} {r : CatalogRule} {e : MappingError} :
      parse text origin = .ok c → c.rules = before ++ r :: after →
      (∀ b ∈ before, b.WellFormed) → r.Fault origin e → Refused text origin e

theorem fault_of_mappingsFrom_error {rules : List CatalogRule}
    (failed : mappingsFrom origin index rules = .error e) : ∃ before r after,
      rules = before ++ r :: after ∧ (∀ b ∈ before, b.WellFormed) ∧ r.Fault origin e := by
  induction rules generalizing index with
  | nil => cases failed
  | cons r rest ih =>
    rcases Except.bind_eq_error_iff.mp failed with first | ⟨ms, own, failed⟩
    · exact ⟨[], r, rest, rfl, by simp, CatalogRule.fault_of_mappings_error first⟩
    -- The rules behind are only looked at if this one has mappings, so that it is well-formed.
    · rcases Except.bind_eq_error_iff.mp failed with later | ⟨_, _, failed⟩
      · obtain ⟨before, faulty, after, rfl, sound, fault⟩ := ih later
        have formed := CatalogRule.acceptable_iff.mp (CatalogRule.exists_mappings_iff.mp ⟨ms, own⟩)
        exact ⟨r :: before, faulty, after, rfl, List.forall_mem_cons.mpr ⟨formed, sound⟩, fault⟩
      · cases failed

theorem refused_of_parseMappings_error (failed : parseMappings text origin = .error e) :
    Refused text origin e := by
  rcases Except.bind_eq_error_iff.mp failed with unread | ⟨c, read, failed⟩
  · have none : ∀ c, parse text origin ≠ .ok c := by simp [unread]
    unfold parse at unread
    split at unread
    · cases unread
    · cases unread
      exact .malformed none
  · obtain ⟨before, r, after, parts, sound, fault⟩ := fault_of_mappingsFrom_error failed
    exact .rule read parts sound fault

/-- Exactly the catalogs of well-formed rules are loaded. What is said of any other document is
right, and said of its first rule that something is wrong with. -/
theorem parseMappings_outcome (text origin : String) :
    ((∃ ms, parseMappings text origin = .ok ms) ↔
      ∃ c, parse text origin = .ok c ∧ ∀ r ∈ c.rules, r.WellFormed) ∧
    ∀ e, parseMappings text origin = .error e → Refused text origin e := by
  refine ⟨⟨?_, ?_⟩, fun e => refused_of_parseMappings_error⟩
  · rintro ⟨ms, loaded⟩
    obtain ⟨c, read, made⟩ := Except.bind_eq_ok_iff.mp loaded
    have acceptable := exists_mappings_iff.mp ⟨ms, made⟩
    exact ⟨c, read, fun r listed => CatalogRule.acceptable_iff.mp (acceptable r listed)⟩
  · rintro ⟨c, read, formed⟩
    obtain ⟨ms, made⟩ := exists_mappings_iff.mpr fun r listed =>
      CatalogRule.acceptable_iff.mpr (formed r listed)
    exact ⟨ms, Except.bind_eq_ok_iff.mpr ⟨c, read, made⟩⟩

namespace Sample

/-- A document whose rule says how to find a label in a way that is not understood. -/
def faulty : String :=
  "rules:\n- bean: a:type=X\n  metricAttribute:\n    k: lookup(y)\n  mapping:\n    V:\n"

/-- The same document, where the only entry finds the label otherwise. -/
def replaced : String := faulty ++ "      metricAttribute:\n        k: const(z)\n"

/-- The rule of this document. -/
def replacedRule : CatalogRule where
  bean := some "a:type=X"
  beans := []
  namePrefix := none
  labels := .ofList [("k", "lookup(y)")]
  entries := .ofList [("V", some { MetricEntry.plain with labels := .ofList [("k", "const(z)")] })]

theorem read : parse replaced "d" = .ok ⟨[replacedRule]⟩ := by decide +kernel

theorem exists_loaded : ∃ ms, parseMappings replaced "d" = .ok ms := by
  have made : ((Catalog.mk [replacedRule]).mappings "d").toOption.isSome := by decide +kernel
  obtain ⟨ms, found⟩ := Option.isSome_iff_exists.mp made
  exact ⟨ms, Except.bind_eq_ok_iff.mpr ⟨_, read, Except.toOption_eq_some_iff.mp found⟩⟩

end Sample

theorem sample_parseMappings_outcome :
    (∃ c, parse Sample.replaced "d" = .ok c ∧ ∀ r ∈ c.rules, r.WellFormed) ∧
      Refused Sample.faulty "d" (.invalidLabelRule "d" "k" "lookup(y)") :=
  ⟨(parseMappings_outcome _ _).1.mp Sample.exists_loaded,
    (parseMappings_outcome _ _).2 _ (by decide +kernel)⟩

/-- What has been replaced is not read, and does not keep a document from being loaded. -/
theorem parseMappings_replaced_label : ∃ c ms, parse Sample.replaced "d" = .ok c ∧
    parseMappings Sample.replaced "d" = .ok ms ∧ ∃ r ∈ c.rules,
      r.labels.get? "k" = some "lookup(y)" ∧
        ¬ ∃ source : LabelSource, source.WrittenAs "lookup(y)" := by
  have unread : LabelSource.parse? "lookup(y)" = none := by decide +kernel
  obtain ⟨ms, loaded⟩ := Sample.exists_loaded
  refine ⟨_, ms, Sample.read, loaded, _, List.mem_singleton_self _, by decide +kernel, ?_⟩
  simp [← LabelSource.parse?_eq_some_iff, unread]

end Catalog

/-! ## The document that an error names -/

/-- The document that an error is about, if it is about one only. -/
def MappingError.document? : MappingError → Option String
  | .malformed origin => some origin
  | .invalidPattern origin _ _ => some origin
  | .invalidLabelRule origin _ _ => some origin
  | .invalidAttribute origin _ => some origin
  | .unknownTarget _ | .unreadable _ _ | .duplicateMetric _ _ _ => none

theorem CatalogRule.Fault.document?_eq {r : CatalogRule} {origin : String} {e : MappingError}
    (fault : r.Fault origin e) : e.document? = some origin := by
  cases fault <;> rfl

/-- Whatever is wrong with a document, the error names it. -/
theorem Catalog.document?_of_parseMappings_error {text origin : String} {e : MappingError}
    (failed : parseMappings text origin = .error e) : e.document? = some origin := by
  cases refused_of_parseMappings_error failed with
  | malformed none => rfl
  | rule read parts sound fault => exact fault.document?_eq

end BeanMeter
