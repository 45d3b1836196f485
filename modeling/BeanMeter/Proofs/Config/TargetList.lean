import BeanMeter.Proofs.Config.Listing
import BeanMeter.Proofs.Outcome

/-! # What a configuration scrapes

A configuration names target systems or a custom catalog. Whether it does is decided by the text of
the list of target systems, and the list is made of the text afterwards.

* `targetList_eq_nil_iff` — texts that list nothing.
* `Config.names_source_iff` — a checked configuration has something to scrape, unless its list of
  target systems is written with commas but without any item.
-/

namespace BeanMeter

/-! ## The list in a text -/

theorem distinct_eq_nil_iff {xs : List String} : distinct xs = [] ↔ xs = [] := by
  cases xs with
  | nil => simp [distinct, distinctAfter]
  | cons x xs => simp [distinct, distinctAfter]

theorem Text.trim_eq_empty_iff {s : String} : trim s = "" ↔ ∀ c ∈ s.toList, isBlank c = true := by
  rw [trim, String.ofList_eq_empty_iff, trimChars_eq_nil_iff]

theorem targetList_eq_nil_iff {text : String} :
    targetList text = [] ↔ ∀ c ∈ text.toList, Text.isSeparator c = true := by
  have blank : (∀ item ∈ Text.splitString ',' text, Text.trim item = "") ↔
      ∀ c ∈ text.toList, c = ',' ∨ Text.isBlank c = true := by
    rw [← Text.forall_mem_splitOn_iff, Text.splitString, List.forall_mem_map]
    simp only [Text.trim_eq_empty_iff, String.toList_ofList]
  simpa [targetList, distinct_eq_nil_iff, Text.isSeparator] using blank

/-! ## Checked configurations -/

/-- Nothing but commas and blanks, with a comma. -/
def OnlyCommas (text : String) : Prop :=
  ',' ∈ text.toList ∧ ∀ c ∈ text.toList, c = ',' ∨ Text.isBlank c = true

section

variable {p : PropertySet} {raw : RawConfig} {c : Config}

theorem RawConfig.of_ofProperties (read : ofProperties p = .ok raw) :
    raw.customCatalog = p.get? Key.customCatalog ∧
      raw.targetSystem = Text.trim (Text.lower ((p.get? Key.targetSystem).getD "")) := by
  obtain ⟨_, _, read⟩ := Except.bind_eq_ok_iff.mp read
  obtain ⟨_, _, read⟩ := Except.bind_eq_ok_iff.mp read
  obtain ⟨_, _, read⟩ := Except.bind_eq_ok_iff.mp read
  obtain ⟨_, _, read⟩ := Except.bind_eq_ok_iff.mp read
  cases read
  exact ⟨rfl, rfl⟩

theorem RawConfig.of_validate (valid : raw.validate = .ok c) :
    ¬ (isUnset raw.customCatalog = true ∧ raw.targetSystem = "") ∧
      c.targetSystems = targetList raw.targetSystem ∧
      c.customCatalog = (unlessBlank raw.customCatalog).map Text.trim ∧
      raw.unknownTargets = [] := by
  obtain ⟨_, _, valid⟩ := Except.bind_eq_ok_iff.mp valid
  obtain ⟨_, named, valid⟩ := Except.bind_eq_ok_iff.mp valid
  obtain ⟨_, known, valid⟩ := Except.bind_eq_ok_iff.mp valid
  obtain ⟨_, _, valid⟩ := Except.bind_eq_ok_iff.mp valid
  obtain ⟨_, _, valid⟩ := Except.bind_eq_ok_iff.mp valid
  obtain ⟨_, _, valid⟩ := Except.bind_eq_ok_iff.mp valid
  cases valid
  refine ⟨fun neither => ?_, rfl, rfl, ?_⟩
  · simp [reject, neither] at named
  · by_contra some
    simp [reject, some] at known

theorem isSome_unlessBlank {v : Option String} : (unlessBlank v).isSome ↔ ¬ isUnset v = true := by
  cases v with
  | none => simp [unlessBlank, isUnset]
  | some s => cases blank : Text.isBlankText s <;> simp [unlessBlank, isUnset, blank]

/-- Every target system is listed once, and is one of those that have a catalog. -/
theorem targetSystems_known (checked : Config.ofProperties p = .ok c) :
    c.targetSystems.Nodup ∧ ∀ system ∈ c.targetSystems, system ∈ availableTargets := by
  obtain ⟨raw, _, valid⟩ := Except.bind_eq_ok_iff.mp checked
  obtain ⟨_, listed, _, known⟩ := RawConfig.of_validate valid
  rw [listed]
  refine ⟨nodup_targetList raw.targetSystem, ?_⟩
  simpa [RawConfig.unknownTargets] using known

/-- The text is put into lower case and trimmed before it is split, which changes no separator. -/
theorem targetSystems_eq_nil_iff (checked : Config.ofProperties p = .ok c) :
    c.targetSystems = [] ↔
      ∀ x ∈ ((p.get? Key.targetSystem).getD "").toList, Text.isSeparator x = true := by
  obtain ⟨raw, read, valid⟩ := Except.bind_eq_ok_iff.mp checked
  rw [(RawConfig.of_validate valid).2.1, targetList_eq_nil_iff, (RawConfig.of_ofProperties read).2,
    Text.trim, String.toList_ofList,
    Text.forall_mem_trimChars_iff fun _ => Text.isSeparator_of_isBlank, Text.lower,
    String.toList_ofList, Text.forall_mem_lowerAfter_iff fun _ separates => separates]

theorem customCatalog_isSome_iff (checked : Config.ofProperties p = .ok c) :
    c.customCatalog.isSome ↔ ¬ isUnset (p.get? Key.customCatalog) = true := by
  obtain ⟨raw, read, valid⟩ := Except.bind_eq_ok_iff.mp checked
  rw [(RawConfig.of_validate valid).2.2.1, Option.isSome_map, isSome_unlessBlank,
    (RawConfig.of_ofProperties read).1]

/-- The rule that asks for one of the two has been applied. -/
theorem exists_not_blank (checked : Config.ofProperties p = .ok c)
    (unset : isUnset (p.get? Key.customCatalog) = true) :
    ∃ x ∈ ((p.get? Key.targetSystem).getD "").toList, ¬ Text.isBlank x = true := by
  obtain ⟨raw, read, valid⟩ := Except.bind_eq_ok_iff.mp checked
  obtain ⟨catalog, targets⟩ := RawConfig.of_ofProperties read
  by_contra none
  have blank : ∀ x ∈ (Text.lower ((p.get? Key.targetSystem).getD "")).toList,
      Text.isBlank x = true := by
    rw [Text.lower, String.toList_ofList,
      Text.forall_mem_lowerAfter_iff fun _ => Text.isSeparator_of_isBlank]
    intro x member
    by_contra notBlank
    exact none ⟨x, member, notBlank⟩
  apply (RawConfig.of_validate valid).1
  rw [catalog, targets]
  exact ⟨unset, Text.trim_eq_empty_iff.mpr blank⟩

end

/-- A checked configuration has something to scrape, unless there is no custom catalog and the list
of target systems has no item but a comma. -/
theorem Config.names_source_iff {p : PropertySet} {c : Config}
    (checked : ofProperties p = .ok c) :
    c.targetSystems ≠ [] ∨ c.customCatalog.isSome ↔
      ¬ (isUnset (p.get? Key.customCatalog) = true ∧
        ∃ text, p.get? Key.targetSystem = some text ∧ OnlyCommas text) := by
  rw [customCatalog_isSome_iff checked, ← not_and_or, not_iff_not, and_comm]
  apply and_congr_right
  intro unset
  obtain ⟨x, member, notBlank⟩ := exists_not_blank checked unset
  rw [targetSystems_eq_nil_iff checked]
  cases given : p.get? Key.targetSystem with
  | none => simp [given] at member
  | some text =>
    simp only [given, Option.getD_some, Option.some.injEq, exists_eq_left'] at member ⊢
    simp only [OnlyCommas, Text.isSeparator, Bool.or_eq_true, beq_iff_eq]
    constructor
    · intro separators
      have comma : x = ',' := (separators x member).resolve_right notBlank
      exact ⟨comma ▸ member, separators⟩
    · exact And.right

namespace Config

namespace Sample

def properties (targets : String) : PropertySet :=
  SortedMap.ofList [(Key.serviceUrl, "h:1"), (Key.targetSystem, targets)]

def config (targets : List String) : Config where
  serviceUrl := "h:1"
  targetSystems := targets
  customCatalog := none
  intervalMs := 10000
  exporter := ⟨"logging", none, "0.0.0.0", 9464⟩
  connection := ⟨none, none, none, none, false, 5000, none⟩

end Sample

theorem sample_names_source :
    ofProperties (Sample.properties "Jvm, ,jvm") = .ok (Sample.config ["jvm"]) ∧
      ¬ (isUnset ((Sample.properties "Jvm, ,jvm").get? Key.customCatalog) = true ∧
        ∃ text, (Sample.properties "Jvm, ,jvm").get? Key.targetSystem = some text ∧
          OnlyCommas text) := by
  have checked : ofProperties (Sample.properties "Jvm, ,jvm") = .ok (Sample.config ["jvm"]) := rfl
  exact ⟨checked, (names_source_iff checked).mp (.inl (by simp [Sample.config]))⟩

/-- A comma passes for a list, and there is nothing in the list. -/
theorem sample_names_no_source :
    ofProperties (Sample.properties ",") = .ok (Sample.config []) ∧
      (Sample.config []).targetSystems = [] ∧ (Sample.config []).customCatalog = none :=
  ⟨rfl, rfl, rfl⟩

end Config

end BeanMeter
