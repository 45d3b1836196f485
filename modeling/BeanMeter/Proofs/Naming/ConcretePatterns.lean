import BeanMeter.Proofs.Naming.KeySets
import BeanMeter.Proofs.Naming.WrittenNames
import BeanMeter.Proofs.Text.Separators

/-! # Patterns without wildcards

A text without `*` and `?` is read twice: as a pattern, and as the name of the object that is asked
for and recorded under it. The two readings differ in the blanks after a value, which belong to the
value of the name and are dropped from the pattern.

* `NamePattern.exists_property_of_spelled` — how one part of a property list is read by both.
* `NamePattern.accepts_named_iff` — when a pattern accepts the object that its text names.
-/

namespace BeanMeter

/-! ## Parts of a property list -/

theorem mem_of_mem_splitUnquoted {mode : QuoteMode} {cs part : List Char}
    (among : part ∈ splitUnquoted mode cs) : ∀ c ∈ part, c ∈ cs := by
  induction cs generalizing mode part with
  | nil =>
    obtain rfl : part = [] := by simpa [splitUnquoted] using among
    simp
  | cons x rest ih =>
    intro c member
    rw [splitUnquoted] at among
    split at among
    · rcases List.mem_cons.mp among with rfl | later
      · cases member
      · exact List.mem_cons_of_mem x (ih later c member)
    · split at among
      · obtain rfl : part = [x] := by simpa using among
        simp_all
      · next first others found =>
        rcases List.mem_cons.mp among with rfl | later
        · rcases List.mem_cons.mp member with rfl | inFirst
          · exact List.mem_cons_self
          · have own : first ∈ splitUnquoted (mode.next x) rest := by simp [found]
            exact List.mem_cons_of_mem x (ih own c inFirst)
        · have other : part ∈ splitUnquoted (mode.next x) rest := by simp [found, later]
          exact List.mem_cons_of_mem x (ih other c member)

theorem mem_of_mem_splitProperties {list part : List Char} (among : part ∈ splitProperties list) :
    ∀ c ∈ part, c ∈ list :=
  mem_of_mem_splitUnquoted (List.mem_filter.mp among).1

namespace NamePattern

/-- What a pattern has in place of a property of a name. -/
def partOf (property : String × String) : Part :=
  .property property.1 (Text.trimEnd property.2.toList)

/-- Both readers find the same key. The glob is the value without the blanks after it. -/
theorem exists_property_of_spelled {written : List Char} {part : Part}
    (spells : Part.Spelled (Text.trimChars written) part) (literal : '*' ∉ written) :
    ∃ property, ObjectName.readProperty? written = some property ∧ part = partOf property ∧
      ∀ c ∈ property.2.toList, c ∈ written := by
  have inside : ∀ c ∈ Text.trimChars written, c ∈ written :=
    fun c member => Text.trimChars_sublist.subset member
  generalize spelled : Text.trimChars written = trimmed at spells inside
  cases spells with
  | wildcard => exact absurd (inside '*' (by simp)) literal
  | @property key glob cut named =>
    -- The name is cut at its first equals sign, and so is the trimmed text.
    obtain ⟨before, value, rfl, clear⟩ :
        ∃ before value, written = before ++ '=' :: value ∧ '=' ∉ before := by
      cases found : Text.splitFirst? '=' written with
      | none => exact absurd (inside '=' (by simp)) (Text.splitFirst?_eq_none_iff.mp found)
      | some pieces => exact ⟨_, _, Text.splitFirst?_eq_some_iff.mp found⟩
    have start : '=' ∉ Text.trimStart before :=
      fun member => clear ((List.dropWhile_sublist _).subset member)
    rw [Text.trimChars_append_cons (by rfl)] at spelled
    have same : some (Text.trimStart before, Text.trimEnd value) = some (key, glob) := by
      rw [← Text.splitFirst?_eq_some_iff.mpr ⟨rfl, start⟩,
        ← Text.splitFirst?_eq_some_iff.mpr ⟨rfl, cut⟩, spelled]
    simp only [Option.some.injEq, Prod.mk.injEq] at same
    obtain ⟨rfl, rfl⟩ := same
    have again : Text.trimChars (Text.trimStart before) = Text.trimChars before := by
      rw [Text.trimChars, Text.trimChars, Text.trimStart, Text.trimStart, List.dropWhile_idempotent]
    refine ⟨(String.ofList (Text.trimChars before), String.ofList value), ?_, ?_, ?_⟩
    · rw [ObjectName.readProperty?, Text.splitFirst?_eq_some_iff.mpr ⟨rfl, clear⟩]
      rfl
    · simp [partOf, again]
    · intro c member
      rw [String.toList_ofList] at member
      simp [member]

theorem exists_properties_of_spelled {written : List (List Char)} {parts : List Part}
    (each : List.Forall₂ (fun written part => Part.Spelled (Text.trimChars written) part)
      written parts) (literal : ∀ part ∈ written, '*' ∉ part) :
    ∃ properties, written.mapM ObjectName.readProperty? = some properties ∧
      parts = properties.map partOf ∧
      ∀ property ∈ properties, ∀ c ∈ property.2.toList, ∃ part ∈ written, c ∈ part := by
  induction each with
  | nil => exact ⟨[], rfl, rfl, by simp⟩
  | cons spells _ ih =>
    obtain ⟨own, others⟩ := List.forall_mem_cons.mp literal
    obtain ⟨property, read, rfl, inside⟩ := exists_property_of_spelled spells own
    obtain ⟨properties, more, rfl, among⟩ := ih others
    refine ⟨property :: properties, by simp [read, more], rfl, ?_⟩
    rw [List.forall_mem_cons]
    constructor
    · exact fun c member => ⟨_, List.mem_cons_self, inside c member⟩
    · intro other listed c member
      obtain ⟨part, later, found⟩ := among other listed c member
      exact ⟨part, List.mem_cons_of_mem _ later, found⟩

/-! ## The object that is named -/

variable {source : String} {p : NamePattern} {properties : List (String × String)}

/-- Characters that stand for themselves in a glob. -/
def Literal (cs : List Char) : Prop := ∀ c ∈ cs, c ≠ '*' ∧ c ≠ '?'

/-- A pattern has a glob without wildcards for each of some properties, and nothing else. -/
structure Names (p : NamePattern) (properties : List (String × String)) : Prop where
  properties_eq : p.properties = properties.map fun property =>
    (property.1, Text.trimEnd property.2.toList)
  closed : p.openEnded = false
  domain : Literal p.domain
  values : ∀ property ∈ properties, Literal property.2.toList

theorem exists_names_of_compile (literal : Literal source.toList)
    (compiled : compile source = .ok p) : ∃ properties, p.Names properties ∧
      ObjectName.parse? source = some ⟨String.ofList p.domain, SortedMap.ofList properties⟩ := by
  obtain ⟨list, parts, spelled⟩ := compile_eq_ok_iff.mp compiled
  have whole := spelled.whole
  have listed : ∀ part ∈ splitProperties list, ∀ c ∈ part, c ∈ source.toList := by
    intro part among c member
    have inList := mem_of_mem_splitProperties among c member
    simp [whole, inList]
  obtain ⟨properties, read, rfl, inside⟩ := exists_properties_of_spelled spelled.each
    fun part among member => (literal '*' (listed part among '*' member)).1 rfl
  refine ⟨properties, ⟨?_, ?_, ?_, ?_⟩, ?_⟩
  · rw [spelled.properties_eq, List.filterMap_map, ← List.filterMap_eq_map]
    rfl
  · simp [spelled.openEnded_eq, partOf]
  · intro c member
    exact literal c (by simp [whole, member])
  · intro property among c member
    obtain ⟨part, inParts, found⟩ := inside property among c member
    exact literal c (listed part inParts c found)
  · rw [ObjectName.parse?, Text.splitFirst?_eq_some_iff.mpr ⟨whole, spelled.cut⟩]
    simp [read]

theorem Names.keys_eq (names : p.Names properties) : p.keys = properties.map (·.1) := by
  simp [keys, names.properties_eq]

/-- A glob that has lost the blanks at its end does not match them. -/
theorem splits_trimEnd_iff {value : List Char} (literal : Literal value) :
    Glob.Splits (Text.trimEnd value) value ↔ value.getLast?.any Text.isBlank = false := by
  have shorter : Literal (Text.trimEnd value) :=
    fun c member => literal c ((List.rdropWhile_prefix _ _).subset member)
  rw [Glob.splits_literal_iff shorter, eq_comm, Text.trimEnd_eq_self_iff]

theorem Names.covers_iff (names : p.Names properties) (once : p.keys.Nodup) :
    p.Covers ⟨String.ofList p.domain, SortedMap.ofList properties⟩ ↔
      ∀ key value, (SortedMap.ofList properties).get? key = some value →
        value.toList.getLast?.any Text.isBlank = false := by
  have held : ∀ key value, (SortedMap.ofList properties).get? key = some value ↔
      (key, value) ∈ properties := by
    rw [names.keys_eq] at once
    intro key value
    rw [SortedMap.get?_eq_some_iff, SortedMap.mem_entries_ofList_iff once]
  constructor
  · intro covers key value found
    have listed := (held key value).mp found
    have glob : (key, Text.trimEnd value.toList) ∈ p.properties := by
      rw [names.properties_eq]
      exact List.mem_map.mpr ⟨_, listed, rfl⟩
    obtain ⟨same, again, splits⟩ := covers.properties key _ glob
    obtain rfl : value = same := Option.some.inj (found.symm.trans again)
    exact (splits_trimEnd_iff (names.values _ listed)).mp splits
  · intro visible
    refine ⟨?_, ?_⟩
    · rw [Glob.splits_literal_iff names.domain, String.toList_ofList]
    · intro _ _ member
      rw [names.properties_eq] at member
      obtain ⟨⟨key, value⟩, listed, same⟩ := List.mem_map.mp member
      cases same
      have found := (held key value).mpr listed
      exact ⟨value, found,
        (splits_trimEnd_iff (names.values _ listed)).mpr (visible key value found)⟩

theorem Names.accepts_iff (names : p.Names properties) :
    p.accepts ⟨String.ofList p.domain, SortedMap.ofList properties⟩ = true ↔
      p.keys.Nodup ∧ ∀ key value, (SortedMap.ofList properties).get? key = some value →
        value.toList.getLast?.any Text.isBlank = false := by
  have none : p.unmentioned ⟨String.ofList p.domain, SortedMap.ofList properties⟩ = [] := by
    rw [unmentioned_eq_nil_iff, names.keys_eq]
    intro key value found
    have listed := SortedMap.mem_of_mem_ofList (SortedMap.get?_eq_some_iff.mp found)
    exact List.mem_map.mpr ⟨_, listed, rfl⟩
  have once : (p.openEnded = true ∨ ([] : List String).length = p.repetitions) ↔ p.keys.Nodup := by
    rw [← repetitions_eq_zero_iff]
    simp [names.closed, eq_comm]
  rw [accepts_iff_covers, none, once, and_comm]
  exact and_congr_right names.covers_iff

/-- A text without wildcards gives a pattern that accepts the object named by it, unless the text
names a key twice or has blanks after a value. -/
theorem accepts_named_iff (literal : ∀ c ∈ source.toList, c ≠ '*' ∧ c ≠ '?')
    (compiled : compile source = .ok p) : ∃ n, ObjectName.parse? source = some n ∧
      (p.accepts n = true ↔ p.keys.Nodup ∧
        ∀ key value, n.property? key = some value →
          value.toList.getLast?.any Text.isBlank = false) := by
  obtain ⟨properties, names, read⟩ := exists_names_of_compile literal compiled
  exact ⟨_, read, names.accepts_iff⟩

namespace Sample

/-- The blank after the first value is not in the glob. -/
def spaced : NamePattern := ⟨"a:k=v ,j=w", ['a'], [("k", ['v']), ("j", ['w'])], false⟩

def plain : NamePattern := ⟨"a: k=v,, j= w", ['a'], [("k", ['v']), ("j", [' ', 'w'])], false⟩

end Sample

theorem sample_named : (∀ c ∈ "a: k=v,, j= w".toList, c ≠ '*' ∧ c ≠ '?') ∧
    compile "a: k=v,, j= w" = .ok Sample.plain ∧
    ∃ n, ObjectName.parse? "a: k=v,, j= w" = some n ∧ Sample.plain.accepts n = true := by
  have literal : ∀ c ∈ "a: k=v,, j= w".toList, c ≠ '*' ∧ c ≠ '?' := by simp
  have compiled : compile "a: k=v,, j= w" = .ok Sample.plain := rfl
  refine ⟨literal, compiled, ?_⟩
  obtain ⟨n, read, accepted⟩ := accepts_named_iff literal compiled
  refine ⟨n, read, accepted.mpr ⟨by simp [Sample.plain, keys], ?_⟩⟩
  cases read
  intro key value found
  have listed := SortedMap.mem_of_mem_ofList (SortedMap.get?_eq_some_iff.mp found)
  rcases List.mem_cons.mp listed with same | listed
  · cases same
    rfl
  · cases List.mem_singleton.mp listed
    rfl

/-- The object that is asked for is recorded under a name that the pattern does not accept. -/
theorem sample_named_spaced : (∀ c ∈ "a:k=v ,j=w".toList, c ≠ '*' ∧ c ≠ '?') ∧
    compile "a:k=v ,j=w" = .ok Sample.spaced ∧ Sample.spaced.keys.Nodup ∧
    ∃ n, ObjectName.parse? "a:k=v ,j=w" = some n ∧ Sample.spaced.accepts n = false :=
  ⟨by simp, rfl, by simp [Sample.spaced, keys], _, rfl, rfl⟩

end NamePattern

end BeanMeter
