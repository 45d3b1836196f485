import BeanMeter.Naming.NamePattern
import BeanMeter.Proofs.Naming.Globs
import Mathlib.Data.List.Dedup

/-! # Key sets of patterns

What the text of a pattern says, and which names the pattern stands for. A pattern that is not
open-ended is meant for names with no key but its own. What is compared is the number of properties,
which amounts to the same as long as the pattern names no key twice.

* `NamePattern.compile_eq_ok_iff` — a pattern says what its text spells.
* `NamePattern.size_eq` — the properties of a name that has the keys of a pattern.
* `NamePattern.accepts_of_compile` — which names a pattern accepts.
-/

namespace BeanMeter.NamePattern

variable {p : NamePattern} {n : ObjectName} {source : String}

/-! ## The text of a pattern -/

/-- How a part of a property list is spelled, without the blanks around it. -/
inductive Part.Spelled : List Char → Part → Prop
  | wildcard : Spelled ['*'] .wildcard
  | property {key glob : List Char} (cut : '=' ∉ key) (named : Text.trimChars key ≠ []) :
      Spelled (key ++ '=' :: glob) (.property (String.ofList (Text.trimChars key)) glob)

/-- A pattern is spelled by a text: the glob for the domain, a colon, and the parts of a property
list, at least one. -/
structure SpelledBy (p : NamePattern) (source : String) (list : List Char) (parts : List Part) :
    Prop where
  source_eq : p.source = source
  whole : source.toList = p.domain ++ ':' :: list
  cut : ':' ∉ p.domain
  each : List.Forall₂ (fun written part => Part.Spelled (Text.trimChars written) part)
    (splitProperties list) parts
  some : parts ≠ []
  properties_eq : p.properties = parts.filterMap Part.property?
  openEnded_eq : p.openEnded = parts.contains .wildcard

theorem readPart_eq_ok_iff {written : List Char} {part : Part} :
    readPart written = .ok part ↔ Part.Spelled (Text.trimChars written) part := by
  unfold readPart
  generalize Text.trimChars written = spelled
  constructor
  · intro read
    dsimp only at read
    split at read
    · next star =>
      cases read
      rw [star]
      exact .wildcard
    · split at read
      · cases read
      · next key glob found =>
        obtain ⟨rfl, cut⟩ := Text.splitFirst?_eq_some_iff.mp found
        split at read
        · cases read
        · next named =>
          cases read
          exact .property cut (by simpa using named)
  · intro spells
    cases spells with
    | wildcard => rfl
    | @property key glob cut named =>
      have other : key ++ '=' :: glob ≠ ['*'] := by
        intro same
        have member : '=' ∈ ['*'] := by simp [← same]
        simp at member
      simp [other, Text.splitFirst?_eq_some_iff.mpr ⟨rfl, cut⟩]

theorem readParts_eq_ok_iff {written : List (List Char)} {parts : List Part} :
    readParts written = .ok parts ↔
      List.Forall₂ (fun written part => Part.Spelled (Text.trimChars written) part)
        written parts := by
  simp only [← readPart_eq_ok_iff]
  induction written generalizing parts with
  | nil => cases parts <;> simp [readParts]
  | cons first rest ih =>
    rw [List.forall₂_cons_left_iff]
    simp only [← ih, readParts]
    cases readPart first with
    | error fault => simp
    | ok part => cases readParts rest <;> simp [Except.map, eq_comm]

/-- A text gives a pattern exactly if it spells one, and then it gives that one. -/
theorem compile_eq_ok_iff :
    compile source = .ok p ↔ ∃ list parts, p.SpelledBy source list parts := by
  unfold compile
  constructor
  · intro compiled
    split at compiled
    · cases compiled
    · next domain list found =>
      obtain ⟨whole, cut⟩ := Text.splitFirst?_eq_some_iff.mp found
      split at compiled
      · cases compiled
      · cases compiled
      · next parts read some =>
        cases compiled
        exact ⟨list, parts, rfl, whole, cut, readParts_eq_ok_iff.mp some, by simpa using read,
          rfl, rfl⟩
  · rintro ⟨list, parts, rfl, whole, cut, each, some, properties, openEnded⟩
    rw [Text.splitFirst?_eq_some_iff.mpr ⟨whole, cut⟩]
    dsimp only
    rw [readParts_eq_ok_iff.mpr each]
    cases parts with
    | nil => contradiction
    | cons first others =>
      dsimp only
      rw [← properties, ← openEnded]

/-! ## Covered names -/

/-- The keys that a pattern mentions, as often as it does. -/
def keys (p : NamePattern) : List String := p.properties.map (·.1)

/-- How often a pattern mentions a key that it mentions again. -/
def repetitions (p : NamePattern) : Nat := p.keys.length - p.keys.dedup.length

/-- The keys of a name that a pattern does not mention. -/
def unmentioned (p : NamePattern) (n : ObjectName) : List String :=
  n.properties.keys.filter fun key => key ∉ p.keys

/-- The domain matches, and every property of the pattern is there with a value that matches. -/
structure Covers (p : NamePattern) (n : ObjectName) : Prop where
  domain : Glob.Splits p.domain n.domain.toList
  properties : ∀ key glob, (key, glob) ∈ p.properties →
    ∃ value, n.property? key = some value ∧ Glob.Splits glob value.toList

/-- A pattern covers a name that has other keys than its own only if the pattern is open-ended. -/
structure Describes (p : NamePattern) (n : ObjectName) : Prop extends p.Covers n where
  mentioned : p.openEnded = false → ∀ key value, n.property? key = some value → key ∈ p.keys

theorem unmentioned_eq_nil_iff :
    p.unmentioned n = [] ↔ ∀ key value, n.property? key = some value → key ∈ p.keys := by
  simp only [unmentioned, List.filter_eq_nil_iff, SortedMap.mem_keys_iff, ObjectName.property?]
  grind

theorem repetitions_eq_zero_iff : p.repetitions = 0 ↔ p.keys.Nodup := by
  have fewer : p.keys.dedup.length ≤ p.keys.length := (List.dedup_sublist _).length_le
  rw [← List.dedup_eq_self, repetitions]
  constructor
  · intro none
    exact (List.dedup_sublist _).eq_of_length (by omega)
  · intro same
    rw [same]
    omega

theorem Covers.mem_keys (covers : p.Covers n) : ∀ key ∈ p.keys, key ∈ n.properties.keys := by
  intro key member
  obtain ⟨⟨_, glob⟩, among, rfl⟩ := List.mem_map.mp member
  obtain ⟨value, found, _⟩ := covers.properties _ glob among
  exact SortedMap.mem_keys_iff.mpr ⟨value, found⟩

/-- A name with all keys of a pattern has each of them once, and those besides. -/
theorem size_eq (present : ∀ key ∈ p.keys, key ∈ n.properties.keys) :
    n.properties.size = p.keys.dedup.length + (p.unmentioned n).length := by
  have own : (n.properties.keys.filter (· ∈ p.keys)).Perm p.keys.dedup := by
    rw [List.perm_ext_iff_of_nodup (n.properties.keys_nodup.filter _) (List.nodup_dedup _)]
    intro key
    simpa using present key
  have split := List.length_eq_length_filter_add (l := n.properties.keys) (· ∈ p.keys)
  rw [own.length_eq] at split
  simpa [SortedMap.size, SortedMap.keys, unmentioned] using split

/-- The numbers of properties agree if and only if the name has as many keys besides as the pattern
repeats. -/
theorem Covers.size_eq_iff (covers : p.Covers n) :
    n.properties.size = p.properties.length ↔ (p.unmentioned n).length = p.repetitions := by
  have fewer : p.keys.dedup.length ≤ p.keys.length := (List.dedup_sublist _).length_le
  have all : p.keys.length = p.properties.length := List.length_map _
  rw [size_eq covers.mem_keys, repetitions]
  omega

theorem accepts_iff_covers : p.accepts n = true ↔
    p.Covers n ∧ (p.openEnded = true ∨ (p.unmentioned n).length = p.repetitions) := by
  have parts : p.accepts n = true ↔
      p.Covers n ∧ (p.openEnded = true ∨ n.properties.size = p.properties.length) := by
    simp only [accepts, Bool.and_eq_true, Bool.or_eq_true, beq_iff_eq, List.all_eq_true,
      Option.any_eq_true, Glob.accepts_iff_splits, Prod.forall]
    constructor
    · rintro ⟨⟨domain, size⟩, properties⟩
      exact ⟨⟨domain, properties⟩, size⟩
    · rintro ⟨⟨domain, properties⟩, size⟩
      exact ⟨⟨domain, size⟩, properties⟩
  rw [parts]
  apply and_congr_right
  intro covers
  rw [covers.size_eq_iff]

theorem accepts_iff_describes (once : p.openEnded = true ∨ p.keys.Nodup) :
    p.accepts n = true ↔ p.Describes n := by
  have mentioned : (p.openEnded = true ∨ (p.unmentioned n).length = p.repetitions) ↔
      (p.openEnded = false → p.unmentioned n = []) := by
    cases closed : p.openEnded with
    | true => simp
    | false =>
      have none := repetitions_eq_zero_iff.mpr (once.resolve_left (by simp [closed]))
      simp [none]
  rw [accepts_iff_covers, mentioned, unmentioned_eq_nil_iff]
  constructor
  · rintro ⟨covers, others⟩
    exact ⟨covers, others⟩
  · rintro ⟨covers, others⟩
    exact ⟨covers, others⟩

/-! ## Compiled patterns -/

/-- A pattern accepts the names that it covers, if it is open-ended or they have as many other keys
as it repeats. So it describes what it accepts, unless it repeats a key and is not open-ended. -/
theorem accepts_of_compile (compiled : compile source = .ok p) (n : ObjectName) :
    (∃ list parts, p.SpelledBy source list parts) ∧
      (p.accepts n = true ↔
        p.Covers n ∧ (p.openEnded = true ∨ (p.unmentioned n).length = p.repetitions)) ∧
      (p.openEnded = true ∨ p.keys.Nodup → (p.accepts n = true ↔ p.Describes n)) :=
  ⟨compile_eq_ok_iff.mp compiled, accepts_iff_covers, accepts_iff_describes⟩

namespace Sample

def queue : NamePattern :=
  ⟨"a.*:name=?,type=X", ['a', '.', '*'], [("name", ['?']), ("type", ['X'])], false⟩

/-- The same key twice. -/
def repeated : NamePattern := ⟨"a:k=*,k=*", ['a'], [("k", ['*']), ("k", ['*'])], false⟩

def name (domain : String) (properties : List (String × String)) : ObjectName :=
  ⟨domain, SortedMap.ofList properties⟩

end Sample

theorem sample_accepts : compile "a.*:name=?,type=X" = .ok Sample.queue ∧
    Sample.queue.keys.Nodup ∧
    Sample.queue.accepts (Sample.name "a.b" [("type", "X"), ("name", "1")]) = true ∧
    Sample.queue.Describes (Sample.name "a.b" [("type", "X"), ("name", "1")]) := by
  have compiled : compile "a.*:name=?,type=X" = .ok Sample.queue := rfl
  have distinct : Sample.queue.keys.Nodup := by simp [Sample.queue, keys]
  have accepted :
      Sample.queue.accepts (Sample.name "a.b" [("type", "X"), ("name", "1")]) = true := by
    decide
  exact ⟨compiled, distinct, accepted,
    ((accepts_of_compile compiled _).2.2 (.inr distinct)).mp accepted⟩

/-- A pattern with the same key twice accepts a name with a key that it does not mention, and does
not accept the one that it describes. -/
theorem sample_repeated_key : compile "a:k=*,k=*" = .ok Sample.repeated ∧
    (Sample.repeated.accepts (Sample.name "a" [("j", "2"), ("k", "1")]) = true ∧
      ¬ Sample.repeated.Describes (Sample.name "a" [("j", "2"), ("k", "1")])) ∧
    (Sample.repeated.accepts (Sample.name "a" [("k", "1")]) = false ∧
      Sample.repeated.Describes (Sample.name "a" [("k", "1")])) := by
  refine ⟨rfl, ⟨by decide, ?_⟩, by decide, ⟨⟨?_, ?_⟩, ?_⟩⟩
  · intro describes
    have foreign : "j" ∈ Sample.repeated.keys := describes.mentioned rfl "j" "2" rfl
    simp [Sample.repeated, keys] at foreign
  · exact Glob.accepts_iff_splits.mp rfl
  · intro key glob member
    obtain ⟨rfl, rfl⟩ : key = "k" ∧ glob = ['*'] := by simpa [Sample.repeated] using member
    exact ⟨"1", rfl, Glob.accepts_iff_splits.mp rfl⟩
  · intro _
    rw [← unmentioned_eq_nil_iff]
    rfl

end BeanMeter.NamePattern
