import BeanMeter.Mapping.Catalog.Document
import BeanMeter.Proofs.Outcome

/-! # Loading mappings

What holds of every mapping that has been loaded from documents, whatever they say.

* `Catalog.gives_of_parseMappings` — every mapping comes from an entry of a rule of its document.
* `AttributeMapping.Compiled` — the pattern of a mapping is the one that its text stands for.
* `Registry.compiled_ofDocuments` — all mappings of a loaded registry are compiled.
-/

namespace BeanMeter

/-! ## Where mappings come from -/

theorem NamePattern.source_of_compile {source : String} {pattern : NamePattern}
    (compiled : compile source = .ok pattern) : pattern.source = source := by
  unfold compile at compiled
  split at compiled
  · cases compiled
  · split at compiled
    · cases compiled
    · cases compiled
    · cases compiled
      rfl

namespace CatalogRule

/-- A mapping comes from an entry of a rule, for one of its patterns. -/
def Gives (r : CatalogRule) (origin : String) (index : Nat) (m : AttributeMapping) : Prop :=
  ∃ bean ∈ r.patterns, NamePattern.compile bean = .ok m.pattern ∧
    ∃ path entry, r.entries.get? path = some entry ∧
      r.mapping origin index m.pattern path entry = .ok m

variable {r : CatalogRule} {origin : String} {index : Nat} {pattern other : NamePattern}
  {path : String} {entry : Option MetricEntry} {m n : AttributeMapping}
  {ms : List AttributeMapping}

/-- What a mapping takes over from the place where it is defined. -/
theorem of_mapping (made : r.mapping origin index pattern path entry = .ok m) :
    m.pattern = pattern ∧ m.origin = origin ∧ m.rule = index ∧
      AttributePath.parse? path = some ⟨m.attr, m.subKey⟩ := by
  unfold mapping at made
  dsimp only at made
  split at made
  · cases made
  · next p parsed =>
    obtain ⟨labels, _, same⟩ := Except.bind_eq_ok_iff.mp made
    cases same
    exact ⟨rfl, rfl, rfl, parsed⟩

/-- An entry gives the same mapping for every pattern, but for the pattern itself. -/
theorem mapping_unique (first : r.mapping origin index pattern path entry = .ok m)
    (second : r.mapping origin index other path entry = .ok n) :
    n = { m with pattern := n.pattern } := by
  unfold mapping at first second
  dsimp only at first second
  split at first
  · cases first
  · next p parsed =>
    rw [parsed] at second
    obtain ⟨labels, read, same⟩ := Except.bind_eq_ok_iff.mp first
    obtain ⟨labels', read', same'⟩ := Except.bind_eq_ok_iff.mp second
    rw [read] at read'
    cases read'
    cases same
    cases same'
    rfl

theorem gives_of_mappings (made : r.mappings origin index = .ok ms) :
    ∀ m ∈ ms, r.Gives origin index m := by
  intro m member
  unfold mappings at made
  split at made
  · cases made
  · obtain ⟨parts, each, rfl⟩ := Except.map_eq_ok_iff.mp made
    obtain ⟨part, among, inside⟩ := List.mem_flatten.mp member
    obtain ⟨bean, listed, mapped⟩ := mem_of_mapM_eq_ok each among
    unfold mappingsFor at mapped
    split at mapped
    · cases mapped
    · next pattern compiled =>
      obtain ⟨⟨path, entry⟩, held, given⟩ := mem_of_mapM_eq_ok mapped inside
      obtain ⟨rfl, -⟩ := of_mapping given
      exact ⟨bean, listed, compiled, path, entry, SortedMap.get?_eq_some_iff.mpr held, given⟩

theorem Gives.place (gives : r.Gives origin index m) : m.origin = origin ∧ m.rule = index := by
  obtain ⟨_, _, _, _, _, _, made⟩ := gives
  obtain ⟨-, named, position, -⟩ := of_mapping made
  exact ⟨named, position⟩

end CatalogRule

namespace Catalog

/-- A mapping comes from the rule of a catalog at the position that it names. -/
def Gives (c : Catalog) (origin : String) (m : AttributeMapping) : Prop :=
  ∃ r, c.rules[m.rule]? = some r ∧ r.Gives origin m.rule m

variable {c : Catalog} {origin : String} {m : AttributeMapping} {ms : List AttributeMapping}

theorem gives_of_mappingsFrom {index : Nat} {rules : List CatalogRule}
    (made : mappingsFrom origin index rules = .ok ms) :
    ∀ m ∈ ms, ∃ (k : Nat) (r : CatalogRule),
      rules[k]? = some r ∧ r.Gives origin (index + k) m := by
  induction rules generalizing index ms with
  | nil =>
    cases made
    simp
  | cons r rest ih =>
    obtain ⟨first, mapped, made⟩ := Except.bind_eq_ok_iff.mp made
    obtain ⟨later, others, same⟩ := Except.bind_eq_ok_iff.mp made
    cases same
    intro m member
    rcases List.mem_append.mp member with inFirst | inLater
    · exact ⟨0, r, rfl, CatalogRule.gives_of_mappings mapped m inFirst⟩
    · obtain ⟨k, r', found, given⟩ := ih others m inLater
      refine ⟨k + 1, r', found, ?_⟩
      rw [Nat.add_comm k 1, ← Nat.add_assoc]
      exact given

theorem gives_of_mappings (made : c.mappings origin = .ok ms) : ∀ m ∈ ms, c.Gives origin m := by
  intro m member
  obtain ⟨k, r, found, given⟩ := gives_of_mappingsFrom made m member
  rw [Nat.zero_add] at given
  obtain rfl : m.rule = k := given.place.2
  exact ⟨r, found, given⟩

theorem gives_of_parseMappings {text : String} (parsed : parseMappings text origin = .ok ms) :
    ∃ c : Catalog, ∀ m ∈ ms, c.Gives origin m := by
  obtain ⟨c, _, made⟩ := Except.bind_eq_ok_iff.mp parsed
  exact ⟨c, gives_of_mappings made⟩

theorem Gives.origin_eq (gives : c.Gives origin m) : m.origin = origin := by
  obtain ⟨r, _, given⟩ := gives
  exact given.place.1

end Catalog

/-! ## Patterns -/

/-- The pattern of a mapping is the one that its text stands for: patterns are only made by reading
their texts. -/
def AttributeMapping.Compiled (m : AttributeMapping) : Prop :=
  NamePattern.compile m.pattern.source = .ok m.pattern

theorem Catalog.Gives.compiled {c : Catalog} {origin : String} {m : AttributeMapping}
    (gives : c.Gives origin m) : m.Compiled := by
  obtain ⟨r, _, bean, _, compiled, _⟩ := gives
  rw [AttributeMapping.Compiled, NamePattern.source_of_compile compiled, compiled]

/-! ## Registries -/

namespace Registry

/-- The patterns of all mappings are those that their texts stand for. -/
def Compiled (r : Registry) : Prop := ∀ m ∈ r.mappings, m.Compiled

theorem compiled_of_extend {r s : Registry} {ms : List AttributeMapping}
    (extended : r.extend ms = .ok s) (before : r.Compiled) (added : ∀ m ∈ ms, m.Compiled) :
    s.Compiled := by
  obtain ⟨_, _, rfl⟩ := Except.map_eq_ok_iff.mp extended
  intro m member
  rcases List.mem_append.mp member with old | new
  · exact before m old
  · exact added m new

theorem compiled_ofDocuments {documents : List (String × String)} {r : Registry}
    (loaded : ofDocuments documents = .ok r) : r.Compiled := by
  have start : Compiled .empty := by simp [Compiled, empty]
  unfold ofDocuments at loaded
  generalize Registry.empty = before at start loaded
  induction documents generalizing before with
  | nil =>
    cases loaded
    exact start
  | cons document rest ih =>
    rw [List.foldlM_cons] at loaded
    obtain ⟨next, read, loaded⟩ := Except.bind_eq_ok_iff.mp loaded
    obtain ⟨ms, parsed, extended⟩ := Except.bind_eq_ok_iff.mp read
    obtain ⟨catalog, gives⟩ := Catalog.gives_of_parseMappings parsed
    have compiled : ∀ m ∈ ms, m.Compiled := fun m member => (gives m member).compiled
    exact ih next (compiled_of_extend extended start compiled) loaded

end Registry

end BeanMeter
