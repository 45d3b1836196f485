import BeanMeter.Mapping.Builtin
import BeanMeter.Proofs.Mapping.LabelRules
import BeanMeter.Proofs.Mapping.Loading

/-! # Rules for labels, written again

A source for a label is shown as a rule in its plain form. Whatever rule a source has been read
from, its plain form is a rule for the same source, so that the labels of loaded mappings can be
shown without a loss.

* `LabelSource.IsRule` — the texts that are rules, said without how they are read.
* `LabelSource.plain_iff` — the sources that a rule can stand for.
* `Registry.defined_of_resolve` — where the mappings of a run come from.
* `LabelSource.rules_read_back` — which texts are rules, and that the plain form is one of them.
-/

namespace BeanMeter

/-! ## Rules -/

namespace LabelSource

variable {kind rule : String} {body : List Char} {s : LabelSource}

/-- A text that is a rule: the word for a kind and a body in parentheses, with blanks around the
whole. Only blanks follow the parenthesis that closes the body, which therefore is the last one. -/
structure IsRule (rule kind : String) (body : List Char) : Prop where
  word : kind ∈ ["param", "beanattr", "const"]
  framed : ∃ before after, rule.toList = before ++ (kind.toList ++ '(' :: (body ++ ')' :: after)) ∧
    (∀ c ∈ before, Text.isBlank c = true) ∧ ∀ c ∈ after, Text.isBlank c = true
  oneLine : '\n' ∉ body
  given : kind ≠ "const" → ∃ c ∈ body, Text.isBlank c = false

theorem argument_eq_empty_iff (argument : s.argument = String.ofList (Text.trimChars body)) :
    s.argument = "" ↔ ∀ c ∈ body, Text.isBlank c = true := by
  rw [argument, ← Text.trimChars_eq_nil_iff, ← String.toList_inj, String.toList_ofList]
  rfl

theorem writtenAs_iff : s.WrittenAs rule ↔
    ∃ body, IsRule rule s.kind body ∧ s.argument = String.ofList (Text.trimChars body) := by
  constructor
  · rintro ⟨before, body, after, written, leading, trailing, oneLine, argument, given⟩
    refine ⟨body, ⟨s.kind_mem, ⟨before, after, written, leading, trailing⟩, oneLine, ?_⟩,
      argument.symm⟩
    simpa [argument_eq_empty_iff argument.symm] using given
  · rintro ⟨body, ⟨-, ⟨before, after, written, leading, trailing⟩, oneLine, given⟩, argument⟩
    refine ⟨before, body, after, written, leading, trailing, oneLine, argument.symm, ?_⟩
    simpa [argument_eq_empty_iff argument] using given

theorem IsRule.parse?_eq (isRule : IsRule rule kind body) : ∃ s, parse? rule = some s ∧
    s.kind = kind ∧ s.argument = String.ofList (Text.trimChars body) := by
  obtain ⟨s, rfl, argument⟩ := exists_source isRule.word (String.ofList (Text.trimChars body))
  exact ⟨s, parse?_eq_some_iff.mpr (writtenAs_iff.mpr ⟨body, isRule, argument⟩), rfl, argument⟩

theorem parse?_isSome_iff : (parse? rule).isSome ↔ ∃ kind body, IsRule rule kind body := by
  rw [Option.isSome_iff_exists]
  constructor
  · rintro ⟨s, read⟩
    obtain ⟨body, isRule, -⟩ := writtenAs_iff.mp (parse?_eq_some_iff.mp read)
    exact ⟨s.kind, body, isRule⟩
  · rintro ⟨kind, body, isRule⟩
    obtain ⟨s, read, -⟩ := isRule.parse?_eq
    exact ⟨s, read⟩

/-! ## The plain form -/

theorem plain_of_parse? (read : parse? rule = some s) : s.Plain := by
  obtain ⟨body, isRule, argument⟩ := writtenAs_iff.mp (parse?_eq_some_iff.mp read)
  have held : s.argument.toList = Text.trimChars body := by rw [argument, String.toList_ofList]
  refine ⟨?_, ?_, ?_⟩
  · rw [held, Text.trimChars_idempotent]
  · rw [held]
    exact fun newline => isRule.oneLine (Text.trimChars_sublist.subset newline)
  · simpa [argument_eq_empty_iff argument] using isRule.given

/-- A source that any rule stands for can be told from its plain form. -/
theorem plain_iff : s.Plain ↔ ∃ rule, parse? rule = some s :=
  ⟨fun plain => ⟨s.text, parse?_text plain⟩, fun ⟨_, read⟩ => plain_of_parse? read⟩

end LabelSource

/-! ## Loaded mappings -/

namespace CatalogRule

variable {r : CatalogRule} {origin path : String} {index : Nat} {pattern : NamePattern}
  {entry : Option MetricEntry} {m : AttributeMapping}

theorem plain_of_mapping (made : r.mapping origin index pattern path entry = .ok m) :
    ∀ label ∈ m.labels, label.source.Plain := by
  unfold mapping at made
  dsimp only at made
  split at made
  · cases made
  · obtain ⟨labels, read, same⟩ := Except.bind_eq_ok_iff.mp made
    cases same
    intro label member
    obtain ⟨⟨name, rule⟩, -, accepted⟩ := mem_of_mapM_eq_ok read member
    unfold labelRule at accepted
    split at accepted
    · next source known =>
      split at accepted
      · cases accepted
      · cases accepted
        exact LabelSource.plain_of_parse? known
    · cases accepted

end CatalogRule

/-- A mapping that a rule of some catalog defines. -/
def AttributeMapping.Defined (m : AttributeMapping) : Prop :=
  ∃ (c : Catalog) (origin : String), c.Gives origin m

theorem AttributeMapping.Defined.plain {m : AttributeMapping} (defined : m.Defined) :
    ∀ label ∈ m.labels, label.source.Plain := by
  obtain ⟨_, _, _, _, _, _, _, _, _, _, made⟩ := defined
  exact CatalogRule.plain_of_mapping made

namespace Registry

variable {r s : Registry} {ms : List AttributeMapping}

theorem defined_of_extend (extended : r.extend ms = .ok s) (before : ∀ m ∈ r.mappings, m.Defined)
    (added : ∀ m ∈ ms, m.Defined) : ∀ m ∈ s.mappings, m.Defined := by
  obtain ⟨_, _, rfl⟩ := Except.map_eq_ok_iff.mp extended
  exact List.forall_mem_append.mpr ⟨before, added⟩

theorem defined_of_catalogs {catalogs : List (String × Catalog)}
    (loaded : catalogs.foldlM (fun r (origin, c) => (c.mappings origin).bind r.extend) r = .ok s)
    (before : ∀ m ∈ r.mappings, m.Defined) : ∀ m ∈ s.mappings, m.Defined := by
  induction catalogs generalizing r with
  | nil =>
    cases loaded
    exact before
  | cons catalog rest ih =>
    rw [List.foldlM_cons] at loaded
    obtain ⟨next, read, loaded⟩ := Except.bind_eq_ok_iff.mp loaded
    obtain ⟨ms, made, extended⟩ := Except.bind_eq_ok_iff.mp read
    exact ih loaded (defined_of_extend extended before
      fun m member => ⟨_, _, Catalog.gives_of_mappings made m member⟩)

/-- The mappings of a run are defined by the catalogs of its target systems and by the document of
the user's. -/
theorem defined_of_resolve {files : Files} {targets : List String} {custom : Option String}
    (resolved : resolve files targets custom = .ok r) : ∀ m ∈ r.mappings, m.Defined := by
  obtain ⟨catalogs, -, resolved⟩ := Except.bind_eq_ok_iff.mp resolved
  obtain ⟨document, -, resolved⟩ := Except.bind_eq_ok_iff.mp resolved
  obtain ⟨builtin, merged, resolved⟩ := Except.bind_eq_ok_iff.mp resolved
  have before : ∀ m ∈ builtin.mappings, m.Defined := defined_of_catalogs merged (by simp [empty])
  cases document with
  | none =>
    cases resolved
    exact before
  | some document =>
    obtain ⟨ms, parsed, extended⟩ := Except.bind_eq_ok_iff.mp resolved
    obtain ⟨c, gives⟩ := Catalog.gives_of_parseMappings parsed
    exact defined_of_extend extended before fun m member => ⟨c, _, gives m member⟩

end Registry

namespace LabelSource

/-- A text is read as a source exactly if it is a rule, and then as the one of its kind whose
argument is the body without the blanks around it. The plain form of a source that has been read is
read as this source again, which goes for every label that a run can have. -/
theorem rules_read_back (rule : String) :
    ((parse? rule).isSome ↔ ∃ kind body, IsRule rule kind body) ∧
    (∀ kind body, IsRule rule kind body → ∃ s, parse? rule = some s ∧ s.kind = kind ∧
      s.argument = String.ofList (Text.trimChars body)) ∧
    (∀ s, parse? rule = some s → parse? s.text = some s) ∧
    ∀ files targets custom r, Registry.resolve files targets custom = .ok r →
      ∀ m ∈ r.mappings, ∀ label ∈ m.labels, parse? label.source.text = some label.source := by
  refine ⟨parse?_isSome_iff, fun kind body isRule => isRule.parse?_eq,
    fun s read => parse?_text (plain_of_parse? read), ?_⟩
  intro files targets custom r resolved m member label among
  exact parse?_text ((Registry.defined_of_resolve resolved m member).plain label among)

/-- Blanks of several kinds around the rule, and parentheses and blanks within its argument. -/
theorem sample_read_back :
    parse? "\u3000const( a) b ( )\t\n" = some (.const "a) b (") ∧
      parse? "const(a) b ()" = some (.const "a) b (") := by
  have isRule : IsRule "\u3000const( a) b ( )\t\n" "const" " a) b ( ".toList :=
    ⟨by decide, ⟨['\u3000'], ['\t', '\n'], rfl, by simp [Text.isBlank], by simp [Text.isBlank]⟩,
      by decide, by decide⟩
  obtain ⟨-, reads, again, -⟩ := rules_read_back "\u3000const( a) b ( )\t\n"
  obtain ⟨s, read, isConst, argument⟩ := reads _ _ isRule
  have trimmed : String.ofList (Text.trimChars " a) b ( ".toList) = "a) b (" := by decide
  have own : s = .const "a) b (" := by
    cases s with
    | const value => exact congrArg LabelSource.const (argument.trans trimmed)
    | param | beanAttr => simp [LabelSource.kind] at isConst
  have shown : text (.const "a) b (") = "const(a) b ()" := by decide
  rw [own] at read
  have back := again _ read
  rw [shown] at back
  exact ⟨read, back⟩

end LabelSource

end BeanMeter
