import BeanMeter.Mapping.LabelSource
import BeanMeter.Proofs.Text.Separators

/-! # Rules for labels

Which texts are rules for labels, and which source each of them stands for.

* `LabelSource.WrittenAs` — the texts that stand for a source.
* `LabelSource.parse?_eq_some_iff` — these are the texts that are read as the source.
* `LabelSource.parse?_text` — the plain form of a rule is read back.
-/

namespace BeanMeter.LabelSource

variable {kind : String} {cs body : List Char} {s : LabelSource} {rule : String}

/-! ## What is written -/

/-- The texts that stand for a source: the word for its kind and an argument in parentheses, with
blanks around the whole and around the argument. The argument is on one line, may hold parentheses
itself, and is left empty for fixed values only. -/
def WrittenAs (s : LabelSource) (rule : String) : Prop :=
  ∃ before body after,
    rule.toList = before ++ (s.kind.toList ++ '(' :: (body ++ ')' :: after)) ∧
      (∀ c ∈ before, Text.isBlank c = true) ∧ (∀ c ∈ after, Text.isBlank c = true) ∧
      '\n' ∉ body ∧ String.ofList (Text.trimChars body) = s.argument ∧
      (s.kind ≠ "const" → s.argument ≠ "")

theorem kind_mem (s : LabelSource) : s.kind ∈ ["param", "beanattr", "const"] := by
  cases s <;> simp [LabelSource.kind]

/-- There is a source of every kind with every argument. -/
theorem exists_source (known : kind ∈ ["param", "beanattr", "const"]) (argument : String) :
    ∃ s : LabelSource, s.kind = kind ∧ s.argument = argument := by
  simp only [List.mem_cons, List.not_mem_nil, or_false] at known
  rcases known with rfl | rfl | rfl
  · exact ⟨.param argument, rfl, rfl⟩
  · exact ⟨.beanAttr argument, rfl, rfl⟩
  · exact ⟨.const argument, rfl, rfl⟩

/-! ## What is read -/

theorem bodyAfter?_eq_some_iff :
    bodyAfter? kind cs = some body ↔ cs = kind.toList ++ '(' :: (body ++ [')']) := by
  simp only [bodyAfter?, Option.bind_eq_some_iff, Text.stripStart?_eq_some_iff]
  constructor
  · rintro ⟨rest, rfl, found⟩
    split at found
    · next closed =>
      cases found
      simp [List.dropLast_append_getLast? _ closed]
    · cases found
  · rintro rfl
    exact ⟨body ++ [')'], by simp, by simp⟩

theorem make?_eq_some_iff (known : kind ∈ ["param", "beanattr", "const"]) :
    make? kind cs = some s ↔
      s.kind = kind ∧ String.ofList cs = s.argument ∧ (s.kind ≠ "const" → s.argument ≠ "") := by
  have given : String.ofList cs = "" ↔ cs = [] := by
    rw [← String.toList_inj, String.toList_ofList]
    rfl
  simp only [List.mem_cons, List.not_mem_nil, or_false] at known
  -- Three words against three kinds: where they do not fit, both sides are false.
  rcases known with rfl | rfl | rfl <;> cases s <;>
    simp [make?, LabelSource.kind, argument] <;> grind

/-- The words for the kinds begin differently, so that at most one of them is found in front of an
argument. -/
theorem bodyAfter?_unique (known : kind ∈ ["param", "beanattr", "const"])
    (found : cs = s.kind.toList ++ '(' :: (body ++ [')'])) (other : kind ≠ s.kind) :
    bodyAfter? kind cs = none := by
  rw [Option.eq_none_iff_forall_ne_some]
  intro argument read
  rw [bodyAfter?_eq_some_iff, found] at read
  have initials := congrArg List.head? read
  simp only [List.mem_cons, List.not_mem_nil, or_false] at known
  rcases known with rfl | rfl | rfl <;> cases s <;> simp [LabelSource.kind] at initials other

theorem trimChars_writtenAs {before after : List Char}
    (written : cs = before ++ (s.kind.toList ++ '(' :: (body ++ ')' :: after)))
    (leading : ∀ c ∈ before, Text.isBlank c = true)
    (trailing : ∀ c ∈ after, Text.isBlank c = true) :
    Text.trimChars cs = s.kind.toList ++ '(' :: (body ++ [')']) := by
  -- Trimming stops at the first letter of the word and at the last parenthesis.
  obtain ⟨first, word, spelled, visible⟩ : ∃ first word,
      s.kind.toList = first :: word ∧ Text.isBlank first = false := by
    cases s with
    | param key => exact ⟨'p', "aram".toList, by simp [LabelSource.kind], by decide⟩
    | beanAttr attr => exact ⟨'b', "eanattr".toList, by simp [LabelSource.kind], by decide⟩
    | const value => exact ⟨'c', "onst".toList, by simp [LabelSource.kind], by decide⟩
  have closing : Text.isBlank ')' = false := by decide
  have ends : word ++ '(' :: (body ++ ')' :: after) = (word ++ '(' :: body) ++ ')' :: after := by
    simp
  rw [written, spelled, List.cons_append, Text.trimChars_append_cons visible,
    Text.trimStart_eq_nil leading, ends, Text.trimEnd_append_cons closing,
    Text.trimEnd_eq_nil trailing]
  simp

/-- Rules are read as what they are written for. -/
theorem parse?_eq_some_iff : parse? rule = some s ↔ s.WrittenAs rule := by
  constructor
  · intro read
    obtain ⟨kind, known, read⟩ := List.exists_of_findSome?_eq_some read
    obtain ⟨body, found, made⟩ := Option.bind_eq_some_iff.mp read
    rw [bodyAfter?_eq_some_iff] at found
    split at made
    · cases made
    · next oneLine =>
      obtain ⟨rfl, argument, given⟩ := (make?_eq_some_iff known).mp made
      obtain ⟨before, after, whole, leading, trailing⟩ :=
        Text.exists_blanks_trimChars rule.toList
      exact ⟨before, body, after, by simpa [found] using whole, leading, trailing,
        by simpa using oneLine, argument, given⟩
  · rintro ⟨before, body, after, written, leading, trailing, oneLine, argument, given⟩
    have trimmed := trimChars_writtenAs written leading trailing
    -- The words are tried one after the other; it has to be seen that no earlier one is found.
    have own : bodyAfter? s.kind (Text.trimChars rule.toList) = some body :=
      bodyAfter?_eq_some_iff.mpr trimmed
    have others : ∀ kind ∈ ["param", "beanattr", "const"], kind ≠ s.kind →
        bodyAfter? kind (Text.trimChars rule.toList) = none :=
      fun kind known other => bodyAfter?_unique known trimmed other
    have made : make? s.kind (Text.trimChars body) = some s :=
      (make?_eq_some_iff s.kind_mem).mpr ⟨rfl, argument, given⟩
    have clear : body.contains '\n' = false := by simpa using oneLine
    rw [parse?]
    cases s <;> simp_all [LabelSource.kind, List.findSome?]

/-! ## The plain form -/

/-- A source whose argument reads the same in a rule as by itself: there are no blanks around it
that would be dropped, and it is all on one line. -/
structure Plain (s : LabelSource) : Prop where
  trimmed : Text.trimChars s.argument.toList = s.argument.toList
  oneLine : '\n' ∉ s.argument.toList
  given : s.kind ≠ "const" → s.argument ≠ ""

instance (s : LabelSource) : Decidable s.Plain :=
  decidable_of_iff (Text.trimChars s.argument.toList = s.argument.toList ∧
      '\n' ∉ s.argument.toList ∧ (s.kind ≠ "const" → s.argument ≠ ""))
    ⟨fun ⟨trimmed, oneLine, given⟩ => ⟨trimmed, oneLine, given⟩,
      fun plain => ⟨plain.trimmed, plain.oneLine, plain.given⟩⟩

theorem parse?_text (plain : s.Plain) : parse? s.text = some s :=
  parse?_eq_some_iff.mpr ⟨[], s.argument.toList, [], by simp [text], by simp, by simp,
    plain.oneLine, by rw [plain.trimmed, String.ofList_toList], plain.given⟩

end BeanMeter.LabelSource
