import BeanMeter.Proofs.Mapping.LabelRules
import BeanMeter.Proofs.Text.Regex

/-! # Rules for labels as a regular expression

The rules for labels are given by the regular expression `^\s*(param|beanattr|const)\((.*)\)\s*$`:
its first group captures the word for the kind, and its second one what is read as the argument.

* `LabelSource.ruleRegex` — the expression, for any two groups.
* `LabelSource.Captures` — what the groups capture in a text.
* `LabelSource.found_iff_captures`, `LabelSource.Captures.unique` — where the expression is found
  its groups capture something, and that in one way only.
* `LabelSource.parse?_eq_some_iff_captures` — a rule is read from what is captured in it.
-/

namespace BeanMeter.LabelSource

open Regex (matches_cat_iff matches_word_iff)

variable {text body : List Char} {kind : String} {s : LabelSource}

/-- The expression for rules with the given groups. -/
def ruleRegex (first second : Regex) : Regex :=
  .cat .start (.cat (.star .blank) (.cat first (.cat (.char '(') (.cat second
    (.cat (.char ')') (.cat (.star .blank) .stop))))))

/-- The first group. -/
def kindRegex : Regex :=
  .alt (.word "param".toList) (.alt (.word "beanattr".toList) (.word "const".toList))

/-- The groups capture two texts: these match the groups, and the expression is still found when
they stand in the place of the groups. -/
structure Captures (text kind body : List Char) : Prop where
  first : kindRegex.Matches [] kind []
  second : Regex.Matches (.star .any) [] body []
  found : (ruleRegex (.word kind) (.word body)).Found text

/-- The texts in which the expression is found can be split along it. -/
theorem found_ruleRegex_iff {r s : Regex} : (ruleRegex r s).Found text ↔
    ∃ before kind body after, text = before ++ (kind ++ '(' :: (body ++ ')' :: after)) ∧
      (∀ c ∈ before, Text.isBlank c = true) ∧ (∀ c ∈ after, Text.isBlank c = true) ∧
      r.Matches before kind ('(' :: (body ++ ')' :: after)) ∧
      s.Matches (before ++ kind ++ ['(']) body (')' :: after) := by
  -- A part with a character or the end in it is opened as a whole, ahead of any other two parts.
  simp only [ruleRegex, Regex.found_start_cat_iff, ↓Regex.matches_cat_stop_iff,
    ↓Regex.matches_char_cat_iff, matches_cat_iff, Regex.matches_star_blank_iff]
  constructor
  · rintro ⟨_, _, rfl, before, _, rfl, leading, kind, _, rfl, first, _, rfl, body, _, rfl, second,
      after, rfl, rfl, trailing⟩
    exact ⟨before, kind, body, after, by simp, leading, trailing, by simpa using first,
      by simpa using second⟩
  · rintro ⟨before, kind, body, after, rfl, leading, trailing, first, second⟩
    exact ⟨_, [], (List.append_nil _).symm, before, _, rfl, leading, kind, _, rfl,
      by simpa using first, _, rfl, body, _, rfl, by simpa using second, after, rfl, rfl, trailing⟩

theorem matches_kindRegex_iff {before run after : List Char} : kindRegex.Matches before run after ↔
    ∃ kind ∈ ["param", "beanattr", "const"], run = kind.toList := by
  simp [kindRegex, Regex.matches_alt_iff, matches_word_iff]

theorem captures_iff : Captures text kind.toList body ↔
    kind ∈ ["param", "beanattr", "const"] ∧ '\n' ∉ body ∧
      ∃ before after, text = before ++ (kind.toList ++ '(' :: (body ++ ')' :: after)) ∧
        (∀ c ∈ before, Text.isBlank c = true) ∧ ∀ c ∈ after, Text.isBlank c = true := by
  constructor
  · rintro ⟨first, second, found⟩
    obtain ⟨word, known, same⟩ := matches_kindRegex_iff.mp first
    obtain rfl := String.toList_inj.mp same
    obtain ⟨before, _, _, after, whole, leading, trailing, own, inside⟩ :=
      found_ruleRegex_iff.mp found
    rw [matches_word_iff.mp own, matches_word_iff.mp inside] at whole
    exact ⟨known, Regex.matches_star_any_iff.mp second, before, after, whole, leading, trailing⟩
  · rintro ⟨known, oneLine, before, after, whole, leading, trailing⟩
    refine ⟨matches_kindRegex_iff.mpr ⟨kind, known, rfl⟩,
      Regex.matches_star_any_iff.mpr oneLine, found_ruleRegex_iff.mpr ?_⟩
    exact ⟨before, kind.toList, body, after, whole, leading, trailing, matches_word_iff.mpr rfl,
      matches_word_iff.mpr rfl⟩

/-- The groups capture something wherever the expression is found. -/
theorem found_iff_captures : (ruleRegex kindRegex (.star .any)).Found text ↔
    ∃ kind body, Captures text kind body := by
  constructor
  · intro found
    obtain ⟨before, _, body, after, whole, leading, trailing, first, second⟩ :=
      found_ruleRegex_iff.mp found
    obtain ⟨kind, known, rfl⟩ := matches_kindRegex_iff.mp first
    exact ⟨kind.toList, body, captures_iff.mpr
      ⟨known, Regex.matches_star_any_iff.mp second, before, after, whole, leading, trailing⟩⟩
  · rintro ⟨_, body, captured⟩
    obtain ⟨kind, known, rfl⟩ := matches_kindRegex_iff.mp captured.first
    obtain ⟨-, oneLine, before, after, whole, leading, trailing⟩ := captures_iff.mp captured
    exact found_ruleRegex_iff.mpr ⟨before, kind.toList, body, after, whole, leading, trailing,
      matches_kindRegex_iff.mpr ⟨kind, known, rfl⟩, Regex.matches_star_any_iff.mpr oneLine⟩

/-- Without the blanks around it, a text is what was captured in it and the parentheses. -/
theorem Captures.trimChars_eq (captured : Captures text kind.toList body) :
    Text.trimChars text = kind.toList ++ '(' :: (body ++ [')']) := by
  obtain ⟨known, -, before, after, whole, leading, trailing⟩ := captures_iff.mp captured
  obtain ⟨s, rfl, -⟩ := exists_source known ""
  exact trimChars_writtenAs whole leading trailing

theorem Captures.unique {word body' : List Char} {kind' : List Char}
    (captured : Captures text word body) (captured' : Captures text kind' body') :
    kind' = word ∧ body' = body := by
  obtain ⟨kind, known, rfl⟩ := matches_kindRegex_iff.mp captured.first
  obtain ⟨other, known', rfl⟩ := matches_kindRegex_iff.mp captured'.first
  obtain ⟨s, rfl, -⟩ := exists_source known ""
  -- At most one of the words stands at the beginning, and the rest is the argument.
  have same : other = s.kind := by
    by_contra different
    have none := bodyAfter?_unique known' captured.trimChars_eq different
    rw [bodyAfter?_eq_some_iff.mpr captured'.trimChars_eq] at none
    cases none
  subst same
  have whole := captured'.trimChars_eq.symm.trans captured.trimChars_eq
  rw [List.append_cancel_left_eq, List.cons.injEq, List.append_cancel_right_eq] at whole
  exact ⟨rfl, whole.2⟩

/-- The source that a rule is read as is that of the word and the argument captured in it. -/
theorem parse?_eq_some_iff_captures {rule : String} : parse? rule = some s ↔
    ∃ body, Captures rule.toList s.kind.toList body ∧
      String.ofList (Text.trimChars body) = s.argument ∧
      (s.kind ≠ "const" → s.argument ≠ "") := by
  rw [parse?_eq_some_iff]
  constructor
  · rintro ⟨before, body, after, written, leading, trailing, oneLine, argument, given⟩
    exact ⟨body, captures_iff.mpr ⟨s.kind_mem, oneLine, before, after, written, leading, trailing⟩,
      argument, given⟩
  · rintro ⟨body, captured, argument, given⟩
    obtain ⟨-, oneLine, before, after, written, leading, trailing⟩ := captures_iff.mp captured
    exact ⟨before, body, after, written, leading, trailing, oneLine, argument, given⟩

end BeanMeter.LabelSource
