import BeanMeter.Proofs.Naming.Globs
import BeanMeter.Proofs.Text.Regex

/-! # Globs as regular expressions

A glob is also a regular expression: `*` is a run of characters, `?` is one character, and every
other character is written so that it stands for itself. Between a mark for the start and one for
the end of a text the expression is found in exactly those texts that the glob matches.

* `Glob.regexText` — the expression for a glob, as it is written.
* `Glob.tokens?_regexText` — what is written is read part by part.
* `Glob.regex_exact` — the expression matches the texts that can be split along the glob, as a
  whole.
-/

namespace BeanMeter.Glob

open Regex (Token tokens? ofTokens?)

variable {glob text : List Char}

/-! ## The expression for a glob -/

/-- How a character of a glob is written in an expression. -/
def regexChar (c : Char) : List Char :=
  if c = '*' then ['.', '*'] else if c = '?' then ['.'] else Regex.escape c

/-- The expression for a glob. It is tied to both ends of a text. -/
def regexText (glob : List Char) : List Char := '^' :: (glob.flatMap regexChar ++ ['$'])

/-- The expression for a character of a glob that covers one character. -/
def single (c : Char) : Regex := if c = '?' then .any else .char c

/-- The parts that a character of a glob is read as. -/
def regexTokens (c : Char) : List Token :=
  if c = '*' then [.part .any, .star] else [.part (single c)]

theorem tokens?_regexChar (c : Char) (rest : List Char) :
    tokens? (regexChar c ++ rest) = (tokens? rest).map (regexTokens c ++ ·) := by
  have dot {after : List Char} : tokens? ('.' :: after) = (tokens? after).map (.part .any :: ·) :=
    Regex.tokens?_cons (by decide)
  have mark {after : List Char} : tokens? ('*' :: after) = (tokens? after).map (.star :: ·) :=
    Regex.tokens?_cons (by decide)
  rw [regexChar, regexTokens, single]
  split
  · simp [dot, mark, Function.comp_def]
  · split
    · simp [dot]
    · exact Regex.tokens?_escape c rest

theorem tokens?_flatMap (glob rest : List Char) :
    tokens? (glob.flatMap regexChar ++ rest) =
      (tokens? rest).map (glob.flatMap regexTokens ++ ·) := by
  induction glob with
  | nil => simp
  | cons c glob ih =>
    rw [List.flatMap_cons, List.flatMap_cons, List.append_assoc, tokens?_regexChar, ih,
      Option.map_map]
    simp [Function.comp_def]

/-- Nothing in a glob is read as anything but what it stands for. -/
theorem tokens?_regexText (glob : List Char) : tokens? (regexText glob) =
    some (.part .start :: (glob.flatMap regexTokens ++ [.part .stop])) := by
  have first : tokens? (regexText glob) =
      (tokens? (glob.flatMap regexChar ++ ['$'])).map (.part .start :: ·) :=
    Regex.tokens?_cons (by decide)
  rw [first, tokens?_flatMap]
  rfl

/-! ## What it matches -/

/-- The star behind a part is the only one: what comes next begins with a part of its own. -/
theorem head?_tokens (glob : List Char) :
    (glob.flatMap regexTokens ++ [Token.part .stop]).head? ≠ some .star := by
  cases glob with
  | nil => simp
  | cons c glob =>
    rw [List.flatMap_cons, regexTokens]
    split <;> simp

theorem matches_single_iff {p : Char} {before run after : List Char} :
    (single p).Matches before run after ↔ ∃ c, run = [c] ∧ covers p c = true := by
  rw [single]
  by_cases one : p = '?'
  · simp [one, covers, Regex.matches_any_iff]
  · simp [one, covers, Regex.matches_char_iff]

/-- Read from any position in a glob, the expression matches what can be split along the rest of
the glob, if nothing comes after. -/
theorem exists_ofTokens? (glob : List Char) :
    ∃ r, ofTokens? (glob.flatMap regexTokens ++ [.part .stop]) = some r ∧
      ∀ before run after, r.Matches before run after ↔ after = [] ∧ Splits glob run := by
  induction glob with
  | nil =>
    refine ⟨.cat .stop .empty, rfl, fun before run after => ?_⟩
    simp [Regex.matches_cat_iff, Regex.matches_stop_iff, Regex.matches_empty_iff, splits_nil_iff,
      and_comm]
  | cons c glob ih =>
    obtain ⟨r, read, matched⟩ := ih
    rw [List.flatMap_cons, regexTokens]
    by_cases star : c = '*'
    · refine ⟨.cat (.star .any) r, ?_, fun before run after => ?_⟩
      · simp [star, ofTokens?, read]
      · simp only [star, Regex.matches_cat_iff, Regex.matches_star_any_iff, matched,
          splits_star_iff]
        grind
    · refine ⟨.cat (single c) r, ?_, fun before run after => ?_⟩
      · rw [if_neg star, List.singleton_append, List.cons_append,
          Regex.ofTokens?_part (head?_tokens glob), read, Option.map_some]
      · simp only [Regex.matches_cat_iff, matches_single_iff, matched, splits_cons_iff star]
        constructor
        · rintro ⟨_, rest, rfl, ⟨x, rfl, covered⟩, ends, splits⟩
          exact ⟨ends, x, rest, rfl, covered, splits⟩
        · rintro ⟨ends, x, rest, rfl, covered, splits⟩
          exact ⟨[x], rest, rfl, ⟨x, rfl, covered⟩, ends, splits⟩

/-- The expression for a glob can be read. It matches nothing but whole texts, and of these the ones
that can be split along the glob. So these are the texts in which it is found, and they are those
that the table of the glob accepts. -/
theorem regex_exact (glob : List Char) : ∃ r, Regex.parse? (regexText glob) = some r ∧
    (∀ before run after, r.Matches before run after ↔
      before = [] ∧ after = [] ∧ Splits glob run) ∧
    ∀ text, (r.Found text ↔ Splits glob text) ∧ (accepts glob text = true ↔ r.Found text) := by
  obtain ⟨r, read, matched⟩ := exists_ofTokens? glob
  have whole : ∀ before run after, (Regex.cat .start r).Matches before run after ↔
      before = [] ∧ after = [] ∧ Splits glob run := by
    intro before run after
    simp only [Regex.matches_cat_iff, Regex.matches_start_iff, matched]
    constructor
    · rintro ⟨first, rest, rfl, ⟨rfl, rfl⟩, ends, splits⟩
      exact ⟨rfl, ends, splits⟩
    · rintro ⟨rfl, ends, splits⟩
      exact ⟨[], run, rfl, ⟨rfl, rfl⟩, ends, splits⟩
  have found : ∀ text, (Regex.cat .start r).Found text ↔ Splits glob text := by
    intro text
    simp only [Regex.Found, whole]
    constructor
    · rintro ⟨_, run, _, rfl, rfl, rfl, splits⟩
      simpa using splits
    · intro splits
      exact ⟨[], text, [], by simp, rfl, rfl, splits⟩
  refine ⟨.cat .start r, ?_, whole, fun text => ⟨found text, ?_⟩⟩
  · rw [Regex.parse?, tokens?_regexText, Option.bind_some,
      Regex.ofTokens?_part (head?_tokens glob), read, Option.map_some]
  · exact accepts_iff_splits.trans (found text).symm

example : regexText "a.b?*".toList = "^a\\.b..*$".toList := by decide

end BeanMeter.Glob
