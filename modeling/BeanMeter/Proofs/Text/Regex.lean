import BeanMeter.Text.Blank
import Mathlib.Data.List.Basic

/-! # Regular expressions

Regular expressions for texts that consist of given characters, blanks, arbitrary characters, choices
of such and runs of them, with as much of their usual notation as it takes to write the ones without
blanks and choices. An expression is looked for anywhere in a text, and what it matches may depend
on what stands around.

* `Regex.Matches` — what an expression matches between what stands before and what stands after.
* `Regex.Found` — an expression matches somewhere in a text.
* `Regex.word` — the expression that stands for one text.
* `Regex.parse?` — the expression in a text; `Regex.escape` writes a character so that it stands
  for itself.
-/

namespace BeanMeter

/-- A regular expression. -/
inductive Regex where
  /-- Nothing. -/
  | empty
  /-- The place before the text. -/
  | start
  /-- The place behind the text. -/
  | stop
  /-- Any one character that is not a newline. -/
  | any
  /-- Any one blank. -/
  | blank
  /-- A given character. -/
  | char (c : Char)
  /-- One expression and then another. -/
  | cat (r s : Regex)
  /-- One of two expressions. -/
  | alt (r s : Regex)
  /-- An expression any number of times. -/
  | star (r : Regex)
  deriving DecidableEq, Repr

namespace Regex

variable {r s : Regex} {c : Char} {before run after text : List Char}

/-! ## Meaning -/

/-- An expression matches a run of characters, with other characters before and after it. -/
inductive Matches : Regex → List Char → List Char → List Char → Prop
  | empty {before after : List Char} : Matches .empty before [] after
  | start {after : List Char} : Matches .start [] [] after
  | stop {before : List Char} : Matches .stop before [] []
  | any {before after : List Char} {c : Char} : c ≠ '\n' → Matches .any before [c] after
  | blank {before after : List Char} {c : Char} : Text.isBlank c = true →
      Matches .blank before [c] after
  | char {before after : List Char} {c : Char} : Matches (.char c) before [c] after
  | cat {r s : Regex} {before run more after : List Char} : Matches r before run (more ++ after) →
      Matches s (before ++ run) more after → Matches (.cat r s) before (run ++ more) after
  | left {r s : Regex} {before run after : List Char} : Matches r before run after →
      Matches (.alt r s) before run after
  | right {r s : Regex} {before run after : List Char} : Matches s before run after →
      Matches (.alt r s) before run after
  | done {r : Regex} {before after : List Char} : Matches (.star r) before [] after
  | again {r : Regex} {before run more after : List Char} : Matches r before run (more ++ after) →
      Matches (.star r) (before ++ run) more after → Matches (.star r) before (run ++ more) after

/-- An expression matches some run of characters in a text. -/
def Found (r : Regex) (text : List Char) : Prop :=
  ∃ before run after, text = before ++ (run ++ after) ∧ r.Matches before run after

theorem matches_empty_iff : Matches .empty before run after ↔ run = [] := by
  constructor
  · rintro ⟨⟩
    rfl
  · rintro rfl
    exact .empty

theorem matches_start_iff : Matches .start before run after ↔ before = [] ∧ run = [] := by
  constructor
  · rintro ⟨⟩
    exact ⟨rfl, rfl⟩
  · rintro ⟨rfl, rfl⟩
    exact .start

theorem matches_stop_iff : Matches .stop before run after ↔ run = [] ∧ after = [] := by
  constructor
  · rintro ⟨⟩
    exact ⟨rfl, rfl⟩
  · rintro ⟨rfl, rfl⟩
    exact .stop

theorem matches_any_iff : Matches .any before run after ↔ ∃ c, run = [c] ∧ c ≠ '\n' := by
  constructor
  · rintro ⟨⟩
    exact ⟨_, rfl, ‹_›⟩
  · rintro ⟨c, rfl, free⟩
    exact .any free

theorem matches_blank_iff :
    Matches .blank before run after ↔ ∃ c, run = [c] ∧ Text.isBlank c = true := by
  constructor
  · rintro ⟨⟩
    exact ⟨_, rfl, ‹_›⟩
  · rintro ⟨c, rfl, shown⟩
    exact .blank shown

theorem matches_char_iff : Matches (.char c) before run after ↔ run = [c] := by
  constructor
  · rintro ⟨⟩
    rfl
  · rintro rfl
    exact .char

theorem matches_cat_iff : Matches (.cat r s) before run after ↔ ∃ first second,
    run = first ++ second ∧ Matches r before first (second ++ after) ∧
      Matches s (before ++ first) second after := by
  constructor
  · rintro (_ | _ | _ | _ | _ | _ | ⟨first, second⟩)
    exact ⟨_, _, rfl, first, second⟩
  · rintro ⟨first, second, rfl, own, other⟩
    exact .cat own other

theorem matches_char_cat_iff : Matches (.cat (.char c) r) before run after ↔
    ∃ more, run = c :: more ∧ Matches r (before ++ [c]) more after := by
  simp only [matches_cat_iff, matches_char_iff]
  constructor
  · rintro ⟨_, more, rfl, rfl, rest⟩
    exact ⟨more, rfl, rest⟩
  · rintro ⟨more, rfl, rest⟩
    exact ⟨[c], more, rfl, rfl, rest⟩

theorem matches_cat_stop_iff : Matches (.cat r .stop) before run after ↔
    after = [] ∧ Matches r before run [] := by
  simp only [matches_cat_iff, matches_stop_iff]
  constructor
  · rintro ⟨first, _, rfl, own, rfl, rfl⟩
    exact ⟨rfl, by simpa using own⟩
  · rintro ⟨rfl, own⟩
    exact ⟨run, [], by simp, own, rfl, rfl⟩

/-- An expression that begins before the text is found there or nowhere. -/
theorem found_start_cat_iff : Found (.cat .start r) text ↔
    ∃ run after, text = run ++ after ∧ Matches r [] run after := by
  simp only [Found, matches_cat_iff, matches_start_iff]
  constructor
  · rintro ⟨_, _, after, rfl, _, run, rfl, ⟨rfl, rfl⟩, own⟩
    exact ⟨run, after, rfl, own⟩
  · rintro ⟨run, after, rfl, own⟩
    exact ⟨[], run, after, rfl, [], run, rfl, ⟨rfl, rfl⟩, own⟩

theorem matches_alt_iff : Matches (.alt r s) before run after ↔
    Matches r before run after ∨ Matches s before run after := by
  constructor
  · intro matched
    cases matched with
    | left own => exact .inl own
    | right own => exact .inr own
  · rintro (own | own)
    · exact .left own
    · exact .right own

/-- A run of any length of what an expression for single characters matches. -/
theorem matches_star_iff {p : Char → Prop}
    (single : ∀ before run after, Matches r before run after ↔ ∃ c, run = [c] ∧ p c) :
    Matches (.star r) before run after ↔ ∀ c ∈ run, p c := by
  constructor
  · intro matched
    generalize repeated : Regex.star r = s at matched
    induction matched with
    | done => simp
    | again first _ _ ih =>
      cases repeated
      obtain ⟨c, rfl, own⟩ := (single _ _ _).mp first
      simpa [own] using ih rfl
    | empty | start | stop | any | blank | char | cat | left | right => cases repeated
  · intro each
    induction run generalizing before with
    | nil => exact .done
    | cons c run ih =>
      obtain ⟨own, others⟩ := List.forall_mem_cons.mp each
      have first : Matches r before [c] (run ++ after) := (single _ _ _).mpr ⟨c, rfl, own⟩
      exact .again first (ih others)

theorem matches_star_any_iff : Matches (.star .any) before run after ↔ '\n' ∉ run := by
  rw [matches_star_iff fun _ _ _ => matches_any_iff]
  exact ⟨fun each newline => each _ newline rfl, fun free c member same => free (same ▸ member)⟩

theorem matches_star_blank_iff :
    Matches (.star .blank) before run after ↔ ∀ c ∈ run, Text.isBlank c = true :=
  matches_star_iff fun _ _ _ => matches_blank_iff

/-- A given text. -/
def word : List Char → Regex
  | [] => .empty
  | c :: cs => .cat (.char c) (word cs)

theorem matches_word_iff {cs : List Char} : Matches (word cs) before run after ↔ run = cs := by
  induction cs generalizing before run with
  | nil => exact matches_empty_iff
  | cons c cs ih =>
    simp only [word, matches_char_cat_iff, ih, exists_eq_right]

/-! ## Notation -/

/-- The characters that may be escaped; all that mean more than themselves are among them. -/
def metaChars : List Char :=
  ['\\', '.', '+', '*', '?', '(', ')', '|', '[', ']', '\x7b', '\x7d', '^', '$', '#', '&', '-', '~']

/-- A character written so that it stands for itself. -/
def escape (c : Char) : List Char := if c ∈ metaChars then ['\\', c] else [c]

/-- A part of an expression, or the mark that repeats the part before it. -/
inductive Token where
  | part (r : Regex)
  | star
  deriving DecidableEq, Repr

/-- What a character means by itself. Groups, classes, choices and other kinds of repetition are not
in this part of the notation. -/
def token? (c : Char) : Option Token :=
  if c = '.' then some (.part .any)
  else if c = '^' then some (.part .start)
  else if c = '$' then some (.part .stop)
  else if c = '*' then some .star
  else if c ∈ ['\\', '+', '?', '(', ')', '|', '[', '\x7b'] then none
  else some (.part (.char c))

/-- The parts in a text. A backslash takes the meaning away from the character behind it. -/
def tokens? : List Char → Option (List Token)
  | [] => some []
  | '\\' :: c :: rest =>
    if c ∈ metaChars then (tokens? rest).map (.part (.char c) :: ·) else none
  | c :: rest => (token? c).bind fun t => (tokens? rest).map (t :: ·)

/-- The expression of a sequence of parts, none of which is repeated more than once. -/
def ofTokens? : List Token → Option Regex
  | [] => some .empty
  | .star :: _ => none
  | .part r :: .star :: rest => (ofTokens? rest).map (.cat (.star r))
  | .part r :: rest => (ofTokens? rest).map (.cat r)

/-- The expression in a text. -/
def parse? (text : List Char) : Option Regex := (tokens? text).bind ofTokens?

theorem tokens?_cons (bare : c ≠ '\\') :
    tokens? (c :: text) = (token? c).bind fun t => (tokens? text).map (t :: ·) := by
  rw [tokens?]
  exact fun _ _ same _ => bare same

/-- Whatever a character means, it is read as itself once it has been escaped. -/
theorem tokens?_escape (c : Char) (text : List Char) :
    tokens? (escape c ++ text) = (tokens? text).map (.part (.char c) :: ·) := by
  rw [escape]
  split
  · next special => simp [tokens?, special]
  · next plain =>
    have own : token? c = some (.part (.char c)) := by
      simp only [metaChars, List.mem_cons, List.not_mem_nil, or_false, not_or] at plain
      simp [token?, plain]
    have bare : c ≠ '\\' := by
      rintro rfl
      exact plain (by decide)
    rw [List.singleton_append, tokens?_cons bare, own, Option.bind_some]

theorem ofTokens?_part {rest : List Token} (next : rest.head? ≠ some .star) :
    ofTokens? (.part r :: rest) = (ofTokens? rest).map (.cat r) := by
  cases rest with
  | nil => rfl
  | cons t rest =>
    cases t with
    | part => rfl
    | star => exact absurd rfl next

end Regex

end BeanMeter
