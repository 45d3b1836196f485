import BeanMeter.Naming.Glob
import Mathlib.Data.List.Forall2
import Mathlib.Data.List.Infix

/-! # What globs match

The table that decides whether a glob matches is read as what it stands for: a row says of every
suffix of a text whether it can be split along a part of the glob.

* `Glob.splits_cons_iff`, `Glob.splits_star_iff` — how a text is split along one more character.
* `Glob.accepts_iff_splits` — a glob matches the texts that can be split along it.
* `Glob.splits_literal_iff` — without `*` and `?` a glob matches itself only.
-/

namespace BeanMeter.Glob

variable {p c : Char} {glob text : List Char} {row : List Bool}

/-! ## Splitting along one more character -/

theorem splits_nil_iff : Splits [] text ↔ text = [] := by
  constructor
  · intro splits
    generalize ended : [] = glob at splits
    cases splits with
    | nil => rfl
    | _ => cases ended
  · rintro rfl
    exact .nil

theorem splits_star_iff : Splits ('*' :: glob) text ↔
    ∃ run rest, text = run ++ rest ∧ '\n' ∉ run ∧ Splits glob rest := by
  constructor
  · intro splits
    generalize star : '*' :: glob = all at splits
    cases splits with
    | star run free rest =>
      obtain ⟨-, rfl⟩ := List.cons.inj star
      exact ⟨run, _, rfl, free, rest⟩
    | char _ notStar => exact absurd (List.cons.inj star).1.symm notStar
    | _ => cases star
  · rintro ⟨run, rest, rfl, free, splits⟩
    exact .star run free splits

theorem splits_cons_iff (single : p ≠ '*') : Splits (p :: glob) text ↔
    ∃ c rest, text = c :: rest ∧ covers p c = true ∧ Splits glob rest := by
  unfold covers
  constructor
  · intro splits
    generalize whole : p :: glob = all at splits
    cases splits with
    | nil => cases whole
    | star => exact absurd (List.cons.inj whole).1 single
    | one c free rest =>
      obtain ⟨rfl, rfl⟩ := List.cons.inj whole
      exact ⟨c, _, rfl, by simpa using free, rest⟩
    | char c _ notOne rest =>
      obtain ⟨rfl, rfl⟩ := List.cons.inj whole
      exact ⟨p, _, rfl, by simp [notOne], rest⟩
  · rintro ⟨c, rest, rfl, covered, splits⟩
    split at covered
    · next mark =>
      subst mark
      exact .one c (by simpa using covered) splits
    · next other =>
      obtain rfl : p = c := by simpa using covered
      exact .char p single other splits

/-- A star covers nothing, or one character and then what it covers of the rest. -/
theorem splits_star_cons_iff : Splits ('*' :: glob) (c :: text) ↔
    Splits glob (c :: text) ∨ c ≠ '\n' ∧ Splits ('*' :: glob) text := by
  rw [splits_star_iff, splits_star_iff]
  constructor
  · rintro ⟨run, rest, whole, free, splits⟩
    cases run with
    | nil => exact .inl (by simpa [whole] using splits)
    | cons x run =>
      obtain ⟨rfl, rfl⟩ := List.cons.inj whole
      simp only [List.mem_cons, not_or] at free
      exact .inr ⟨Ne.symm free.1, run, rest, rfl, free.2, splits⟩
  · rintro (splits | ⟨free, run, rest, rfl, clear, splits⟩)
    · exact ⟨[], c :: text, rfl, by simp, splits⟩
    · exact ⟨c :: run, rest, rfl, by simp [clear, Ne.symm free], splits⟩

/-! ## Rows of the table -/

/-- A row answers for every suffix of a text, the longest first. -/
def Answers (P : List Char → Prop) (text : List Char) (row : List Bool) : Prop :=
  List.Forall₂ (fun suffix answer => answer = true ↔ P suffix) text.tails row

variable {P Q : List Char → Prop}

theorem answers_nil_iff : Answers P [] row ↔ ∃ answer, row = [answer] ∧ (answer = true ↔ P []) := by
  simp [Answers, List.forall₂_cons_left_iff, and_comm]

theorem answers_cons_iff : Answers P (c :: text) row ↔
    ∃ answer later, row = answer :: later ∧ (answer = true ↔ P (c :: text)) ∧
      Answers P text later := by
  simp only [Answers, List.tails, List.forall₂_cons_left_iff]
  grind

/-- The first answer is the one for the whole text. -/
theorem Answers.whole (answers : Answers P text row) :
    ∃ answer later, row = answer :: later ∧ (answer = true ↔ P text) := by
  cases text with
  | nil =>
    obtain ⟨answer, rfl, tells⟩ := answers_nil_iff.mp answers
    exact ⟨answer, [], rfl, tells⟩
  | cons c text =>
    obtain ⟨answer, later, rfl, tells, -⟩ := answers_cons_iff.mp answers
    exact ⟨answer, later, rfl, tells⟩

theorem answers_charRow (single : p ≠ '*') (answers : Answers (Splits glob) text row) :
    Answers (Splits (p :: glob)) text (charRow p text row) := by
  induction text generalizing row with
  | nil =>
    obtain ⟨answer, rfl, -⟩ := answers_nil_iff.mp answers
    exact answers_nil_iff.mpr ⟨false, rfl, by simp [splits_cons_iff single]⟩
  | cons c text ih =>
    obtain ⟨first, later, rfl, -, others⟩ := answers_cons_iff.mp answers
    obtain ⟨next, more, rfl, tells⟩ := others.whole
    refine answers_cons_iff.mpr
      ⟨covers p c && next, charRow p text (next :: more), rfl, ?_, ih others⟩
    simp [splits_cons_iff single, tells]

theorem answers_starRow (answers : Answers (Splits glob) text row) :
    Answers (Splits ('*' :: glob)) text (starRow text row) := by
  induction text generalizing row with
  | nil =>
    obtain ⟨answer, rfl, tells⟩ := answers_nil_iff.mp answers
    exact answers_nil_iff.mpr ⟨answer, rfl, by simpa [splits_star_iff] using tells⟩
  | cons c text ih =>
    obtain ⟨first, later, rfl, now, others⟩ := answers_cons_iff.mp answers
    have rest := ih others
    obtain ⟨next, more, found, tells⟩ := rest.whole
    refine answers_cons_iff.mpr ⟨_, _, rfl, ?_, rest⟩
    simp [splits_star_cons_iff, found, now, tells]

theorem answers_suffixRow (glob text : List Char) :
    Answers (Splits glob) text (suffixRow glob text) := by
  induction glob with
  | nil =>
    -- Nothing but the empty suffix, which is the last one, is left for a glob that has ended.
    induction text with
    | nil => exact answers_nil_iff.mpr ⟨true, rfl, by simp [splits_nil_iff]⟩
    | cons c text ih =>
      exact answers_cons_iff.mpr ⟨false, suffixRow [] text, rfl, by simp [splits_nil_iff], ih⟩
  | cons p glob ih =>
    rw [suffixRow]
    split
    · next star =>
      rw [star]
      exact answers_starRow ih
    · next single => exact answers_charRow single ih

/-! ## Matching -/

/-- A glob matches exactly the texts that can be split along it. -/
theorem accepts_iff_splits : accepts glob text = true ↔ Splits glob text := by
  obtain ⟨answer, later, row, tells⟩ := (answers_suffixRow glob text).whole
  rw [accepts, row, List.headD_cons, tells]

/-- Characters that stand for themselves match nothing else. -/
theorem splits_literal_iff (literal : ∀ c ∈ glob, c ≠ '*' ∧ c ≠ '?') :
    Splits glob text ↔ text = glob := by
  induction glob generalizing text with
  | nil => exact splits_nil_iff
  | cons p glob ih =>
    obtain ⟨⟨notStar, notOne⟩, others⟩ := List.forall_mem_cons.mp literal
    simp [splits_cons_iff notStar, covers, notOne, ih others]

end BeanMeter.Glob
