import BeanMeter.Text.Blank
import BeanMeter.Text.LowerCase
import BeanMeter.Text.Split
import Mathlib.Data.List.DropRight
import Mathlib.Data.List.TakeWhile

/-! # Separators

What becomes of commas and blanks when a text is put into lower case, trimmed and split.

* `Text.forall_mem_splitOn_iff` — the pieces of a text have what the text has, without separators.
* `Text.forall_mem_trimChars_iff` — trimming loses blanks only.
* `Text.trimChars_append_cons` — the ends of a text are trimmed apart from each other.
* `Text.trimChars_surrounded` — blanks around a text do not count.
* `Text.exists_blanks_trimChars` — what is trimmed away.
* `Text.splitOn_eq_iff` — the pieces of a text, without reference to how they are found.
* `Text.splitOn_terminated`, `Text.lines_terminated` — lines are read back.
* `Text.forall_mem_lowerAfter_iff` — lower case neither makes nor loses a comma or a blank.
-/

namespace BeanMeter.Text

variable {P : Char → Prop} {cs : List Char} {c : Char}

/-! ## Splitting and trimming -/

theorem forall_mem_splitOn_iff {sep : Char} :
    (∀ piece ∈ splitOn sep cs, ∀ c ∈ piece, P c) ↔ ∀ c ∈ cs, c = sep ∨ P c := by
  induction cs with
  | nil => simp [splitOn]
  | cons c rest ih =>
    unfold splitOn
    split
    · next same => simp [same, ih]
    · next other =>
      rw [List.forall_mem_cons, ← ih]
      split
      · next none => simp [none, other]
      · next piece pieces found => simp [found, other, and_assoc]

theorem forall_mem_dropWhile_iff {p : Char → Bool} (dropped : ∀ c, p c = true → P c) :
    (∀ c ∈ cs.dropWhile p, P c) ↔ ∀ c ∈ cs, P c := by
  induction cs with
  | nil => simp
  | cons c rest ih =>
    rw [List.dropWhile_cons]
    split
    · next drops => simp [ih, dropped c drops]
    · rfl

theorem forall_mem_trimChars_iff (blank : ∀ c, isBlank c = true → P c) :
    (∀ c ∈ trimChars cs, P c) ↔ ∀ c ∈ cs, P c := by
  have start : (∀ c ∈ trimStart cs, P c) ↔ ∀ c ∈ cs, P c := forall_mem_dropWhile_iff blank
  have ends : (∀ c ∈ (trimStart cs).reverse.dropWhile isBlank, P c) ↔
      ∀ c ∈ (trimStart cs).reverse, P c := forall_mem_dropWhile_iff blank
  rw [← start, trimChars, trimEnd]
  simpa only [List.mem_reverse] using ends

theorem trimStart_eq_nil (blank : ∀ c ∈ cs, isBlank c = true) : trimStart cs = [] :=
  List.dropWhile_eq_nil_iff.mpr blank

theorem trimChars_eq_nil_iff : trimChars cs = [] ↔ ∀ c ∈ cs, isBlank c = true := by
  constructor
  · intro none
    have blank : ∀ c ∈ trimChars cs, isBlank c = true := by simp [none]
    exact (forall_mem_trimChars_iff fun _ blank => blank).mp blank
  · intro blank
    simp [trimChars, trimEnd, trimStart_eq_nil blank]

theorem trimChars_sublist : (trimChars cs).Sublist cs :=
  (List.rdropWhile_prefix isBlank _).sublist.trans (List.dropWhile_sublist isBlank)

theorem dropWhile_append_cons {p : Char → Bool} (stops : p c = false) (after : List Char) :
    (cs ++ c :: after).dropWhile p = cs.dropWhile p ++ c :: after := by
  induction cs with
  | nil => simp [stops]
  | cons x rest ih =>
    rw [List.cons_append, List.dropWhile_cons, List.dropWhile_cons]
    split
    · exact ih
    · rfl

theorem trimEnd_append_cons (visible : isBlank c = false) (after : List Char) :
    trimEnd (cs ++ c :: after) = cs ++ c :: trimEnd after := by
  have ends := @dropWhile_append_cons after.reverse c isBlank visible cs.reverse
  rw [trimEnd, List.reverse_append, List.reverse_cons, List.append_assoc, List.singleton_append,
    ends]
  simp [trimEnd]

/-- A character that is not blank is trimmed neither away nor across. -/
theorem trimChars_append_cons (visible : isBlank c = false) (after : List Char) :
    trimChars (cs ++ c :: after) = trimStart cs ++ c :: trimEnd after := by
  have start : trimStart (cs ++ c :: after) = trimStart cs ++ c :: after :=
    dropWhile_append_cons visible after
  rw [trimChars, start, trimEnd_append_cons visible]

theorem trimEnd_eq_nil (blank : ∀ c ∈ cs, isBlank c = true) : trimEnd cs = [] := by
  rw [trimEnd, List.dropWhile_eq_nil_iff.mpr (by simpa using blank), List.reverse_nil]

theorem trimEnd_append_of_visible {after : List Char} (visible : isBlank c = false)
    (member : c ∈ after) : trimEnd (cs ++ after) = cs ++ trimEnd after := by
  obtain ⟨before, rest, rfl⟩ := List.append_of_mem member
  rw [← List.append_assoc, trimEnd_append_cons visible, trimEnd_append_cons visible,
    List.append_assoc]

/-- Blanks around a text do not count. -/
theorem trimChars_surrounded {before after : List Char} (leading : ∀ c ∈ before, isBlank c = true)
    (trailing : ∀ c ∈ after, isBlank c = true) :
    trimChars (before ++ (cs ++ after)) = trimChars cs := by
  by_cases blank : ∀ c ∈ cs, isBlank c = true
  · have all : ∀ c ∈ before ++ (cs ++ after), isBlank c = true := by
      rw [List.forall_mem_append, List.forall_mem_append]
      exact ⟨leading, blank, trailing⟩
    rw [trimChars_eq_nil_iff.mpr all, trimChars_eq_nil_iff.mpr blank]
  · -- The first and the last visible character of the text stay where they are.
    push Not at blank
    obtain ⟨c, member, visible⟩ := blank
    obtain ⟨start, rest, rfl⟩ := List.append_of_mem member
    have seen : isBlank c = false := by simpa using visible
    have whole : before ++ ((start ++ c :: rest) ++ after) =
        (before ++ start) ++ c :: (rest ++ after) := by simp
    have front : trimStart (before ++ start) = trimStart start :=
      List.dropWhile_append_of_pos leading
    have back : trimEnd (rest ++ after) = trimEnd rest := by
      rw [trimEnd, List.reverse_append, List.dropWhile_append_of_pos (by simpa using trailing),
        trimEnd]
    rw [whole, trimChars_append_cons seen, trimChars_append_cons seen, front, back]

theorem exists_blanks_trimChars (cs : List Char) : ∃ before after,
    cs = before ++ (trimChars cs ++ after) ∧
      (∀ c ∈ before, isBlank c = true) ∧ ∀ c ∈ after, isBlank c = true := by
  refine ⟨cs.takeWhile isBlank, ((trimStart cs).reverse.takeWhile isBlank).reverse, ?_,
    fun _ => List.mem_takeWhile_imp, fun c member =>
      List.mem_takeWhile_imp (List.mem_reverse.mp member)⟩
  rw [trimChars, trimEnd, ← List.reverse_append, List.takeWhile_append_dropWhile,
    List.reverse_reverse, trimStart, List.takeWhile_append_dropWhile]

theorem trimChars_idempotent (cs : List Char) : trimChars (trimChars cs) = trimChars cs := by
  obtain ⟨before, after, whole, leading, trailing⟩ := exists_blanks_trimChars cs
  have trimmed : trimChars (before ++ (trimChars cs ++ after)) = trimChars (trimChars cs) :=
    trimChars_surrounded leading trailing
  rw [← whole] at trimmed
  exact trimmed.symm

theorem head?_any_eq_false {p : Char → Bool} (none : ∀ c ∈ cs, p c = false) :
    cs.head?.any p = false := by
  cases cs with
  | nil => rfl
  | cons c cs => exact none c List.mem_cons_self

theorem dropWhile_eq_self {p : Char → Bool} (first : cs.head?.any p = false) :
    cs.dropWhile p = cs := by
  cases cs with
  | nil => rfl
  | cons c cs => simp_all

theorem trimChars_eq_self (first : cs.head?.any isBlank = false)
    (last : cs.getLast?.any isBlank = false) : trimChars cs = cs := by
  have ends : cs.reverse.dropWhile isBlank = cs.reverse :=
    dropWhile_eq_self (by simpa using last)
  rw [trimChars, trimStart, dropWhile_eq_self first, trimEnd, ends, List.reverse_reverse]

theorem trimEnd_eq_self_iff : trimEnd cs = cs ↔ cs.getLast?.any isBlank = false := by
  have stays : trimEnd cs = cs ↔ ∀ some : cs ≠ [], ¬ isBlank (cs.getLast some) :=
    List.rdropWhile_eq_self_iff
  rw [stays]
  by_cases none : cs = []
  · simp [none]
  · simp [none, List.getLast?_eq_some_getLast none]

/-! ## Pieces and lines -/

theorem splitOn_eq_singleton {sep : Char} (clear : sep ∉ cs) : splitOn sep cs = [cs] := by
  induction cs with
  | nil => rfl
  | cons c rest ih =>
    simp only [List.mem_cons, not_or] at clear
    rw [splitOn, if_neg (Ne.symm clear.1), ih clear.2]

theorem splitOn_append_cons {sep : Char} {piece : List Char} (clear : sep ∉ piece) :
    splitOn sep (piece ++ sep :: cs) = piece :: splitOn sep cs := by
  induction piece with
  | nil => simp [splitOn]
  | cons c piece ih =>
    simp only [List.mem_cons, not_or] at clear
    rw [List.cons_append, splitOn, if_neg (Ne.symm clear.1), ih clear.2]

theorem splitOn_terminated {sep : Char} {pieces : List (List Char)}
    (clear : ∀ piece ∈ pieces, sep ∉ piece) :
    splitOn sep (pieces.flatMap fun piece => piece ++ [sep]) = pieces ++ [[]] := by
  induction pieces with
  | nil => rfl
  | cons piece pieces ih =>
    obtain ⟨own, others⟩ := List.forall_mem_cons.mp clear
    rw [List.flatMap_cons, List.append_assoc, List.singleton_append, splitOn_append_cons own,
      ih others, List.cons_append]

theorem splitOn_ne_nil {sep : Char} : splitOn sep cs ≠ [] := by
  cases cs with
  | nil => simp [splitOn]
  | cons c rest =>
    unfold splitOn
    split
    · simp
    · split <;> simp

theorem intercalate_splitOn {sep : Char} : [sep].intercalate (splitOn sep cs) = cs := by
  induction cs with
  | nil => rfl
  | cons c rest ih =>
    unfold splitOn
    split
    · next same => rw [List.intercalate_cons_of_ne_nil splitOn_ne_nil, ih, same]; rfl
    · split
      · next none => exact absurd none splitOn_ne_nil
      · next piece pieces found => rw [List.intercalate_cons_cons_left, ← found, ih]

theorem splitOn_intercalate {sep : Char} {pieces : List (List Char)} (some : pieces ≠ [])
    (clear : ∀ piece ∈ pieces, sep ∉ piece) : splitOn sep ([sep].intercalate pieces) = pieces := by
  induction pieces with
  | nil => contradiction
  | cons piece pieces ih =>
    obtain ⟨own, others⟩ := List.forall_mem_cons.mp clear
    cases pieces with
    | nil => rw [List.intercalate_singleton, splitOn_eq_singleton own]
    | cons next pieces =>
      rw [List.intercalate_cons_cons, List.append_assoc, List.singleton_append,
        splitOn_append_cons own, ih (by simp) others]

/-- The pieces of a text are what has no separators and makes the text again with them between. -/
theorem splitOn_eq_iff {sep : Char} {pieces : List (List Char)} : splitOn sep cs = pieces ↔
    pieces ≠ [] ∧ [sep].intercalate pieces = cs ∧ ∀ piece ∈ pieces, sep ∉ piece := by
  constructor
  · rintro rfl
    have clear : ∀ piece ∈ splitOn sep cs, ∀ c ∈ piece, c ≠ sep :=
      forall_mem_splitOn_iff.mpr fun c _ => Classical.em (c = sep)
    exact ⟨splitOn_ne_nil, intercalate_splitOn,
      fun piece among member => clear piece among sep member rfl⟩
  · rintro ⟨some, rfl, clear⟩
    exact splitOn_intercalate some clear

theorem isInfix_of_mem_intercalate {sep piece : List Char} {pieces : List (List Char)}
    (member : piece ∈ pieces) : piece <:+: sep.intercalate pieces := by
  induction pieces with
  | nil => cases member
  | cons first pieces ih =>
    cases pieces with
    | nil =>
      exact ⟨[], [], by simp [List.mem_singleton.mp member]⟩
    | cons next pieces =>
      rw [List.intercalate_cons_cons]
      rcases List.mem_cons.mp member with rfl | among
      · exact (List.prefix_append _ _).isInfix.trans (List.prefix_append _ _).isInfix
      · exact (ih among).trans (List.suffix_append _ _).isInfix

theorem isInfix_of_mem_splitOn {sep : Char} {piece : List Char} (member : piece ∈ splitOn sep cs) :
    piece <:+: cs := by
  have within : piece <:+: [sep].intercalate (splitOn sep cs) := isInfix_of_mem_intercalate member
  rwa [intercalate_splitOn] at within

theorem forall_mem_intercalate {sep : List Char} {pieces : List (List Char)}
    (between : ∀ c ∈ sep, P c) (each : ∀ piece ∈ pieces, ∀ c ∈ piece, P c) :
    ∀ c ∈ sep.intercalate pieces, P c := by
  induction pieces with
  | nil => simp
  | cons piece pieces ih =>
    obtain ⟨own, others⟩ := List.forall_mem_cons.mp each
    cases pieces with
    | nil => rwa [List.intercalate_singleton]
    | cons next pieces =>
      rw [List.intercalate_cons_cons, List.forall_mem_append, List.forall_mem_append]
      exact ⟨⟨own, between⟩, ih others⟩

theorem not_mem_intercalate {sep : List Char} {pieces : List (List Char)} (apart : c ∉ sep)
    (clear : ∀ piece ∈ pieces, c ∉ piece) : c ∉ sep.intercalate pieces := by
  have each : ∀ d ∈ sep.intercalate pieces, d ≠ c := by
    apply forall_mem_intercalate
    · rintro d between rfl
      exact apart between
    · rintro piece among d inside rfl
      exact clear piece among inside
  exact fun member => each c member rfl

theorem splitOn_append_sep {sep : Char} {after : List Char} :
    splitOn sep (cs ++ sep :: after) = splitOn sep cs ++ splitOn sep after := by
  induction cs with
  | nil => simp [splitOn]
  | cons c rest ih =>
    rw [List.cons_append, splitOn, splitOn, ih]
    split
    · rfl
    · cases found : splitOn sep rest with
      | nil => exact absurd found splitOn_ne_nil
      | cons piece pieces => rfl

/-- What is added behind the last separator becomes part of the last piece. -/
theorem exists_splitOn_append {sep : Char} {more : List Char} (clear : sep ∉ more) :
    ∃ pieces last, splitOn sep cs = pieces ++ [last] ∧
      splitOn sep (cs ++ more) = pieces ++ [last ++ more] := by
  induction cs with
  | nil => exact ⟨[], [], rfl, splitOn_eq_singleton clear⟩
  | cons c rest ih =>
    obtain ⟨pieces, last, own, longer⟩ := ih
    by_cases same : c = sep
    · refine ⟨[] :: pieces, last, ?_, ?_⟩
      · rw [splitOn, if_pos same, own, List.cons_append]
      · rw [List.cons_append, splitOn, if_pos same, longer, List.cons_append]
    · cases pieces with
      | nil =>
        refine ⟨[], c :: last, ?_, ?_⟩
        · rw [splitOn, if_neg same, own, List.nil_append]
          rfl
        · rw [List.cons_append, splitOn, if_neg same, longer, List.nil_append]
          rfl
      | cons piece pieces =>
        refine ⟨(c :: piece) :: pieces, last, ?_, ?_⟩
        · rw [splitOn, if_neg same, own, List.cons_append]
          rfl
        · rw [List.cons_append, splitOn, if_neg same, longer, List.cons_append]
          rfl

theorem dropReturn_eq_self (clear : '\r' ∉ cs) : dropReturn cs = cs := by
  have last : cs.getLast? ≠ some '\r' := fun last => clear (List.mem_of_getLast? last)
  rw [dropReturn, if_neg last]

theorem lines_append_newline {after : List Char} :
    lines (cs ++ '\n' :: after) = (splitOn '\n' cs).map dropReturn ++ lines after := by
  -- The last piece, which is no line if it is empty, is the last piece of what follows.
  cases found : splitOn '\n' after with
  | nil => exact absurd found splitOn_ne_nil
  | cons piece pieces =>
    have last : (splitOn '\n' cs ++ piece :: pieces).getLast? = (piece :: pieces).getLast? := by
      rw [List.getLast?_append, List.getLast?_cons]
      rfl
    simp [lines, splitOn_append_sep, found, last]

/-- Lines that are ended by a newline each are read back. -/
theorem lines_terminated {ls : List (List Char)} (clear : ∀ l ∈ ls, '\n' ∉ l ∧ '\r' ∉ l) :
    lines (ls.flatMap fun l => l ++ ['\n']) = ls := by
  induction ls with
  | nil => rfl
  | cons l ls ih =>
    obtain ⟨own, others⟩ := List.forall_mem_cons.mp clear
    rw [List.flatMap_cons, List.append_assoc, List.singleton_append, lines_append_newline,
      splitOn_eq_singleton own.1, ih others, List.map_singleton, dropReturn_eq_self own.2,
      List.singleton_append]

/-! ## Lower case -/

/-- The characters between and around the items of a list. -/
def isSeparator (c : Char) : Bool := c == ',' || isBlank c

theorem isSeparator_of_isBlank (blank : isBlank c = true) : isSeparator c = true := by
  simp [isSeparator, blank]

/-- The code points of these characters. -/
def separatorRanges : List (Nat × Nat) :=
  [(9, 13), (0x20, 0x20), (0x2c, 0x2c), (0x85, 0x85), (0xa0, 0xa0), (0x1680, 0x1680),
    (0x2000, 0x200a), (0x2028, 0x2029), (0x202f, 0x202f), (0x205f, 0x205f), (0x3000, 0x3000)]

theorem isSeparator_iff : isSeparator c = true ↔ inRanges separatorRanges c.toNat = true := by
  have comma : c = ',' ↔ c.toNat = 0x2c := by
    rw [← Char.toNat_inj]
    rfl
  simp [isSeparator, isBlank, comma, inRanges, separatorRanges]
  omega

theorem lowerRanges_apart : ∀ r ∈ lowerRanges, ∀ s ∈ separatorRanges,
    (s.2 < r.first ∨ r.last < s.1) ∧
      (s.2 < r.image ∨ r.image + (r.last - r.first) < s.1) := by
  decide +kernel

theorem lowerChar_ascii : ∀ n : Fin 0x80,
    (Char.ofNat n).toLower = Char.ofNat n ∨
      isSeparator (Char.ofNat n) = false ∧ isSeparator (Char.ofNat n).toLower = false := by
  decide +kernel

theorem toNat_ofNat_or (n : Nat) : (Char.ofNat n).toNat = n ∨ (Char.ofNat n).toNat = 0 := by
  by_cases valid : n.isValidChar
  · have char : Char.ofNat n = Char.ofNatAux n valid := dif_pos valid
    exact .inl (by rw [char]; rfl)
  · have char : Char.ofNat n = Char.ofNat 0 := dif_neg valid
    exact .inr (by rw [char]; rfl)

/-- A code that lies in a run of letters, or in the run that these map to, is no separator. -/
theorem not_isSeparator_of_range {first last : Nat}
    (apart : ∀ s ∈ separatorRanges, s.2 < first ∨ last < s.1) {n : Nat} (above : first ≤ n)
    (below : n ≤ last) : isSeparator (Char.ofNat n) = false := by
  rw [Bool.eq_false_iff, Ne, isSeparator_iff]
  intro separates
  rcases toNat_ofNat_or n with code | code
  · rw [code] at separates
    obtain ⟨s, member, within⟩ := List.any_eq_true.mp separates
    simp only [Bool.and_eq_true, decide_eq_true_eq] at within
    rcases apart s member with before | after <;> omega
  · rw [code] at separates
    cases separates

/-- Separators have no case, and no letter becomes one. -/
theorem lowerChar_eq_or (c : Char) : lowerChar c = [c] ∨
    isSeparator c = false ∧ lowerChar c ≠ [] ∧ ∀ x ∈ lowerChar c, isSeparator x = false := by
  unfold lowerChar
  dsimp only
  split
  · next ascii =>
    have small := lowerChar_ascii ⟨c.toNat, ascii⟩
    simp only [Char.ofNat_toNat] at small
    rcases small with same | ⟨own, lowered⟩
    · exact .inl (by rw [same])
    · exact .inr ⟨own, by simp, by simpa using lowered⟩
  · split
    · next dotted =>
      have own : c = Char.ofNat 0x130 := by rw [← dotted, Char.ofNat_toNat]
      subst own
      have letters : isSeparator 'i' = false ∧ isSeparator (Char.ofNat 0x307) = false := by
        decide +kernel
      exact .inr ⟨by decide +kernel, by simp, by simpa using letters⟩
    · split
      · next r found =>
        have within := List.find?_some found
        simp only [Bool.and_eq_true, decide_eq_true_eq] at within
        have apart := lowerRanges_apart r (List.mem_of_find?_eq_some found)
        have own := not_isSeparator_of_range (fun s member => (apart s member).1)
          within.1.1 within.1.2
        have image := not_isSeparator_of_range (fun s member => (apart s member).2)
          (n := r.image + (c.toNat - r.first)) (by omega) (by omega)
        rw [Char.ofNat_toNat] at own
        exact .inr ⟨own, by simp, by simpa using image⟩
      · exact .inl rfl

/-- What is asked of separators holds of a text if and only if it holds of its lower case. -/
theorem forall_mem_lowerAfter_iff (separates : ∀ c, P c → isSeparator c = true)
    {before : List Char} : (∀ c ∈ lowerAfter before cs, P c) ↔ ∀ c ∈ cs, P c := by
  induction cs generalizing before with
  | nil => simp [lowerAfter]
  | cons c rest ih =>
    have refuse {x : Char} (other : isSeparator x = false) : ¬ P x := by
      intro holds
      rw [separates x holds] at other
      cases other
    rw [lowerAfter, List.forall_mem_append, ih, List.forall_mem_cons]
    apply and_congr_left
    intro _
    split
    · next sigma =>
      have capital : isSeparator c = false := by rw [sigma]; decide
      have small : ∀ x, x = 'ς' ∨ x = 'σ' → isSeparator x = false := by
        rintro x (rfl | rfl) <;> decide
      refine iff_of_false (fun all => ?_) (refuse capital)
      split at all
      · exact refuse (small _ (.inl rfl)) (all _ (List.mem_singleton_self _))
      · exact refuse (small _ (.inr rfl)) (all _ (List.mem_singleton_self _))
    · rcases lowerChar_eq_or c with same | ⟨own, some, lowered⟩
      · simp [same]
      · obtain ⟨x, member⟩ := List.exists_mem_of_ne_nil _ some
        exact iff_of_false (fun all => refuse (lowered x member) (all x member)) (refuse own)

end BeanMeter.Text
