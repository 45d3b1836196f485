import BeanMeter.Proofs.Config.WrittenProperties
import Mathlib.Algebra.Group.Nat.Even

/-! # Folding lines

A line of a document may be cut in two by a backslash, wherever that does not tear a pair of
backslashes apart, and the second half may be indented. The document then still writes the same
property set.

* `PropertySet.SameEntries` — sequences of lines that stand for the same entries, whatever part of
  an entry is read before them.
* `PropertySet.IsLine` — a line within a document.
* `PropertySet.parse_folded` — a document with a line folded writes the set it wrote before.
-/

namespace BeanMeter

namespace Text

variable {cs after : List Char}

theorem trimStart_append_of_visible (visible : after.head?.any isBlank = false) :
    trimStart (cs ++ after) = trimStart cs ++ after := by
  cases after with
  | nil => simp
  | cons c after => exact dropWhile_append_cons visible after

end Text

namespace PropertySet

/-! ## The backslashes at the end of a line -/

variable {pending p s w before after : List Char} {rest : List (List Char)}

theorem isFolded_eq_false_iff : isFolded p = false ↔ Even (p.rtakeWhile (· == '\\')).length := by
  rw [isFolded, List.rtakeWhile, List.length_reverse, Nat.even_iff, beq_eq_false_iff_ne]
  omega

theorem isFolded_concat (pairs : isFolded p = false) : isFolded (p ++ ['\\']) = true := by
  rw [isFolded_append pairs]
  rfl

theorem isFolded_trimStart : isFolded (Text.trimStart p) = isFolded p := by
  have blanks : isFolded (p.takeWhile Text.isBlank) = false := by
    rw [isFolded_eq_false_iff]
    have none : (p.takeWhile Text.isBlank).rtakeWhile (· == '\\') = [] := by
      rw [List.rtakeWhile_eq_nil_iff]
      intro some backslash
      have blank := List.mem_takeWhile_imp (List.getLast_mem some)
      rw [beq_iff_eq.mp backslash] at blank
      exact absurd blank (by decide)
    simp [none]
  rw [← isFolded_append blanks, Text.trimStart, List.takeWhile_append_dropWhile]

/-! ## Lines that stand for the same entries -/

/-- The marks of a comment. -/
def isMark (c : Char) : Bool := c == '#' || c == '!'

def SameEntries (xs ys : List (List Char)) : Prop :=
  ∀ pending, logicalLines pending xs = logicalLines pending ys

theorem SameEntries.append_left {xs ys : List (List Char)} (same : SameEntries xs ys)
    (ls : List (List Char)) : SameEntries (ls ++ xs) (ls ++ ys) := by
  induction ls with
  | nil => exact same
  | cons line ls ih =>
    intro pending
    simp only [List.cons_append, logicalLines, ih _]

/-- An empty line at the end ends the entry before it, which would end there anyway. -/
theorem sameEntries_empty : SameEntries [[]] [] := by
  intro pending
  by_cases none : pending = []
  · simp [logicalLines, Text.trimStart, isSkipped, none]
  · simp [logicalLines, Text.trimStart, isFolded, none]

theorem sameEntries_fold (pairs : isFolded p = false)
    (visible : s.head?.any Text.isBlank = false) (blank : ∀ c ∈ w, Text.isBlank c = true)
    (entry : (Text.trimStart (p ++ s)).head?.any isMark = false) :
    SameEntries ((p ++ ['\\']) :: (w ++ s) :: rest) ((p ++ s) :: rest) := by
  intro pending
  have first : Text.trimStart (p ++ ['\\']) = Text.trimStart p ++ ['\\'] :=
    Text.trimStart_append_of_visible rfl
  have second : Text.trimStart (w ++ s) = s := by
    rw [Text.trimStart_append_of_visible visible, Text.trimStart_eq_nil blank, List.nil_append]
  have whole : Text.trimStart (p ++ s) = Text.trimStart p ++ s :=
    Text.trimStart_append_of_visible visible
  have even : isFolded (Text.trimStart p) = false := by rw [isFolded_trimStart, pairs]
  rw [whole] at entry
  -- The first half is read as far as its backslash, even if it is that backslash only.
  have begins : isSkipped (Text.trimStart p ++ ['\\']) = false := by
    cases start : Text.trimStart p with
    | nil => rfl
    | cons c more => simpa [isSkipped, isMark, start] using entry
  have folds : logicalLines pending ((p ++ ['\\']) :: (w ++ s) :: rest) =
      logicalLines (pending ++ Text.trimStart p) ((w ++ s) :: rest) := by
    rw [logicalLines]
    simp only [first, begins, isFolded_concat even, List.dropLast_concat]
    simp
  -- The second half is dropped as a blank line or a comment if the whole line is, and only then.
  have skips : (pending ++ Text.trimStart p = [] ∧ isSkipped s = true) ↔
      (pending = [] ∧ isSkipped (Text.trimStart p ++ s) = true) := by
    cases start : Text.trimStart p with
    | nil => simp
    | cons c more =>
      have counts : isSkipped (c :: (more ++ s)) = false := by
        simpa [isSkipped, isMark, start] using entry
      simp [counts]
  rw [folds, logicalLines, logicalLines, second, whole, isFolded_append even]
  simp only [skips, List.append_assoc]
  split
  · rfl
  · split
    · next more =>
      have some : s ≠ [] := by
        rintro rfl
        cases more
      rw [List.dropLast_append_of_ne_nil some]
    · rfl

/-! ## Lines of a document -/

/-- A line within a document, between what stands before it and after it. -/
structure IsLine (before line after : List Char) : Prop where
  starts : before = [] ∨ before.getLast? = some '\n'
  clear : '\n' ∉ line ∧ '\r' ∉ line
  ends : after = [] ∨ ['\n'] <+: after ∨ ['\r', '\n'] <+: after

/-- The lines that follow a line. -/
def linesAfter (after : List Char) : List (List Char) :=
  match after.dropWhile (· != '\n') with
  | [] => []
  | _ :: cs => Text.lines cs

theorem sameEntries_lines {line : List Char} (whole : IsLine before line after) :
    SameEntries (Text.lines (line ++ after)) (line :: linesAfter after) := by
  obtain ⟨newline, carriage⟩ := whole.clear
  intro pending
  rcases whole.ends with rfl | ⟨cs, rfl⟩ | ⟨cs, rfl⟩
  · have pieces : Text.splitOn '\n' line = [line] := Text.splitOn_eq_singleton newline
    cases line with
    | nil => exact (sameEntries_empty pending).symm
    | cons c more => simp [Text.lines, pieces, linesAfter]
  · rw [List.singleton_append, Text.lines_append_newline, Text.splitOn_eq_singleton newline]
    simp [linesAfter, Text.dropReturn_eq_self carriage]
  · have cut : line ++ (['\r', '\n'] ++ cs) = (line ++ ['\r']) ++ '\n' :: cs := by simp
    have ended : Text.dropReturn (line ++ ['\r']) = line := by simp [Text.dropReturn]
    have clear : '\n' ∉ line ++ ['\r'] := by simp [newline]
    rw [cut, Text.lines_append_newline, Text.splitOn_eq_singleton clear]
    simp [linesAfter, ended]

/-- What stands before a line in a document is a sequence of lines of its own. -/
theorem exists_lines_append (starts : before = [] ∨ before.getLast? = some '\n') :
    ∃ ls, ∀ cs, Text.lines (before ++ cs) = ls ++ Text.lines cs := by
  rcases starts with rfl | last
  · exact ⟨[], fun cs => rfl⟩
  · obtain ⟨earlier, rfl⟩ := List.getLast?_eq_some_iff.mp last
    refine ⟨(Text.splitOn '\n' earlier).map Text.dropReturn, fun cs => ?_⟩
    rw [List.append_assoc, List.singleton_append, Text.lines_append_newline]

/-- The second half of a line is a line of its own. -/
theorem IsLine.second (whole : IsLine before (p ++ s) after)
    (blank : ∀ c ∈ w, c = ' ' ∨ c = '\t') : IsLine before (w ++ s) after := by
  have newline : '\n' ∉ w := fun member => absurd (blank _ member) (by decide)
  have carriage : '\r' ∉ w := fun member => absurd (blank _ member) (by decide)
  have clear := whole.clear
  simp only [List.mem_append, not_or] at clear
  refine ⟨whole.starts, ?_, whole.ends⟩
  simp [newline, carriage, clear]

/-- A line may be folded: cut by a backslash, where that does not tear a pair of backslashes apart,
with the second half indented. -/
theorem parse_folded (whole : IsLine before (p ++ s) after)
    (entry : (Text.trimStart (p ++ s)).head?.any isMark = false)
    (pairs : Even (p.rtakeWhile (· == '\\')).length)
    (visible : s.head?.any Text.isBlank = false) (blank : ∀ c ∈ w, c = ' ' ∨ c = '\t') :
    parse (String.ofList (before ++ p ++ ['\\', '\n'] ++ w ++ s ++ after)) =
      parse (String.ofList (before ++ p ++ s ++ after)) := by
  have isBlank : ∀ c ∈ w, Text.isBlank c = true := by
    intro c member
    rcases blank c member with rfl | rfl <;> decide
  have clear := whole.clear
  simp only [List.mem_append, not_or] at clear
  obtain ⟨ls, earlier⟩ := exists_lines_append whole.starts
  have one : SameEntries (Text.lines (before ++ p ++ s ++ after))
      (ls ++ (p ++ s) :: linesAfter after) := by
    rw [List.append_assoc, List.append_assoc, earlier, ← List.append_assoc]
    exact (sameEntries_lines whole).append_left ls
  have two : SameEntries (Text.lines (before ++ p ++ ['\\', '\n'] ++ w ++ s ++ after))
      (ls ++ (p ++ ['\\']) :: (w ++ s) :: linesAfter after) := by
    have cut : before ++ p ++ ['\\', '\n'] ++ w ++ s ++ after =
        before ++ ((p ++ ['\\']) ++ '\n' :: (w ++ s ++ after)) := by simp
    have half : '\n' ∉ p ++ ['\\'] ∧ '\r' ∉ p ++ ['\\'] := by simp [clear]
    rw [cut, earlier, Text.lines_append_newline, Text.splitOn_eq_singleton half.1,
      List.map_singleton, Text.dropReturn_eq_self half.2]
    exact ((sameEntries_lines (whole.second blank)).append_left [p ++ ['\\']]).append_left ls
  have fold : SameEntries ((p ++ ['\\']) :: (w ++ s) :: linesAfter after)
      ((p ++ s) :: linesAfter after) :=
    sameEntries_fold (isFolded_eq_false_iff.mpr pairs) visible isBlank entry
  rw [parse, parse, String.toList_ofList, String.toList_ofList, two, one, fold.append_left ls]

/-- A line between a comment and another entry, folded within a character code, before a second
fold at its end. -/
theorem sample_folded :
    IsLine "! x\n".toList (" a\\u00".toList ++ "41 : b\\\\\\".toList) "\r\n #c\nd=e".toList ∧
    parse (String.ofList ("! x\n".toList ++ " a\\u00".toList ++ ['\\', '\n'] ++ "\t ".toList ++
        "41 : b\\\\\\".toList ++ "\r\n #c\nd=e".toList)) =
      parse (String.ofList ("! x\n".toList ++ " a\\u00".toList ++ "41 : b\\\\\\".toList ++
        "\r\n #c\nd=e".toList)) := by
  have whole : IsLine "! x\n".toList (" a\\u00".toList ++ "41 : b\\\\\\".toList)
      "\r\n #c\nd=e".toList := ⟨by decide +kernel, by decide +kernel, by decide +kernel⟩
  exact ⟨whole, parse_folded whole (by decide +kernel) (by decide +kernel) (by decide +kernel)
    (by simp)⟩

end PropertySet

end BeanMeter
