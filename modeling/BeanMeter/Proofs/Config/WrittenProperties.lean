import BeanMeter.Config.PropertySet
import BeanMeter.Proofs.Collection.Entries
import BeanMeter.Proofs.Text.Separators

/-! # Writing properties

How to write any keys and values so that they are read back: every character that means something
in a document is protected by a backslash. Each pass of the reader is then seen to leave protected
text alone: finding lines, dropping blanks and comments, unfolding, finding the separator and
undoing the escapes.

* `PropertySet.escape`, `PropertySet.write` — the written form of a text and of a list of entries.
* `PropertySet.Protects` — what all passes of the reader need to know of a written text.
* `PropertySet.parse_write` — a property set is read back, in whatever order it is written.
-/

namespace BeanMeter.PropertySet

/-! ## The written form -/

/-- How a character of a key or a value is written. -/
def escapeChar (c : Char) : List Char :=
  if c = '\n' then ['\\', 'n']
  else if c = '\r' then ['\\', 'r']
  else if c = '\t' then ['\\', 't']
  else if c = '\x0c' then ['\\', 'f']
  else if c ∈ ['\\', '=', ':', '#', '!'] ∨ Text.isBlank c then ['\\', c]
  else [c]

/-- How a key or a value is written. -/
def escape (cs : List Char) : List Char := cs.flatMap escapeChar

/-- The line of an entry. -/
def entryLine (entry : String × String) : List Char :=
  escape entry.1.toList ++ '=' :: escape entry.2.toList

/-- The document that has a line for each of some entries. -/
def write (entries : List (String × String)) : String :=
  String.ofList (entries.flatMap fun entry => entryLine entry ++ ['\n'])

/-! ## Protected texts -/

/-- A character that stands for itself wherever it stands. -/
structure Plain (c : Char) : Prop where
  notEscape : c ≠ '\\'
  notEnd : endsKey c = false
  notMark : c ≠ '#' ∧ c ≠ '!'
  notBlank : Text.isBlank c = false

/-- A letter that can follow a backslash within a line. -/
structure Letter (c : Char) : Prop where
  notUnit : c ≠ 'u'
  notLineEnd : c ≠ '\n' ∧ c ≠ '\r'

/-- The second text writes the first one character by character, each as itself or as a backslash
and a letter for it. -/
inductive Protects : List Char → List Char → Prop
  | nil : Protects [] []
  | plain {c : Char} {cs written : List Char} (self : Plain c) (rest : Protects cs written) :
      Protects (c :: cs) (c :: written)
  | escaped {letter : Char} {cs written : List Char} (allowed : Letter letter)
      (rest : Protects cs written) : Protects (escapedChar letter :: cs) ('\\' :: letter :: written)

theorem escapeChar_eq (c : Char) : escapeChar c = [c] ∧ Plain c ∨
    ∃ letter, escapeChar c = ['\\', letter] ∧ Letter letter ∧ escapedChar letter = c := by
  unfold escapeChar
  split_ifs with newline carriage tab feed marked
  · exact .inr ⟨'n', rfl, ⟨by decide, by decide⟩, newline.symm⟩
  · exact .inr ⟨'r', rfl, ⟨by decide, by decide⟩, carriage.symm⟩
  · exact .inr ⟨'t', rfl, ⟨by decide, by decide⟩, tab.symm⟩
  · exact .inr ⟨'f', rfl, ⟨by decide, by decide⟩, feed.symm⟩
  · -- None of these is a letter of a one-letter escape, and so each stands for itself.
    have other : ∀ letter ∈ ['t', 'n', 'r', 'f', 'u'], c ≠ letter := by
      rintro letter member rfl
      simp only [List.mem_cons, List.not_mem_nil, or_false] at member
      rcases member with rfl | rfl | rfl | rfl | rfl <;> exact absurd marked (by decide)
    have itself : escapedChar c = c := by
      simp only [List.forall_mem_cons] at other
      obtain ⟨t, n, r, f, -⟩ := other
      unfold escapedChar
      split <;> simp_all
    exact .inr ⟨c, rfl, ⟨other 'u' (by simp), newline, carriage⟩, itself⟩
  · simp only [List.mem_cons, List.not_mem_nil, or_false, not_or] at marked
    obtain ⟨⟨backslash, equals, colon, hash, mark⟩, notBlank⟩ := marked
    have notGap : isGap c = false := by
      rw [Bool.eq_false_iff]
      intro gap
      apply notBlank
      simp only [isGap, Bool.or_eq_true, beq_iff_eq] at gap
      rcases gap with (rfl | rfl) | rfl <;> decide
    exact .inl ⟨rfl, backslash, by simp [endsKey, equals, colon, notGap], ⟨hash, mark⟩,
      by simpa using notBlank⟩

theorem protects_escape (cs : List Char) : Protects cs (escape cs) := by
  induction cs with
  | nil => exact .nil
  | cons c cs ih =>
    rw [escape, List.flatMap_cons, ← escape]
    rcases escapeChar_eq c with ⟨own, plain⟩ | ⟨letter, written, allowed, rfl⟩
    · rw [own]
      exact .plain plain ih
    · rw [written]
      exact .escaped allowed ih

/-! ## Entries -/

variable {cs written rest : List Char}

theorem not_isGap_of_plain {c : Char} (plain : Plain c) : isGap c = false := by
  have notEnd := plain.notEnd
  rw [endsKey, Bool.or_eq_false_iff] at notEnd
  exact notEnd.2

@[simp] theorem unescape_nil : unescape [] = [] := by rw [unescape.eq_def]

theorem unescape_cons {c : Char} (plain : c ≠ '\\') :
    unescape (c :: rest) = c :: unescape rest := by
  rw [unescape.eq_def]
  simp [plain]

theorem unescape_letter {c : Char} (letter : c ≠ 'u') :
    unescape ('\\' :: c :: rest) = escapedChar c :: unescape rest := by
  rw [unescape.eq_def]
  simp [letter]

theorem unescape_code :
    unescape ('\\' :: 'u' :: rest) = decodeUnit (rest.take 4) ++ unescape (rest.drop 4) := by
  rw [unescape.eq_def]
  simp

theorem dropSeparator_cons (starts : rest.head?.any isGap = false) :
    dropSeparator ('=' :: rest) = rest := by
  have kept : rest.dropWhile isGap = rest := by
    cases rest with
    | nil => rfl
    | cons c more => exact List.dropWhile_cons_of_neg (by simpa using starts)
  rw [dropSeparator, List.dropWhile_cons_of_neg (by decide)]
  simp [kept]

namespace Protects

theorem unescape_eq (protects : Protects cs written) : unescape written = cs := by
  induction protects with
  | nil => exact unescape_nil
  | plain self _ ih => rw [unescape_cons self.notEscape, ih]
  | escaped allowed _ ih => rw [unescape_letter allowed.notUnit, ih]

theorem splitKey_eq (protects : Protects cs written) :
    splitKey (written ++ '=' :: rest) = (written, '=' :: rest) := by
  induction protects with
  | nil => rfl
  | @plain c _ written self _ ih =>
    rw [List.cons_append, splitKey, ih, self.notEnd]
    · rfl
    · intro _ _ same
      exact absurd same self.notEscape
  | escaped _ _ ih => rw [List.cons_append, List.cons_append, splitKey, ih]

/-- The separator in front of a value is all that is dropped. -/
theorem dropSeparator_eq (protects : Protects cs written) :
    dropSeparator ('=' :: written) = written := by
  apply dropSeparator_cons
  cases protects with
  | nil => rfl
  | plain self _ => exact not_isGap_of_plain self
  | escaped => rfl

end Protects

theorem splitEntry_keyed (key : String) : splitEntry (escape key.toList ++ '=' :: rest) =
    (key, String.ofList (unescape (dropSeparator ('=' :: rest)))) := by
  have protects := protects_escape key.toList
  simp [splitEntry, protects.splitKey_eq, protects.unescape_eq]

theorem splitEntry_entryLine (entry : String × String) : splitEntry (entryLine entry) = entry := by
  have value := protects_escape entry.2.toList
  rw [entryLine, splitEntry_keyed, value.dropSeparator_eq, value.unescape_eq, String.ofList_toList]

/-! ## Lines -/

/-- An even number of backslashes does not count, nor does anything before them. -/
theorem isFolded_append {before : List Char} (pairs : isFolded before = false) :
    isFolded (before ++ rest) = isFolded rest := by
  have even : (before.reverse.takeWhile (· == '\\')).length % 2 = 0 := by
    rw [isFolded, beq_eq_false_iff_ne] at pairs
    omega
  simp only [isFolded, List.reverse_append, List.takeWhile_append]
  split
  · next whole =>
    -- What follows is nothing but backslashes, and the run goes on before them.
    rw [List.length_append, ← whole]
    congr 1
    omega
  · rfl

/-- A character that is no backslash ends the run that decides whether a line is folded. -/
theorem isFolded_append_cons {before : List Char} {c : Char} (other : c ≠ '\\') :
    isFolded (before ++ c :: rest) = isFolded rest := by
  have ends : isFolded (before ++ [c]) = false := by simp [isFolded, other]
  have cut : before ++ c :: rest = (before ++ [c]) ++ rest := by simp
  rw [cut, isFolded_append ends]

namespace Protects

theorem not_isFolded (protects : Protects cs written) : isFolded written = false := by
  induction protects with
  | nil => rfl
  | plain self _ ih => exact (@isFolded_append_cons _ [] _ self.notEscape).trans ih
  | @escaped letter _ _ _ _ ih =>
    -- A pair of backslashes does not count, and any other letter ends the run after its backslash.
    by_cases pair : letter = '\\'
    · rw [pair]
      exact (@isFolded_append _ ['\\', '\\'] rfl).trans ih
    · exact (@isFolded_append_cons _ ['\\'] _ pair).trans ih

theorem no_lineEnd (protects : Protects cs written) : '\n' ∉ written ∧ '\r' ∉ written := by
  induction protects with
  | nil => simp
  | @plain c _ _ self _ ih =>
    have notBlank := self.notBlank
    have newline : '\n' ≠ c := by
      rintro rfl
      cases notBlank
    have carriage : '\r' ≠ c := by
      rintro rfl
      cases notBlank
    simp [newline, carriage, ih]
  | escaped allowed _ ih => simp [allowed.notLineEnd.1.symm, allowed.notLineEnd.2.symm, ih]

end Protects

/-- A line that is an entry of its own. -/
structure WholeLine (line : List Char) : Prop where
  begins : ∃ c more, line = c :: more ∧ Text.isBlank c = false ∧ isSkipped line = false
  unfolded : isFolded line = false
  oneLine : '\n' ∉ line ∧ '\r' ∉ line

/-- A line that begins with a written key begins with a character that is neither dropped nor the
mark of a comment. -/
theorem wholeLine_keyed (key : List Char) (unfolded : isFolded rest = false)
    (oneLine : '\n' ∉ rest ∧ '\r' ∉ rest) : WholeLine (escape key ++ '=' :: rest) where
  begins := by
    have protects := protects_escape key
    generalize escape key = written at protects
    cases protects with
    | nil => exact ⟨_, _, rfl, by decide, rfl⟩
    | plain self _ => exact ⟨_, _, rfl, self.notBlank, by simp [isSkipped, self.notMark]⟩
    | escaped => exact ⟨_, _, rfl, by decide, rfl⟩
  unfolded := by rw [isFolded_append_cons (by decide), unfolded]
  oneLine := by
    have clear := (protects_escape key).no_lineEnd
    simp [clear, oneLine]

theorem wholeLine_entryLine (entry : String × String) : WholeLine (entryLine entry) :=
  wholeLine_keyed _ (protects_escape _).not_isFolded (protects_escape _).no_lineEnd

theorem no_lineEnd_entryLine (entry : String × String) :
    '\n' ∉ entryLine entry ∧ '\r' ∉ entryLine entry := (wholeLine_entryLine entry).oneLine

theorem logicalLines_wholeLines {ls : List (List Char)} (whole : ∀ line ∈ ls, WholeLine line) :
    logicalLines [] ls = ls := by
  induction ls with
  | nil => rfl
  | cons line ls ih =>
    obtain ⟨own, others⟩ := List.forall_mem_cons.mp whole
    obtain ⟨c, more, same, visible, counts⟩ := own.begins
    have start : Text.trimStart line = line := by
      rw [same, Text.trimStart, List.dropWhile_cons_of_neg (by simp [visible])]
    rw [logicalLines, start, own.unfolded, counts, ih others]
    simp

theorem parse_wholeLines {ls : List (List Char)} (whole : ∀ line ∈ ls, WholeLine line) :
    parse (String.ofList (ls.flatMap fun line => line ++ ['\n'])) =
      SortedMap.ofList (ls.map splitEntry) := by
  have lines := Text.lines_terminated fun line member => (whole line member).oneLine
  rw [parse, String.toList_ofList, lines, logicalLines_wholeLines whole]

theorem logicalLines_entryLines (entries : List (String × String)) :
    logicalLines [] (entries.map entryLine) = entries.map entryLine := by
  apply logicalLines_wholeLines
  rw [List.forall_mem_map]
  exact fun entry _ => wholeLine_entryLine entry

/-! ## Documents -/

/-- A property set is read back from its entries, one a line, in whatever order they are. -/
theorem parse_write {p : PropertySet} {entries : List (String × String)}
    (order : entries.Perm p.entries) : parse (write entries) = p := by
  have lines : Text.lines (write entries).toList = entries.map entryLine := by
    have clear : ∀ line ∈ entries.map entryLine, '\n' ∉ line ∧ '\r' ∉ line := by
      rw [List.forall_mem_map]
      exact fun entry _ => no_lineEnd_entryLine entry
    rw [write, String.toList_ofList, ← Text.lines_terminated clear, List.flatMap_map]
  have split : (entries.map entryLine).map splitEntry = entries := by
    simp [Function.comp_def, splitEntry_entryLine]
  rw [parse, lines, logicalLines_entryLines, split, SortedMap.ofList_of_perm order]

/-- Entries whose texts hold what the format gives a meaning to, and none at all. -/
def tricky : PropertySet where
  entries := [("", " \\u0041\\"), ("#a = b:c", "\u2003\n!x\r"), ("\\", "")]
  ascending := by decide +kernel

theorem parse_write_tricky : tricky.entries.reverse.Perm tricky.entries ∧
    parse (write tricky.entries.reverse) = tricky :=
  ⟨List.reverse_perm _, parse_write (List.reverse_perm _)⟩

end BeanMeter.PropertySet
