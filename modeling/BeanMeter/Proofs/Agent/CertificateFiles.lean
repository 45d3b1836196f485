import BeanMeter.Agent.Pem
import BeanMeter.Proofs.Text.Separators

/-! # Certificate files that cannot be decoded

A certificate section holds base 64. Where it holds anything else, no reading of the file gets past
the section, whatever stands around it.

* `Pem.Spoiled` — files with such a section.
* `Pem.Spoiled.not_isReadable` — these are not readable.
-/

namespace BeanMeter

namespace Text.Base64

/-- The characters of base 64: its digits, and the padding. -/
def IsUsed (c : Char) : Prop := (digitValue? c).isSome = true ∨ c = '='

theorem isUsed_of_endsClean {unused : Nat} {c : Char} (clean : endsClean unused c = true) :
    IsUsed c := by
  unfold endsClean at clean
  cases digit : digitValue? c with
  | none => simp [digit] at clean
  | some => exact .inl (by rw [digit]; rfl)

theorem isUsed_of_isValid {cs : List Char} (valid : isValid cs = true) : ∀ c ∈ cs, IsUsed c := by
  have padding : IsUsed '=' := .inr rfl
  fun_induction isValid cs with
  | case1 => simp
  | case2 a b =>
    rw [Bool.and_eq_true] at valid
    simpa [padding] using ⟨Or.inl valid.1, isUsed_of_endsClean valid.2⟩
  | case3 a b c =>
    simp only [Bool.and_eq_true] at valid
    simpa [padding] using ⟨Or.inl valid.1.1, Or.inl valid.1.2, isUsed_of_endsClean valid.2⟩
  | case4 a b c d rest _ _ ih =>
    simp only [Bool.and_eq_true] at valid
    simp only [List.forall_mem_cons]
    exact ⟨.inl valid.1.1.1.1, .inl valid.1.1.1.2, .inl valid.1.1.2, .inl valid.1.2, ih valid.2⟩
  | case5 => cases valid

end Text.Base64

namespace Pem

def certificate : List Char := "CERTIFICATE".toList

/-- The line in front of the content of a certificate section. -/
def beginLine : List Char := "-----BEGIN CERTIFICATE-----".toList

/-- A line that neither begins nor ends a section. -/
def IsContent (line : List Char) : Prop := ¬ List.replicate 5 '-' <+: line

/-- Files with a certificate section that is complete, and holds a character that is neither blank
nor one of base 64. -/
def Spoiled (bytes : List UInt8) : Prop :=
  ∃ before content after,
    lines bytes = before ++ beginLine :: (content ++ endLine certificate :: after) ∧
      (∀ line ∈ content, IsContent line) ∧
      ∃ line ∈ content, ∃ c ∈ line, Text.isBlank c = false ∧ ¬ Text.Base64.IsUsed c

variable {line kind written : List Char} {open_ : Option (List Char × List Char)}
  {before content rest : List (List Char)}

theorem stripStart?_of_isContent {mark : List Char} (marks : List.replicate 5 '-' <+: mark)
    (plain : IsContent line) : Text.stripStart? mark line = none := by
  cases stripped : Text.stripStart? mark line with
  | none => rfl
  | some tail =>
    have start : mark <+: line := ⟨tail, (Text.stripStart?_eq_some_iff.mp stripped).symm⟩
    exact absurd (marks.trans start) plain

theorem beginning?_of_isContent (plain : IsContent line) : beginning? line = none := by
  have marks : List.replicate 5 '-' <+: beginMark := by decide +kernel
  rw [beginning?, stripStart?_of_isContent marks plain]
  rfl

theorem stripStart?_endLine_of_isContent (plain : IsContent line) :
    Text.stripStart? (endLine kind) line = none := by
  have marks : List.replicate 5 '-' <+: "-----END ".toList := by decide +kernel
  have start : "-----END ".toList <+: endLine kind := ⟨_, (List.append_assoc _ _ _).symm⟩
  exact stripStart?_of_isContent (marks.trans start) plain

theorem mem_trimLine {c : Char} (member : c ∈ line) (shown : Text.isBlank c = false) :
    c ∈ trimLine line := by
  rw [trimLine, List.mem_reverse]
  have whole := List.takeWhile_append_dropWhile (p := fun c => c == ' ' || c == '\r' || c == '\t')
    (l := line.reverse)
  rw [← List.mem_reverse, ← whole, List.mem_append] at member
  refine member.resolve_left fun dropped => ?_
  have blank := List.mem_takeWhile_imp dropped
  simp only [Bool.or_eq_true, beq_iff_eq] at blank
  rcases blank with (rfl | rfl) | rfl <;> simp [Text.isBlank] at shown

/-! ### Going through the lines -/

/-- A file can only be read if the rest of it can, from wherever its first lines lead. -/
theorem exists_readLines_of_append (readable : readLines open_ (before ++ rest) = true) :
    ∃ open_, readLines open_ rest = true := by
  induction before generalizing open_ with
  | nil => exact ⟨open_, readable⟩
  | cons line before ih =>
    -- A line either makes the file unreadable or leaves another state for the rest.
    rw [List.cons_append, readLines.eq_def] at readable
    dsimp only at readable
    split at readable
    · cases readable
    · exact ih readable
    · split at readable
      · exact ih readable
      · split at readable
        · rw [Bool.and_eq_true] at readable
          exact ih readable.2
        · exact ih readable

theorem readLines_beginLine :
    readLines open_ (beginLine :: rest) = readLines (some (certificate, [])) rest := by
  have begins : beginning? beginLine = some (some certificate) := by decide +kernel
  rw [readLines.eq_def]
  simp only [begins]

theorem readLines_content (plain : ∀ line ∈ content, IsContent line) :
    readLines (some (kind, written)) (content ++ rest) =
      readLines (some (kind, written ++ content.flatMap trimLine)) rest := by
  induction content generalizing written with
  | nil => simp
  | cons line content ih =>
    obtain ⟨own, others⟩ := List.forall_mem_cons.mp plain
    rw [List.cons_append, readLines.eq_def]
    simp [beginning?_of_isContent own, stripStart?_endLine_of_isContent own, ih others]

theorem readLines_endLine :
    readLines (some (certificate, written)) (endLine certificate :: rest) =
      (Text.Base64.isValid written && readLines none rest) := by
  have ends : beginning? (endLine certificate) = none := by decide +kernel
  have own : (Text.stripStart? (endLine certificate) (endLine certificate)).isSome = true := by
    decide +kernel
  have known : knownKinds.contains (String.ofList certificate) = true := by decide +kernel
  rw [readLines.eq_def]
  simp only [ends, own, known, if_true, Bool.not_true, Bool.false_or]

theorem Spoiled.not_isReadable {bytes : List UInt8} (spoiled : Spoiled bytes) :
    isReadable bytes = false := by
  obtain ⟨before, content, after, whole, plain, line, among, c, member, shown, unused⟩ := spoiled
  rw [Bool.eq_false_iff, isReadable, whole]
  intro readable
  -- What the lines before have left open, the begin line drops.
  obtain ⟨_, readable⟩ := exists_readLines_of_append readable
  rw [readLines_beginLine, readLines_content plain, readLines_endLine, Bool.and_eq_true]
    at readable
  have written : c ∈ content.flatMap trimLine :=
    List.mem_flatMap.mpr ⟨line, among, mem_trimLine member shown⟩
  exact unused (Text.Base64.isUsed_of_isValid readable.1 c (by simpa using written))

end Pem

end BeanMeter
