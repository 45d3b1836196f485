import BeanMeter.Exposition.Format
import BeanMeter.Proofs.Collection.Entries
import BeanMeter.Proofs.Exposition.Reading
import BeanMeter.Proofs.Number.Numerals
import BeanMeter.Proofs.Text.Separators

/-! # Reading written lines

Each line of an exposition says what it was written for.

* `Exposition.Named` — samples whose names may stand in an exposition.
* `Exposition.named_ofObservation`, `Exposition.named_of_stats` — the samples that the program makes.
* `Exposition.readSample?_line` — the line of a sample is read back.
* `Exposition.addLine?_sample`, `Exposition.addLine?_type`, `Exposition.addLine?_help` — the three
  lines of a family.
-/

namespace BeanMeter.Exposition

variable {cs rest : List Char} {c : Char} {colons : Bool}

/-! ## Names -/

theorem isNameChar_of_mem (name : isName colons cs = true) : ∀ c ∈ cs, isNameChar colons c = true := by
  cases cs with
  | nil => simp
  | cons c cs =>
    simp only [isName, Bool.and_eq_true, List.all_eq_true] at name
    simp only [List.forall_mem_cons]
    exact ⟨by simp [isNameChar, name.1], name.2⟩

theorem not_mem_of_isName (name : isName colons cs = true) (other : isNameChar colons c = false) :
    c ∉ cs := by
  intro member
  rw [isNameChar_of_mem name c member] at other
  cases other

theorem isMetricChar_iff : isMetricChar c = true ↔ isNameChar true c = true := by
  simp only [isMetricChar, isNameChar, isLetter, isDigit, Bool.or_eq_true, Bool.true_and]
  tauto

theorem isName_guardStart (chars : ∀ c ∈ cs, isNameChar true c = true) :
    isName true (guardStart cs) = true := by
  have underscore : isLetter true '_' = true := by decide
  cases cs with
  | nil => exact Bool.and_eq_true_iff.mpr ⟨underscore, rfl⟩
  | cons c cs =>
    rw [guardStart]
    split
    · simp only [isName, underscore, Bool.true_and, List.all_eq_true]
      exact chars
    · next letter =>
      obtain ⟨own, others⟩ := List.forall_mem_cons.mp chars
      have notDigit : isDigit c = false := by simpa [isDigit] using letter
      rw [isNameChar, notDigit, Bool.or_false] at own
      rw [isName, own, Bool.true_and, List.all_eq_true]
      exact others

theorem isName_sanitizeName (name : String) : isName true (sanitizeName name).toList = true := by
  rw [sanitizeName, String.toList_ofList]
  apply isName_guardStart
  rw [List.forall_mem_map]
  intro c _
  split
  · next metric => exact isMetricChar_iff.mp metric
  · decide

/-- A name without its colons is a name of labels. -/
theorem isName_sanitizeLabel (label : String) : isName false (sanitizeLabel label).toList = true := by
  have letter {c : Char} (own : isLetter true c = true) :
      isLetter false (if c = ':' then '_' else c) = true := by
    split
    · decide
    · next other => simpa [isLetter, other] using own
  have char {c : Char} (own : isNameChar true c = true) :
      isNameChar false (if c = ':' then '_' else c) = true := by
    rw [isNameChar, Bool.or_eq_true] at own
    rcases own with own | digit
    · simp [isNameChar, letter own]
    · have other : c ≠ ':' := by
        rintro rfl
        cases digit
      simp [isNameChar, other, digit]
  rw [sanitizeLabel, String.toList_ofList]
  have name := isName_sanitizeName label
  cases chars : (sanitizeName label).toList with
  | nil => simp [chars, isName] at name
  | cons c cs =>
    rw [chars] at name
    simp only [isName, Bool.and_eq_true, List.all_eq_true] at name
    simp only [List.map_cons, isName, Bool.and_eq_true, List.all_eq_true, List.forall_mem_map]
    exact ⟨letter name.1, fun c member => char (name.2 c member)⟩

/-! ## Samples -/

/-- All labels have names that may stand in an exposition. -/
def NamedLabels (entries : List (String × String)) : Prop :=
  ∀ entry ∈ entries, isName false entry.1.toList = true

theorem namedLabels_ofList {entries : List (String × String)} (named : NamedLabels entries) :
    NamedLabels (SortedMap.ofList entries).entries :=
  fun entry member => named entry (SortedMap.mem_of_mem_ofList member)

/-- All names of a sample may stand in an exposition. -/
structure Named (s : Sample) : Prop where
  name : isName true s.name.toList = true
  histogram : ∀ family ∈ s.histogram, isName true family.toList = true
  labels : NamedLabels s.labels.entries

theorem Named.family {s : Sample} (named : Named s) : isName true s.family.toList = true := by
  unfold Sample.family
  cases part : s.histogram with
  | none => exact named.name
  | some family => exact named.histogram family part

theorem named_ofObservation (o : Observation) : Named (.ofObservation o) where
  name := isName_sanitizeName o.name
  histogram := nofun
  labels := namedLabels_ofList (List.forall_mem_map.mpr fun label _ => isName_sanitizeLabel label.1)

theorem named_of_stats {stats : ScrapeStats} {s : Sample} (member : s ∈ stats.samples) : Named s := by
  have one {label : String} (name : isName false label.toList = true) (value : String) :
      NamedLabels (SortedMap.ofList [(label, value)]).entries :=
    namedLabels_ofList (List.forall_mem_singleton.mpr name)
  have none : NamedLabels (SortedMap.empty : SortedMap String String).entries := nofun
  have durations : ∀ family ∈ some ScrapeStats.durationFamily, isName true family.toList = true := by
    rintro family ⟨⟩
    rfl
  simp only [ScrapeStats.samples, ScrapeStats.histogramSamples, List.mem_append, List.mem_cons,
    List.mem_map, List.not_mem_nil, or_false, ScrapeStats.counterSample, Sample.plain] at member
  rcases member with (rfl | rfl | rfl | rfl | rfl | rfl | rfl) | ⟨b, -, rfl⟩ | rfl | rfl
  · exact ⟨rfl, nofun, one rfl _⟩
  iterate 6 exact ⟨by dsimp only; decide +kernel, nofun, none⟩
  · exact ⟨by dsimp only; decide +kernel, durations, one rfl _⟩
  iterate 2 exact ⟨by dsimp only; decide +kernel, durations, none⟩

/-! ## Escapes -/

theorem readHelp?_helpChar : readHelp? (helpChar c ++ cs) = (readHelp? cs).map (c :: ·) := by
  unfold helpChar
  split
  · simp [readHelp?]
  · simp [readHelp?]
  · next backslash _ =>
    rw [List.singleton_append, readHelp?]
    all_goals simp_all

theorem readHelp?_escapeHelp (help : String) :
    readHelp? (escapeHelp help).toList = some help.toList := by
  rw [escapeHelp, String.toList_ofList]
  induction help.toList with
  | nil => rfl
  | cons c cs ih => rw [List.flatMap_cons, readHelp?_helpChar, ih, Option.map_some]

theorem readQuoted?_labelChar : readQuoted? (labelChar c ++ cs) =
    (readQuoted? cs).map fun (value, rest) => (c :: value, rest) := by
  unfold labelChar
  split
  · simp [readQuoted?]
  · simp [readQuoted?]
  · simp [readQuoted?]
  · next backslash quote _ =>
    rw [List.singleton_append, readQuoted?]
    all_goals simp_all

theorem readQuoted?_escapeLabel (value : String) :
    readQuoted? ((escapeLabel value).toList ++ '"' :: rest) = some (value.toList, rest) := by
  rw [escapeLabel, String.toList_ofList]
  induction value.toList with
  | nil => simp [readQuoted?]
  | cons c cs ih =>
    rw [List.flatMap_cons, List.append_assoc, readQuoted?_labelChar, ih, Option.map_some]

/-! ## Labels -/

theorem readLabel?_labelText {label : String} (name : isName false label.toList = true)
    (value : String) :
    readLabel? ((labelText label value).toList ++ rest) = some ((label, value), rest) := by
  have apart : '=' ∉ label.toList := not_mem_of_isName name (by decide)
  have written : (labelText label value).toList ++ rest =
      label.toList ++ '=' :: '"' :: ((escapeLabel value).toList ++ '"' :: rest) := by
    simp [labelText]
  rw [readLabel?, written, Text.splitFirst?_eq_some_iff.mpr ⟨rfl, apart⟩]
  simp [name, readQuoted?_escapeLabel]

theorem readLabels?_last {label : String × String}
    (read : readLabel? cs = some (label, '\x7d' :: rest)) : readLabels? cs = some ([label], rest) := by
  rw [readLabels?]
  split
  all_goals simp_all

theorem readLabels?_more {label : String × String}
    (read : readLabel? cs = some (label, ',' :: rest)) :
    readLabels? cs = (readLabels? rest).map fun (labels, after) => (label :: labels, after) := by
  rw [readLabels?]
  split
  all_goals simp_all

theorem readLabels?_written {entry : String × String} {entries : List (String × String)}
    (names : NamedLabels (entry :: entries)) (rest : List Char) :
    readLabels? ([','].intercalate
        ((entry :: entries).map fun e => (labelText e.1 e.2).toList) ++ '\x7d' :: rest) =
      some (entry :: entries, rest) := by
  induction entries generalizing entry with
  | nil =>
    rw [List.map_singleton, List.intercalate_singleton]
    exact readLabels?_last (readLabel?_labelText (names entry (by simp)) _)
  | cons next entries ih =>
    obtain ⟨own, others⟩ := List.forall_mem_cons.mp names
    have after := ih others
    rw [List.map_cons] at after
    rw [List.map_cons, List.map_cons, List.intercalate_cons_cons, List.append_assoc,
      List.append_assoc, List.singleton_append, readLabels?_more (readLabel?_labelText own entry.2),
      after, Option.map_some]

/-! ## Samples -/

/-- What the line of a sample says. -/
def Entry.ofSample (timestamps : Bool) (s : Sample) : Entry where
  name := s.name
  labels := s.labels.entries
  value := valueText s.value
  timestamp := (if timestamps then s.timestamp else none).map integerText

theorem solid_valueText (x : Binary64) : Text.Solid (valueText x).toList := by
  unfold valueText
  -- Whatever number is chosen, and in whatever notation it is written, it is solid.
  generalize (if x.abs.lt wholeLimit then x.toInt? else none) = whole
  split
  · decide
  · decide
  · decide
  · dsimp only
    split
    · exact solid_integerText _
    · split
      · exact Binary64.solid_scientific _
      · exact Binary64.solid_positional _

/-- A name is read up to the first character that no name holds. -/
theorem takeWhile_name (name : isName true cs = true) (stops : isNameChar true c = false)
    (rest : List Char) :
    (cs ++ c :: rest).takeWhile (isNameChar true) = cs ∧
      (cs ++ c :: rest).dropWhile (isNameChar true) = c :: rest := by
  have chars := isNameChar_of_mem name
  rw [List.takeWhile_append_of_pos chars, List.dropWhile_append_of_pos chars]
  simp [stops]

def stamp : Option Int → List Char
  | some t => ' ' :: (integerText t).toList
  | none => []

theorem toList_line (timestamps : Bool) (s : Sample) : (line timestamps s).toList =
    s.name.toList ++ ((labelsText s.labels).toList ++
      ' ' :: ((valueText s.value).toList ++ stamp (if timestamps then s.timestamp else none))) := by
  unfold line
  cases if timestamps then s.timestamp else none <;> simp [stamp]

/-- The value and the timestamp of a line, with a blank in front of each. -/
theorem splitOn_values {value : List Char} (solid : Text.Solid value) (timestamp : Option Int) :
    Text.splitOn ' ' (' ' :: (value ++ stamp timestamp)) =
      [] :: value :: (timestamp.map fun t => (integerText t).toList).toList := by
  have blank : Text.isBlank ' ' = true := by decide
  have own := solid.not_mem blank
  rw [← List.nil_append (' ' :: _), Text.splitOn_append_cons (by simp)]
  cases timestamp with
  | none => simp [stamp, Text.splitOn_eq_singleton own]
  | some t =>
    have last := (solid_integerText t).not_mem blank
    simp [stamp, Text.splitOn_append_cons own, Text.splitOn_eq_singleton last]

theorem readBraces?_labelsText {labels : SortedMap String String}
    (names : NamedLabels labels.entries) (rest : List Char) :
    readBraces? ((labelsText labels).toList ++ ' ' :: rest) = some (labels.entries, ' ' :: rest) := by
  unfold labelsText SortedMap.isEmpty
  cases written : labels.entries with
  | nil => rfl
  | cons entry entries =>
    rw [written] at names
    have read := readLabels?_written names (' ' :: rest)
    simpa [readBraces?, String.toList_intercalate, Function.comp_def] using read

/-- What follows the name of a sample cannot be taken for a part of it. -/
theorem exists_labelsText_eq_cons (labels : SortedMap String String) (rest : List Char) :
    ∃ c more, (labelsText labels).toList ++ ' ' :: rest = c :: more ∧ isNameChar true c = false := by
  unfold labelsText
  split
  · exact ⟨' ', rest, rfl, by decide⟩
  · rw [String.toList_append, String.toList_append, List.append_assoc, List.append_assoc]
    exact ⟨'\x7b', _, rfl, by decide⟩

/-- The line of a sample says what it was written for. -/
theorem readSample?_line {s : Sample} (named : Named s) (timestamps : Bool) :
    readSample? (line timestamps s).toList = some (.ofSample timestamps s) := by
  have values := splitOn_values (solid_valueText s.value) (if timestamps then s.timestamp else none)
  have labels := readBraces?_labelsText named.labels
    ((valueText s.value).toList ++ stamp (if timestamps then s.timestamp else none))
  -- The name ends where the braces open, or else at the blank before the value.
  obtain ⟨c, more, next, stops⟩ := exists_labelsText_eq_cons s.labels _
  have ⟨name, after⟩ := takeWhile_name named.name stops more
  rw [toList_line, next, readSample?, name, after, ← next, labels]
  dsimp only
  rw [values, if_pos named.name, Entry.ofSample]
  cases if timestamps then s.timestamp else none <;> simp

/-! ## The lines of a family -/

theorem cons_of_isName (name : isName colons cs = true) :
    ∃ c more, cs = c :: more ∧ isLetter colons c = true := by
  cases cs with
  | nil => cases name
  | cons c more =>
    rw [isName, Bool.and_eq_true] at name
    exact ⟨c, more, rfl, name.1⟩

theorem addLine?_sample {s : Sample} (named : Named s) (timestamps : Bool) (after : Remainder) :
    addLine? (line timestamps s).toList after =
      some (.ofSample timestamps s :: after.1, after.2) := by
  obtain ⟨c, more, first, letter⟩ := cons_of_isName named.name
  have sign : '#' ≠ c := by
    rintro rfl
    cases letter
  -- No comment begins with a letter.
  have told (word : List Char) : Text.stripStart? ('#' :: word) (line timestamps s).toList = none := by
    rw [toList_line, first, List.cons_append, Text.stripStart?, if_neg sign]
  rw [addLine?, told, told, readSample?_line named]
  rfl

theorem splitFirst?_name {name : List Char} (valid : isName true name = true) :
    Text.splitFirst? ' ' (name ++ ' ' :: rest) = some (name, rest) :=
  Text.splitFirst?_eq_some_iff.mpr ⟨rfl, not_mem_of_isName valid (by decide)⟩

theorem addLine?_type {family : String} (valid : isName true family.toList = true)
    (typeName : String) (after : Remainder) :
    addLine? ("# TYPE " ++ family ++ " " ++ typeName).toList after =
      some ([], ⟨family, none, typeName, after.1⟩ :: after.2) := by
  have written : ("# TYPE " ++ family ++ " " ++ typeName).toList =
      ['#', ' ', 'T', 'Y', 'P', 'E', ' '] ++ (family.toList ++ ' ' :: typeName.toList) := by
    simp
  have told : Text.stripStart? ['#', ' ', 'H', 'E', 'L', 'P', ' ']
      ("# TYPE " ++ family ++ " " ++ typeName).toList = none := by
    rw [written]
    rfl
  rw [addLine?, told, written, Text.stripStart?_eq_some_iff.mpr rfl]
  simp [splitFirst?_name valid, valid]

theorem addLine?_help {b : Block} (valid : isName true b.family.toList = true) (fresh : b.help = none)
    (help : String) (blocks : List Block) :
    addLine? ("# HELP " ++ b.family ++ " " ++ escapeHelp help).toList ([], b :: blocks) =
      some ([], { b with help := some help } :: blocks) := by
  have written : ("# HELP " ++ b.family ++ " " ++ escapeHelp help).toList =
      ['#', ' ', 'H', 'E', 'L', 'P', ' '] ++ (b.family.toList ++ ' ' :: (escapeHelp help).toList) := by
    simp
  rw [addLine?, written, Text.stripStart?_eq_some_iff.mpr rfl]
  simp [splitFirst?_name valid, fresh, readHelp?_escapeHelp]

/-! ## Line ends -/

theorem newline_not_mem_name (name : isName colons cs = true) : '\n' ∉ cs :=
  not_mem_of_isName name (by cases colons <;> decide)

theorem newline_not_mem_escapeHelp (help : String) : '\n' ∉ (escapeHelp help).toList := by
  rw [escapeHelp, String.toList_ofList, List.mem_flatMap]
  rintro ⟨c, -, member⟩
  unfold helpChar at member
  split at member
  · simp at member
  · simp at member
  · next other => exact other (List.mem_singleton.mp member).symm

theorem newline_not_mem_escapeLabel (value : String) : '\n' ∉ (escapeLabel value).toList := by
  rw [escapeLabel, String.toList_ofList, List.mem_flatMap]
  rintro ⟨c, -, member⟩
  unfold labelChar at member
  split at member
  · simp at member
  · simp at member
  · simp at member
  · next other => exact other (List.mem_singleton.mp member).symm

theorem newline_not_mem_labelsText {labels : SortedMap String String}
    (names : NamedLabels labels.entries) : '\n' ∉ (labelsText labels).toList := by
  have pieces : ∀ e ∈ labels.entries, '\n' ∉ (labelText e.1 e.2).toList := by
    intro e member
    simp [labelText, newline_not_mem_name (names e member), newline_not_mem_escapeLabel]
  have joined := Text.not_mem_intercalate (show '\n' ∉ [','] by decide)
    (List.forall_mem_map.mpr pieces)
  unfold labelsText
  split
  · simp
  · simpa [String.toList_intercalate, Function.comp_def] using joined

theorem newline_not_mem_line {s : Sample} (named : Named s) (timestamps : Bool) :
    '\n' ∉ (line timestamps s).toList := by
  have blank : Text.isBlank '\n' = true := by decide
  have stamped (t : Option Int) : '\n' ∉ stamp t := by
    cases t with
    | none => simp [stamp]
    | some t => simp [stamp, (solid_integerText t).not_mem blank]
  simp [toList_line, newline_not_mem_name named.name, newline_not_mem_labelsText named.labels,
    (solid_valueText s.value).not_mem blank, stamped]

end BeanMeter.Exposition
