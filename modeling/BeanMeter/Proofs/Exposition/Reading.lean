import BeanMeter.Text.Split

/-! # Reading expositions

A reader of the text format, independent of how texts are written. It takes no liberties: a line
that is neither a comment that opens a family nor a sample makes it fail, and so does a name that is
none.

* `Exposition.isName` — the names of metrics and of labels.
* `Exposition.Entry`, `Exposition.Block` — what a text says of a sample and of a family.
* `Exposition.read?` — the families of a text.
-/

namespace BeanMeter.Exposition

/-! ## Names -/

/-- The letters of names; colons belong to the names of metrics only. -/
def isLetter (colons : Bool) (c : Char) : Bool :=
  ('a' ≤ c && c ≤ 'z') || ('A' ≤ c && c ≤ 'Z') || c == '_' || (colons && c == ':')

def isDigit (c : Char) : Bool := '0' ≤ c && c ≤ '9'

def isNameChar (colons : Bool) (c : Char) : Bool := isLetter colons c || isDigit c

/-- Whether a text matches `[a-zA-Z_:][a-zA-Z0-9_:]*`, or the same without the colons. -/
def isName (colons : Bool) : List Char → Bool
  | [] => false
  | c :: cs => isLetter colons c && cs.all (isNameChar colons)

/-! ## Escapes -/

/-- A help text with its escapes undone. -/
def readHelp? : List Char → Option (List Char)
  | [] => some []
  | '\\' :: '\\' :: cs => (readHelp? cs).map ('\\' :: ·)
  | '\\' :: 'n' :: cs => (readHelp? cs).map ('\n' :: ·)
  | '\\' :: _ => none
  | c :: cs => (readHelp? cs).map (c :: ·)

/-- A text up to the quote that ends it, with its escapes undone, and what follows the quote. -/
def readQuoted? : List Char → Option (List Char × List Char)
  | [] => none
  | '"' :: rest => some ([], rest)
  | '\\' :: '\\' :: cs => (readQuoted? cs).map fun (value, rest) => ('\\' :: value, rest)
  | '\\' :: '"' :: cs => (readQuoted? cs).map fun (value, rest) => ('"' :: value, rest)
  | '\\' :: 'n' :: cs => (readQuoted? cs).map fun (value, rest) => ('\n' :: value, rest)
  | '\\' :: _ => none
  | c :: cs => (readQuoted? cs).map fun (value, rest) => (c :: value, rest)

theorem length_of_readQuoted? {cs value rest : List Char}
    (read : readQuoted? cs = some (value, rest)) : rest.length < cs.length := by
  induction cs using readQuoted?.induct generalizing value with
  | case1 => simp [readQuoted?] at read
  | case2 =>
    simp only [readQuoted?, Option.some.injEq, Prod.mk.injEq] at read
    simp [read.2]
  | case6 =>
    rw [readQuoted?] at read
    · cases read
    all_goals assumption
  | case3 cs ih | case4 cs ih | case5 cs ih | case7 c cs _ _ _ _ _ ih =>
    rw [readQuoted?] at read
    · obtain ⟨⟨own, after⟩, readRest, same⟩ := Option.map_eq_some_iff.mp read
      simp only [Prod.mk.injEq] at same
      obtain ⟨-, rfl⟩ := same
      have shorter := ih readRest
      simp only [List.length_cons]
      omega
    all_goals assumption

/-! ## Samples -/

/-- What a text says of a sample. -/
structure Entry where
  name : String
  labels : List (String × String)
  value : String
  timestamp : Option String
  deriving DecidableEq, Repr

/-- A label and its value in quotes, and what follows them. -/
def readLabel? (cs : List Char) : Option ((String × String) × List Char) :=
  match Text.splitFirst? '=' cs with
  | some (label, '"' :: quoted) =>
    if isName false label then
      (readQuoted? quoted).map fun (value, rest) =>
        ((String.ofList label, String.ofList value), rest)
    else none
  | _ => none

theorem length_of_readLabel? {cs rest : List Char} {label : String × String}
    (read : readLabel? cs = some (label, rest)) : rest.length < cs.length := by
  unfold readLabel? at read
  split at read
  · next before =>
    split at read
    · obtain ⟨⟨value, after⟩, inside, same⟩ := Option.map_eq_some_iff.mp read
      simp only [Prod.mk.injEq] at same
      obtain ⟨-, rfl⟩ := same
      have whole := congrArg List.length (Text.splitFirst?_eq_some_iff.mp before).1
      have shorter := length_of_readQuoted? inside
      simp only [List.length_append, List.length_cons] at whole
      omega
    · cases read
  · cases read

/-- The labels up to the brace that closes them, and what follows the brace. -/
def readLabels? (cs : List Char) : Option (List (String × String) × List Char) :=
  match _read : readLabel? cs with
  | some (label, ',' :: more) =>
    (readLabels? more).map fun (labels, rest) => (label :: labels, rest)
  | some (label, '\x7d' :: rest) => some ([label], rest)
  | _ => none
  termination_by cs.length
  decreasing_by
    have shorter := length_of_readLabel? _read
    rw [List.length_cons] at shorter
    omega

/-- The labels of a sample, if there are any, and what follows them. -/
def readBraces? : List Char → Option (List (String × String) × List Char)
  | '\x7b' :: more => readLabels? more
  | rest => some ([], rest)

/-- A sample: its name, its labels in braces, its value, and its timestamp. -/
def readSample? (line : List Char) : Option Entry :=
  let name := line.takeWhile (isNameChar true)
  if isName true name then
    match readBraces? (line.dropWhile (isNameChar true)) with
    | some (labels, values) =>
      match Text.splitOn ' ' values with
      | [[], value] => some ⟨String.ofList name, labels, String.ofList value, none⟩
      | [[], value, timestamp] =>
        some ⟨String.ofList name, labels, String.ofList value, some (String.ofList timestamp)⟩
      | _ => none
    | none => none
  else none

/-! ## Families -/

/-- What a text says of a family. -/
structure Block where
  family : String
  help : Option String
  typeName : String
  samples : List Entry
  deriving DecidableEq, Repr

/-- The samples at the beginning of a text that belong to no family yet, and the families after
them. -/
abbrev Remainder := List Entry × List Block

/-- A line in front of what has been read from the lines after it. A family begins where its type
is told, and only there its help can have been told before. -/
def addLine? (line : List Char) (after : Remainder) : Option Remainder :=
  match Text.stripStart? ['#', ' ', 'H', 'E', 'L', 'P', ' '] line with
  | some told =>
    match Text.splitFirst? ' ' told, after with
    | some (family, text), ([], b :: blocks) =>
      -- No sample stands between the help text and the type, and there is no second help text.
      if b.family.toList = family ∧ b.help = none then
        (readHelp? text).map fun help => ([], { b with help := some (String.ofList help) } :: blocks)
      else none
    | _, _ => none
  | none =>
    match Text.stripStart? ['#', ' ', 'T', 'Y', 'P', 'E', ' '] line with
    | some told =>
      match Text.splitFirst? ' ' told with
      | some (family, typeName) =>
        if isName true family then
          -- The samples that have no family yet are those between this line and the next type.
          some ([], ⟨String.ofList family, none, String.ofList typeName, after.1⟩ :: after.2)
        else none
      | none => none
    | none => (readSample? line).map fun entry => (entry :: after.1, after.2)

/-- The families of some lines, read from the last line to the first. -/
def readLines? : List (List Char) → Option Remainder
  | [] => some ([], [])
  | line :: lines => (readLines? lines).bind (addLine? line)

/-- The families of a text, all of whose lines are ended and all of whose samples are in one. -/
def read? (text : String) : Option (List Block) :=
  let pieces := Text.splitOn '\n' text.toList
  match pieces.getLast?, readLines? pieces.dropLast with
  | some [], some ([], blocks) => some blocks
  | _, _ => none

end BeanMeter.Exposition
