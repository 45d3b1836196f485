import BeanMeter.Exposition.Sample

/-! # Exposition text

The text form of samples: families in the order in which they first occur, each with its help text,
its type and its samples.

* `Exposition.valueText` — how a value is written.
* `Exposition.line` — the line of a sample.
* `Exposition.text` — the text of a list of samples.
-/

namespace BeanMeter.Exposition

/-! ## Escapes -/

/-- A character of a help text. -/
def helpChar : Char → List Char
  | '\\' => ['\\', '\\']
  | '\n' => ['\\', 'n']
  | c => [c]

/-- A help text with backslashes and line ends escaped. -/
def escapeHelp (help : String) : String := String.ofList (help.toList.flatMap helpChar)

/-- A character of a label value. -/
def labelChar : Char → List Char
  | '\\' => ['\\', '\\']
  | '"' => ['\\', '"']
  | '\n' => ['\\', 'n']
  | c => [c]

/-- A label value with backslashes, quotes and line ends escaped. -/
def escapeLabel (value : String) : String := String.ofList (value.toList.flatMap labelChar)

/-! ## Values -/

/-- Whole numbers below this size are written digit for digit. -/
def wholeLimit : Binary64 := .ofNat 1000000000000000

/-- From this size on other numbers are written with an exponent. -/
def largeLimit : Binary64 := .ofNat 1000000

/-- Below this size other numbers are written with an exponent. -/
def smallLimit : Binary64 := .ofRatio false 1 1000

/-- How a value is written. -/
def valueText (x : Binary64) : String :=
  match x with
  | .nan => "NaN"
  | .infinite false => "+Inf"
  | .infinite true => "-Inf"
  | .finite _ _ =>
    -- Beyond the limit a double may stand for a whole number that was not meant.
    let whole := if x.abs.lt wholeLimit then x.toInt? else none
    match whole with
    | some n => integerText n
    | none =>
      if largeLimit.le x.abs || (x.abs.lt smallLimit && !x.isZero) then x.scientific
      else x.positional

/-! ## Lines -/

/-- A label and its value. -/
def labelText (label value : String) : String := label ++ "=\"" ++ escapeLabel value ++ "\""

/-- The labels of a sample in braces, if it has any. -/
def labelsText (labels : SortedMap String String) : String :=
  if labels.isEmpty then ""
  else
    "\x7b" ++ ",".intercalate (labels.entries.map fun (label, value) => labelText label value) ++
      "\x7d"

/-- The line of a sample. -/
def line (timestamps : Bool) (s : Sample) : String :=
  s.name ++ labelsText s.labels ++ " " ++ valueText s.value ++
    match if timestamps then s.timestamp else none with
    | some t => " " ++ integerText t
    | none => ""

/-! ## Families -/

/-- The samples of one family. -/
structure Family where
  name : String
  samples : List Sample
  deriving Repr

/-- The families that occur in a list of samples, without repetition, after those seen. -/
def familyNames (seen : List String) : List Sample → List String
  | [] => []
  | s :: rest =>
    if seen.contains s.family then familyNames seen rest
    else s.family :: familyNames (s.family :: seen) rest

/-- The samples by family, in the order in which the families first occur. -/
def families (samples : List Sample) : List Family :=
  (familyNames [] samples).map fun name => ⟨name, samples.filter fun s => s.family == name⟩

/-- The first help text in a family. -/
def Family.help? (f : Family) : Option String := f.samples.findSome? (·.help)

/-- The type of a family, which is that of its first sample. -/
def Family.typeName (f : Family) : String := (f.samples.head?.map Sample.typeName).getD ""

/-- The lines of a family. -/
def Family.lines (timestamps : Bool) (f : Family) : List String :=
  (f.help?.map fun help => "# HELP " ++ f.name ++ " " ++ escapeHelp help).toList ++
  ["# TYPE " ++ f.name ++ " " ++ f.typeName] ++
  f.samples.map (line timestamps)

/-- The text of a list of samples. -/
def text (timestamps : Bool) (samples : List Sample) : String :=
  String.join (((families samples).flatMap (Family.lines timestamps)).map fun l => l ++ "\n")

end BeanMeter.Exposition
