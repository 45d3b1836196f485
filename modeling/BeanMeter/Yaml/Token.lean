import BeanMeter.Text.Utf8
import BeanMeter.Yaml.Scalar

/-! # YAML tokens

The lexical units of a YAML text, and those of them that depend on nothing around them: names,
tags and directives. The structure that indentation expresses is made of tokens, too, and is found
by `Token.scan?` in the module on layout.
-/

namespace BeanMeter.Yaml

/-- A lexical unit of a YAML text. -/
inductive Token where
  | documentStart
  | documentEnd
  | version (major minor : Nat)
  | handle (name meaning : String)
  | blockSequenceStart
  | blockMappingStart
  | blockEnd
  | flowSequenceStart
  | flowSequenceEnd
  | flowMappingStart
  | flowMappingEnd
  | blockEntry
  | flowEntry
  | key
  | value
  | alias (name : String)
  | anchor (name : String)
  | tag (handle suffix : String)
  | scalar (style : ScalarStyle) (text : String)
  deriving DecidableEq, Repr

namespace Token

/-! ## Names -/

/-- Whether a name may end before this text. -/
def endsName : List Char → Bool
  | [] => true
  | c :: rest => atGap (c :: rest) || "?:,]\x7d%@\x60".toList.contains c

/-- The name after the indicator of an anchor or an alias. -/
def name? (c : Cursor) : Option (String × Cursor) :=
  let (name, stop) := c.span isNameChar
  if name ≠ [] ∧ endsName stop.rest then some (String.ofList name, stop) else none

/-! ## Tags -/

/-- The characters of tags other than letters, digits and escapes. -/
def isTagChar (verbatim : Bool) (c : Char) : Bool :=
  isNameChar c || ";/?:@&=+$.!~*'()".toList.contains c || (verbatim && ",[]".toList.contains c)

/-- The bytes of a tag: characters, and bytes given by two hexadecimal digits. -/
def tagBytes? (verbatim : Bool) : List Char → Option (List UInt8 × Nat)
  | '%' :: a :: b :: rest =>
    match hexValue? a, hexValue? b with
    | some x, some y =>
      (tagBytes? verbatim rest).map fun (bytes, n) => (UInt8.ofNat (16 * x + y) :: bytes, n + 3)
    | _, _ => none
  | c :: rest =>
    if c = '%' then none
    else if isTagChar verbatim c then
      (tagBytes? verbatim rest).map fun (bytes, n) => (Text.Utf8.encodeChar c ++ bytes, n + 1)
    else some ([], 0)
  | [] => some ([], 0)

/-- The longest text that can be part of a tag. -/
def tagText? (verbatim : Bool) (c : Cursor) : Option (String × Cursor) :=
  (tagBytes? verbatim c.rest).bind fun (bytes, n) =>
    (Text.Utf8.decodeStrict? bytes).map fun s => (s, c.skip n)

/-- The start of a tag up to a second exclamation mark, if there is one. -/
def tagHandle (c : Cursor) : String × Cursor :=
  let (name, stop) := (c.skip 1).span isNameChar
  if stop.rest.head? = some '!' then (String.ofList ('!' :: name ++ ['!']), stop.skip 1)
  else (String.ofList ('!' :: name), stop)

/-- Whether a text is more than one exclamation mark, with one at both ends. -/
def isNamedHandle (handle : String) : Bool :=
  2 ≤ handle.length && handle.toList.getLast? == some '!'

/-- Reads a tag. A handle of one exclamation mark may go without a suffix, and the tag is then a
mark of its own. -/
def tag? (flow : Bool) (c : Cursor) : Option (Token × Cursor) := do
  let (token, stop) ←
    if (c.rest.drop 1).head? = some '<' then do
      let (suffix, stop) ← tagText? true (c.skip 2)
      if suffix ≠ "" ∧ stop.rest.head? = some '>' then some (tag "" suffix, stop.skip 1) else none
    else do
      let (start, afterStart) := tagHandle c
      let (rest, stop) ← tagText? false afterStart
      if isNamedHandle start then
        if rest = "" then none else some (tag start rest, stop)
      else
        let suffix := String.ofList (start.toList.drop 1) ++ rest
        some (if suffix = "" then tag "" "!" else tag "!" suffix, stop)
  if atGap stop.rest || (flow && stop.rest.head? == some ',') then some (token, stop) else none

/-! ## Directives -/

/-- A number of at most nine digits. -/
def versionPart? (c : Cursor) : Option (Nat × Cursor) :=
  let (digits, stop) := c.span isDigit
  if digits ≠ [] ∧ digits.length ≤ 9 then some (ofDigits digits, stop) else none

/-- Reads the two numbers of a version. -/
def version? (c : Cursor) : Option (Token × Cursor) := do
  let (major, stop) ← versionPart? c.skipBlanks
  if stop.rest.head? ≠ some '.' then none
  let (minor, stop) ← versionPart? (stop.skip 1)
  some (version major minor, stop)

/-- Reads a tag handle and the text that it stands for. -/
def handle? (c : Cursor) : Option (Token × Cursor) := do
  let c := c.skipBlanks
  if c.rest.head? ≠ some '!' then none
  let (name, stop) := tagHandle c
  if name ≠ "!" ∧ !isNamedHandle name then none
  if stop.rest = [] ∨ !atGap stop.rest ∨ atLineEnd stop.rest then none
  let (meaning, stop) ← tagText? true stop.skipBlanks
  if meaning = "" ∨ !atGap stop.rest then none
  some (handle name meaning, stop)

/-- Reads a directive after its percent sign, with the line that it stands in. -/
def directive? (c : Cursor) : Option (Token × Cursor) := do
  let (name, stop) := c.span isNameChar
  if name = [] ∨ !atGap stop.rest then none
  let (token, stop) ←
    if name = "YAML".toList then version? stop
    else if name = "TAG".toList then handle? stop
    else none
  let stop := stop.skipBlanks.skipComment
  if atLineEnd stop.rest then some (token, stop.skipBreak) else none

end Token

end BeanMeter.Yaml
