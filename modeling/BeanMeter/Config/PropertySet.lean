import BeanMeter.Collection.SortedMap
import BeanMeter.Config.Error
import BeanMeter.Config.Key
import BeanMeter.Number.Reading
import BeanMeter.Text.Blank
import BeanMeter.Text.Split

/-! # Property sets

Flat maps from keys to values, and the text format in which they are written: one entry a line,
comments, lines folded by a backslash at their end, and escapes.

* `PropertySet.logicalLines` — the entries of a document with comments dropped and folds undone.
* `PropertySet.splitEntry` — the key and the value of an entry, still escaped.
* `PropertySet.unescape` — undoes escapes.
* `PropertySet.parse` — the set that a document writes; of two entries with one key the later wins.
* `PropertySet.unrecognized` — keys that look meant for the program but are not understood.
-/

namespace BeanMeter

/-- A finite map from keys to values. -/
abbrev PropertySet := SortedMap String String

namespace PropertySet

/-! ## Lines -/

/-- Whether a line, without its leading blanks, begins no entry. -/
def isSkipped : List Char → Bool
  | [] => true
  | c :: _ => c == '#' || c == '!'

/-- Whether a line ends in an odd number of backslashes, and so goes on in the next one. -/
def isFolded (line : List Char) : Bool := (line.reverse.takeWhile (· == '\\')).length % 2 == 1

/-- The entries of a sequence of physical lines, after the part of an entry already read. Leading
blanks of each physical line are dropped; blank lines and comments count only inside an entry. -/
def logicalLines (pending : List Char) : List (List Char) → List (List Char)
  | [] => if pending = [] then [] else [pending]
  | physical :: rest =>
    -- Blanks at the end of a line belong to the value, those at its start to nothing.
    let line := Text.trimStart physical
    if pending = [] ∧ isSkipped line then logicalLines [] rest
    else if isFolded line then logicalLines (pending ++ line.dropLast) rest
    else (pending ++ line) :: logicalLines [] rest

/-! ## Entries -/

/-- The blanks that may stand between key and value. -/
def isGap (c : Char) : Bool := c == ' ' || c == '\t' || c == '\x0c'

/-- The characters that end a key unless they are escaped. -/
def endsKey (c : Char) : Bool := c == '=' || c == ':' || isGap c

/-- The key of an entry and what follows it. A backslash protects the character after it. -/
def splitKey : List Char → List Char × List Char
  | [] => ([], [])
  | '\\' :: c :: rest =>
    let (key, tail) := splitKey rest
    ('\\' :: c :: key, tail)
  | c :: rest =>
    if endsKey c then ([], c :: rest)
    else
      let (key, tail) := splitKey rest
      (c :: key, tail)

/-- Drops the separator in front of a value: blanks, at most one sign, blanks. -/
def dropSeparator (cs : List Char) : List Char :=
  match cs.dropWhile isGap with
  | [] => []
  | c :: rest => if c = '=' ∨ c = ':' then rest.dropWhile isGap else c :: rest

/-- The character of a one-letter escape; a letter without a meaning of its own stands for
itself. -/
def escapedChar : Char → Char
  | 't' => '\t'
  | 'n' => '\n'
  | 'r' => '\r'
  | 'f' => '\x0c'
  | c => c

/-- The number written by up to four hexadecimal digits, with an optional plus sign. -/
def readCodeUnit? : List Char → Option Nat
  | '+' :: ds => readHexDigits? ds
  | ds => readHexDigits? ds

/-- What the characters after `\u` stand for: the character with that code, or themselves if there
is none. -/
def decodeUnit (hex : List Char) : List Char :=
  match readCodeUnit? hex with
  | some n => if n < 0xd800 ∨ 0xdfff < n then [Char.ofNat n] else '\\' :: 'u' :: hex
  | none => '\\' :: 'u' :: hex

/-- Undoes escapes. A backslash at the very end stands for nothing. -/
def unescape (cs : List Char) : List Char :=
  match cs with
  | [] => []
  | c :: rest =>
    if c ≠ '\\' then c :: unescape rest
    else
      match rest with
      | [] => []
      | e :: more =>
        -- The four characters of a code are used up even if they give no character.
        if e = 'u' then decodeUnit (more.take 4) ++ unescape (more.drop 4)
        else escapedChar e :: unescape more
  termination_by cs.length

/-- The key and the value that an entry writes. -/
def splitEntry (line : List Char) : String × String :=
  let (key, tail) := splitKey line
  (String.ofList (unescape key), String.ofList (unescape (dropSeparator tail)))

/-- The set that a document writes. -/
def parse (text : String) : PropertySet :=
  SortedMap.ofList ((logicalLines [] (Text.lines text.toList)).map splitEntry)

/-! ## Reading documents -/

/-- The set in the bytes of a document; `origin` names the document in errors. -/
def ofBytes (origin : String) (bytes : List UInt8) : Except ConfigError PropertySet :=
  match textOfBytes bytes with
  | .ok text => .ok (parse text)
  | .error fault => .error (.unreadable origin fault)

/-- The set in a file. -/
def load (files : Files) (path : String) : Except ConfigError PropertySet :=
  match files.readText path with
  | .ok text => .ok (parse text)
  | .error fault => .error (.unreadable ("'" ++ path ++ "'") fault)

/-- The keys that look meant for the program but are not understood, in ascending order. -/
def unrecognized (p : PropertySet) : List String :=
  p.keys.filter fun k =>
    (Text.stripStart? Key.marker.toList k.toList).isSome && !Key.all.contains k

end PropertySet

end BeanMeter
