import BeanMeter.Json.Value
import BeanMeter.Number.Notation

/-! # Writing JSON

* `quoted` — the written form of a string.
* `Json.compact` — a value on one line without blanks.
* `Json.pretty` — a value with one entry a line, indented by two blanks a level.
-/

namespace BeanMeter.Json

/-- The written form of one character of a string: quotes, backslashes and control characters are
escaped, all else stands for itself. -/
def escapeChar (c : Char) : List Char :=
  match c with
  | '"' => ['\\', '"']
  | '\\' => ['\\', '\\']
  | '\x08' => ['\\', 'b']
  | '\x0c' => ['\\', 'f']
  | '\n' => ['\\', 'n']
  | '\r' => ['\\', 'r']
  | '\t' => ['\\', 't']
  | c => if c.toNat < 0x20 then ['\\', 'u'] ++ hexDigits 4 c.toNat else [c]

/-- The written form of a string. -/
def quoted (s : String) : List Char := '"' :: s.toList.flatMap escapeChar ++ ['"']

/-- The written form of a value that holds no others. -/
def leafText : Json → List Char
  | .null => "null".toList
  | .bool b => (if b then "true" else "false").toList
  | .int n => (integerText n).toList
  | .real x => (x.exponential?.getD "null").toList
  | .str s => quoted s
  | _ => []

mutual

/-- A value on one line without blanks, as characters. -/
def compactChars : Json → List Char
  | .arr items => '[' :: compactItems items ++ [']']
  | .obj fields => '\x7b' :: compactFields fields ++ ['\x7d']
  | v => leafText v

/-- The items of an array, separated by commas. -/
def compactItems : List Json → List Char
  | [] => []
  | [v] => compactChars v
  | v :: vs => compactChars v ++ ',' :: compactItems vs

/-- The entries of an object, separated by commas. -/
def compactFields : List (String × Json) → List Char
  | [] => []
  | [(k, v)] => quoted k ++ ':' :: compactChars v
  | (k, v) :: fs => quoted k ++ ':' :: (compactChars v ++ ',' :: compactFields fs)

end

/-- A value on one line without blanks. -/
def compact (v : Json) : String := String.ofList (compactChars v)

/-- The beginning of a line at a level. -/
def indent (level : Nat) : List Char := '\n' :: List.replicate (2 * level) ' '

mutual

/-- A value over several lines; an empty container stays on one line. -/
def prettyChars (level : Nat) : Json → List Char
  | .arr [] => ['[', ']']
  | .arr items => '[' :: prettyItems (level + 1) items ++ indent level ++ [']']
  | .obj [] => ['\x7b', '\x7d']
  | .obj fields => '\x7b' :: prettyFields (level + 1) fields ++ indent level ++ ['\x7d']
  | v => leafText v

/-- The items of an array, each on lines of its own. -/
def prettyItems (level : Nat) : List Json → List Char
  | [] => []
  | [v] => indent level ++ prettyChars level v
  | v :: vs => indent level ++ prettyChars level v ++ ',' :: prettyItems level vs

/-- The entries of an object, each on lines of its own. -/
def prettyFields (level : Nat) : List (String × Json) → List Char
  | [] => []
  | [(k, v)] => indent level ++ quoted k ++ ':' :: ' ' :: prettyChars level v
  | (k, v) :: fs =>
    indent level ++ quoted k ++ ':' :: ' ' :: (prettyChars level v ++ ',' :: prettyFields level fs)

end

/-- A value over several lines. -/
def pretty (v : Json) : String := String.ofList (prettyChars 0 v)

end BeanMeter.Json
