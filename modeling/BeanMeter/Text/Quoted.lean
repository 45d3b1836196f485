import BeanMeter.Number.Notation
import BeanMeter.Text.Invisible

/-! # Quoted texts

How texts and maps of texts look in log lines and diagnostics.

* `quote` — a text between quotes with special characters escaped.
* `quoteOption` — a text that may be absent.
* `quoteMap` — the entries of a map of texts.
-/

namespace BeanMeter.Text

/-- A character by its code in hexadecimal. -/
def codeEscape (c : Char) : List Char :=
  let ds := (hexDigits 8 c.toNat).dropWhile (· == '0')
  ['\\', 'u', '\x7b'] ++ ds ++ ['\x7d']

/-- The form of one character inside quotes. -/
def quoteChar (c : Char) : List Char :=
  match c with
  | '"' => ['\\', '"']
  | '\\' => ['\\', '\\']
  | '\n' => ['\\', 'n']
  | '\r' => ['\\', 'r']
  | '\t' => ['\\', 't']
  | c => if c.toNat = 0 then ['\\', '0'] else if isInvisible c then codeEscape c else [c]

/-- A text between quotes with special characters escaped. -/
def quote (s : String) : String := String.ofList ('"' :: s.toList.flatMap quoteChar ++ ['"'])

/-- A text that may be absent. -/
def quoteOption : Option String → String
  | none => "None"
  | some s => "Some(" ++ quote s ++ ")"

/-- The entries of a map of texts, between braces. -/
def quoteMap (entries : List (String × String)) : String :=
  "\x7b" ++ ", ".intercalate (entries.map fun e => quote e.1 ++ ": " ++ quote e.2) ++ "\x7d"

end BeanMeter.Text
