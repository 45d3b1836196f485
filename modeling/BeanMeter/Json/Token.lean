/-! # JSON tokens

The lexical layer of the strict JSON grammar. The lexer looks at one character at a time, in one
of a few modes, so reading a text is one fold over its characters.

* `Token` — punctuation, words, numbers and strings; numbers and strings still as written.
* `Token.scan?` — all tokens of a text, or nothing if some character cannot stand where it does.
-/

namespace BeanMeter.Json

/-- A piece of a string as written: a character, or a code unit given by four hexadecimal
digits. -/
inductive StringPiece where
  | char (c : Char)
  | unit (n : Nat)
  deriving DecidableEq, Repr

/-- A lexical unit of a JSON text. -/
inductive Token where
  | openArray
  | closeArray
  | openObject
  | closeObject
  | comma
  | colon
  | null
  | true
  | false
  /-- A number, as the characters that write it. -/
  | number (text : List Char)
  | string (pieces : List StringPiece)
  deriving DecidableEq, Repr

namespace Token

/-- What the lexer is in the middle of. Collected parts are in reverse order. -/
inductive Mode where
  | between
  | word (letters : List Char)
  | number (text : List Char)
  | string (pieces : List StringPiece)
  /-- After a backslash in a string. -/
  | escape (pieces : List StringPiece)
  /-- In a code unit escape: its value so far and how many digits are missing. -/
  | unit (pieces : List StringPiece) (value missing : Nat)

/-- The four characters that may separate tokens. -/
def isSeparator (c : Char) : Bool := c == ' ' || c == '\t' || c == '\n' || c == '\r'

/-- The characters of which numbers are made. -/
def isNumberChar (c : Char) : Bool :=
  ('0' ≤ c && c ≤ '9') || c == '-' || c == '+' || c == '.' || c == 'e' || c == 'E'

/-- The token of a single punctuation character. -/
def punctuation? : Char → Option Token
  | '[' => some .openArray
  | ']' => some .closeArray
  | '\x7b' => some .openObject
  | '\x7d' => some .closeObject
  | ',' => some .comma
  | ':' => some .colon
  | _ => none

/-- The token of a word. -/
def word? (letters : List Char) : Option Token :=
  if letters = "null".toList then some .null
  else if letters = "true".toList then some .true
  else if letters = "false".toList then some .false
  else none

/-- The character that a one-letter escape stands for. -/
def escaped? : Char → Option Char
  | '"' => some '"'
  | '\\' => some '\\'
  | '/' => some '/'
  | 'b' => some '\x08'
  | 'f' => some '\x0c'
  | 'n' => some '\n'
  | 'r' => some '\r'
  | 't' => some '\t'
  | _ => none

/-- The value of a hexadecimal digit. -/
def hexDigit? (c : Char) : Option Nat :=
  if '0' ≤ c && c ≤ '9' then some (c.toNat - '0'.toNat)
  else if 'a' ≤ c && c ≤ 'f' then some (c.toNat - 'a'.toNat + 10)
  else if 'A' ≤ c && c ≤ 'F' then some (c.toNat - 'A'.toNat + 10)
  else none

/-- A character between tokens: a separator, punctuation, or the beginning of a longer token. -/
def start? (done : List Token) (c : Char) : Option (List Token × Mode) :=
  if isSeparator c then some (done, .between)
  else if c = '"' then some (done, .string [])
  else if isNumberChar c then some (done, .number [c])
  else if c.isAlpha then some (done, .word [c])
  else (punctuation? c).map fun t => (t :: done, .between)

/-- Takes one character. The tokens already read are in reverse order. -/
def step? (done : List Token) : Mode → Char → Option (List Token × Mode)
  | .between, c => start? done c
  | .word letters, c =>
    if c.isAlphanum then some (done, .word (c :: letters))
    else (word? letters.reverse).bind fun t => start? (t :: done) c
  | .number text, c =>
    if isNumberChar c then some (done, .number (c :: text))
    else start? (.number text.reverse :: done) c
  | .string pieces, c =>
    if c = '"' then some (.string pieces.reverse :: done, .between)
    else if c = '\\' then some (done, .escape pieces)
    else if c.toNat < 0x20 then none
    else some (done, .string (.char c :: pieces))
  | .escape pieces, c =>
    if c = 'u' then some (done, .unit pieces 0 4)
    else (escaped? c).map fun e => (done, .string (.char e :: pieces))
  | .unit pieces value missing, c =>
    (hexDigit? c).map fun d =>
      if missing ≤ 1 then (done, .string (.unit (16 * value + d) :: pieces))
      else (done, .unit pieces (16 * value + d) (missing - 1))

/-- Ends the text. -/
def finish? (done : List Token) : Mode → Option (List Token)
  | .between => some done.reverse
  | .word letters => (word? letters.reverse).map fun t => (t :: done).reverse
  | .number text => some (Token.number text.reverse :: done).reverse
  | _ => none

/-- Reads the characters from a given point on. -/
def scanFrom? (done : List Token) (mode : Mode) : List Char → Option (List Token)
  | [] => finish? done mode
  | c :: cs => (step? done mode c).bind fun (done, mode) => scanFrom? done mode cs

/-- The tokens of a text. -/
def scan? (cs : List Char) : Option (List Token) := scanFrom? [] .between cs

end Token

end BeanMeter.Json
