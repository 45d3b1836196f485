import BeanMeter.Json.Printer
import BeanMeter.Text.Split
import BeanMeter.Yaml.Node

/-! # Writing YAML

Values in block style. A text is written plainly if it reads back as a text, in single quotes if
not, in double quotes if it holds characters that have to be escaped, and as a block if it has
several lines.

* `Print.textStyle` — how a text is written.
* `print` — a value as a document.
-/

namespace BeanMeter.Yaml

namespace Print

/-! ## Words that are no texts -/

/-- The words for truth values, in today's and in former versions of the language. -/
def truthWords : List String :=
  ["y", "Y", "yes", "Yes", "YES", "n", "N", "no", "No", "NO", "true", "True", "TRUE", "false",
    "False", "FALSE", "on", "On", "ON", "off", "Off", "OFF"]

/-- The words for numbers that are not finite. -/
def unboundedWords : List String :=
  [".inf", ".Inf", ".INF", "+.inf", "+.Inf", "+.INF", "-.inf", "-.Inf", "-.INF", ".nan", ".NaN",
    ".NAN"]

/-- A text after one plus or minus sign. -/
def dropSign : List Char → List Char
  | '+' :: cs | '-' :: cs => cs
  | cs => cs

/-- Whether all characters are digits in a base, and there is one. -/
def areDigits (base : Nat) (cs : List Char) : Bool :=
  cs != [] && cs.all fun c => (hexValue? c).any fun d => d < base

/-- Whether a text is a whole number in a base that it says, within 128 bits. -/
def isBasedNumber (cs : List Char) : Bool :=
  match dropSign cs with
  | '0' :: 'x' :: ds => areDigits 16 ds && (readHexDigits? ds).any fun n => n < Nat.pow 2 128
  | '0' :: 'o' :: ds => areDigits 8 ds && ds.length ≤ 42
  | '0' :: 'b' :: ds => areDigits 2 ds && ds.length ≤ 128
  | _ => false

/-- Whether a text is made of digits but starts with a needless zero. -/
def hasLeadingZero (cs : List Char) : Bool :=
  match dropSign cs with
  | '0' :: c :: ds => (c :: ds).all isDigit
  | _ => false

/-- Whether a text is a decimal number of finite size. -/
def isDecimalNumber (s : String) : Bool :=
  let cs := s.toList
  let body := match cs with
    | '+' :: '+' :: _ | '+' :: '-' :: _ => []
    | '+' :: cs => cs
    | cs => cs
  (readBinary64? body).any fun x => x.position?.isSome && !x.isInfinite

/-- Whether a text would be read as something else, or as a number by some readers. -/
def isAmbiguous (s : String) : Bool :=
  s == "" || truthWords.contains s || Document.isNullWord s || unboundedWords.contains s ||
    isBasedNumber s.toList || hasLeadingZero s.toList || isDecimalNumber s

/-! ## Styles -/

/-- The characters that need no escape. -/
def isPrintable (c : Char) : Bool :=
  c == '\n' || (' ' ≤ c && c ≤ '~') ||
    ('\u00a0' ≤ c && c ≤ '\ufffd' && c != '\ufeff')

/-- The characters that end a line, those included that no reader should see. -/
def endsLine (c : Char) : Bool := isBreak c || c == '\r' || c == '\u0085'

/-- Whether a text goes on with a gap, or ends. -/
def beforeGap : List Char → Bool
  | [] => true
  | c :: _ => isBlank c || endsLine c

/-- Whether an indicator stands in a text behind its first character, which was `last`. -/
def hasIndicator (last : Char) : List Char → Bool
  | [] => false
  | c :: rest =>
    (c == ':' && beforeGap rest) || (c == '#' && beforeGap [last]) || hasIndicator c rest

/-- Whether a text starts with an indicator. -/
def startsWithIndicator (cs : List Char) : Bool :=
  match cs with
  | [] => false
  | c :: rest =>
    "#,[]\x7b\x7d&*!|>'\"%@\x60".toList.contains c ||
      ((c == '?' || c == ':' || c == '-') && beforeGap rest) ||
      (Text.stripStart? ['-', '-', '-'] cs).isSome || (Text.stripStart? ['.', '.', '.'] cs).isSome

/-- Whether two characters of certain kinds follow one another. -/
def hasPair (p q : Char → Bool) : List Char → Bool
  | a :: b :: rest => (p a && q b) || hasPair p q (b :: rest)
  | _ => false

/-- Whether a text may stand without quotes. -/
def allowsPlain (cs : List Char) : Bool :=
  cs.all isPrintable && !cs.any endsLine && cs.head? != some ' ' && cs.getLast? != some ' ' &&
    !startsWithIndicator cs &&
    match cs with
    | [] => true
    | c :: rest => !hasIndicator c rest

/-- Whether a text may stand in single quotes. -/
def allowsSingle (cs : List Char) : Bool :=
  cs.all isPrintable && !hasPair (· == ' ') endsLine cs && !hasPair endsLine (· == ' ') cs

/-- Whether a text may stand as a block. -/
def allowsBlock (cs : List Char) : Bool :=
  cs.all isPrintable && !hasPair (· == ' ') endsLine cs && cs.getLast? != some ' '

/-- How a text is written. -/
inductive TextStyle where
  | plain
  | single
  | double
  | block
  deriving DecidableEq, Repr

/-- How a text is written. -/
def textStyle (s : String) : TextStyle :=
  let cs := s.toList
  -- Quotes keep today's readers and those of former versions from taking it for a truth value.
  if truthWords.contains s then .single
  else if cs.contains '\n' then if allowsBlock cs then .block else .double
  else if !isAmbiguous s && allowsPlain cs then .plain
  else if allowsSingle cs then .single
  else .double

/-! ## Texts -/

/-- The upper-case hexadecimal digits of a number. -/
def upperHex (width n : Nat) : List Char :=
  (hexDigits width n).map fun c => if 'a' ≤ c then Char.ofNat (c.toNat - 32) else c

/-- A character in double quotes. -/
def escapeChar (c : Char) : List Char :=
  match c with
  | '\x00' => ['\\', '0']
  | '\x07' => ['\\', 'a']
  | '\x08' => ['\\', 'b']
  | '\t' => ['\\', 't']
  | '\n' => ['\\', 'n']
  | '\x0b' => ['\\', 'v']
  | '\x0c' => ['\\', 'f']
  | '\r' => ['\\', 'r']
  | '\x1b' => ['\\', 'e']
  | '"' => ['\\', '"']
  | '\\' => ['\\', '\\']
  | '\u0085' => ['\\', 'N']
  | '\u2028' => ['\\', 'L']
  | '\u2029' => ['\\', 'P']
  | c =>
    if isPrintable c then [c]
    else if c.toNat ≤ 0xff then ['\\', 'x'] ++ upperHex 2 c.toNat
    else if c.toNat ≤ 0xffff then ['\\', 'u'] ++ upperHex 4 c.toNat
    else ['\\', 'U'] ++ upperHex 8 c.toNat

/-- A text in double quotes. -/
def doubleQuote (cs : List Char) : List Char := '"' :: cs.flatMap escapeChar ++ ['"']

/-- A text in single quotes. -/
def singleQuote (cs : List Char) : List Char :=
  '\'' :: cs.flatMap (fun c => if c = '\'' then ['\'', '\''] else [c]) ++ ['\'']

/-- The beginning of a line at a level. -/
def indent (level : Nat) : List Char := List.replicate (2 * level) ' '

/-- What stands behind the indicator of a block: its indentation if its first line does not show
it, and what becomes of the line ends at its end. -/
def blockHints (cs : List Char) : List Char :=
  (if cs.head?.any fun c => c == ' ' || endsLine c then ['2'] else []) ++
    match cs.reverse with
    | '\n' :: c :: _ => if endsLine c then ['+'] else []
    | ['\n'] => ['+']
    | _ => ['-']

/-- A text as a block, without the last line end. -/
def blockText (level : Nat) (cs : List Char) : List Char :=
  let body := if cs.getLast? = some '\n' then cs.dropLast else cs
  '|' :: blockHints cs ++ (Text.splitOn '\n' body).flatMap fun line =>
    '\n' :: (if line = [] then [] else indent (level + 1) ++ line)

/-- A text at a level. -/
def textChars (level : Nat) (s : String) : List Char :=
  match textStyle s with
  | .plain => s.toList
  | .single => singleQuote s.toList
  | .double => doubleQuote s.toList
  | .block => blockText level s.toList

/-! ## Values -/

/-- A value that holds no others. -/
def leafChars (level : Nat) : Json → List Char
  | .null => "null".toList
  | .bool b => (if b then "true" else "false").toList
  | .int n => (integerText n).toList
  | .real .nan => ".nan".toList
  | .real (.infinite s) => (if s then "-.inf" else ".inf").toList
  | .real x => (x.exponential?.getD "").toList
  | .str s => textChars level s
  | .arr _ => ['[', ']']
  | .obj _ => ['\x7b', '\x7d']

mutual

/-- The value of a key that stands at a level. A sequence is not indented further. -/
def valueChars (level : Nat) : Json → List Char
  | .arr (v :: vs) => '\n' :: itemsChars level (v :: vs)
  | .obj (f :: fs) => '\n' :: fieldsChars (level + 1) (f :: fs)
  | v => ' ' :: leafChars level v ++ ['\n']

/-- What stands behind the dash of an item at a level. -/
def itemChars (level : Nat) : Json → List Char
  -- The first line of a collection stands behind the dash, without its indentation.
  | .arr (v :: vs) => (itemsChars (level + 1) (v :: vs)).drop (2 * level + 2)
  | .obj (f :: fs) => (fieldsChars (level + 1) (f :: fs)).drop (2 * level + 2)
  | v => leafChars level v ++ ['\n']

/-- The items of a sequence, each on lines of its own. -/
def itemsChars (level : Nat) : List Json → List Char
  | [] => []
  | v :: vs => indent level ++ '-' :: ' ' :: itemChars level v ++ itemsChars level vs

/-- The entries of a mapping, each on lines of its own. -/
def fieldsChars (level : Nat) : List (String × Json) → List Char
  | [] => []
  | (k, v) :: fs =>
    indent level ++ textChars level k ++ ':' :: valueChars level v ++ fieldsChars level fs

end

end Print

/-- A value as a document. -/
def print (v : Json) : String :=
  String.ofList <| match v with
    | .arr (v :: vs) => Print.itemsChars 0 (v :: vs)
    | .obj (f :: fs) => Print.fieldsChars 0 (f :: fs)
    | v => Print.leafChars 0 v ++ ['\n']

end BeanMeter.Yaml
