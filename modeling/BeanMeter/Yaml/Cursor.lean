/-! # Characters and places of a YAML text

* `normalize?` — the characters of a text with one form for all line ends that carry no meaning.
* `Mark`, `Cursor` — a place in a text, and what follows it.
* `Cursor.span` — the longest run of characters of a class.
-/

namespace BeanMeter.Yaml

/-! ## Character classes -/

/-- Whether a YAML text may hold a character. -/
def isAllowed (c : Char) : Bool :=
  c == '\t' || c == '\n' || c == '\r' || (' ' ≤ c && c ≤ '~') || c == '\u0085' ||
  ('\u00a0' ≤ c && c != '\ufffe' && c != '\uffff')

/-- Line ends that follow one another count as two, but a carriage return and the newline after it
as one. The two Unicode separators stay apart from the rest, since they survive folding. -/
def unifyBreaks : List Char → List Char
  | '\r' :: '\n' :: rest => '\n' :: unifyBreaks rest
  | c :: rest => (if c == '\r' || c == '\u0085' then '\n' else c) :: unifyBreaks rest
  | [] => []

/-- The characters of a text, without a byte order mark at its start, or nothing if one of them
is not allowed. -/
def normalize? (s : String) : Option (List Char) :=
  let cs := match s.toList with
    | '\ufeff' :: rest => rest
    | cs => cs
  if cs.all isAllowed then some (unifyBreaks cs) else none

/-- Spaces and tabs. -/
def isBlank (c : Char) : Bool := c == ' ' || c == '\t'

/-- The characters that end a line. -/
def isBreak (c : Char) : Bool := c == '\n' || c == '\u2028' || c == '\u2029'

/-- Whether nothing of a word follows: a blank, a line end or the end of the text. -/
def atGap : List Char → Bool
  | [] => true
  | c :: _ => isBlank c || isBreak c

/-- Whether the line is at its end. -/
def atLineEnd : List Char → Bool
  | [] => true
  | c :: _ => isBreak c

/-- The characters of names of anchors, directives and tag handles. -/
def isNameChar (c : Char) : Bool :=
  ('0' ≤ c && c ≤ '9') || ('A' ≤ c && c ≤ 'Z') || ('a' ≤ c && c ≤ 'z') || c == '_' || c == '-'

/-- Whether a text goes on with three times the same character and a gap. -/
def startsMarkerOf (c : Char) : List Char → Bool
  | a :: b :: d :: rest => a == c && b == c && d == c && atGap rest
  | _ => false

/-- Whether a line begins like the border of a document. -/
def startsMarker (cs : List Char) : Bool := startsMarkerOf '-' cs || startsMarkerOf '.' cs

/-! ## Places -/

/-- A place in a text. -/
structure Mark where
  line : Nat
  column : Nat
  deriving DecidableEq, Repr

namespace Mark

/-- The first place of a text. -/
def start : Mark := ⟨0, 0⟩

/-- The place `n` characters further on in the line. -/
def forward (m : Mark) (n : Nat) : Mark := ⟨m.line, m.column + n⟩

/-- The place after a character. -/
def after (m : Mark) (c : Char) : Mark := if isBreak c then ⟨m.line + 1, 0⟩ else m.forward 1

end Mark

/-- A place in a text and what follows it. -/
structure Cursor where
  rest : List Char
  mark : Mark
  deriving Repr

namespace Cursor

/-- Passes over `n` characters of the line. -/
def skip (c : Cursor) (n : Nat) : Cursor := ⟨c.rest.drop n, c.mark.forward n⟩

/-- The longest run of characters of a class within the line, and the place after it. -/
def span (p : Char → Bool) (c : Cursor) : List Char × Cursor :=
  let run := c.rest.takeWhile fun x => p x && !isBreak x
  (run, c.skip run.length)

/-- Passes over blanks. -/
def skipBlanks (c : Cursor) : Cursor := (c.span isBlank).2

/-- Passes over a byte order mark at the start of a line. -/
def skipOrderMark (c : Cursor) : Cursor :=
  if c.mark.column = 0 ∧ c.rest.head? = some '\ufeff' then c.skip 1 else c

/-- Passes over a comment, if one starts here. -/
def skipComment (c : Cursor) : Cursor :=
  if c.rest.head? = some '#' then (c.span fun _ => true).2 else c

/-- Passes over the end of a line. -/
def skipBreak (c : Cursor) : Cursor :=
  match c.rest with
  | x :: rest => if isBreak x then ⟨rest, c.mark.after x⟩ else c
  | [] => c

end Cursor

end BeanMeter.Yaml
