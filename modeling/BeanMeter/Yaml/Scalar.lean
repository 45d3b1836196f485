import BeanMeter.Number.Reading
import BeanMeter.Yaml.Folding

/-! # Scalars

The texts of a YAML document, in their five notations.

* `plain?` — a text without quotes, which ends where the structure of the document goes on.
* `singleQuoted?`, `doubleQuoted?` — texts in quotes, after the opening one.
* `Block.read?` — the lines below a `|` or `>`.
-/

namespace BeanMeter.Yaml

/-- Whether a scalar is written without quotes and indicators. Only then can it be null. -/
inductive ScalarStyle where
  | plain
  | marked
  deriving DecidableEq, Repr

/-! ## Plain scalars -/

/-- What a plain scalar has just passed. -/
inductive Passed where
  | word
  | blanks
  | lines
  deriving DecidableEq, Repr

/-- The brackets and commas of flow collections. -/
def isFlowIndicator (c : Char) : Bool :=
  c == ',' || c == '[' || c == ']' || c == '\x7b' || c == '\x7d'

/-- The pieces of a plain scalar and the place where it ends. `flow` says whether a flow collection
is open, `indent` is the first column in which a further line may start. -/
def plainFrom (flow : Bool) (indent : Nat) :
    Passed → Mark → List Char → Option (List Piece × Cursor)
  | _, m, [] => some ([], ⟨[], m⟩)
  | passed, m, c :: rest =>
    let goOn (p : Piece) (now : Passed) : Option (List Piece × Cursor) :=
      (plainFrom flow indent now (m.after c) rest).map fun (ps, stop) => (p :: ps, stop)
    if isBlank c then
      if passed = .lines then
        if c = '\t' ∧ m.column < indent then none else goOn (.blank c) .lines
      else goOn (.blank c) .blanks
    else if isBreak c then goOn (.lineBreak c) .lines
    -- Within a word neither a comment nor a marker can start.
    else if passed ≠ .word ∧
        (c = '#' ∨ (m.column = 0 ∧ startsMarker (c :: rest)) ∨
          (passed = .lines ∧ !flow ∧ m.column < indent)) then
      some ([], ⟨c :: rest, m⟩)
    else if flow && c == ':' && (rest.head?.any fun x => isFlowIndicator x || x == '?') then none
    else if (c == ':' && atGap rest) || (flow && isFlowIndicator c) then
      some ([], ⟨c :: rest, m⟩)
    else goOn (.char c) .word

/-- The text of a plain scalar, whether a line ended after it, and the place where it ends. -/
def plain? (flow : Bool) (indent : Nat) (c : Cursor) : Option (String × Bool × Cursor) :=
  (plainFrom flow indent .blanks c.mark c.rest).map fun (ps, stop) =>
    let (text, broken) := foldInner ps
    (text, broken, stop)

/-! ## Quoted scalars -/

/-- The pieces up to a closing single quote; two quotes stand for one. -/
def singleQuotedFrom : Mark → List Char → Option (List Piece × Cursor)
  | _, [] => none
  -- Two quotes have to be tried before one.
  | m, '\'' :: '\'' :: rest =>
    (singleQuotedFrom (m.forward 2) rest).map fun (ps, stop) => (.char '\'' :: ps, stop)
  | m, '\'' :: rest => some ([], ⟨rest, m.forward 1⟩)
  | m, c :: rest =>
    if m.column = 0 ∧ startsMarker (c :: rest) then none
    else (singleQuotedFrom (m.after c) rest).map fun (ps, stop) => (Piece.ofChar c :: ps, stop)

/-- The text up to a closing single quote, and the place after it. -/
def singleQuoted? (c : Cursor) : Option (String × Cursor) :=
  (singleQuotedFrom c.mark c.rest).map fun (ps, stop) => (fold ps, stop)

/-- The character that a letter after a backslash stands for. -/
def escaped? : Char → Option Char
  | '0' => some '\x00'
  | 'a' => some '\x07'
  | 'b' => some '\x08'
  | 't' => some '\t'
  | '\t' => some '\t'
  | 'n' => some '\n'
  | 'v' => some '\x0b'
  | 'f' => some '\x0c'
  | 'r' => some '\r'
  | 'e' => some '\x1b'
  | ' ' => some ' '
  | '"' => some '"'
  | '/' => some '/'
  | '\\' => some '\\'
  | 'N' => some '\u0085'
  | '_' => some '\u00a0'
  | 'L' => some '\u2028'
  | 'P' => some '\u2029'
  | _ => none

/-- How many hexadecimal digits follow a letter after a backslash. -/
def escapeDigits? : Char → Option Nat
  | 'x' => some 2
  | 'u' => some 4
  | 'U' => some 8
  | _ => none

/-- The character with a code point, if there is one. -/
def charOfCode? (n : Nat) : Option Char := if n.isValidChar then some (Char.ofNat n) else none

/-- What a double-quoted scalar is in the middle of. -/
inductive Quoting where
  | text
  /-- After a backslash. -/
  | escape
  /-- In a code point: its value so far and how many digits are missing. -/
  | code (value missing : Nat)
  deriving DecidableEq, Repr

/-- The pieces up to a closing double quote. -/
def doubleQuotedFrom : Quoting → Mark → List Char → Option (List Piece × Cursor)
  | _, _, [] => none
  | .text, m, c :: rest =>
    if m.column = 0 ∧ startsMarker (c :: rest) then none
    else if c = '"' then some ([], ⟨rest, m.forward 1⟩)
    else if c = '\\' then doubleQuotedFrom .escape (m.forward 1) rest
    else (doubleQuotedFrom .text (m.after c) rest).map fun (ps, stop) =>
      (Piece.ofChar c :: ps, stop)
  | .escape, m, c :: rest =>
    if isBreak c then
      (doubleQuotedFrom .text (m.after c) rest).map fun (ps, stop) => (.splice :: ps, stop)
    else
      match escapeDigits? c with
      | some n => doubleQuotedFrom (.code 0 n) (m.forward 1) rest
      | none =>
        (escaped? c).bind fun e =>
          (doubleQuotedFrom .text (m.forward 1) rest).map fun (ps, stop) => (.char e :: ps, stop)
  | .code value missing, m, c :: rest =>
    (hexValue? c).bind fun d =>
      let value := value * 16 + d
      if missing ≤ 1 then
        (charOfCode? value).bind fun e =>
          (doubleQuotedFrom .text (m.forward 1) rest).map fun (ps, stop) => (.char e :: ps, stop)
      else doubleQuotedFrom (.code value (missing - 1)) (m.forward 1) rest

/-- The text up to a closing double quote, and the place after it. -/
def doubleQuoted? (c : Cursor) : Option (String × Cursor) :=
  (doubleQuotedFrom .text c.mark c.rest).map fun (ps, stop) => (fold ps, stop)

/-! ## Block scalars -/

namespace Block

/-- What happens to the line ends after the last line with text. -/
inductive Chomping where
  | strip
  | clip
  | keep
  deriving DecidableEq, Repr

/-- What stands behind the indicator of a block scalar. -/
structure Header where
  chomping : Chomping
  /-- By how many columns the lines are indented, if that is said. -/
  indentation : Option Nat

/-- The chomping indicator at the start of a text. -/
def chomping? : List Char → Option Chomping
  | '+' :: _ => some .keep
  | '-' :: _ => some .strip
  | _ => none

/-- The digit at the start of a text. -/
def digit? : List Char → Option Nat
  | c :: _ => if isDigit c then some (digitValue c) else none
  | [] => none

/-- Reads a header: the two indicators come in either order, and no indentation is zero. -/
def header? (c : Cursor) : Option (Header × Cursor) :=
  let (header, c) : Header × Cursor :=
    match chomping? c.rest with
    | some chomping =>
      match digit? (c.rest.drop 1) with
      | some n => (⟨chomping, some n⟩, c.skip 2)
      | none => (⟨chomping, none⟩, c.skip 1)
    | none =>
      match digit? c.rest with
      | some n =>
        match chomping? (c.rest.drop 1) with
        | some chomping => (⟨chomping, some n⟩, c.skip 2)
        | none => (⟨.clip, some n⟩, c.skip 1)
      | none => (⟨.clip, none⟩, c)
  let c := c.skipBlanks.skipComment
  if header.indentation = some 0 then none
  else if atLineEnd c.rest then some (header, c.skipBreak)
  else none

/-- A line of a text and the character that ends it. -/
structure Line where
  text : List Char
  stop : Option Char
  deriving Repr

/-- The lines of a text. -/
def linesOf : List Char → List Line
  | [] => []
  | c :: rest =>
    if isBreak c then ⟨[], some c⟩ :: linesOf rest
    else
      match linesOf rest with
      | [] => [⟨[c], none⟩]
      | l :: ls => ⟨c :: l.text, l.stop⟩ :: ls

/-- The characters of lines. -/
def charsOf (ls : List Line) : List Char := ls.flatMap fun l => l.text ++ l.stop.toList

/-- The number of spaces that a line starts with. -/
def Line.spaces (l : Line) : Nat := (l.text.takeWhile (· == ' ')).length

/-- Whether a line holds spaces only. -/
def Line.isBlank (l : Line) : Bool := l.spaces == l.text.length

/-- Whether a line is of use to an indentation of `n`: nothing but spaces stands in the first `n`
columns, and something does behind them. -/
def Line.reaches (n : Nat) (l : Line) : Bool := n ≤ l.spaces && n < l.text.length

/-- Whether a tab stands where the indentation of a line should. -/
def Line.isTabbed (n : Nat) (l : Line) : Bool :=
  l.spaces < n && l.text[l.spaces]? == some '\t'

/-- The indentation that the first lines suggest: that of the first one that is not blank, or of a
longer blank one before it, but at least `least`. -/
def detect? (least : Nat) : List Line → Option Nat
  | [] => some least
  | l :: ls =>
    if l.isBlank then detect? (max least l.spaces) ls
    else if l.text[l.spaces]? = some '\t' then none
    else some (max least l.spaces)

/-- The text so far and what has to be decided before it goes on. -/
structure Progress where
  text : List Char
  /-- The end of the last line with text. -/
  lastBreak : List Char
  /-- The ends of the empty lines since then. -/
  emptyLines : List Char
  /-- Whether the last line with text started with a blank. -/
  indented : Bool

/-- The text with a line more. In a folded scalar the line end before it is a space, unless one of
the two lines starts with a blank. -/
def Progress.add (literal : Bool) (text : List Char) (stop : Option Char) (p : Progress) :
    Progress :=
  let blank := text.head?.any Yaml.isBlank
  -- Lines are joined only where neither is indented further than the scalar.
  let joined :=
    if !literal && p.lastBreak == ['\n'] && !p.indented && !blank then
      if p.emptyLines.isEmpty then [' '] else p.emptyLines
    else p.lastBreak ++ p.emptyLines
  ⟨p.text ++ joined ++ text, stop.toList, [], blank⟩

/-- Takes the lines that are indented by `n`, and the empty ones between them. -/
def gather? (literal : Bool) (n : Nat) (p : Progress) : List Line → Option (Progress × List Line)
  | [] => some (p, [])
  | l :: ls =>
    if l.reaches n then gather? literal n (p.add literal (l.text.drop n) l.stop) ls
    else if l.isTabbed n then none
    else if l.isBlank then
      gather? literal n { p with emptyLines := p.emptyLines ++ l.stop.toList } ls
    else some (p, l :: ls)

/-- The text after the line ends at its end have been treated. -/
def Progress.chomped (p : Progress) : Chomping → List Char
  | .strip => p.text
  | .clip => p.text ++ p.lastBreak
  | .keep => p.text ++ p.lastBreak ++ p.emptyLines

/-- Reads a block scalar after its indicator, where the collection around it is indented by
`parent` columns, and gives the place of the line after it. -/
def read? (literal : Bool) (parent : Option Nat) (c : Cursor) : Option (String × Cursor) := do
  let (header, c) ← header? c
  let ls := linesOf c.rest
  -- Lines are indented further than the parent, and by one column at least.
  let base := (parent.map (· + 1)).getD 0
  let n ← match header.indentation with
    | some n => some ((parent.getD 0) + n)
    | none => detect? (max base 1) ls
  let (p, rest) ← gather? literal n ⟨[], [], [], false⟩ ls
  let cursor := ⟨charsOf rest, ⟨c.mark.line + (ls.length - rest.length), 0⟩⟩
  return (String.ofList (p.chomped header.chomping), cursor)

end Block

end BeanMeter.Yaml
