import BeanMeter.Yaml.Cursor

/-! # Folding of lines

How a scalar that goes over several lines becomes one text: a single line end is a space, of
several the first is dropped, and blanks around line ends do not count.

* `Piece` — what a scalar is written with.
* `fold` — the text of a quoted scalar.
* `foldInner` — the same without a gap at the end.
-/

namespace BeanMeter.Yaml

/-- What a scalar is written with. -/
inductive Piece where
  /-- A character that stands for itself, or an escaped one. -/
  | char (c : Char)
  | blank (c : Char)
  | lineBreak (c : Char)
  /-- An escaped line end, which leaves nothing behind. -/
  | splice
  deriving DecidableEq, Repr

/-- The piece for an unescaped character. -/
def Piece.ofChar (c : Char) : Piece :=
  if isBlank c then .blank c else if isBreak c then .lineBreak c else .char c

/-- What stands between two characters of a scalar. -/
inductive Gap where
  | blanks (cs : List Char)
  /-- The first line end, unless it was escaped, and the ones after it. -/
  | lines (first : Option Char) (later : List Char)
  deriving Repr

namespace Gap

/-- Nothing. -/
def none : Gap := .blanks []

/-- The gap with a blank more. -/
def addBlank (c : Char) : Gap → Gap
  | .blanks cs => .blanks (cs ++ [c])
  | .lines first later => .lines first later

/-- The gap with a line end more. -/
def addBreak (c : Char) : Gap → Gap
  | .blanks _ => .lines (some c) []
  | .lines first later => .lines first (later ++ [c])

/-- What a gap becomes in the text. -/
def text : Gap → List Char
  | .blanks cs => cs
  | .lines (some '\n') [] => [' ']
  | .lines (some '\n') later => later
  | .lines first later => first.toList ++ later

/-- Whether the gap goes over the end of a line. -/
def isBroken : Gap → Bool
  | .blanks _ => false
  | .lines _ _ => true

end Gap

/-- The text of pieces after a gap, up to the last character, and the gap after that. -/
def foldFrom (gap : Gap) : List Piece → List Char × Gap
  | [] => ([], gap)
  | .char c :: ps =>
    let (cs, last) := foldFrom .none ps
    (gap.text ++ c :: cs, last)
  | .blank c :: ps => foldFrom (gap.addBlank c) ps
  | .lineBreak c :: ps => foldFrom (gap.addBreak c) ps
  | .splice :: ps =>
    let (cs, last) := foldFrom (.lines none []) ps
    (gap.text ++ cs, last)

/-- The text of a quoted scalar: a gap at its end counts. -/
def fold (ps : List Piece) : String :=
  let (cs, last) := foldFrom .none ps
  String.ofList (cs ++ last.text)

/-- The text of an unquoted scalar, and whether a line ended after it. -/
def foldInner (ps : List Piece) : String × Bool :=
  let (cs, last) := foldFrom .none ps
  (String.ofList cs, last.isBroken)

end BeanMeter.Yaml
