/-! # Globs

Patterns in which `*` stands for any run of characters and `?` for any one character, neither of
them for a newline. Every other character stands for itself, and a glob always has to cover a whole
text.

* `Glob.Splits` — a text can be split along a glob.
* `Glob.accepts` — decides this, by a table over the suffixes of the text.
-/

namespace BeanMeter.Glob

/-- The text can be split along the glob. -/
inductive Splits : List Char → List Char → Prop
  | nil : Splits [] []
  | star (run : List Char) {glob text : List Char} (free : '\n' ∉ run) (rest : Splits glob text) :
      Splits ('*' :: glob) (run ++ text)
  | one (c : Char) {glob text : List Char} (free : c ≠ '\n') (rest : Splits glob text) :
      Splits ('?' :: glob) (c :: text)
  | char (c : Char) {glob text : List Char} (notStar : c ≠ '*') (notOne : c ≠ '?')
      (rest : Splits glob text) : Splits (c :: glob) (c :: text)

/-- Whether a glob character other than `*` covers a character. -/
def covers (p c : Char) : Bool := if p = '?' then c != '\n' else p == c

/-- From whether the rest of a glob matches each suffix of a text to whether the glob with one more
character in front does. -/
def charRow (p : Char) : List Char → List Bool → List Bool
  | c :: text, _ :: next :: row => (covers p c && next) :: charRow p text (next :: row)
  | _, _ => [false]

/-- From whether the rest of a glob matches each suffix of a text to whether the glob with a star
in front does. -/
def starRow : List Char → List Bool → List Bool
  | c :: text, b :: row =>
    let later := starRow text row
    (b || (c != '\n' && later.headD false)) :: later
  | _, row => row

/-- Whether a glob matches each suffix of a text, the longest first. -/
def suffixRow : List Char → List Char → List Bool
  | [], text => text.map (fun _ => false) ++ [true]
  | p :: glob, text =>
    if p = '*' then starRow text (suffixRow glob text) else charRow p text (suffixRow glob text)

/-- Whether a glob matches a text. -/
def accepts (glob text : List Char) : Bool := (suffixRow glob text).headD false

end BeanMeter.Glob
