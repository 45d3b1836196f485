/-! # Blank characters

The characters that count as blank in every text the program reads, and trimming by them.

* `isBlank` — the white space of the character standard, 25 code points.
* `trimStart`, `trimEnd`, `trim` — a text without the blanks at its ends.
-/

namespace BeanMeter.Text

/-- The white space of the character standard: the ASCII controls from tab to carriage return,
space, next line, the no-break and typographic spaces, and the line and paragraph separators. -/
def isBlank (c : Char) : Bool :=
  let n := c.toNat
  (9 ≤ n && n ≤ 13) || n == 0x20 || n == 0x85 || n == 0xa0 || n == 0x1680 ||
    (0x2000 ≤ n && n ≤ 0x200a) || n == 0x2028 || n == 0x2029 || n == 0x202f || n == 0x205f ||
    n == 0x3000

/-- The text from its first character that is not blank. -/
def trimStart (cs : List Char) : List Char := cs.dropWhile isBlank

/-- The text up to its last character that is not blank. -/
def trimEnd (cs : List Char) : List Char := (cs.reverse.dropWhile isBlank).reverse

/-- The text without blanks at its ends. -/
def trimChars (cs : List Char) : List Char := trimEnd (trimStart cs)

/-- A string without blanks at its ends. -/
def trim (s : String) : String := String.ofList (trimChars s.toList)

/-- Whether a string has nothing but blanks. -/
def isBlankText (s : String) : Bool := s.toList.all isBlank

end BeanMeter.Text
