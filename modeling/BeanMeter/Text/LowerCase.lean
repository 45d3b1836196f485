import BeanMeter.Text.LowerCase.Table

/-! # Lower case

The full lower-case mapping of a text. Every letter maps on its own, except that a capital sigma
at the end of a word becomes the final small sigma.

* `lowerChar` — the mapping of one character.
* `lower` — the mapping of a text.
* `equalIgnoringCase` — equality up to the case of ASCII letters.
-/

namespace BeanMeter.Text

/-- Whether a code point lies in one of a list of inclusive ranges. -/
def inRanges (ranges : List (Nat × Nat)) (n : Nat) : Bool :=
  ranges.any fun r => r.1 ≤ n && n ≤ r.2

/-- The small letters of one character. Only the dotted capital I has two: an i and a dot. -/
def lowerChar (c : Char) : List Char :=
  let n := c.toNat
  if n < 0x80 then [c.toLower]
  else if n = 0x130 then ['i', Char.ofNat 0x307]
  else
    match lowerRanges.find? (fun r => r.first ≤ n && n ≤ r.last && (n - r.first) % r.step == 0) with
    | some r => [Char.ofNat (r.image + (n - r.first))]
    | none => [c]

/-- Whether the nearest character that matters for word ends is a letter with case. -/
def touchesCased (cs : List Char) : Bool :=
  match cs.dropWhile (fun c => inRanges caseIgnorableRanges c.toNat) with
  | [] => false
  | c :: _ => inRanges casedRanges c.toNat

/-- Maps a text to lower case, given the characters before it in reverse order. -/
def lowerAfter (before : List Char) : List Char → List Char
  | [] => []
  | c :: rest =>
    (if c = 'Σ' then
        [if touchesCased before && !touchesCased rest then 'ς' else 'σ']
      else lowerChar c) ++ lowerAfter (c :: before) rest

/-- The lower-case form of a text. -/
def lower (s : String) : String := String.ofList (lowerAfter [] s.toList)

/-- Equality up to the case of ASCII letters. -/
def equalIgnoringCase (s t : String) : Bool :=
  s.toList.map Char.toLower == t.toList.map Char.toLower

end BeanMeter.Text
