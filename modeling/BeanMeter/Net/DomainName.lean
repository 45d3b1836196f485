import BeanMeter.Net.Punycode
import BeanMeter.Text.Composition
import BeanMeter.Text.Invisible
import BeanMeter.Text.LowerCase
import BeanMeter.Text.Split

/-! # Domain names

The ASCII form of the domain part of a URL: labels in lower case, and labels with characters
beyond ASCII in their encoded form.

* `DomainName.toAscii?` — the ASCII form, if there is one.
-/

namespace BeanMeter.DomainName

/-- Whether a code point lies in one of a list of inclusive ranges. -/
def isAmong (ranges : List (Nat × Nat)) (c : Char) : Bool := Text.inRanges ranges c.toNat

/-- The characters beyond ASCII that leave nothing behind: soft hyphens, joiners of words, invisible
operators and selectors of variants. -/
def ignoredRanges : List (Nat × Nat) :=
  [(0xad, 0xad), (0x34f, 0x34f), (0x180b, 0x180d), (0x180f, 0x180f), (0x200b, 0x200b),
    (0x2060, 0x2060), (0x2064, 0x2064), (0xfe00, 0xfe0f), (0xfeff, 0xfeff), (0xe0100, 0xe01ef)]

/-- The blanks beyond ASCII that count as spaces. -/
def spaceRanges : List (Nat × Nat) :=
  [(0xa0, 0xa0), (0x2000, 0x200a), (0x202f, 0x202f), (0x205f, 0x205f), (0x3000, 0x3000)]

/-- The characters beyond ASCII that cannot occur in a domain: controls, marks of direction, joiners
without a letter that asks for them, separators, and code points that belong to nobody. -/
def forbiddenRanges : List (Nat × Nat) :=
  [(0x80, 0x9f), (0x1680, 0x1680), (0x200c, 0x200f), (0x2028, 0x202e), (0x2061, 0x2063),
    (0x2065, 0x206f), (0xe000, 0xf8ff), (0xfdd0, 0xfdef), (0xfff9, 0xffff), (0x1fffe, 0x1ffff),
    (0x2fffe, 0x2ffff), (0x3fffe, 0xe00ff), (0xe01f0, 0x10ffff)]

/-- Whether a character cannot occur in a domain. -/
def isForbidden (c : Char) : Bool :=
  c.toNat ≤ 0x20 || c.toNat == 0x7f ||
    ['#', '%', '/', ':', '<', '>', '?', '@', '[', '\\', ']', '^', '|'].contains c ||
    isAmong forbiddenRanges c

/-- Runs of characters that are plain ones in another shape, each with the first of the plain ones:
wide letters, raised and lowered digits, letters and digits in circles. -/
def shapedRuns : List Text.CaseRange := [
  ⟨0xff01, 0xff5e, 1, 0x21⟩, ⟨0xaa, 0xaa, 1, 0x61⟩, ⟨0xba, 0xba, 1, 0x6f⟩, ⟨0xb2, 0xb3, 1, 0x32⟩,
  ⟨0xb9, 0xb9, 1, 0x31⟩, ⟨0x17f, 0x17f, 1, 0x73⟩, ⟨0x2070, 0x2070, 1, 0x30⟩,
  ⟨0x2074, 0x2079, 1, 0x34⟩, ⟨0x2080, 0x2089, 1, 0x30⟩, ⟨0x2460, 0x2468, 1, 0x31⟩,
  ⟨0x24b6, 0x24cf, 1, 0x61⟩, ⟨0x24d0, 0x24e9, 1, 0x61⟩]

/-- Letters that are set as one, from the first of their characters on. -/
def ligatures : List String := ["ff", "fi", "fl", "ffi", "ffl", "st", "st"]

/-- The characters that a character is a shape of. -/
def plainChars (c : Char) : List Char :=
  let n := c.toNat
  match shapedRuns.find? fun r => r.first ≤ n && n ≤ r.last with
  | some r => [Char.ofNat (r.image + (n - r.first))]
  | none => if 0xfb00 ≤ n then (ligatures[n - 0xfb00]?.map String.toList).getD [c] else [c]

/-- The characters by which a character is replaced before encoding. -/
def mapChar (c : Char) : List Char :=
  if c = Char.ofNat 0x3002 ∨ c = Char.ofNat 0xff0e ∨ c = Char.ofNat 0xff61 then ['.']
  else if isAmong ignoredRanges c then []
  else if isAmong spaceRanges c then [' ']
  else (plainChars c).flatMap Text.lowerChar

/-- The form of a text that is compared and encoded. -/
def mapped (cs : List Char) : List Char := Text.compose (cs.flatMap mapChar)

/-- How a label with characters beyond ASCII is marked. -/
def mark : List Char := "xn--".toList

/-- Whether a label starts with something that can only follow a character. -/
def startsJoined (label : List Char) : Bool := label.head?.any Text.isInvisible

/-- The ASCII form of a label of mapped characters. -/
def labelToAscii? (label : List Char) : Option (List Char) :=
  if label.all (·.toNat < 0x80) then
    match Text.stripStart? mark label with
    | none => some label
    | some coded =>
      match Punycode.decode? coded with
      | none => none
      | some decoded =>
        -- A label may be marked only if that is its one proper form.
        if decoded.all (·.toNat < 0x80) ∨ mapped decoded ≠ decoded ∨ startsJoined decoded ∨
            decoded.any isForbidden then none
        else some label
  else if startsJoined label then none
  else some (mark ++ Punycode.encode label)

/-- The ASCII form of a domain. -/
def toAscii? (domain : List Char) : Option (List Char) :=
  let plain := mapped domain
  if plain.any isForbidden then none
  else
    ((Text.splitOn '.' plain).mapM labelToAscii?).map fun labels =>
      (".".intercalate (labels.map String.ofList)).toList

end BeanMeter.DomainName
