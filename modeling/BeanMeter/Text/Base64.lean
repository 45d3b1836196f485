/-! # Base 64

Bytes in groups of six bits, four characters for three bytes, padded with equals signs.

* `Base64.encode` — the written form of a byte sequence.
* `Base64.isValid` — whether a text is the written form of some byte sequence.
-/

namespace BeanMeter.Text.Base64

/-- The character for six bits. -/
def digit (n : Nat) : Char :=
  if n < 26 then Char.ofNat ('A'.toNat + n)
  else if n < 52 then Char.ofNat ('a'.toNat + (n - 26))
  else if n < 62 then Char.ofNat ('0'.toNat + (n - 52))
  else if n = 62 then '+'
  else '/'

/-- The six bits of a character. -/
def digitValue? (c : Char) : Option Nat :=
  if 'A' ≤ c && c ≤ 'Z' then some (c.toNat - 'A'.toNat)
  else if 'a' ≤ c && c ≤ 'z' then some (c.toNat - 'a'.toNat + 26)
  else if '0' ≤ c && c ≤ '9' then some (c.toNat - '0'.toNat + 52)
  else if c = '+' then some 62
  else if c = '/' then some 63
  else none

/-- The written form of a byte sequence. -/
def encode : List UInt8 → List Char
  | [] => []
  | [a] => [digit (a.toNat / 4), digit (a.toNat % 4 * 16), '=', '=']
  | [a, b] =>
    [digit (a.toNat / 4), digit (a.toNat % 4 * 16 + b.toNat / 16), digit (b.toNat % 16 * 4), '=']
  | a :: b :: c :: rest =>
    digit (a.toNat / 4) :: digit (a.toNat % 4 * 16 + b.toNat / 16) ::
      digit (b.toNat % 16 * 4 + c.toNat / 64) :: digit (c.toNat % 64) :: encode rest

/-- Whether a character is a digit whose last bits, as many as `unused` has values, are zero. -/
def endsClean (unused : Nat) (c : Char) : Bool := (digitValue? c).any (· % unused == 0)

/-- Whether a text is the written form of some byte sequence: whole groups, and padding only at the
end and with no stray bits. -/
def isValid : List Char → Bool
  | [] => true
  | [a, b, '=', '='] => (digitValue? a).isSome && endsClean 16 b
  | [a, b, c, '='] => (digitValue? a).isSome && (digitValue? b).isSome && endsClean 4 c
  | a :: b :: c :: d :: rest =>
    (digitValue? a).isSome && (digitValue? b).isSome && (digitValue? c).isSome &&
      (digitValue? d).isSome && isValid rest
  | _ => false

end BeanMeter.Text.Base64
