import BeanMeter.Number.Shortest

/-! # Written numbers

How numbers are written in label values, sample lines and reports.

* `digitsOf`, `integerText` — whole numbers.
* `Binary64.positional` — shortest digits without an exponent.
* `Binary64.scientific` — shortest digits with one digit before the point and an exponent.
* `Binary64.exponential?` — the form in documents, positional in a middle range.
* `hexText` — lower-case hexadecimal digits.
-/

namespace BeanMeter

/-- The character of a decimal or hexadecimal digit, in lower case. -/
def digitChar (d : Nat) : Char :=
  if d < 10 then Char.ofNat ('0'.toNat + d) else Char.ofNat ('a'.toNat + (d - 10))

/-- The decimal digits of a natural number before a tail. -/
def digitsBefore (n : Nat) (tail : List Char) : List Char :=
  if n < 10 then digitChar n :: tail
  else digitsBefore (n / 10) (digitChar (n % 10) :: tail)
  termination_by n
  decreasing_by omega

/-- The decimal digits of a natural number. -/
def digitsOf (n : Nat) : List Char := digitsBefore n []

/-- The decimal text of a natural number. -/
def naturalText (n : Nat) : String := String.ofList (digitsOf n)

/-- The decimal text of a whole number. -/
def integerText (n : Int) : String :=
  if n < 0 then String.ofList ('-' :: digitsOf n.natAbs) else naturalText n.natAbs

/-- The last `width` hexadecimal digits of a natural number, in lower case. -/
def hexDigits : Nat → Nat → List Char
  | 0, _ => []
  | width + 1, n => hexDigits width (n / 16) ++ [digitChar (n % 16)]

/-- Exactly `width` hexadecimal digits. -/
def hexText (width n : Nat) : String := String.ofList (hexDigits width n)

namespace DecimalDigits

/-- The number without an exponent. -/
def positional (d : DecimalDigits) : List Char :=
  let ds := digitsOf d.digits
  if 0 ≤ d.exponent then
    if d.digits = 0 then ds else ds ++ List.replicate d.exponent.toNat '0'
  else
    let places := (-d.exponent).toNat
    if places < ds.length then
      ds.take (ds.length - places) ++ '.' :: ds.drop (ds.length - places)
    else '0' :: '.' :: (List.replicate (places - ds.length) '0' ++ ds)

/-- The number with one digit before the point and its exponent after an `e`. -/
def scientific (d : DecimalDigits) : List Char :=
  let ds := digitsOf d.digits
  let exponent : Int := if d.digits = 0 then 0 else d.exponent + (ds.length - 1 : Nat)
  (match ds with
    | [] => []
    | [c] => [c]
    | c :: more => c :: '.' :: more) ++ 'e' :: (integerText exponent).toList

end DecimalDigits

namespace Binary64

/-- The sign of a written number. -/
def signChars (negative : Bool) : List Char := if negative then ['-'] else []

/-- The fewest digits that read back, never with an exponent. -/
def positional : Binary64 → String
  | .nan => "NaN"
  | .infinite s => String.ofList (signChars s ++ ['i', 'n', 'f'])
  | .finite s m => String.ofList (signChars s ++ m.shortest.positional)

/-- The fewest digits that read back, always with an exponent. -/
def scientific : Binary64 → String
  | .nan => "NaN"
  | .infinite s => String.ofList (signChars s ++ ['i', 'n', 'f'])
  | .finite s m => String.ofList (signChars s ++ m.shortest.scientific)

/-- The fewest digits that read back, positional with a point for values of ordinary size and
with an exponent otherwise; nothing for numbers that are not finite. -/
def exponential? : Binary64 → Option String
  | .finite s m =>
    let d := m.shortest
    let leading : Int := (digitsOf d.digits).length + d.exponent
    let body :=
      if leading ≤ -5 ∨ 16 < leading then d.scientific
      else if 0 ≤ d.exponent then d.positional ++ ['.', '0']
      else d.positional
    some (String.ofList (signChars s ++ body))
  | _ => none

/-- The sixteen hexadecimal digits of the bits. -/
def bitsText (x : Binary64) : String := hexText 16 x.toBits

end Binary64

end BeanMeter
