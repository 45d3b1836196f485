import BeanMeter.Number.Binary64

/-! # Reading numbers

* `readNatural?`, `readInteger?` — whole numbers with an optional sign.
* `readBinary64?` — decimal texts of any size, rounded once to the nearest double.
-/

namespace BeanMeter

/-- Whether a character is an ASCII decimal digit. -/
def isDigit (c : Char) : Bool := '0' ≤ c && c ≤ '9'

/-- The value of an ASCII decimal digit. -/
def digitValue (c : Char) : Nat := c.toNat - '0'.toNat

/-- The number written by a run of digits after a number already read. -/
def foldDigits (n : Nat) (ds : List Char) : Nat := ds.foldl (fun n c => 10 * n + digitValue c) n

/-- The number written by a run of digits. -/
def ofDigits (ds : List Char) : Nat := foldDigits 0 ds

/-- The number written by digits only, at least one. -/
def readDigits? (cs : List Char) : Option Nat :=
  if cs ≠ [] ∧ cs.all isDigit then some (ofDigits cs) else none

/-- A natural number in decimal digits, with an optional plus sign. -/
def readNatural? : List Char → Option Nat
  | '+' :: cs => readDigits? cs
  | cs => readDigits? cs

/-- A whole number in decimal digits, with an optional sign. -/
def readInteger? : List Char → Option Int
  | '-' :: cs => (readDigits? cs).map fun n => -(n : Int)
  | cs => (readNatural? cs).map fun n => (n : Int)

/-- A whole number of 64 bits with sign. -/
def readInt64? (cs : List Char) : Option Int :=
  (readInteger? cs).filter fun n => -0x8000000000000000 ≤ n && n < 0x8000000000000000

/-- The value of a hexadecimal digit of either case. -/
def hexValue? (c : Char) : Option Nat :=
  if isDigit c then some (digitValue c)
  else if 'a' ≤ c && c ≤ 'f' then some (c.toNat - 'a'.toNat + 10)
  else if 'A' ≤ c && c ≤ 'F' then some (c.toNat - 'A'.toNat + 10)
  else none

/-- The number written by hexadecimal digits only, at least one. -/
def readHexDigits? : List Char → Option Nat
  | [] => none
  | cs => cs.foldlM (fun n c => (hexValue? c).map (16 * n + ·)) 0

/-- The double nearest to `digits * 10 ^ exponent`. Exponents far out of range need no exact
power: the value is then zero or infinite. -/
def Binary64.ofDecimal (negative : Bool) (digits : Nat) (exponent : Int) : Binary64 :=
  if digits = 0 then .finite negative .zero
  else
    -- A bit is worth a little more than three tenths of a decimal place.
    let leading := exponent + (Nat.log2 digits : Int) * 3 / 10
    if 400 < leading then .infinite negative
    else if exponent + (Nat.log2 digits : Int) < -400 then .finite negative .zero
    else if 0 ≤ exponent then ofRatio negative (digits * Nat.pow 10 exponent.toNat) 1
    else ofRatio negative digits (Nat.pow 10 (-exponent).toNat)

/-- The exponent part of a decimal text: nothing, or `e` and a whole number. -/
def readExponent? : List Char → Option Int
  | [] => some 0
  | c :: cs => if c = 'e' || c = 'E' then readInteger? cs else none

/-- An unsigned decimal number: digits with an optional point, at least one digit in all, and an
optional exponent. -/
def readDecimal? (negative : Bool) (cs : List Char) : Option Binary64 :=
  let whole := cs.takeWhile isDigit
  let rest := cs.dropWhile isDigit
  let (fraction, rest) :=
    match rest with
    | '.' :: more => (more.takeWhile isDigit, more.dropWhile isDigit)
    | _ => ([], rest)
  if whole = [] ∧ fraction = [] then none
  else
    (readExponent? rest).map fun e =>
      Binary64.ofDecimal negative (ofDigits (whole ++ fraction)) (e - fraction.length)

/-- An unsigned number: a word for an infinite or undefined one in any case, or a decimal. -/
def readUnsigned? (negative : Bool) (cs : List Char) : Option Binary64 :=
  let word := cs.map Char.toLower
  if word = "inf".toList ∨ word = "infinity".toList then some (.infinite negative)
  else if word = "nan".toList then some .nan
  else readDecimal? negative cs

/-- A double in decimal notation, or the words `inf`, `infinity` and `nan`, with an optional
sign. -/
def readBinary64? : List Char → Option Binary64
  | '-' :: cs => readUnsigned? true cs
  | '+' :: cs => readUnsigned? false cs
  | cs => readUnsigned? false cs

end BeanMeter
