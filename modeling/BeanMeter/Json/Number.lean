import BeanMeter.Json.Value
import BeanMeter.Number.Reading

/-! # JSON numbers

The grammar of JSON numbers and their values. Whole numbers of up to 64 bits are exact. Any other
number is a double computed from a significand of at most 64 bits and a power of ten by one
conversion and one multiplication or division, so its last bit may differ from the nearest double.

* `NumberText.ofChars?` — the parts of a number as written.
* `NumberText.value?` — its value; none if it is too large for a double.
-/

namespace BeanMeter.Json

/-- The parts of a written number. -/
structure NumberText where
  negative : Bool
  whole : List Char
  /-- The digits after the point, if there is one. -/
  fraction : Option (List Char)
  /-- Whether the exponent is negative, and its digits, if there is one. -/
  exponent : Option (Bool × List Char)
  deriving DecidableEq, Repr

namespace NumberText

/-- The exponent part: nothing, or `e`, an optional sign and at least one digit. -/
def exponentOf? : List Char → Option (Option (Bool × List Char))
  | [] => some none
  | c :: cs =>
    if c = 'e' ∨ c = 'E' then
      let (negative, ds) : Bool × List Char :=
        match cs with
        | '-' :: ds => (true, ds)
        | '+' :: ds => (false, ds)
        | ds => (false, ds)
      if ds ≠ [] ∧ ds.all isDigit then some (some (negative, ds)) else none
    else none

/-- The parts after the sign: digits without a needless leading zero, then an optional fraction of
at least one digit, then an optional exponent. -/
def unsignedOf? (negative : Bool) (cs : List Char) : Option NumberText :=
  let whole := cs.takeWhile isDigit
  if whole = [] ∨ (whole.head? = some '0' ∧ 1 < whole.length) then none
  else
    match cs.dropWhile isDigit with
    | '.' :: rest =>
      let fraction := rest.takeWhile isDigit
      if fraction = [] then none
      else (exponentOf? (rest.dropWhile isDigit)).map fun e => ⟨negative, whole, some fraction, e⟩
    | rest => (exponentOf? rest).map fun e => ⟨negative, whole, none, e⟩

/-- The parts of a number. -/
def ofChars? : List Char → Option NumberText
  | '-' :: cs => unsignedOf? true cs
  | cs => unsignedOf? false cs

/-- The bound on significands. -/
def maxSignificand : Nat := 0xffffffffffffffff

/-- Appends digits to a significand as long as it stays within its bound; returns it with the
digits that were left. -/
def takeDigits (significand : Nat) : List Char → Nat × List Char
  | [] => (significand, [])
  | d :: ds =>
    let next := significand * 10 + digitValue d
    if maxSignificand < next then (significand, d :: ds) else takeDigits next ds

/-- The double nearest to a power of ten. -/
def powerOfTen (n : Nat) : Binary64 := .ofDecimal false 1 n

/-- Scales a double by a power of ten in steps of at most 308 decimal places. There is no result
if it would be infinite. -/
def scale? (x : Binary64) (exponent : Int) : Option Binary64 :=
  if exponent.natAbs ≤ 308 then
    if 0 ≤ exponent then
      let y := x.mul (powerOfTen exponent.natAbs)
      if y.isInfinite then none else some y
    else some (x.div (powerOfTen exponent.natAbs))
  -- Zero stays zero, however large the exponent is.
  else if x.isZero then some x
  else if 0 ≤ exponent then none
  else scale? (x.div (powerOfTen 308)) (exponent + 308)
  termination_by exponent.natAbs
  decreasing_by omega

/-- The bound on exponents: the largest signed number of 32 bits. -/
def maxExponent : Nat := 0x7fffffff

/-- A decimal exponent kept within 32 bits. -/
def clampExponent (e : Int) : Int := max (-0x80000000) (min 0x7fffffff e)

/-- The magnitude of a number that is not a whole number of 64 bits. -/
def magnitude? (n : NumberText) : Option Binary64 :=
  let (whole, unread) := takeDigits 0 n.whole
  let shift : Int := unread.length
  let (significand, shift) :=
    match n.fraction with
    | none => (whole, shift)
    | some ds =>
      let (s, left) := takeDigits whole ds
      (s, shift - ((ds.length : Int) - left.length))
  match n.exponent with
  | none => scale? (.ofNat significand) shift
  | some (negative, ds) =>
    let e := ofDigits ds
    -- An exponent beyond 32 bits decides alone, whatever the digits would shift.
    if maxExponent < e then
      if significand = 0 ∨ negative then some .zero else none
    else
      scale? (.ofNat significand) (clampExponent (shift + if negative then -(e : Int) else e))

/-- The value of a number. A negative zero is not a whole number. -/
def value? (n : NumberText) : Option Json :=
  let digits := ofDigits n.whole
  let limit := if n.negative then 0x8000000000000000 else maxSignificand
  if n.fraction = none ∧ n.exponent = none ∧ digits ≤ limit ∧ ¬(n.negative ∧ digits = 0) then
    some (.int (if n.negative then -(digits : Int) else digits))
  else n.magnitude?.map fun x => .real (if n.negative then x.neg else x)

end NumberText

end BeanMeter.Json
