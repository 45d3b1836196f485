/-! # Double precision numbers

Binary floating point numbers of 64 bits, computed exactly. Every finite number is a whole
multiple of the smallest positive one, its *unit*, so sums and comparisons are integer arithmetic
and each operation rounds once, to nearest with ties to even.

* `Magnitude`, `Binary64` — the values; a magnitude is `mantissa * 2 ^ exponent` units.
* `Magnitude.ofRatio?` — the magnitude nearest to a ratio of units.
* `Binary64.add`, `mul`, `div`, `ofInt` — correctly rounded operations.
* `Binary64.position?` — the place on the extended number line, which decides comparisons.
* `Binary64.toBits`, `ofBits` — the interchange format.
-/

namespace BeanMeter

/-- The whole number nearest to `n / d`; a tie goes to the even neighbour. -/
def roundHalfEven (n d : Nat) : Nat :=
  let q := n / d
  let r := n % d
  if 2 * r < d then q
  else if d < 2 * r then q + 1
  else if q % 2 = 0 then q
  else q + 1

/-- The magnitude of a finite double: `mantissa * 2 ^ exponent` units, where the unit is the
smallest positive double, `2 ^ -1074`. -/
structure Magnitude where
  mantissa : Nat
  exponent : Nat
  /-- The mantissa has at most 53 bits, and fewer only where the exponent is the least one. -/
  canonical : mantissa < 1 <<< 53 ∧ exponent ≤ 2045 ∧ (exponent = 0 ∨ 1 <<< 52 ≤ mantissa)
  deriving DecidableEq, Repr

/-- A double precision number. -/
inductive Binary64 where
  /-- The result of an undefined operation. -/
  | nan
  | infinite (negative : Bool)
  | finite (negative : Bool) (magnitude : Magnitude)
  deriving DecidableEq, Repr

namespace Magnitude

/-- The magnitude zero. -/
def zero : Magnitude := ⟨0, 0, by decide⟩

/-- The magnitude one, `2 ^ 1074` units. -/
def one : Magnitude := ⟨1 <<< 52, 1022, by decide⟩

/-- How many units the magnitude is. -/
def units (m : Magnitude) : Nat := m.mantissa <<< m.exponent

/-- The number of units in one. -/
def unitsPerOne : Nat := 1 <<< 1074

/-- The magnitude with a mantissa of at most 53 bits and an exponent, if it is in range. -/
def ofParts? (mantissa exponent : Nat) : Option Magnitude :=
  if h : mantissa < 1 <<< 53 ∧ exponent ≤ 2045 ∧ (exponent = 0 ∨ 1 <<< 52 ≤ mantissa) then
    some ⟨mantissa, exponent, h⟩
  else none

/-- The magnitude nearest to `n / d` units; a tie goes to the even mantissa. There is none when
the nearest one would need too large an exponent. -/
def ofRatio? (n d : Nat) : Option Magnitude :=
  let exponent := (n / d).log2 - 52
  let mantissa := roundHalfEven n (d <<< exponent)
  -- Rounding up can fill all 53 bits and spill into the next.
  if mantissa = 1 <<< 53 then ofParts? (1 <<< 52) (exponent + 1) else ofParts? mantissa exponent

end Magnitude

namespace Binary64

/-- The number zero, positive. -/
def zero : Binary64 := .finite false .zero

/-- The number one. -/
def one : Binary64 := .finite false .one

instance : Inhabited Binary64 := ⟨zero⟩

/-- The number nearest to `n / d` units with a given sign; infinite beyond the largest finite
number. -/
def ofUnitRatio (negative : Bool) (n d : Nat) : Binary64 :=
  match Magnitude.ofRatio? n d with
  | some m => .finite negative m
  | none => .infinite negative

/-- The number nearest to the ratio `n / d` with a given sign. -/
def ofRatio (negative : Bool) (n d : Nat) : Binary64 :=
  ofUnitRatio negative (n * Magnitude.unitsPerOne) d

/-- The number nearest to a whole number. -/
def ofInt (n : Int) : Binary64 := ofRatio (decide (n < 0)) n.natAbs 1

/-- The number nearest to a natural number. -/
def ofNat (n : Nat) : Binary64 := ofRatio false n 1

/-- The number with the opposite sign. -/
def neg : Binary64 → Binary64
  | .nan => .nan
  | .infinite s => .infinite (!s)
  | .finite s m => .finite (!s) m

/-- The number without its sign. -/
def abs : Binary64 → Binary64
  | .nan => .nan
  | .infinite _ => .infinite false
  | .finite _ m => .finite false m

/-- A magnitude as a signed number of units. -/
def signedUnits (negative : Bool) (m : Magnitude) : Int :=
  if negative then -(m.units : Int) else (m.units : Int)

/-- The sum, rounded once. Opposite infinities have none; an exact zero is positive unless both
terms are negative. -/
def add : Binary64 → Binary64 → Binary64
  | .nan, _ | _, .nan => .nan
  | .infinite s, .infinite t => if s = t then .infinite s else .nan
  | .infinite s, _ | _, .infinite s => .infinite s
  | .finite s m, .finite t n =>
    let total := signedUnits s m + signedUnits t n
    if total = 0 then .finite (s && t) .zero
    else ofUnitRatio (decide (total < 0)) total.natAbs 1

/-- The product, rounded once. -/
def mul : Binary64 → Binary64 → Binary64
  | .nan, _ | _, .nan => .nan
  | .infinite s, .infinite t => .infinite (s != t)
  | .infinite s, .finite t m | .finite t m, .infinite s =>
    if m.mantissa = 0 then .nan else .infinite (s != t)
  | .finite s m, .finite t n => ofUnitRatio (s != t) (m.units * n.units) Magnitude.unitsPerOne

/-- The quotient, rounded once. -/
def div : Binary64 → Binary64 → Binary64
  | .nan, _ | _, .nan => .nan
  | .infinite _, .infinite _ => .nan
  | .infinite s, .finite t _ => .infinite (s != t)
  | .finite s _, .infinite t => .finite (s != t) .zero
  | .finite s m, .finite t n =>
    if n.mantissa = 0 then if m.mantissa = 0 then .nan else .infinite (s != t)
    else ofUnitRatio (s != t) (m.units * Magnitude.unitsPerOne) n.units

/-! ## Comparison -/

/-- Where the infinities stand on the number line, counted in units: just past the largest
finite number. -/
def infinitePosition : Int := (1 <<< 2098 : Nat)

/-- The place on the extended number line, in units. Both zeros stand at the same place, and an
undefined number has none. -/
def position? : Binary64 → Option Int
  | .nan => none
  | .infinite s => some (if s then -infinitePosition else infinitePosition)
  | .finite s m => some (signedUnits s m)

/-- Whether one number is at most another; false if either is undefined. -/
def le (x y : Binary64) : Bool :=
  match x.position?, y.position? with
  | some a, some b => decide (a ≤ b)
  | _, _ => false

/-- Whether one number is below another; false if either is undefined. -/
def lt (x y : Binary64) : Bool :=
  match x.position?, y.position? with
  | some a, some b => decide (a < b)
  | _, _ => false

/-- Whether a number is infinite. -/
def isInfinite : Binary64 → Bool
  | .infinite _ => true
  | _ => false

/-- Whether a number is zero. -/
def isZero : Binary64 → Bool
  | .finite _ m => m.mantissa == 0
  | _ => false

/-- The whole number that a number equals, if it equals one. -/
def toInt? : Binary64 → Option Int
  | .finite s m =>
    if m.units % Magnitude.unitsPerOne = 0 then
      let n : Int := (m.units / Magnitude.unitsPerOne : Nat)
      some (if s then -n else n)
    else none
  | _ => none

/-! ## Interchange format -/

/-- The 64 bits of a number: sign, exponent of eleven bits, fraction of 52 bits. -/
def toBits : Binary64 → Nat
  | .nan => 0x7ff8000000000000
  | .infinite s => (if s then 1 <<< 63 else 0) + (2047 <<< 52)
  | .finite s m =>
    (if s then 1 <<< 63 else 0) +
      -- The highest bit of a mantissa of full length is not written.
      if m.mantissa < 1 <<< 52 then m.mantissa
      else ((m.exponent + 1) <<< 52) + (m.mantissa - (1 <<< 52))

/-- The number with the given 64 bits. All undefined patterns are one value. -/
def ofBits (bits : Nat) : Binary64 :=
  let negative := (bits >>> 63) % 2 == 1
  let field := (bits >>> 52) % 2048
  let fraction := bits % (1 <<< 52)
  if field = 2047 then if fraction = 0 then .infinite negative else .nan
  else
    match if field = 0 then Magnitude.ofParts? fraction 0
      else Magnitude.ofParts? (fraction + (1 <<< 52)) (field - 1) with
    | some m => .finite negative m
    | none => .nan

end Binary64

end BeanMeter
