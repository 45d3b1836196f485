import BeanMeter.Number.Binary64

/-! # Shortest decimal digits

The decimal number with the fewest digits that still reads back as a given double.

* `Magnitude.readsBack` — the exact rule for a decimal grid point to read back as a magnitude.
* `Magnitude.shortest` — the coarsest decimal grid with such a point, and the point on it nearest
  to the magnitude.
-/

namespace BeanMeter

/-- A decimal number `digits * 10 ^ exponent`. -/
structure DecimalDigits where
  digits : Nat
  exponent : Int
  deriving DecidableEq, Repr

namespace Magnitude

/-- The decimal grid of step `10 ^ p`, in quarters of a unit: a step is `step / parts` quarter
units. -/
structure Grid where
  step : Nat
  parts : Nat

/-- The grid whose step is `10 ^ p`. -/
def Grid.ofExponent (p : Int) : Grid :=
  if 0 ≤ p then ⟨Nat.pow 10 p.toNat * (4 * unitsPerOne), 1⟩
  else ⟨4 * unitsPerOne, Nat.pow 10 (-p).toNat⟩

/-- The lower end of the numbers that round to a magnitude, in quarter units. The gap below a
power of two is half as wide as the gap above. -/
def lowQuarters (m : Magnitude) : Nat :=
  4 * m.units - (if m.mantissa = 1 <<< 52 ∧ 0 < m.exponent then 1 else 2) <<< m.exponent

/-- The upper end of the numbers that round to a magnitude, in quarter units. -/
def highQuarters (m : Magnitude) : Nat := 4 * m.units + (2 <<< m.exponent)

/-- Whether the point `n` of a grid reads back as the magnitude. Both ends of the interval round
to the even mantissa. -/
def readsBack (m : Magnitude) (g : Grid) (n : Nat) : Bool :=
  if m.mantissa % 2 = 0 then
    decide (m.lowQuarters * g.parts ≤ n * g.step ∧ n * g.step ≤ m.highQuarters * g.parts)
  else
    decide (m.lowQuarters * g.parts < n * g.step ∧ n * g.step < m.highQuarters * g.parts)

/-- The point of a grid that reads back and is nearest to the magnitude; a tie goes up. -/
def pointOn? (m : Magnitude) (g : Grid) : Option Nat :=
  let value := 4 * m.units * g.parts
  -- Only the two neighbours of the value can be nearest to it.
  let below := value / g.step
  match m.readsBack g below && below != 0, m.readsBack g (below + 1) with
  | true, true =>
    if value - below * g.step < (below + 1) * g.step - value then some below else some (below + 1)
  | true, false => some below
  | false, true => some (below + 1)
  | false, false => none

/-- Removes trailing zeros of a digit string, raising the exponent. -/
def dropZeros : Nat → DecimalDigits → DecimalDigits
  | 0, d => d
  | fuel + 1, d =>
    if d.digits ≠ 0 ∧ d.digits % 10 = 0 then dropZeros fuel ⟨d.digits / 10, d.exponent + 1⟩ else d

/-- Tries ever finer grids, starting with step `10 ^ p`. -/
def searchGrids (m : Magnitude) : Nat → Int → DecimalDigits
  | 0, p => ⟨4 * m.units * (Grid.ofExponent p).parts / (Grid.ofExponent p).step, p⟩
  | fuel + 1, p =>
    match m.pointOn? (Grid.ofExponent p) with
    | some n => ⟨n, p⟩
    | none => searchGrids m fuel (p - 1)

/-- An exponent of ten at or a little above that of the leading digit. -/
def coarsestExponent (m : Magnitude) : Int :=
  ((m.units.log2 : Int) + 1 - 1074) * 30103 / 100000 + 1

/-- The fewest decimal digits that read back as the magnitude, nearest to it among those. -/
def shortest (m : Magnitude) : DecimalDigits :=
  if m.mantissa = 0 then ⟨0, 0⟩ else dropZeros 20 (m.searchGrids 22 m.coarsestExponent)

end Magnitude

end BeanMeter
