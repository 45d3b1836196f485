import BeanMeter.Number.Binary64
import Mathlib.Algebra.Order.Ring.Nat

/-! # The order of doubles

Comparisons of doubles other than the undefined one are a total order with infinity on top.

* `Magnitude.units_lt` — finite numbers stand before the infinite ones.
* `Binary64.le_iff` — one number is at most another if it stands no later on the number line.
* `Binary64.le_trans`, `le_of_not_lt`, `le_infinite` — the laws of the order.
-/

namespace BeanMeter

theorem Magnitude.units_lt (m : Magnitude) : m.units < 1 <<< 2098 := by
  obtain ⟨short, low, -⟩ := m.canonical
  rw [Nat.shiftLeft_eq, one_mul] at short
  -- The power is taken apart, as it is too large to be computed.
  obtain ⟨slack, total⟩ : ∃ slack, m.exponent + slack = 2045 := ⟨2045 - m.exponent, by omega⟩
  have limit : 2098 = 53 + m.exponent + slack := by omega
  rw [units, Nat.shiftLeft_eq, limit, Nat.shiftLeft_eq, one_mul, pow_add, pow_add]
  calc m.mantissa * 2 ^ m.exponent < 2 ^ 53 * 2 ^ m.exponent :=
        Nat.mul_lt_mul_of_pos_right short (Nat.two_pow_pos m.exponent)
    _ ≤ 2 ^ 53 * 2 ^ m.exponent * 2 ^ slack := Nat.le_mul_of_pos_right _ (Nat.two_pow_pos slack)

namespace Binary64

variable {x y z : Binary64}

theorem exists_position (number : x ≠ .nan) : ∃ a, x.position? = some a := by
  cases x with
  | nan => exact absurd rfl number
  | infinite negative => exact ⟨_, rfl⟩
  | finite negative m => exact ⟨_, rfl⟩

theorem le_iff : x.le y = true ↔ ∃ a b, x.position? = some a ∧ y.position? = some b ∧ a ≤ b := by
  rw [le]
  cases x.position? <;> cases y.position? <;> simp

theorem lt_iff : x.lt y = true ↔ ∃ a b, x.position? = some a ∧ y.position? = some b ∧ a < b := by
  rw [lt]
  cases x.position? <;> cases y.position? <;> simp

theorem le_of_lt (below : x.lt y = true) : x.le y = true := by
  obtain ⟨a, b, own, other, less⟩ := lt_iff.mp below
  exact le_iff.mpr ⟨a, b, own, other, less.le⟩

theorem le_trans (first : x.le y = true) (second : y.le z = true) : x.le z = true := by
  obtain ⟨a, b, own, middle, low⟩ := le_iff.mp first
  obtain ⟨b', c, again, other, high⟩ := le_iff.mp second
  obtain rfl : b = b' := Option.some.inj (middle.symm.trans again)
  exact le_iff.mpr ⟨a, c, own, other, low.trans high⟩

theorem le_of_not_lt (number : x ≠ .nan) (other : y ≠ .nan) (notBelow : x.lt y ≠ true) :
    y.le x = true := by
  obtain ⟨a, own⟩ := exists_position number
  obtain ⟨b, theirs⟩ := exists_position other
  refine le_iff.mpr ⟨b, a, theirs, own, ?_⟩
  by_contra less
  exact notBelow (lt_iff.mpr ⟨a, b, own, theirs, not_le.mp less⟩)

theorem le_infinite (number : x ≠ .nan) : x.le (.infinite false) = true := by
  have top : position? (.infinite false) = some infinitePosition := rfl
  cases x with
  | nan => exact absurd rfl number
  | infinite negative =>
    refine le_iff.mpr ⟨_, _, rfl, top, ?_⟩
    have positive : 0 < infinitePosition := by decide +kernel
    split <;> omega
  | finite negative m =>
    refine le_iff.mpr ⟨_, _, rfl, top, ?_⟩
    have below : (m.units : Int) < infinitePosition := Int.ofNat_lt.mpr m.units_lt
    rw [signedUnits]
    split <;> omega

end Binary64

end BeanMeter
