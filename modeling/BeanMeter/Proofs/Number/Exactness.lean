import BeanMeter.Exposition.Format
import Mathlib.Data.Int.Lemmas
import Mathlib.Data.Nat.Log
import Mathlib.Tactic.Ring

/-! # Whole numbers

Which whole numbers pass through a double without a change, and how they are written.

* `Magnitude.ofRatio?_units` — a magnitude is the nearest one to itself.
* `Binary64.toInt?_ofInt` — whole numbers of up to 53 bits are doubles.
* `integerText_eq_toString` — the digits that are written are those of the number.
* `Exposition.valueText_of_toInt?` — small whole numbers are written digit for digit.
-/

namespace BeanMeter

/-! ## Rounding -/

theorem roundHalfEven_mul {q d : Nat} (positive : 0 < d) : roundHalfEven (q * d) d = q := by
  simp [roundHalfEven, Nat.mul_mod_left, Nat.mul_div_cancel q positive, positive]

namespace Magnitude

variable {m : Magnitude} {k : Nat}

theorem unitsPerOne_pos : 0 < unitsPerOne := by decide +kernel

/-- A mantissa of full length shows in the length of the number of units. -/
theorem log2_units (m : Magnitude) : m.units.log2 - 52 = m.exponent := by
  obtain ⟨mantissa, exponent, short, -, full⟩ := m
  simp only [units, Nat.shiftLeft_eq, one_mul] at short full ⊢
  -- Only with the least exponent the mantissa may have fewer than 53 bits.
  rcases full with rfl | long
  · rw [pow_zero, mul_one]
    by_cases none : mantissa = 0
    · simp [none]
    · have few := (Nat.log2_lt none).mpr short
      omega
  · have low : 2 ^ (52 + exponent) ≤ mantissa * 2 ^ exponent := by
      rw [pow_add]
      exact Nat.mul_le_mul_right _ long
    have high : mantissa * 2 ^ exponent < 2 ^ (52 + exponent + 1) := by
      have limit : 2 ^ (52 + exponent + 1) = 2 ^ 53 * 2 ^ exponent := by ring
      rw [limit]
      exact Nat.mul_lt_mul_of_pos_right short (Nat.two_pow_pos exponent)
    have some : mantissa * 2 ^ exponent ≠ 0 := by
      have := Nat.two_pow_pos (52 + exponent)
      omega
    have length := (Nat.log2_eq_iff some).mpr ⟨low, high⟩
    omega

/-- Nothing is rounded where nothing has to be. -/
theorem ofRatio?_units (m : Magnitude) : ofRatio? m.units 1 = some m := by
  have mantissa : roundHalfEven m.units (1 <<< m.exponent) = m.mantissa := by
    rw [units, Nat.shiftLeft_eq, Nat.shiftLeft_eq, one_mul]
    exact roundHalfEven_mul (Nat.two_pow_pos _)
  have short : m.mantissa ≠ 1 <<< 53 := m.canonical.1.ne
  rw [ofRatio?, Nat.div_one, log2_units, mantissa, if_neg short, ofParts?, dif_pos m.canonical]

theorem exists_units_eq (small : k < 1 <<< 53) : ∃ m : Magnitude, m.units = k * unitsPerOne := by
  by_cases none : k = 0
  · exact ⟨.zero, by simp [none, units, zero]⟩
  · -- The digits of `k` with as many zeros behind them as make a mantissa of full length.
    rw [Nat.shiftLeft_eq, one_mul] at small
    have length := (Nat.log2_lt none).mpr small
    obtain ⟨zeros, total⟩ : ∃ zeros, k.log2 + zeros = 52 := ⟨52 - k.log2, by omega⟩
    have low : 1 <<< 52 ≤ k <<< zeros := by
      rw [Nat.shiftLeft_eq, Nat.shiftLeft_eq, one_mul, ← total, pow_add]
      exact Nat.mul_le_mul_right _ (Nat.log2_self_le none)
    have high : k <<< zeros < 1 <<< 53 := by
      have limit : 53 = k.log2 + 1 + zeros := by omega
      rw [Nat.shiftLeft_eq, Nat.shiftLeft_eq, one_mul, limit, pow_add]
      exact Nat.mul_lt_mul_of_pos_right Nat.lt_log2_self (Nat.two_pow_pos zeros)
    refine ⟨⟨k <<< zeros, k.log2 + 1022, high, by omega, .inr low⟩, ?_⟩
    have exponents : zeros + (k.log2 + 1022) = 1074 := by omega
    have shifted (e : Nat) : k <<< e = k * 1 <<< e := by simp [Nat.shiftLeft_eq]
    rw [units, unitsPerOne, ← Nat.shiftLeft_add, exponents, shifted]

end Magnitude

/-! ## Doubles -/

namespace Binary64

variable {k : Nat} {n : Int} {negative : Bool} {m : Magnitude} {x : Binary64}

theorem ofUnitRatio_units (negative : Bool) (m : Magnitude) :
    ofUnitRatio negative m.units 1 = .finite negative m := by
  unfold ofUnitRatio
  rw [Magnitude.ofRatio?_units]

theorem exists_ofRatio_eq (negative : Bool) (small : k < 1 <<< 53) :
    ∃ m, ofRatio negative k 1 = .finite negative m ∧ m.units = k * Magnitude.unitsPerOne := by
  obtain ⟨m, units⟩ := Magnitude.exists_units_eq small
  exact ⟨m, by rw [ofRatio, ← units, ofUnitRatio_units], units⟩

theorem toInt?_finite_eq_some_iff : toInt? (.finite negative m) = some n ↔
    ∃ k : Nat, m.units = k * Magnitude.unitsPerOne ∧ n = if negative then -(k : Int) else k := by
  rw [toInt?]
  split
  · next whole =>
    constructor
    · intro same
      cases same
      exact ⟨_, (Nat.div_mul_cancel (Nat.dvd_of_mod_eq_zero whole)).symm, rfl⟩
    · rintro ⟨k, units, rfl⟩
      rw [units, Nat.mul_div_cancel k Magnitude.unitsPerOne_pos]
  · next fraction =>
    constructor
    · intro same
      cases same
    · rintro ⟨k, units, -⟩
      rw [units, Nat.mul_mod_left] at fraction
      contradiction

/-- Whole numbers of up to 53 bits lose nothing as doubles. -/
theorem toInt?_ofInt (small : n.natAbs < 1 <<< 53) : (ofInt n).toInt? = some n := by
  obtain ⟨m, double, units⟩ := exists_ofRatio_eq (decide (n < 0)) small
  rw [ofInt, double, toInt?_finite_eq_some_iff]
  refine ⟨n.natAbs, units, ?_⟩
  simp only [decide_eq_true_eq]
  split <;> omega

theorem toInt?_ofNat (small : k < 1 <<< 53) : (ofNat k).toInt? = some (k : Int) := by
  have whole : (ofInt k).toInt? = some (k : Int) := toInt?_ofInt small
  have unsigned : decide ((k : Int) < 0) = false := decide_eq_false (by omega)
  rwa [ofInt, unsigned, Int.natAbs_natCast] at whole

theorem abs_lt_ofNat (whole : x.toInt? = some n) (limit : k < 1 <<< 53) (small : n.natAbs < k) :
    x.abs.lt (.ofNat k) = true := by
  cases x with
  | nan | infinite _ => cases whole
  | finite negative m =>
    obtain ⟨j, units, rfl⟩ := toInt?_finite_eq_some_iff.mp whole
    obtain ⟨m', double, units'⟩ := exists_ofRatio_eq false limit
    -- Both stand at whole multiples of the units in one, so the factors are compared.
    have fewer : j < k := by
      split at small <;> omega
    have less : m.units < m'.units := by
      rw [units, units']
      exact Nat.mul_lt_mul_of_pos_right fewer Magnitude.unitsPerOne_pos
    rw [ofNat, double]
    simpa [Binary64.abs, lt, position?, signedUnits] using less

end Binary64

/-! ## Digits -/

theorem digitChar_eq {d : Nat} (small : d < 10) : digitChar d = Nat.digitChar d := by
  decide +revert

theorem digitsBefore_eq (n : Nat) (tail : List Char) :
    digitsBefore n tail = Nat.toDigits 10 n ++ tail := by
  induction n, tail using digitsBefore.induct with
  | case1 n tail small =>
    rw [digitsBefore, if_pos small, Nat.toDigits_of_lt_base small, digitChar_eq small]
    rfl
  | case2 n tail large ih =>
    have digits := @Nat.toDigits_eq_if 10 n (by decide)
    rw [if_neg large] at digits
    rw [digitsBefore, if_neg large, ih, digits, digitChar_eq (Nat.mod_lt n (by decide)),
      List.append_assoc]
    rfl

theorem naturalText_eq_toString (n : Nat) : naturalText n = toString n := by
  rw [naturalText, digitsOf, digitsBefore_eq, List.append_nil, Nat.toString_eq_repr,
    Nat.repr_eq_ofList_toDigits]

/-- Whole numbers are written in the usual way. -/
theorem integerText_eq_toString (n : Int) : integerText n = toString n := by
  rw [integerText, Int.toString_eq_repr, Int.repr_eq_if]
  by_cases negative : n < 0
  · have digits := naturalText_eq_toString n.natAbs
    rw [Nat.toString_eq_repr] at digits
    have absolute : (-n).toNat = n.natAbs := by omega
    rw [if_pos negative, if_neg (by omega), absolute, ← digits, naturalText,
      ← String.toList_inj]
    simp
  · have absolute : n.toNat = n.natAbs := by omega
    rw [if_neg negative, if_pos (by omega), absolute, naturalText_eq_toString,
      Nat.toString_eq_repr]

theorem Exposition.limit_lt : 1000000000000000 < 1 <<< 53 := by decide +kernel

/-- Neither a fraction nor an exponent is written for a whole number of at most 15 digits. -/
theorem Exposition.valueText_of_toInt? {x : Binary64} {n : Int} (whole : x.toInt? = some n)
    (small : n.natAbs < 1000000000000000) : valueText x = toString n := by
  have within : x.abs.lt wholeLimit = true := Binary64.abs_lt_ofNat whole limit_lt small
  have chosen : (if x.abs.lt wholeLimit then x.toInt? else none) = some n := by
    rw [if_pos within, whole]
  rw [← integerText_eq_toString]
  unfold valueText
  -- What has been chosen must be opaque here, or the limit is computed.
  generalize (if x.abs.lt wholeLimit then x.toInt? else none) = choice at chosen
  subst chosen
  cases x with
  | nan | infinite _ => cases whole
  | finite negative m => rfl

end BeanMeter
