import BeanMeter.Number.Notation
import BeanMeter.Number.Reading
import Mathlib.Tactic.Ring
import Mathlib.Tactic.SplitIfs

/-! # Digits read back

The digits of a natural number, decimal or hexadecimal, are read as that number.

* `ofDigits_digitsOf` — decimal digits.
* `readHexDigits?_hexDigits` — a fixed number of hexadecimal digits, of either case.
* `foldlM_dropWhile_zero` — zeros in front do not matter.
* `of_readHexDigits?` — what is read has digits only, and few digits write a small number.
-/

namespace BeanMeter

variable {n : Nat} {ds : List Char} {c : Char}

/-! ## Characters of digits -/

theorem charRange_iff {first last : Char} : (decide (first ≤ c) && decide (c ≤ last)) = true ↔
    first.toNat ≤ c.toNat ∧ c.toNat ≤ last.toNat := by
  rw [Bool.and_eq_true, decide_eq_true_iff, decide_eq_true_iff]
  exact Iff.rfl

theorem isDigit_iff : isDigit c = true ↔ 48 ≤ c.toNat ∧ c.toNat ≤ 57 := charRange_iff

theorem hexValue?_eq_some_iff {v : Nat} : hexValue? c = some v ↔
    (48 ≤ c.toNat ∧ c.toNat ≤ 57 ∧ v = c.toNat - 48) ∨
      (97 ≤ c.toNat ∧ c.toNat ≤ 102 ∧ v = c.toNat - 87) ∨
      (65 ≤ c.toNat ∧ c.toNat ≤ 70 ∧ v = c.toNat - 55) := by
  have small : (decide ('a' ≤ c) && decide (c ≤ 'f')) = true ↔
      97 ≤ c.toNat ∧ c.toNat ≤ 102 := charRange_iff
  have capital : (decide ('A' ≤ c) && decide (c ≤ 'F')) = true ↔
      65 ≤ c.toNat ∧ c.toNat ≤ 70 := charRange_iff
  have zero : digitValue c = c.toNat - 48 := rfl
  have a : 'a'.toNat = 97 := rfl
  have capitalA : 'A'.toNat = 65 := rfl
  simp only [hexValue?, isDigit_iff, small, capital, zero, a, capitalA]
  split_ifs <;> simp <;> omega

theorem isDigit_digitChar {d : Nat} (small : d < 10) : isDigit (digitChar d) = true := by
  have all : ∀ d : Fin 10, isDigit (digitChar d) = true := by decide
  exact all ⟨d, small⟩

theorem digitValue_digitChar {d : Nat} (small : d < 10) : digitValue (digitChar d) = d := by
  have all : ∀ d : Fin 10, digitValue (digitChar d) = d := by decide
  exact all ⟨d, small⟩

/-- A hexadecimal digit in upper or in lower case. -/
def hexCase (upper : Bool) (c : Char) : Char := if upper then c.toUpper else c

theorem hexValue?_digitChar (upper : Bool) {d : Nat} (small : d < 16) :
    hexValue? (hexCase upper (digitChar d)) = some d := by
  have all : ∀ (upper : Bool) (d : Fin 16),
      hexValue? (hexCase upper (digitChar d)) = some d.val := by decide
  exact all upper ⟨d, small⟩

/-! ## Decimal digits -/

theorem foldDigits_digitsBefore (n : Nat) (tail : List Char) :
    foldDigits 0 (digitsBefore n tail) = foldDigits n tail := by
  fun_induction digitsBefore n tail with
  | case1 n tail small => simp [foldDigits, digitValue_digitChar small]
  | case2 n tail _ ih =>
    have last : digitValue (digitChar (n % 10)) = n % 10 := digitValue_digitChar (by omega)
    have whole : 10 * (n / 10) + n % 10 = n := by omega
    rw [ih]
    simp [foldDigits, last, whole]

theorem ofDigits_digitsOf (n : Nat) : ofDigits (digitsOf n) = n := foldDigits_digitsBefore n []

theorem all_isDigit_digitsBefore {tail : List Char} (digits : tail.all isDigit = true) :
    (digitsBefore n tail).all isDigit = true := by
  fun_induction digitsBefore n tail with
  | case1 n tail small => simp [isDigit_digitChar small, digits]
  | case2 n tail _ ih => exact ih (by simp [isDigit_digitChar (show n % 10 < 10 by omega), digits])

theorem all_isDigit_digitsOf (n : Nat) : (digitsOf n).all isDigit = true :=
  all_isDigit_digitsBefore rfl

theorem isDigit_of_mem_digitsOf (member : c ∈ digitsOf n) : isDigit c = true :=
  List.all_eq_true.mp (all_isDigit_digitsOf n) c member

/-- Only zero is written with a zero in front. -/
theorem exists_digitsBefore_eq_cons (n : Nat) (tail : List Char) :
    ∃ d ds, digitsBefore n tail = d :: ds ∧ (d = '0' → n = 0 ∧ ds = tail) := by
  fun_induction digitsBefore n tail with
  | case1 n tail small =>
    have all : ∀ d : Fin 10, digitChar d = '0' → d = 0 := by decide
    exact ⟨digitChar n, tail, rfl, fun zero => ⟨congrArg Fin.val (all ⟨n, small⟩ zero), rfl⟩⟩
  | case2 n tail large ih =>
    obtain ⟨d, ds, digits, zero⟩ := ih
    refine ⟨d, ds, digits, fun same => ?_⟩
    have nothing := (zero same).1
    omega

theorem digitsOf_ne_nil (n : Nat) : digitsOf n ≠ [] := by
  obtain ⟨d, ds, same, -⟩ := exists_digitsBefore_eq_cons n []
  rw [digitsOf, same]
  exact List.cons_ne_nil d ds

/-! ## Hexadecimal digits -/

theorem length_hexDigits (width n : Nat) : (hexDigits width n).length = width := by
  induction width generalizing n with
  | zero => rfl
  | succ width ih => simp [hexDigits, ih]

theorem mem_hexDigits {width : Nat} (member : c ∈ hexDigits width n) :
    ∃ d < 16, c = digitChar d := by
  induction width generalizing n with
  | zero => cases member
  | succ width ih =>
    rw [hexDigits, List.mem_append, List.mem_singleton] at member
    rcases member with before | last
    · exact ih before
    · exact ⟨n % 16, by omega, last⟩

/-- The number after one more hexadecimal digit. -/
def pushHex? (n : Nat) (c : Char) : Option Nat := (hexValue? c).map (16 * n + ·)

theorem readHexDigits?_eq (some : ds ≠ []) : readHexDigits? ds = ds.foldlM pushHex? 0 := by
  cases ds with
  | nil => contradiction
  | cons d ds => rfl

theorem foldlM_hexDigits (upper : Bool) (width m n : Nat) :
    ((hexDigits width n).map (hexCase upper)).foldlM pushHex? m =
      some (16 ^ width * m + n % 16 ^ width) := by
  induction width generalizing n with
  | zero => simp [hexDigits, Nat.mod_one]
  | succ width ih =>
    have value : hexValue? (hexCase upper (digitChar (n % 16))) = some (n % 16) :=
      hexValue?_digitChar upper (by omega)
    rw [hexDigits, List.map_append, List.foldlM_append, ih, Nat.pow_succ,
      Nat.mul_comm (16 ^ width) 16, Nat.mod_mul]
    simp [pushHex?, value]
    ring

theorem readHexDigits?_hexDigits (upper : Bool) {width : Nat} (fits : n < 16 ^ (width + 1)) :
    readHexDigits? ((hexDigits (width + 1) n).map (hexCase upper)) = some n := by
  have some : (hexDigits (width + 1) n).map (hexCase upper) ≠ [] := by simp [hexDigits]
  rw [readHexDigits?_eq some, foldlM_hexDigits, Nat.mod_eq_of_lt fits]
  simp

theorem foldlM_dropWhile_zero :
    (ds.dropWhile (· == '0')).foldlM pushHex? 0 = ds.foldlM pushHex? 0 := by
  induction ds with
  | nil => rfl
  | cons d ds ih =>
    rw [List.dropWhile_cons]
    split
    · next zero => rw [ih, beq_iff_eq.mp zero]; rfl
    · rfl

theorem of_foldlM_pushHex? {m k : Nat} (reads : ds.foldlM pushHex? m = some k) :
    (∀ c ∈ ds, (hexValue? c).isSome = true) ∧ k < 16 ^ ds.length * (m + 1) := by
  induction ds generalizing m with
  | nil =>
    cases reads
    simp
  | cons d ds ih =>
    cases value : hexValue? d with
    | none => simp [pushHex?, value] at reads
    | some v =>
      have small : v < 16 := by
        rw [hexValue?_eq_some_iff] at value
        omega
      rw [List.foldlM_cons, pushHex?, value] at reads
      obtain ⟨digits, bound⟩ := ih reads
      refine ⟨by simpa [value] using digits, ?_⟩
      calc k < 16 ^ ds.length * (16 * m + v + 1) := bound
        _ ≤ 16 ^ ds.length * (16 * (m + 1)) := Nat.mul_le_mul_left _ (by omega)
        _ = 16 ^ (d :: ds).length * (m + 1) := by rw [List.length_cons]; ring

theorem of_readHexDigits? {k : Nat} (reads : readHexDigits? ds = some k) :
    ds ≠ [] ∧ (∀ c ∈ ds, (hexValue? c).isSome = true) ∧ k < 16 ^ ds.length := by
  have some : ds ≠ [] := by
    rintro rfl
    cases reads
  rw [readHexDigits?_eq some] at reads
  simpa [some] using of_foldlM_pushHex? reads

end BeanMeter
