import BeanMeter.Number.Notation
import BeanMeter.Text.Blank
import Mathlib.Tactic.SplitIfs

/-! # The characters of written numbers

A written number is one word: no notation puts a blank into it.

* `Text.Solid` — texts without blanks.
* `solid_integerText`, `Binary64.solid_positional`, `Binary64.solid_scientific` — the notations.
-/

namespace BeanMeter

namespace Text

/-- No character of a text is a blank. -/
def Solid (cs : List Char) : Prop := ∀ c ∈ cs, isBlank c = false

variable {cs ds : List Char} {c : Char}

instance : Decidable (Solid cs) := List.decidableBAll _ cs

@[simp] theorem solid_nil : Solid [] := by simp [Solid]

@[simp] theorem solid_cons : Solid (c :: cs) ↔ isBlank c = false ∧ Solid cs := by simp [Solid]

@[simp] theorem solid_append : Solid (cs ++ ds) ↔ Solid cs ∧ Solid ds := by
  simp [Solid, or_imp, forall_and]

theorem Solid.sublist (solid : Solid cs) (part : ds.Sublist cs) : Solid ds :=
  fun c member => solid c (part.subset member)

theorem Solid.not_mem (solid : Solid cs) (blank : isBlank c = true) : c ∉ cs := by
  intro member
  rw [solid c member] at blank
  cases blank

end Text

open Text

theorem isBlank_digitChar {d : Nat} (small : d < 16) : isBlank (digitChar d) = false := by
  have all : ∀ d : Fin 16, isBlank (digitChar d) = false := by decide
  exact all ⟨d, small⟩

theorem solid_digitsBefore {n : Nat} {tail : List Char} (solid : Solid tail) :
    Solid (digitsBefore n tail) := by
  fun_induction digitsBefore n tail with
  | case1 n tail small => simp [isBlank_digitChar (show n < 16 by omega), solid]
  | case2 n tail _ ih => exact ih (by simp [isBlank_digitChar (show n % 10 < 16 by omega), solid])

theorem solid_digitsOf (n : Nat) : Solid (digitsOf n) := solid_digitsBefore solid_nil

theorem solid_zeros (n : Nat) : Solid (List.replicate n '0') := by
  intro c member
  rw [List.eq_of_mem_replicate member]
  decide

theorem solid_integerText (n : Int) : Solid (integerText n).toList := by
  have sign : isBlank '-' = false := by decide
  unfold integerText naturalText
  split <;> simp [sign, solid_digitsOf]

namespace DecimalDigits

theorem solid_positional (d : DecimalDigits) : Solid d.positional := by
  have digits := solid_digitsOf d.digits
  have point : isBlank '.' = false := by decide
  have zero : isBlank '0' = false := by decide
  unfold positional
  dsimp only
  split_ifs
  · exact digits
  · simp [digits, solid_zeros]
  · simp [point, digits.sublist (List.take_sublist ..), digits.sublist (List.drop_sublist ..)]
  · simp [point, zero, digits, solid_zeros]

theorem solid_scientific (d : DecimalDigits) : Solid d.scientific := by
  have digits := solid_digitsOf d.digits
  have point : isBlank '.' = false := by decide
  have letter : isBlank 'e' = false := by decide
  unfold scientific
  dsimp only
  rw [solid_append, solid_cons]
  refine ⟨?_, letter, solid_integerText _⟩
  -- The digits are the same with a point after the first of them.
  split
  · exact solid_nil
  · next one => rwa [one] at digits
  · next c more _ many =>
    rw [many, solid_cons] at digits
    simp [point, digits]

end DecimalDigits

namespace Binary64

theorem solid_signChars (negative : Bool) : Solid (signChars negative) := by
  cases negative with
  | false => exact solid_nil
  | true => decide

theorem solid_positional (x : Binary64) : Solid x.positional.toList := by
  cases x with
  | nan => rw [positional]; decide
  | infinite s => simp [positional, solid_signChars]; decide
  | finite s m => simp [positional, solid_signChars, DecimalDigits.solid_positional]

theorem solid_scientific (x : Binary64) : Solid x.scientific.toList := by
  cases x with
  | nan => rw [scientific]; decide
  | infinite s => simp [scientific, solid_signChars]; decide
  | finite s m => simp [scientific, solid_signChars, DecimalDigits.solid_scientific]

end Binary64

end BeanMeter
