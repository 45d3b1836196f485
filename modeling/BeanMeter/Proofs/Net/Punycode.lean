import BeanMeter.Net.Punycode
import Mathlib.Data.List.Basic
import Mathlib.Data.List.TakeWhile
import Mathlib.Tactic.Linarith
import Mathlib.Tactic.Ring
import Mathlib.Tactic.SplitIfs

/-! # Encoded labels are read back

The decoder inserts the characters of a label in the order in which the encoder writes them. While
the encoder goes over the label, what it still has to say is the distance from the place where the
decoder stands, a code point and a position, to the place where the encoder is.

* `Punycode.readInteger?_integerDigits` — a variable-length integer is read back.
* `Punycode.Writes` — digits that take the decoder from one state to another.
* `Punycode.Follows` — where the decoder stands when it has read all that the encoder has written.
* `Punycode.decode?_encode` — a label is read back.
-/

namespace BeanMeter.Punycode

variable {label before cs ds es : List Char}

/-! ## Integers -/

theorem digitValue?_digit {d : Nat} (small : d < 36) : digitValue? (digit d) = some d := by
  have all : ∀ d : Fin 36, digitValue? (digit d) = some d.val := by decide
  exact all ⟨d, small⟩

theorem threshold_bounds (k bias : Nat) : 1 ≤ threshold k bias ∧ threshold k bias ≤ 26 := by
  unfold threshold
  split
  · omega
  · split <;> omega

theorem readInteger?_integerDigits (bias k q weight i : Nat) (rest : List Char) :
    readInteger? bias k weight i (integerDigits bias k q ++ rest) =
      some (i + q * weight, rest) := by
  fun_induction integerDigits bias k q generalizing weight i with
  | case1 k q last =>
    have bounds := threshold_bounds k bias
    have small : q < threshold k bias := by omega
    simp [readInteger?, digitValue?_digit (show q < 36 by omega), small]
  | case2 k q more ih =>
    have bounds := threshold_bounds k bias
    rw [List.cons_append, readInteger?]
    generalize threshold k bias = t at more bounds ih ⊢
    have remainder : (q - t) % (36 - t) < 36 - t := Nat.mod_lt _ (by omega)
    have value : digitValue? (digit (t + (q - t) % (36 - t))) = some (t + (q - t) % (36 - t)) :=
      digitValue?_digit (by omega)
    have large : ¬ t + (q - t) % (36 - t) < t := by omega
    have whole : t + (q - t) % (36 - t) + (q - t) / (36 - t) * (36 - t) = q := by
      have parts := Nat.mod_add_div' (q - t) (36 - t)
      omega
    have total : i + (t + (q - t) % (36 - t)) * weight +
        (q - t) / (36 - t) * (weight * (36 - t)) = i + q * weight := by
      rw [← congrArg (· * weight) whole]
      ring
    simp only [value, Option.bind_eq_bind, Option.bind_some, if_neg large, ih, total]

theorem mem_integerDigits {bias k q : Nat} {c : Char} (member : c ∈ integerDigits bias k q) :
    ∃ d < 36, c = digit d := by
  fun_induction integerDigits bias k q with
  | case1 k q last =>
    have bounds := threshold_bounds k bias
    exact ⟨q, by omega, List.mem_singleton.mp member⟩
  | case2 k q more ih =>
    have bounds := threshold_bounds k bias
    rcases List.mem_cons.mp member with first | later
    · have remainder : (q - threshold k bias) % (36 - threshold k bias) < 36 - threshold k bias :=
        Nat.mod_lt _ (by omega)
      exact ⟨_, by omega, first⟩
    · exact ih later

theorem integerDigits_ne_nil {bias k q : Nat} : integerDigits bias k q ≠ [] := by
  rw [integerDigits]
  split <;> simp

/-! ## The decoder -/

/-- The state of the decoder between two characters. -/
structure Reader where
  bias : Nat
  n : Nat
  i : Nat
  label : List Char

/-- The rest of a run of the decoder. -/
def Reader.run (r : Reader) (fuel : Nat) (digits : List Char) : Option (List Char) :=
  decodeFrom? r.bias r.n r.i r.label fuel digits

/-- Digits that take the decoder from one state to another, whatever follows them. -/
structure Writes (r : Reader) (ds : List Char) (s : Reader) : Prop where
  digits : ∀ c ∈ ds, ∃ d < 36, c = digit d
  reads : ∀ rest fuel, (ds ++ rest).length ≤ fuel →
    ∃ left, rest.length ≤ left ∧ r.run fuel (ds ++ rest) = s.run left rest

theorem Writes.nil (r : Reader) : Writes r [] r where
  digits := by simp
  reads := fun rest fuel enough => ⟨fuel, enough, rfl⟩

theorem Writes.append {r s t : Reader} (first : Writes r ds s) (second : Writes s es t) :
    Writes r (ds ++ es) t where
  digits := by
    intro c member
    rcases List.mem_append.mp member with early | late
    · exact first.digits c early
    · exact second.digits c late
  reads := by
    intro rest fuel enough
    rw [List.append_assoc] at enough ⊢
    obtain ⟨some, between, reads⟩ := first.reads (es ++ rest) fuel enough
    obtain ⟨left, after, more⟩ := second.reads rest some between
    exact ⟨left, after, reads.trans more⟩

/-- The decoder after a character has been inserted. -/
def Reader.insert (r : Reader) (delta : Nat) (c : Char) (position : Nat) : Reader where
  bias := adapt delta (r.label.length + 1) (r.i == 0)
  n := c.toNat
  i := position + 1
  label := r.label.take position ++ c :: r.label.drop position

/-- The distance to a place takes the decoder there. -/
theorem writes_integerDigits {r : Reader} {delta position : Nat} {c : Char} (below : r.n ≤ c.toNat)
    (within : position ≤ r.label.length)
    (distance : r.n * (r.label.length + 1) + r.i + delta =
      c.toNat * (r.label.length + 1) + position) :
    Writes r (integerDigits r.bias 36 delta) (r.insert delta c position) where
  digits := fun _ member => mem_integerDigits member
  reads := by
    intro rest fuel enough
    obtain ⟨d, ds, starts⟩ := List.exists_cons_of_ne_nil
      (@integerDigits_ne_nil r.bias 36 delta)
    have read := readInteger?_integerDigits r.bias 36 delta 1 r.i rest
    rw [starts] at enough read ⊢
    obtain ⟨left, rfl⟩ : ∃ left, fuel = left + 1 := ⟨fuel - 1, by simp at enough; omega⟩
    refine ⟨left, by simp at enough; omega, ?_⟩
    -- What is read leads past whole rounds over the label to the position in the last of them.
    have rounds : r.i + delta =
        (r.label.length + 1) * (c.toNat - r.n) + position := by
      have split : c.toNat * (r.label.length + 1) =
          r.n * (r.label.length + 1) + (r.label.length + 1) * (c.toNat - r.n) := by
        rw [← Nat.sub_add_cancel below]
        simp
        ring
      omega
    have round : r.n + (r.i + delta) / (r.label.length + 1) = c.toNat := by
      rw [rounds, Nat.mul_add_div (by omega), Nat.div_eq_of_lt (by omega)]
      omega
    have place : (r.i + delta) % (r.label.length + 1) = position := by
      rw [rounds, Nat.mul_add_mod, Nat.mod_eq_of_lt (by omega)]
    have valid : ¬ (0x10ffff < c.toNat ∨ 0xd800 ≤ c.toNat ∧ c.toNat ≤ 0xdfff) := by
      have valid : c.toNat < 0xd800 ∨ 0xdfff < c.toNat ∧ c.toNat < 0x110000 := c.valid
      omega
    rw [Reader.run, List.cons_append, decodeFrom?, ← List.cons_append, read]
    · simp [round, place, valid, Reader.run, Reader.insert]
    · simp

/-! ## The encoder -/

/-- Where the decoder stands when it has read all that the encoder has written: the encoder goes
over a label for the code point `m`, with `before` behind it and `cs` ahead of it. -/
structure Follows (basic m : Nat) (before cs : List Char) (s : State) (r : Reader) : Prop where
  bias : r.bias = s.bias
  label : r.label = before.filter (·.toNat ≤ m) ++ cs.filter (·.toNat < m)
  handled : s.handled = r.label.length
  enough : basic ≤ s.handled
  first : r.i = 0 ↔ s.handled = basic
  below : r.n ≤ m
  distance : r.n * (s.handled + 1) + r.i + s.delta =
    m * (s.handled + 1) + (before.filter (·.toNat ≤ m)).length

theorem Follows.skip {basic m : Nat} {s : State} {r : Reader} {c : Char} (larger : m < c.toNat)
    (follows : Follows basic m before (c :: cs) s r) :
    Follows basic m (before ++ [c]) cs s r where
  bias := follows.bias
  label := by
    rw [follows.label]
    simp [Nat.not_le.mpr larger, Nat.not_lt.mpr larger.le]
  handled := follows.handled
  enough := follows.enough
  first := follows.first
  below := follows.below
  distance := by
    rw [follows.distance]
    simp [Nat.not_le.mpr larger]

theorem Follows.step {basic m : Nat} {s : State} {r : Reader} {c : Char} (smaller : c.toNat < m)
    (follows : Follows basic m before (c :: cs) s r) :
    Follows basic m (before ++ [c]) cs { s with delta := s.delta + 1 } r where
  bias := follows.bias
  label := by
    rw [follows.label]
    simp [smaller, smaller.le]
  handled := follows.handled
  enough := follows.enough
  first := follows.first
  below := follows.below
  distance := by
    have distance := follows.distance
    simp [smaller.le]
    omega

theorem Follows.write {basic : Nat} {s : State} {r : Reader} {c : Char}
    (follows : Follows basic c.toNat before (c :: cs) s r) :
    ∃ t, Writes r (integerDigits s.bias 36 s.delta) t ∧
      Follows basic c.toNat (before ++ [c]) cs
        ⟨0, adapt s.delta (s.handled + 1) (s.handled == basic), s.handled + 1,
          s.output ++ integerDigits s.bias 36 s.delta⟩ t := by
  have label : r.label = before.filter (·.toNat ≤ c.toNat) ++ cs.filter (·.toNat < c.toNat) := by
    rw [follows.label]
    simp
  have distance := follows.distance
  have below := follows.below
  have enough := follows.enough
  rw [follows.handled] at distance enough
  have within : (before.filter (·.toNat ≤ c.toNat)).length ≤ r.label.length := by simp [label]
  have writes := writes_integerDigits below within distance
  have isFirst : (r.i == 0) = (s.handled == basic) := by
    rw [Bool.eq_iff_iff, beq_iff_eq, beq_iff_eq, follows.first]
  rw [follows.bias] at writes
  refine ⟨_, writes, ?_⟩
  constructor
  · simp [Reader.insert, follows.handled, isFirst]
  · simp [Reader.insert, label]
  · simp [Reader.insert, follows.handled]
    omega
  · simp only [follows.handled]
    omega
  · simp only [Reader.insert, follows.handled]
    omega
  · exact Nat.le_refl _
  · simp [Reader.insert]

theorem Follows.pass {basic m : Nat} {s : State} {r : Reader}
    (follows : Follows basic m before cs s r) :
    ∃ ds t, (pass m basic s cs).output = s.output ++ ds ∧ Writes r ds t ∧
      Follows basic m (before ++ cs) [] (pass m basic s cs) t := by
  induction cs generalizing before s r with
  | nil => exact ⟨[], r, by simp [Punycode.pass], .nil r, by simpa [Punycode.pass] using follows⟩
  | cons c cs ih =>
    rw [List.append_cons, Punycode.pass]
    split_ifs with smaller same
    · exact ih (follows.step smaller)
    · subst same
      obtain ⟨t, writes, next⟩ := follows.write
      obtain ⟨ds, u, output, more, last⟩ := ih next
      exact ⟨_, u, by rw [output, List.append_assoc], writes.append more, last⟩
    · exact ih (follows.skip (by omega))

/-- Between two passes: everything below a code point is written. -/
theorem Follows.next {basic m : Nat} {s : State} {r : Reader}
    (follows : Follows basic m label [] s r) :
    Follows basic (m + 1) [] label { s with delta := s.delta + 1 } r where
  bias := follows.bias
  label := by
    rw [follows.label, List.filter_nil, List.append_nil, List.filter_nil, List.nil_append]
    apply List.filter_congr
    intro c _
    rw [decide_eq_decide]
    omega
  handled := follows.handled
  enough := follows.enough
  first := follows.first
  below := follows.below.trans (Nat.le_succ m)
  distance := by
    have distance := follows.distance
    have all : (label.filter (·.toNat ≤ m)).length = s.handled := by
      rw [follows.handled, follows.label]
      simp
    rw [all] at distance
    simp
    linarith

/-- No code point between two that follow each other in a label has to be written. -/
theorem Follows.raise {basic n m : Nat} {s : State} {r : Reader} (up : n ≤ m)
    (none : ∀ c ∈ label, n ≤ c.toNat → m ≤ c.toNat) (follows : Follows basic n [] label s r) :
    Follows basic m [] label { s with delta := s.delta + (m - n) * (s.handled + 1) } r where
  bias := follows.bias
  label := by
    rw [follows.label]
    simp only [List.filter_nil, List.nil_append]
    apply List.filter_congr
    intro c member
    have rises := none c member
    simp only [decide_eq_decide]
    omega
  handled := follows.handled
  enough := follows.enough
  first := follows.first
  below := follows.below.trans up
  distance := by
    have distance := follows.distance
    have split : m * (s.handled + 1) = n * (s.handled + 1) + (m - n) * (s.handled + 1) := by
      rw [← Nat.add_mul, Nat.add_sub_cancel' up]
    simp at distance ⊢
    omega

/-- After a pass fewer characters are ahead, namely not those that it wrote. -/
theorem length_ahead_lt {n : Nat} {c : Char} (present : c ∈ label) (up : n ≤ c.toNat) :
    (label.filter (c.toNat + 1 ≤ ·.toNat)).length < (label.filter (n ≤ ·.toNat)).length := by
  have part : label.filter (c.toNat + 1 ≤ ·.toNat) =
      (label.filter (n ≤ ·.toNat)).filter (c.toNat + 1 ≤ ·.toNat) := by
    rw [List.filter_filter]
    apply List.filter_congr
    intro d _
    rw [← Bool.decide_and, decide_eq_decide]
    omega
  rw [part, List.length_filter_lt_length_iff_exists]
  exact ⟨c, List.mem_filter.mpr ⟨present, by simpa using up⟩, by simp⟩

theorem Follows.encodeFrom {basic n fuel : Nat} {s : State} {r : Reader}
    (follows : Follows basic n [] label s r)
    (enough : (label.filter (n ≤ ·.toNat)).length < fuel) :
    ∃ ds t, encodeFrom label basic fuel n s = s.output ++ ds ∧ Writes r ds t ∧ t.label = label := by
  induction fuel generalizing n s r with
  | zero => omega
  | succ fuel ih =>
    rw [Punycode.encodeFrom]
    cases least : ((label.map Char.toNat).filter (n ≤ ·)).min? with
    | none =>
      have written : ∀ c ∈ label, c.toNat < n := by
        rw [List.min?_eq_none_iff, List.filter_eq_nil_iff, List.forall_mem_map] at least
        simpa using least
      have all : label.filter (·.toNat < n) = label := by simpa using written
      exact ⟨[], r, by simp, .nil r, by simp [follows.label, all]⟩
    | some m =>
      rw [List.min?_eq_some_iff] at least
      obtain ⟨member, least⟩ := least
      rw [List.mem_filter, List.mem_map, decide_eq_true_iff] at member
      obtain ⟨⟨c, present, rfl⟩, up⟩ := member
      have none : ∀ d ∈ label, n ≤ d.toNat → c.toNat ≤ d.toNat := by
        intro d member above
        exact least _ (List.mem_filter.mpr ⟨List.mem_map_of_mem member, by simpa using above⟩)
      obtain ⟨ds, t, output, writes, passed⟩ := (follows.raise up none).pass
      have fewer := length_ahead_lt present up
      obtain ⟨es, u, rest, more, whole⟩ := ih passed.next (by omega)
      refine ⟨ds ++ es, u, rest.trans ?_, writes.append more, whole⟩
      simp only [output, List.append_assoc]

/-! ## Labels -/

/-- The characters of a label that are written as they are, and the delimiter after them. -/
def literal (label : List Char) : List Char :=
  let ascii := label.filter (·.toNat < 0x80)
  if ascii = [] then [] else ascii ++ ['-']

theorem exists_encode_eq (label : List Char) : ∃ ds t, encode label = literal label ++ ds ∧
    Writes ⟨72, 0x80, 0, label.filter (·.toNat < 0x80)⟩ ds t ∧ t.label = label := by
  have follows : Follows (label.filter (·.toNat < 0x80)).length 0x80 [] label
      ⟨0, 72, (label.filter (·.toNat < 0x80)).length, literal label⟩
      ⟨72, 0x80, 0, label.filter (·.toNat < 0x80)⟩ :=
    ⟨rfl, rfl, rfl, Nat.le_refl _, by simp, Nat.le_refl _, by simp⟩
  have enough : (label.filter (0x80 ≤ ·.toNat)).length < label.length + 1 :=
    Nat.lt_succ_of_le (List.length_filter_le ..)
  exact follows.encodeFrom enough

theorem decode?_digits (noDelimiter : ∀ c ∈ ds, (c != '-') = true) :
    decode? ds = decodeFrom? 72 0x80 0 [] ds.length ds := by
  have after : ds.reverse.takeWhile (· != '-') = ds.reverse :=
    List.takeWhile_eq_self_iff.mpr (by simpa using noDelimiter)
  have front : ds.reverse.drop (ds.reverse.length + 1) = [] := List.drop_eq_nil_of_le (by omega)
  rw [decode?, after, front]
  simp

theorem decode?_literal {ascii : List Char} (noDelimiter : ∀ c ∈ ds, (c != '-') = true) :
    decode? (ascii ++ ['-'] ++ ds) = decodeFrom? 72 0x80 0 ascii ds.length ds := by
  have parts : (ascii ++ ['-'] ++ ds).reverse = ds.reverse ++ '-' :: ascii.reverse := by simp
  have after : (ascii ++ ['-'] ++ ds).reverse.takeWhile (· != '-') = ds.reverse := by
    rw [parts, List.takeWhile_append_of_pos (by simpa using noDelimiter)]
    simp
  have front : (ascii ++ ['-'] ++ ds).reverse.drop (ds.reverse.length + 1) = ascii.reverse := by
    rw [parts, List.drop_append]
    simp
  rw [decode?, after, front]
  simp

theorem decode?_encode (label : List Char) : decode? (encode label) = some label := by
  obtain ⟨ds, t, written, writes, whole⟩ := exists_encode_eq label
  have noDelimiter : ∀ c ∈ ds, (c != '-') = true := by
    intro c member
    obtain ⟨d, small, rfl⟩ := writes.digits c member
    have all : ∀ d : Fin 36, (digit d != '-') = true := by decide
    exact all ⟨d, small⟩
  have split : decode? (encode label) =
      decodeFrom? 72 0x80 0 (label.filter (·.toNat < 0x80)) ds.length ds := by
    rw [written, literal]
    split
    · next none => rw [none, List.nil_append, decode?_digits noDelimiter]
    · exact decode?_literal noDelimiter
  obtain ⟨left, -, run⟩ := writes.reads [] ds.length (by simp)
  have ends : t.run left [] = some label := by cases left <;> simp [Reader.run, decodeFrom?, whole]
  rw [ends, List.append_nil] at run
  rw [split]
  exact run

end BeanMeter.Punycode
