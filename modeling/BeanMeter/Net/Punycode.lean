/-! # Punycode

The encoding of a label of a domain name in ASCII characters: the ASCII characters first, then a
hyphen, then the positions and code points of the others as generalized variable-length integers.

* `Punycode.encode` — the ASCII form of a label.
* `Punycode.decode?` — the label of an ASCII form.
-/

namespace BeanMeter.Punycode

/-- The digit for a value below 36: letters, then decimal digits. -/
def digit (d : Nat) : Char :=
  if d < 26 then Char.ofNat ('a'.toNat + d) else Char.ofNat ('0'.toNat + (d - 26))

/-- The value of a digit of either case. -/
def digitValue? (c : Char) : Option Nat :=
  if 'a' ≤ c && c ≤ 'z' then some (c.toNat - 'a'.toNat)
  else if 'A' ≤ c && c ≤ 'Z' then some (c.toNat - 'A'.toNat)
  else if '0' ≤ c && c ≤ '9' then some (c.toNat - '0'.toNat + 26)
  else none

/-- Scales a difference down until it is small, counting the steps. -/
def scaleDown (steps delta : Nat) : Nat :=
  if 455 < delta then scaleDown (steps + 36) (delta / 35) else steps + 36 * delta / (delta + 38)
  termination_by delta
  decreasing_by omega

/-- The next bias after a difference has been written before `count` characters. -/
def adapt (delta count : Nat) (first : Bool) : Nat :=
  let delta := if first then delta / 700 else delta / 2
  scaleDown 0 (delta + delta / count)

/-- The threshold of the digit with index `k`, counted in steps of 36. -/
def threshold (k bias : Nat) : Nat := if k ≤ bias then 1 else if bias + 26 ≤ k then 26 else k - bias

/-- The digits of a variable-length integer from index `k` on. -/
def integerDigits (bias k q : Nat) : List Char :=
  if q < threshold k bias ∨ threshold k bias = 0 then [digit q]
  else
    digit (threshold k bias + (q - threshold k bias) % (36 - threshold k bias)) ::
      integerDigits bias (k + 36) ((q - threshold k bias) / (36 - threshold k bias))
  termination_by q
  decreasing_by
    have := Nat.div_le_self (q - threshold k bias) (36 - threshold k bias)
    omega

/-- The state of the encoder between two characters. -/
structure State where
  delta : Nat
  bias : Nat
  /-- How many characters are written. -/
  handled : Nat
  output : List Char

/-- Goes once over a label, writing every occurrence of the code point `n`. `basic` is the number
of ASCII characters. -/
def pass (n basic : Nat) (s : State) : List Char → State
  | [] => s
  | c :: cs =>
    if c.toNat < n then pass n basic { s with delta := s.delta + 1 } cs
    else if c.toNat = n then
      pass n basic
        ⟨0, adapt s.delta (s.handled + 1) (s.handled == basic), s.handled + 1,
          s.output ++ integerDigits s.bias 36 s.delta⟩ cs
    else pass n basic s cs

/-- Writes the characters beyond `n`, in ascending order of code points. -/
def encodeFrom (label : List Char) (basic : Nat) : Nat → Nat → State → List Char
  | 0, _, s => s.output
  | fuel + 1, n, s =>
    -- The next code point to write is the least one that is not written yet.
    match ((label.map Char.toNat).filter (n ≤ ·)).min? with
    | none => s.output
    | some m =>
      let s := pass m basic { s with delta := s.delta + (m - n) * (s.handled + 1) } label
      encodeFrom label basic fuel (m + 1) { s with delta := s.delta + 1 }

/-- The ASCII form of a label. -/
def encode (label : List Char) : List Char :=
  let ascii := label.filter fun c => c.toNat < 0x80
  encodeFrom label ascii.length (label.length + 1) 0x80
    ⟨0, 72, ascii.length, if ascii = [] then [] else ascii ++ ['-']⟩

/-- Reads a variable-length integer: its value added to `i`, and the rest. -/
def readInteger? (bias : Nat) (k weight i : Nat) : List Char → Option (Nat × List Char)
  | [] => none
  | c :: cs => do
    let d ← digitValue? c
    let i := i + d * weight
    let t := threshold k bias
    if d < t then return (i, cs) else readInteger? bias (k + 36) (weight * (36 - t)) i cs

/-- Reads characters into a label until the digits are used up. -/
def decodeFrom? (bias n i : Nat) (label : List Char) : Nat → List Char → Option (List Char)
  | _, [] => some label
  | 0, _ => none
  | fuel + 1, digits => do
    let (j, rest) ← readInteger? bias 36 1 i digits
    let count := label.length + 1
    let n := n + j / count
    if 0x10ffff < n ∨ (0xd800 ≤ n ∧ n ≤ 0xdfff) then none
    else
      let position := j % count
      decodeFrom? (adapt (j - i) count (i == 0)) n (position + 1)
        (label.take position ++ Char.ofNat n :: label.drop position) fuel rest

/-- The label of an ASCII form. -/
def decode? (ascii : List Char) : Option (List Char) :=
  let after := ascii.reverse.takeWhile (· != '-')
  let literal := (ascii.reverse.drop (after.length + 1)).reverse
  decodeFrom? 72 0x80 0 literal after.length after.reverse

end BeanMeter.Punycode
