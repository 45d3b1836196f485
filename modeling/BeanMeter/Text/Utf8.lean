/-! # UTF-8

Reading byte sequences as text. Malformed input is cut into maximal ill-formed pieces, each of
which a lenient reader replaces by one replacement character and a strict reader refuses.

* `decodePieces` — every code point or ill-formed piece of a byte sequence, in order.
* `decodeStrict?` — the text of a well-formed byte sequence.
* `decodeLossy` — the text of any byte sequence.
* `encodeChar` — the bytes of one character.
-/

namespace BeanMeter.Text.Utf8

/-- Whether a byte continues a sequence that an earlier byte began. -/
def isContinuation (b : UInt8) : Bool := 0x80 ≤ b && b ≤ 0xbf

/-- Whether `b` may follow the lead byte `lead`: the second byte rules out overlong forms,
surrogates and code points beyond the last plane. -/
def isSecond (lead b : UInt8) : Bool :=
  if lead = 0xe0 then 0xa0 ≤ b && b ≤ 0xbf
  else if lead = 0xed then 0x80 ≤ b && b ≤ 0x9f
  else if lead = 0xf0 then 0x90 ≤ b && b ≤ 0xbf
  else if lead = 0xf4 then 0x80 ≤ b && b ≤ 0x8f
  else isContinuation b

/-- The number of bytes that a lead byte announces; 0 if it cannot begin a sequence. -/
def sequenceLength (lead : UInt8) : Nat :=
  if lead < 0x80 then 1
  else if 0xc2 ≤ lead && lead ≤ 0xdf then 2
  else if 0xe0 ≤ lead && lead ≤ 0xef then 3
  else if 0xf0 ≤ lead && lead ≤ 0xf4 then 4
  else 0

/-- The code point with the given high part and one more continuation byte. -/
def extend (high : Nat) (b : UInt8) : Nat := high * 64 + (b.toNat - 0x80)

/-- The code points of a byte sequence in order; `none` stands for a maximal ill-formed piece. -/
def decodePieces (bytes : List UInt8) : List (Option Char) :=
  match bytes with
  | [] => []
  | a :: rest =>
    match sequenceLength a, rest with
    | 1, rest => some (Char.ofNat a.toNat) :: decodePieces rest
    | 2, b :: rest =>
      if isContinuation b then
        some (Char.ofNat (extend (a.toNat - 0xc0) b)) :: decodePieces rest
      else none :: decodePieces (b :: rest)
    | 3, b :: rest =>
      if isSecond a b then
        match rest with
        | c :: rest =>
          if isContinuation c then
            some (Char.ofNat (extend (extend (a.toNat - 0xe0) b) c)) :: decodePieces rest
          else none :: decodePieces (c :: rest)
        | [] => [none]
      else none :: decodePieces (b :: rest)
    | 4, b :: rest =>
      if isSecond a b then
        match rest with
        | c :: rest =>
          if isContinuation c then
            match rest with
            | d :: rest =>
              if isContinuation d then
                some (Char.ofNat (extend (extend (extend (a.toNat - 0xf0) b) c) d)) ::
                  decodePieces rest
              else none :: decodePieces (d :: rest)
            | [] => [none]
          else none :: decodePieces (c :: rest)
        | [] => [none]
      else none :: decodePieces (b :: rest)
    | _, rest => none :: decodePieces rest
  termination_by bytes.length

/-- The text of a byte sequence, if all of it is well-formed. -/
def decodeStrict? (bytes : List UInt8) : Option String :=
  ((decodePieces bytes).mapM id).map String.ofList

/-- The text of a byte sequence with a replacement character for each ill-formed piece. -/
def decodeLossy (bytes : List UInt8) : String :=
  String.ofList ((decodePieces bytes).map (·.getD (Char.ofNat 0xfffd)))

/-- The bytes of one character. -/
def encodeChar (c : Char) : List UInt8 :=
  let n := c.toNat
  if n < 0x80 then [n.toUInt8]
  else if n < 0x800 then [(0xc0 + n / 64).toUInt8, (0x80 + n % 64).toUInt8]
  else if n < 0x10000 then
    [(0xe0 + n / 4096).toUInt8, (0x80 + n / 64 % 64).toUInt8, (0x80 + n % 64).toUInt8]
  else
    [(0xf0 + n / 262144).toUInt8, (0x80 + n / 4096 % 64).toUInt8, (0x80 + n / 64 % 64).toUInt8,
      (0x80 + n % 64).toUInt8]

/-- The bytes of a text. -/
def encode (s : String) : List UInt8 := s.toList.flatMap encodeChar

end BeanMeter.Text.Utf8
