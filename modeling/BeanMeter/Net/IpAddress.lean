import BeanMeter.Number.Notation
import BeanMeter.Number.Reading
import BeanMeter.Text.Split

/-! # IP addresses

* `IpAddress` — addresses of both versions.
* `ipv6Text` — eight groups with the longest run of zero groups left out.
* `IpAddress.parse?` — strict reading: four plain decimal octets, or groups with at most one `::`
  and possibly a dotted tail.
* `SocketAddress.text` — an address with a port.
-/

namespace BeanMeter

/-- An address: four octets, or eight groups of 16 bits. -/
inductive IpAddress where
  | v4 (octets : List Nat)
  | v6 (groups : List Nat)
  deriving DecidableEq, Repr

/-! ## Writing -/

/-- The dotted form of an address of four octets. -/
def ipv4Text (octets : List Nat) : String := ".".intercalate (octets.map naturalText)

/-- The hexadecimal digits of a number without leading zeros. -/
def shortHex (n : Nat) : List Char :=
  match (hexDigits 4 n).dropWhile (· == '0') with
  | [] => ['0']
  | ds => ds

/-- The length of the run of zeros at the beginning of a list. -/
def zeroRun (groups : List Nat) : Nat := (groups.takeWhile (· == 0)).length

/-- Where the longest run of zeros begins and how long it is; of several the first. `best` is the
longest one before index `i`. -/
def longestZeroRun (best : Nat × Nat) (i : Nat) : List Nat → Nat × Nat
  | [] => best
  | g :: gs =>
    let run := zeroRun (g :: gs)
    longestZeroRun (if best.2 < run then (i, run) else best) (i + 1) gs

/-- Groups separated by colons. -/
def groupsText (groups : List Nat) : List Char :=
  (":".intercalate (groups.map fun g => String.ofList (shortHex g))).toList

/-- The written form of eight groups: the longest run of two or more zero groups becomes `::`. -/
def ipv6Text (groups : List Nat) : String :=
  let (start, run) := longestZeroRun (0, 0) 0 groups
  if run < 2 then String.ofList (groupsText groups)
  else
    String.ofList (groupsText (groups.take start) ++ [':', ':'] ++
      groupsText (groups.drop (start + run)))

/-- The written form of an address. An address of version 4 inside one of version 6 is dotted. -/
def IpAddress.text : IpAddress → String
  | .v4 octets => ipv4Text octets
  | .v6 groups =>
    match groups with
    | [0, 0, 0, 0, 0, 0xffff, h, l] =>
      "::ffff:" ++ ipv4Text [h / 256, h % 256, l / 256, l % 256]
    | groups => ipv6Text groups

/-! ## Reading -/

/-- A decimal octet at the beginning of a text: up to three digits without a leading zero. -/
def readOctet? (cs : List Char) : Option (Nat × List Char) :=
  let ds := cs.takeWhile isDigit
  let n := ofDigits ds
  if ds = [] ∨ 3 < ds.length ∨ 255 < n ∨ (ds.head? = some '0' ∧ 1 < ds.length) then none
  else some (n, cs.dropWhile isDigit)

/-- The rest of a text after a given character. -/
def afterChar? (c : Char) : List Char → Option (List Char)
  | [] => none
  | d :: rest => if d = c then some rest else none

/-- Four octets separated by dots at the beginning of a text. -/
def readIpv4? (cs : List Char) : Option (List Nat × List Char) := do
  let (a, cs) ← readOctet? cs
  let (b, cs) ← readOctet? (← afterChar? '.' cs)
  let (c, cs) ← readOctet? (← afterChar? '.' cs)
  let (d, cs) ← readOctet? (← afterChar? '.' cs)
  return ([a, b, c, d], cs)

/-- A group of up to four hexadecimal digits at the beginning of a text. -/
def readGroup? (cs : List Char) : Option (Nat × List Char) :=
  let ds := cs.takeWhile fun c => (hexValue? c).isSome
  if 4 < ds.length then none
  else (readHexDigits? ds).map fun n => (n, cs.drop ds.length)

/-- As many groups as there are, at most `limit`, at the beginning of a text; the last two may be
written as a dotted address, which ends the sequence. Groups after the first have a colon in front
of them. Returns the groups, whether they ended in a dotted address, and the rest. -/
def readGroups (first : Bool) : Nat → List Char → List Nat × Bool × List Char
  | 0, cs => ([], false, cs)
  | limit + 1, cs =>
    match if first then some cs else afterChar? ':' cs with
    | none => ([], false, cs)
    | some body =>
      match if 0 < limit then readIpv4? body else none with
      | some ([a, b, c, d], rest) => ([a * 256 + b, c * 256 + d], true, rest)
      | _ =>
        match readGroup? body with
        | none => ([], false, cs)
        | some (g, rest) =>
          let (gs, dotted, rest) := readGroups false limit rest
          (g :: gs, dotted, rest)

/-- Eight groups at the beginning of a text, where `::` stands for at least one zero group. -/
def readIpv6? (cs : List Char) : Option (List Nat × List Char) :=
  match readGroups true 8 cs with
  | (head, dotted, rest) =>
    if head.length = 8 then some (head, rest)
    else if dotted then none
    else
      match rest with
      | ':' :: ':' :: rest =>
        let (tail, _, rest) := readGroups true (7 - head.length) rest
        some (head ++ List.replicate (8 - head.length - tail.length) 0 ++ tail, rest)
      | _ => none

/-- The address that a text writes. -/
def IpAddress.parse? (s : String) : Option IpAddress :=
  match readIpv4? s.toList with
  | some (octets, []) => some (.v4 octets)
  | some _ => none
  | none =>
    match readIpv6? s.toList with
    | some (groups, []) => some (.v6 groups)
    | _ => none

/-- An address with a port. -/
structure SocketAddress where
  ip : IpAddress
  port : Nat
  deriving DecidableEq, Repr

/-- The written form of an address with a port; an address of version 6 stands in brackets. -/
def SocketAddress.text (a : SocketAddress) : String :=
  match a.ip with
  | .v4 _ => a.ip.text ++ ":" ++ naturalText a.port
  | .v6 _ => "[" ++ a.ip.text ++ "]:" ++ naturalText a.port

end BeanMeter
