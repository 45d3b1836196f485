import BeanMeter.Net.DomainName
import BeanMeter.Net.IpAddress
import BeanMeter.Text.Utf8

/-! # HTTP URLs

The parts of an `http` or `https` URL in their normal form: the host in lower case and with
addresses spelled out, the port, and the path with dot segments removed and characters outside a
safe set percent-encoded.

* `UrlFault` — why a text is no such URL.
* `UrlHost.parse` — domains and addresses, in all the notations in which they may be written.
* `UrlPath.normalize` — the normal form of a path.
* `Url.parse` — a URL without its scheme.
* `UrlReader` — whatever reads URLs for the program.
* `Url.reader` — the reader that the program is run with.
-/

namespace BeanMeter

/-- Why a text is no URL. -/
inductive UrlFault where
  | invalidPort
  | emptyHost
  | invalidIpv6
  | invalidIpv4
  | invalidDomain
  deriving DecidableEq, Repr

/-- The wording of a fault. -/
def UrlFault.message : UrlFault → String
  | .invalidPort => "invalid port number"
  | .emptyHost => "empty host"
  | .invalidIpv6 => "invalid IPv6 address"
  | .invalidIpv4 => "invalid IPv4 address"
  | .invalidDomain => "invalid international domain name"

/-! ## Percent encoding -/

/-- A byte as a percent sign and two hexadecimal digits in upper case. -/
def percentByte (b : UInt8) : List Char :=
  '%' :: (hexDigits 2 b.toNat).map Char.toUpper

/-- The bytes of a text in which a percent sign and two hexadecimal digits stand for a byte. -/
def percentDecode : List Char → List UInt8
  | '%' :: a :: b :: rest =>
    match hexValue? a, hexValue? b with
    | some h, some l => (16 * h + l).toUInt8 :: percentDecode rest
    | _, _ => Text.Utf8.encodeChar '%' ++ percentDecode (a :: b :: rest)
  | c :: rest => Text.Utf8.encodeChar c ++ percentDecode rest
  | [] => []

/-! ## Hosts -/

namespace UrlHost

/-- What a part of an address of version 4 says: a number, a number beyond 32 bits, or nothing. -/
inductive Part where
  | number (n : Nat)
  | tooLarge
  | none

/-- A number that must be digits of a radix; without digits it is zero. -/
def partInRadix (radix : Nat) (isDigit : Char → Bool) (cs : List Char) : Part :=
  if cs.all isDigit then
    let n := cs.foldl (fun n c => radix * n + (hexValue? c).getD 0) 0
    if n < 0x100000000 then .number n else .tooLarge
  else .none

/-- Reads a part: hexadecimal after `0x`, octal after another leading zero, otherwise decimal. -/
def readPart : List Char → Part
  | [] => .none
  | ['0'] => .number 0
  | '0' :: c :: cs =>
    if c = 'x' ∨ c = 'X' then partInRadix 16 (fun c => (hexValue? c).isSome) cs
    else partInRadix 8 (fun c => '0' ≤ c && c ≤ '7') (c :: cs)
  | cs => partInRadix 10 isDigit cs

/-- The parts of a domain without the empty one after a final dot. -/
def numberParts (domain : List Char) : List (List Char) :=
  let parts := Text.splitOn '.' domain
  if parts.getLast? = some [] then parts.dropLast else parts

/-- Whether a domain can only be an address of version 4: its last part is a number. -/
def endsInNumber (domain : List Char) : Bool :=
  match (numberParts domain).getLast? with
  | none => false
  | some last =>
    (last ≠ [] && last.all isDigit) ||
      match readPart last with
      | .none => false
      | _ => true

/-- The address that a list of parts writes: each part but the last is an octet, and the last one
fills the remaining octets. -/
def readIpv4Parts (parts : List (List Char)) : Except UrlFault (List Nat) := do
  if 4 < parts.length then throw .invalidIpv4
  let numbers ← parts.mapM fun p =>
    match readPart p with
    | .number n => Except.ok n
    | _ => Except.error UrlFault.invalidIpv4
  match numbers.reverse with
  | [] => throw .invalidIpv4
  | last :: before =>
    if Nat.pow 256 (4 - before.length) ≤ last ∨ before.any (255 < ·) then throw .invalidIpv4
    else
      let tail := [last / 0x1000000 % 256, last / 0x10000 % 256, last / 0x100 % 256, last % 256]
      return before.reverse ++ tail.drop before.length

/-- The four decimal octets at the end of an address of version 6. Octets have no leading zero. -/
def readDottedTail? (cs : List Char) : Option (List Nat) :=
  match readIpv4? cs with
  | some ([a, b, c, d], []) => some [a * 256 + b, c * 256 + d]
  | _ => none

/-- Reads the groups of an address of version 6. `head` are the groups before a gap in reverse
order, `tail` those after it, if there was one. A gap counts as one group. -/
def readGroupsFrom? (head : List Nat) (tail : Option (List Nat)) (cs : List Char) :
    Option (List Nat × Option (List Nat)) :=
  let push (g : List Nat) : List Nat × Option (List Nat) :=
    match tail with
    | none => (g ++ head, none)
    | some t => (head, some (g ++ t))
  let count := head.length + match tail with | none => 0 | some t => t.length + 1
  match cs with
  | [] => some (head, tail)
  | c :: rest =>
    if 8 ≤ count then none
    else if c = ':' then
      match tail with
      | some _ => none
      | none => readGroupsFrom? head (some []) rest
    else
      -- A longer run of digits leaves one behind, which then fits no case.
      let ds := ((c :: rest).takeWhile fun c => (hexValue? c).isSome).take 4
      let value := (readHexDigits? ds).getD 0
      match _h : (c :: rest).drop ds.length with
      | [] =>
        let (head, tail) := push [value]
        some (head, tail)
      | '.' :: _ =>
        -- The digits belong to a dotted address, which takes the place of two groups.
        if ds = [] ∨ 6 < count then none
        else
          (readDottedTail? (c :: rest)).map fun gs => push gs.reverse
      | ':' :: [] => none
      | ':' :: more =>
        let (head, tail) := push [value]
        readGroupsFrom? head tail more
      | _ => none
  termination_by cs.length
  decreasing_by
    · simp
    · have hl := congrArg List.length _h
      simp only [List.length_drop, List.length_cons] at hl ⊢
      omega

/-- The eight groups of an address of version 6, written without its brackets. -/
def readIpv6Groups? (cs : List Char) : Option (List Nat) :=
  let start : Option (List Nat × Option (List Nat)) :=
    match cs with
    | ':' :: ':' :: rest => readGroupsFrom? [] (some []) rest
    | ':' :: _ => none
    | cs => if cs.length < 2 then none else readGroupsFrom? [] none cs
  match start with
  | none => none
  | some (head, none) => if head.length = 8 then some head.reverse else none
  | some (head, some tail) =>
    some (head.reverse ++ List.replicate (8 - head.length - tail.length) 0 ++ tail.reverse)

/-- The normal form of a host. -/
def parse (host : List Char) : Except UrlFault String :=
  match host with
  | [] => .error .emptyHost
  | '[' :: rest =>
    if rest.getLast? = some ']' then
      match readIpv6Groups? rest.dropLast with
      | some groups => .ok ("[" ++ ipv6Text groups ++ "]")
      | none => .error .invalidIpv6
    else .error .invalidIpv6
  | host =>
    -- Escapes are undone before the domain is looked at, so that they can hide nothing.
    match (Text.Utf8.decodeStrict? (percentDecode host)).bind
        (fun s => DomainName.toAscii? s.toList) with
    | none => .error .invalidDomain
    | some [] => .error .emptyHost
    | some domain =>
      if endsInNumber domain then (readIpv4Parts (numberParts domain)).map ipv4Text
      else .ok (String.ofList domain)

end UrlHost

/-! ## Paths -/

namespace UrlPath

/-- Whether a character separates path segments. -/
def isSlash (c : Char) : Bool := c == '/' || c == '\\'

/-- Whether an ASCII character is percent-encoded in a path. -/
def isEncoded (c : Char) : Bool :=
  c.toNat ≤ 0x20 || 0x7f ≤ c.toNat ||
    ['"', '#', '<', '>', '?', '\x60', '\x7b', '\x7d'].contains c

/-- A path segment with unsafe characters percent-encoded. -/
def encodeSegment (cs : List Char) : List Char :=
  cs.flatMap fun c => if isEncoded c then (Text.Utf8.encodeChar c).flatMap percentByte else [c]

/-- A segment with its encoded dots decoded, for recognizing dot segments. -/
def plainDots : List Char → List Char
  | '%' :: '2' :: 'e' :: rest => '.' :: plainDots rest
  | '%' :: '2' :: 'E' :: rest => '.' :: plainDots rest
  | c :: rest => c :: plainDots rest
  | [] => []

/-- Whether a segment looks like the letter of a drive, which `..` does not remove. -/
def isDriveLetter : List Char → Bool
  | [a, b] => a.isAlpha && (b == ':' || b == '|')
  | _ => false

/-- Leaves the innermost directory, unless there is none or it is a drive letter. -/
def leave : List (List Char) → List (List Char)
  | [] => []
  | d :: ds => if isDriveLetter d then d :: ds else ds

/-- Enters a directory; `.` stays where it is and `..` leaves. Directories are in reverse order. -/
def enter (dirs : List (List Char)) (segment : List Char) : List (List Char) :=
  match plainDots segment with
  | ['.'] => dirs
  | ['.', '.'] => leave dirs
  | _ => segment :: dirs

/-- The segments of a path: what stands between slashes of either kind. -/
def segments : List Char → List (List Char)
  | [] => [[]]
  | c :: rest =>
    if isSlash c then [] :: segments rest
    else
      match segments rest with
      | [] => [[c]]
      | s :: ss => (c :: s) :: ss

/-- The normal form of a path, given what follows its first slash. -/
def normalize (cs : List Char) : List Char :=
  let ss := (segments cs).map encodeSegment
  -- The last segment is a file, unless it is a dot segment.
  let last := ss.getLast?.getD []
  let dirs := ss.dropLast.foldl enter []
  let (dirs, last) :=
    match plainDots last with
    | ['.'] => (dirs, [])
    | ['.', '.'] => (leave dirs, [])
    | _ => (dirs, last)
  dirs.reverse.flatMap (fun d => '/' :: d) ++ '/' :: last

end UrlPath

/-! ## URLs -/

/-- The parts of a URL in their normal form. -/
structure Url where
  host : String
  /-- The port, if one is written. -/
  port : Option Nat
  /-- The path, which begins with a slash. -/
  path : List Char
  deriving DecidableEq, Repr

namespace Url

/-- Whether a character ends the authority of a URL. -/
def endsAuthority (c : Char) : Bool := UrlPath.isSlash c || c == '?' || c == '#'

/-- The host and port of an authority: what follows its last `@`. -/
def dropUserInfo (authority : List Char) : List Char :=
  (authority.reverse.takeWhile (· != '@')).reverse

/-- The host at the beginning of an authority: up to a colon outside brackets. -/
def splitHost (bracketed : Bool) : List Char → List Char × List Char
  | [] => ([], [])
  | c :: rest =>
    if c = ':' ∧ bracketed = false then ([], c :: rest)
    else
      let bracketed := if c = '[' then true else if c = ']' then false else bracketed
      let (host, tail) := splitHost bracketed rest
      (c :: host, tail)

/-- The port after a host: nothing, or a colon and decimal digits below 65536, which may be
missing. -/
def readPort : List Char → Except UrlFault (Option Nat)
  | [] | [':'] => .ok none
  | ':' :: ds =>
    if ds.all isDigit ∧ ofDigits ds < 65536 then .ok (some (ofDigits ds)) else .error .invalidPort
  | _ => .error .invalidPort

/-- Parses what follows the scheme of a URL. Tabs and line ends are ignored everywhere, control
characters and blanks at the end, and any number of slashes may precede the authority. -/
def parse (afterScheme : List Char) : Except UrlFault Url := do
  let cs := (afterScheme.reverse.dropWhile fun c => c.toNat ≤ 0x20).reverse
  let cs := cs.filter fun c => c != '\t' && c != '\n' && c != '\r'
  let cs := cs.dropWhile UrlPath.isSlash
  let authority := cs.takeWhile fun c => !endsAuthority c
  let rest := (cs.dropWhile fun c => !endsAuthority c).takeWhile fun c => c != '?' && c != '#'
  let (host, port) := splitHost false (dropUserInfo authority)
  let host ← UrlHost.parse host
  let port ← readPort port
  let path := if rest.head?.any UrlPath.isSlash then rest.tail else rest
  return ⟨host, port, UrlPath.normalize path⟩

end Url

/-! ## Readers -/

/-- What the program looks at in a URL. -/
structure UrlView where
  host : Option String
  /-- The port that is written, or else the one that is known for the scheme. -/
  port : Option Nat
  path : List Char
  deriving DecidableEq, Repr

/-- A reader of URLs, given whether their scheme is that of the encrypted transport and what follows
it: their parts, or what is wrong with them in the words of the reader. -/
def UrlReader := Bool → List Char → Except String UrlView

namespace Url

/-- The port that is known for a scheme. -/
def knownPort (tls : Bool) : Nat := if tls then 443 else 80

/-- A URL as the program looks at it. -/
def view (tls : Bool) (url : Url) : UrlView :=
  ⟨some url.host, some (url.port.getD (knownPort tls)), url.path⟩

/-- The reader that the program is run with. -/
def reader : UrlReader := fun tls afterScheme =>
  ((parse afterScheme).mapError UrlFault.message).map (view tls)

end Url

end BeanMeter
