import BeanMeter.Text.Base64
import BeanMeter.Text.Split

/-! # Certificate files

The armour around certificates: sections between a begin and an end line, whose content is written
in base 64.

* `Pem.isReadable` — whether every section of a file is complete and its content can be decoded.
  What the content says is not looked at.
-/

namespace BeanMeter.Pem

/-- How the first line of a section begins. -/
def beginMark : List Char := "-----BEGIN ".toList

/-- The kinds of sections whose content matters. -/
def knownKinds : List String :=
  ["CERTIFICATE", "PUBLIC KEY", "RSA PRIVATE KEY", "PRIVATE KEY", "EC PRIVATE KEY", "X509 CRL",
    "CERTIFICATE REQUEST", "ECHCONFIG"]

/-- A line without blanks and line ends at its end. -/
def trimLine (line : List Char) : List Char :=
  (line.reverse.dropWhile fun c => c == ' ' || c == '\r' || c == '\t').reverse

/-- The kind of section that a line begins: what stands between the mark and five hyphens. None if
the line begins no section, an inner none if it begins one wrongly. -/
def beginning? (line : List Char) : Option (Option (List Char)) :=
  (Text.stripStart? beginMark line).map fun rest =>
    let body := trimLine rest
    let hyphens := (body.reverse.takeWhile (· == '-')).length
    if hyphens = 5 then some (body.take (body.length - 5)) else none

/-- The end line of a section of a kind. -/
def endLine (kind : List Char) : List Char := "-----END ".toList ++ kind ++ "-----".toList

/-- Goes through the lines of a file. `open_` is the kind of the section that is open and its
content so far. -/
def readLines (open_ : Option (List Char × List Char)) : List (List Char) → Bool
  | [] => open_.isNone
  | line :: rest =>
    match beginning? line with
    | some none => false
    | some (some kind) => readLines (some (kind, [])) rest
    | none =>
      match open_ with
      -- Text outside of sections is a comment.
      | none => readLines none rest
      | some (kind, content) =>
        if (Text.stripStart? (endLine kind) line).isSome then
          (!knownKinds.contains (String.ofList kind) || Text.Base64.isValid content) &&
            readLines none rest
        else readLines (some (kind, content ++ trimLine line)) rest

/-- The lines of a file, byte by byte. -/
def lines (bytes : List UInt8) : List (List Char) :=
  Text.splitOn '\n' (bytes.map fun b => Char.ofNat b.toNat)

/-- Whether every section of a file is complete and its content can be decoded. -/
def isReadable (bytes : List UInt8) : Bool := readLines none (lines bytes)

end BeanMeter.Pem
