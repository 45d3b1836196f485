import BeanMeter.Naming.Glob
import BeanMeter.Naming.ObjectName

/-! # Object name patterns

Patterns for the names of management objects: globs for the domain and for the values of key
properties, and possibly a wildcard that admits further properties.

* `NamePattern.compile` — reads a pattern.
* `NamePattern.accepts` — whether a pattern stands for an object.
-/

namespace BeanMeter

/-- Why a text is no pattern. -/
inductive PatternFault where
  | missingColon
  | notKeyValue (part : String)
  | emptyKey (part : String)
  | noProperties
  deriving DecidableEq, Repr

/-- The wording of a fault. -/
def PatternFault.message : PatternFault → String
  | .missingColon => "missing ':' between domain and key properties"
  | .notKeyValue part => "key property '" ++ part ++ "' is not key=value"
  | .emptyKey part => "empty key in '" ++ part ++ "'"
  | .noProperties => "no key properties"

/-- A pattern for object names. -/
structure NamePattern where
  /-- The text of the pattern. -/
  source : String
  /-- The glob for the domain. -/
  domain : List Char
  /-- The globs for the values of key properties, in the order written. -/
  properties : List (String × List Char)
  /-- Whether an object may have further properties. -/
  openEnded : Bool
  deriving DecidableEq, Repr

namespace NamePattern

/-- One part of the property list of a pattern: the wildcard, or a key with a glob. -/
inductive Part where
  | wildcard
  | property (key : String) (glob : List Char)
  deriving DecidableEq, Repr

/-- Reads one part of a property list. -/
def readPart (part : List Char) : Except PatternFault Part :=
  let part := Text.trimChars part
  -- A star by itself is the wildcard; one in a value is part of a glob.
  if part = ['*'] then .ok .wildcard
  else
    match Text.splitFirst? '=' part with
    | none => .error (.notKeyValue (String.ofList part))
    | some (key, glob) =>
      match Text.trimChars key with
      | [] => .error (.emptyKey (String.ofList part))
      | key => .ok (.property (String.ofList key) glob)

/-- Reads the parts of a property list in order; the first fault is reported. -/
def readParts : List (List Char) → Except PatternFault (List Part)
  | [] => .ok []
  | part :: rest =>
    match readPart part with
    | .error fault => .error fault
    | .ok p => (readParts rest).map (p :: ·)

/-- The key and glob of a part. -/
def Part.property? : Part → Option (String × List Char)
  | .wildcard => none
  | .property key glob => some (key, glob)

/-- Reads a pattern: a glob for the domain, a colon and a list of properties that is not empty. -/
def compile (source : String) : Except PatternFault NamePattern :=
  match Text.splitFirst? ':' source.toList with
  | none => .error .missingColon
  | some (domain, list) =>
    match readParts (splitProperties list) with
    | .error fault => .error fault
    | .ok [] => .error .noProperties
    | .ok parts =>
      .ok ⟨source, domain, parts.filterMap Part.property?, parts.contains .wildcard⟩

/-- Whether a pattern stands for an object: the domain matches, every property of the pattern is
there with a value that matches, and unless the pattern is open-ended the object has as many
properties as the pattern. -/
def accepts (p : NamePattern) (n : ObjectName) : Bool :=
  Glob.accepts p.domain n.domain.toList &&
    (p.openEnded || n.properties.size == p.properties.length) &&
    p.properties.all fun (key, glob) =>
      (n.property? key).any fun value => Glob.accepts glob value.toList

end NamePattern

end BeanMeter
