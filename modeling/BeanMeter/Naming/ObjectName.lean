import BeanMeter.Collection.SortedMap
import BeanMeter.Text.Blank
import BeanMeter.Text.Split

/-! # Object names

The names of management objects: a domain and a set of key properties.

* `splitProperties` — the parts of a property list; commas in quotes do not separate.
* `ObjectName.parse?` — reads a name.
-/

namespace BeanMeter

/-- The name of one management object. -/
structure ObjectName where
  domain : String
  properties : SortedMap String String
  deriving DecidableEq, Repr

/-- What a reader of a property list is in the middle of. -/
inductive QuoteMode where
  | outside
  | inside
  /-- After a backslash inside quotes. -/
  | escaped
  deriving DecidableEq, Repr

/-- The mode after a character. -/
def QuoteMode.next (c : Char) : QuoteMode → QuoteMode
  | .outside => if c = '"' then .inside else .outside
  | .inside => if c = '\\' then .escaped else if c = '"' then .outside else .inside
  | .escaped => .inside

/-- The parts of a property list between the commas outside quotes. -/
def splitUnquoted (mode : QuoteMode) : List Char → List (List Char)
  | [] => [[]]
  | c :: rest =>
    if mode = .outside ∧ c = ',' then [] :: splitUnquoted .outside rest
    else
      match splitUnquoted (mode.next c) rest with
      | [] => [[c]]
      | part :: parts => (c :: part) :: parts

/-- The parts of a property list that are not blank. -/
def splitProperties (cs : List Char) : List (List Char) :=
  (splitUnquoted .outside cs).filter fun part => !part.all Text.isBlank

namespace ObjectName

/-- The key and the value of one property. Blanks around the key do not count, those around the
value do. -/
def readProperty? (part : List Char) : Option (String × String) :=
  (Text.splitFirst? '=' part).map fun (key, value) =>
    (String.ofList (Text.trimChars key), String.ofList value)

/-- Reads a name: a domain, a colon and a list of properties. Of two properties with one key the
later counts. -/
def parse? (name : String) : Option ObjectName :=
  (Text.splitFirst? ':' name.toList).bind fun (domain, list) =>
    ((splitProperties list).mapM readProperty?).map fun properties =>
      ⟨String.ofList domain, SortedMap.ofList properties⟩

/-- The value of a key property. -/
def property? (n : ObjectName) (key : String) : Option String := n.properties.get? key

end ObjectName

end BeanMeter
