import BeanMeter.Json.Value
import BeanMeter.Number.Notation
import BeanMeter.Number.Reading
import BeanMeter.Text.Blank
import BeanMeter.Text.Split

/-! # Attribute values

What an attribute of a management object can hold, and the views that measurements take of it.

* `AttributeValue.ofJson` — the attribute value that a JSON value denotes.
* `number?`, `label?` — the numeric and the textual view of a scalar.
* `isFault` — the placeholder that stands for an attribute the agent could not read.
* `item?` — an item of a composite value or an element of an array.
-/

namespace BeanMeter

/-- The value of an attribute of a management object. -/
inductive AttributeValue where
  | null
  | flag (b : Bool)
  /-- A whole number of 64 bits with sign. -/
  | integer (n : Int)
  | real (x : Binary64)
  | text (s : String)
  | array (elements : List AttributeValue)
  /-- A composite value with its items in ascending order of their names. -/
  | composite (items : List (String × AttributeValue))
  deriving Repr, Inhabited

namespace AttributeValue

mutual

/-- The attribute value that a JSON value denotes. Whole numbers beyond 64 bits with sign become
doubles. -/
def ofJson : Json → AttributeValue
  | .null => .null
  | .bool b => .flag b
  | .int n => if n < 0x8000000000000000 then .integer n else .real (.ofInt n)
  | .real x => .real x
  | .str s => .text s
  | .arr vs => .array (ofJsonItems vs)
  | .obj fs => .composite (ofJsonFields fs)

/-- The attribute values of a list of JSON values. -/
def ofJsonItems : List Json → List AttributeValue
  | [] => []
  | v :: vs => ofJson v :: ofJsonItems vs

/-- The attribute values of the entries of an object. -/
def ofJsonFields : List (String × Json) → List (String × AttributeValue)
  | [] => []
  | (k, v) :: fs => (k, ofJson v) :: ofJsonFields fs

end

/-- The beginning of the placeholder for an unreadable attribute. -/
def faultMark : String := "ERROR: "

/-- Whether the value is the placeholder for an attribute that the agent could not read. -/
def isFault : AttributeValue → Bool
  | .text s => (Text.stripStart? faultMark.toList s.toList).isSome
  | _ => false

/-- The number that a scalar holds. A text holds one if it reads as one without the blanks around
it; a flag counts as one or zero. -/
def number? : AttributeValue → Option Binary64
  | .integer n => some (.ofInt n)
  | .real x => some x
  | .text s => readBinary64? (Text.trimChars s.toList)
  | .flag b => some (if b then .one else .zero)
  | _ => none

/-- The text of a scalar for use in a label; a fault placeholder has none. -/
def label? : AttributeValue → Option String
  | .text s => if (AttributeValue.text s).isFault then none else some s
  | .integer n => some (integerText n)
  | .real x => some x.positional
  | .flag b => some (if b then "true" else "false")
  | _ => none

/-- The index that a key denotes, if it is a number that can index an array. -/
def index? (key : String) : Option Nat := (readNatural? key.toList).filter (· < 0x10000000000000000)

/-- The item of a composite value under a name, or the element of an array at an index. -/
def item? (key : String) : AttributeValue → Option AttributeValue
  | .composite items => (items.find? fun i => i.1 == key).map (·.2)
  | .array elements => (index? key).bind fun i => elements[i]?
  | _ => none

end AttributeValue

end BeanMeter
