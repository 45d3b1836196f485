import BeanMeter.Number.Binary64

/-! # JSON values

* `Json` — a decoded value; whole numbers of up to 64 bits are kept apart from all other numbers.
* `Json.field?` — the value under a key of an object.
-/

namespace BeanMeter

/-- A JSON value. -/
inductive Json where
  | null
  | bool (b : Bool)
  /-- A whole number that fits 64 bits, with or without sign. -/
  | int (n : Int)
  /-- Any other number. -/
  | real (x : Binary64)
  | str (s : String)
  | arr (items : List Json)
  /-- An object with its entries in the order in which they are written. -/
  | obj (fields : List (String × Json))
  deriving Repr, Inhabited

namespace Json

/-- The value under a key of an object. -/
def field? (key : String) : Json → Option Json
  | .obj fields => (fields.find? fun f => f.1 == key).map (·.2)
  | _ => none

/-- The text of a string value. -/
def text? : Json → Option String
  | .str s => some s
  | _ => none

/-- The whole number of a number value, if it is within bounds. -/
def intWithin? (low high : Int) : Json → Option Int
  | .int n => if low ≤ n ∧ n ≤ high then some n else none
  | _ => none

end Json

end BeanMeter
