import BeanMeter.Collection.SortedMap
import BeanMeter.Number.Binary64
import BeanMeter.Text.LowerCase

/-! # Observations

* `MetricKind` — how the values of a metric behave over time.
* `Observation` — one value of a metric at one moment.
-/

namespace BeanMeter

/-- How the values of a metric behave over time. -/
inductive MetricKind where
  /-- A value that goes up and down. -/
  | gauge
  /-- A count that only goes up. -/
  | counter
  /-- A count that goes up and down. -/
  | upDownCounter
  deriving DecidableEq, Repr, Inhabited

namespace MetricKind

/-- The word for a kind. -/
def name : MetricKind → String
  | .gauge => "gauge"
  | .counter => "counter"
  | .upDownCounter => "updowncounter"

/-- The kind for a word in lower case. -/
def ofName? (word : String) : Option MetricKind :=
  if word = "gauge" then some .gauge
  else if word = "counter" then some .counter
  else if word = "updowncounter" then some .upDownCounter
  else none

/-- The kind for a word in any case; an unknown word is returned in lower case. -/
def parse (word : String) : Except String MetricKind :=
  match ofName? (Text.lower word) with
  | some k => .ok k
  | none => .error (Text.lower word)

/-- What is wrong with an unknown word. -/
def unknownMessage (word : String) : String :=
  "unknown metric type '" ++ word ++ "', expected one of: gauge, counter, updowncounter"

end MetricKind

/-- One value of a metric at one moment. -/
structure Observation where
  name : String
  kind : MetricKind
  value : Binary64
  labels : SortedMap String String
  /-- Microseconds since the epoch. -/
  timestamp : Int
  unit : Option String
  description : Option String
  deriving DecidableEq, Repr

end BeanMeter
