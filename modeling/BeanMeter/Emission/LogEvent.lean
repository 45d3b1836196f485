import BeanMeter.Mapping.Observation
import BeanMeter.Text.Quoted

/-! # Log events

What the log says about an observation. -/

namespace BeanMeter

/-- The fields of a log event. -/
structure LogEvent where
  message : String
  metric : String
  kind : String
  value : Binary64
  /-- The labels as quoted texts in braces. -/
  labels : String
  unit : String
  deriving DecidableEq, Repr

/-- The event of an observation. -/
def LogEvent.ofObservation (o : Observation) : LogEvent where
  message := "Observation"
  metric := o.name
  kind := o.kind.name
  value := o.value
  labels := Text.quoteMap o.labels.entries
  unit := o.unit.getD ""

end BeanMeter
