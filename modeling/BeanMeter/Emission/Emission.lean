import BeanMeter.Mapping.Observation

/-! # Emissions

What is handed to an emitter: the observations of each successful read, between a mark for the
beginning of the tick and one for its end. -/

namespace BeanMeter

/-- What an emitter gets. -/
inductive Emission where
  | beginTick
  | observation (o : Observation)
  | endTick
  deriving DecidableEq, Repr

/-- What an emitter gets for the observations of a tick. -/
def Emission.ofObservations (os : List Observation) : List Emission :=
  .beginTick :: os.map .observation ++ [.endTick]

end BeanMeter
