import BeanMeter.Emission.Emission
import BeanMeter.Exposition.Format

/-! # Series store

The latest sample of every series, and which tick it is of. When a tick ends, the series that it has
not refreshed are dropped, so that objects that went away are no longer exposed.

* `SeriesStore.take` — what becomes of the store when an emitter gets something.
* `SeriesStore.render` — the exposition of the store, and of the statistics.
-/

namespace BeanMeter

open Std (TransCmp LawfulEqCmp TransOrd LawfulEqOrd)

/-- The labels of a series with their values. -/
abbrev LabelPairs : Type := List (String × String)

instance labelPairOrd : Ord (String × String) := lexOrd
instance labelPairTransOrd : TransOrd (String × String) :=
  inferInstanceAs (TransCmp (lexOrd (α := String) (β := String)).compare)
instance labelPairLawfulEqOrd : LawfulEqOrd (String × String) :=
  inferInstanceAs (LawfulEqCmp (lexOrd (α := String) (β := String)).compare)

/-- What tells one series from another: the name and the labels. -/
abbrev SeriesKey : Type := String × LabelPairs

instance : Ord SeriesKey := lexOrd
instance : TransOrd SeriesKey :=
  inferInstanceAs (TransCmp (lexOrd (α := String) (β := LabelPairs)).compare)
instance : LawfulEqOrd SeriesKey :=
  inferInstanceAs (LawfulEqCmp (lexOrd (α := String) (β := LabelPairs)).compare)

/-- The latest sample of a series. -/
structure Series where
  /-- The number of the tick that the sample is of. -/
  generation : UInt64
  sample : Sample
  deriving DecidableEq, Repr

/-- The latest sample of every series. -/
structure SeriesStore where
  series : SortedMap SeriesKey Series
  /-- The number of the tick that began last; numbers start over where 64 bits end. -/
  generation : UInt64

namespace SeriesStore

/-- The store without series. -/
def empty : SeriesStore := ⟨.empty, 0⟩

/-- The number of series. -/
def size (s : SeriesStore) : Nat := s.series.size

/-- What tells the series of a sample from others. -/
def key (s : Sample) : SeriesKey := (s.name, s.labels.entries)

/-- A tick begins. -/
def beginTick (s : SeriesStore) : SeriesStore := { s with generation := s.generation + 1 }

/-- Takes the sample of an observation in the place of an earlier one of its series. -/
def emit (s : SeriesStore) (o : Observation) : SeriesStore :=
  -- Names that become one name in the exposition share a series.
  let sample := Sample.ofObservation o
  { s with series := s.series.insert (key sample) ⟨s.generation, sample⟩ }

/-- A tick ends: what it has not refreshed is dropped. -/
def endTick (s : SeriesStore) : SeriesStore :=
  { s with series := s.series.filter fun _ x => x.generation == s.generation }

/-- Takes what is handed to an emitter. -/
def take (s : SeriesStore) : Emission → SeriesStore
  | .beginTick => s.beginTick
  | .observation o => s.emit o
  | .endTick => s.endTick

/-- The samples in the order of their names and labels. -/
def samples (s : SeriesStore) : List Sample := s.series.values.map (·.sample)

/-- The exposition of the store, and of the statistics if there are any. -/
def render (s : SeriesStore) (stats : Option ScrapeStats) : String :=
  Exposition.text false (s.samples ++ (stats.map ScrapeStats.samples).getD [])

end SeriesStore

end BeanMeter
