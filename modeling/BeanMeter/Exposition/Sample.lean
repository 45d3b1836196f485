import BeanMeter.Mapping.Observation
import BeanMeter.Metrics.ScrapeStats
import BeanMeter.Number.Notation
import BeanMeter.Version

/-! # Samples

The lines of an exposition before they are written.

* `Sample` — a value under a name and labels.
* `sanitizeName` — a name that may stand in an exposition.
* `Sample.ofObservation`, `ScrapeStats.samples` — where samples come from.
-/

namespace BeanMeter

/-- A value under a name and labels. -/
structure Sample where
  name : String
  kind : MetricKind
  /-- The histogram that the sample is a part of. -/
  histogram : Option String
  help : Option String
  labels : SortedMap String String
  value : Binary64
  /-- Milliseconds since the epoch. -/
  timestamp : Option Int
  deriving DecidableEq, Repr

/-! ## Names -/

/-- The characters that a name may hold: letters and digits without accents, `_` and `:`. -/
def isMetricChar (c : Char) : Bool :=
  ('0' ≤ c && c ≤ '9') || ('A' ≤ c && c ≤ 'Z') || ('a' ≤ c && c ≤ 'z') || c == '_' || c == ':'

/-- Puts an underscore before a digit at the start, and in the place of nothing. -/
def guardStart : List Char → List Char
  | [] => ['_']
  | c :: cs => if '0' ≤ c ∧ c ≤ '9' then '_' :: c :: cs else c :: cs

/-- A name that may stand in an exposition: an underscore takes the place of every other
character. -/
def sanitizeName (name : String) : String :=
  String.ofList (guardStart (name.toList.map fun c => if isMetricChar c then c else '_'))

/-- A label name that may stand in an exposition: it has no colons. -/
def sanitizeLabel (label : String) : String :=
  String.ofList ((sanitizeName label).toList.map fun c => if c = ':' then '_' else c)

/-! ## Making samples -/

namespace Sample

/-- A sample without anything but a name and a value. -/
def plain (name : String) (value : Binary64) : Sample :=
  ⟨name, .gauge, none, none, .empty, value, none⟩

/-- The help text of an observation: its description, and its unit in parentheses. -/
def helpOf (description unit : Option String) : Option String :=
  match description, unit with
  | some d, some u => some (d ++ " (" ++ u ++ ")")
  | some d, none => some d
  | none, some u => some ("(" ++ u ++ ")")
  | none, none => none

/-- The sample of an observation. Of two labels that get one name the later counts, and moments
before the epoch are not shown. -/
def ofObservation (o : Observation) : Sample where
  name := sanitizeName o.name
  kind := o.kind
  histogram := none
  help := helpOf o.description o.unit
  labels := .ofList (o.labels.entries.map fun (label, value) => (sanitizeLabel label, value))
  value := o.value
  timestamp := if o.timestamp < 0 then none else some (o.timestamp / 1000)

/-- The word for the kind of a family. -/
def typeName (s : Sample) : String :=
  if s.histogram.isSome then "histogram"
  else
    match s.kind with
    | .counter => "counter"
    | .gauge | .upDownCounter => "gauge"

/-- The family that a sample belongs to: its histogram, or the samples of its name. -/
def family (s : Sample) : String := s.histogram.getD s.name

end Sample

/-! ## Statistics as samples -/

namespace ScrapeStats

/-- The text of a bucket's bound. -/
def boundText (bound : Binary64) : String :=
  if bound.isInfinite then "+Inf" else bound.positional

/-- A count as a sample. -/
def counterSample (name help : String) (n : Nat) : Sample :=
  { Sample.plain name (.ofNat n) with kind := .counter, help := some help }

/-- The family of tick durations. -/
def durationFamily : String := "jmx_scraper_tick_duration_seconds"

/-- The samples of a histogram: its buckets, its sum and its count. -/
def histogramSamples (family help : String) (h : Histogram) : List Sample :=
  h.buckets.map (fun b =>
    { Sample.plain (family ++ "_bucket") (.ofNat b.count) with
      histogram := some family
      help := some help
      labels := .ofList [("le", boundText b.bound)] }) ++
  [{ Sample.plain (family ++ "_sum") h.sum with histogram := some family },
    { Sample.plain (family ++ "_count") (.ofNat h.count) with histogram := some family }]

/-- The samples of the statistics. -/
def samples (s : ScrapeStats) : List Sample :=
  [{ Sample.plain "jmx_scraper_info" .one with
      help := some "jmx-scraper build information"
      labels := .ofList [("version", programVersion)] },
    counterSample "jmx_scraper_ticks_total" "Ticks started" s.ticks,
    counterSample "jmx_scraper_ticks_skipped_total"
      "Ticks that emitted no observations because of a connection or read failure" s.skipped,
    counterSample "jmx_scraper_connect_attempts_total" "Connection attempts" s.connectAttempts,
    counterSample "jmx_scraper_connect_failures_total" "Failed connection attempts"
      s.connectFailures,
    counterSample "jmx_scraper_read_failures_total" "Attribute reads that failed" s.readFailures,
    { Sample.plain "jmx_scraper_observations" s.lastObservations with
      help := some "Observations emitted by the last tick" }] ++
  histogramSamples durationFamily "Histogram of tick durations" s.tickDuration

end ScrapeStats

end BeanMeter
