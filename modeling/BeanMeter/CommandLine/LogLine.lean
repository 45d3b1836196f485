import BeanMeter.CommandLine.LogFilter
import BeanMeter.CommandLine.Program
import BeanMeter.Emission.LogEvent
import BeanMeter.Host.Moment
import BeanMeter.Json.Printer

/-! # Log lines

What the log shows of an event: a line for readers, or a JSON object for programs.

* `LogEntry.ofMilestone`, `ofObservation`, `ofProgress`, `ofFailure` — the events that are logged.
* `LogEntry.line` — an event as a line.
-/

namespace BeanMeter

/-- An event for the log. -/
structure LogEntry where
  /-- The part of the program that it comes from. -/
  target : String
  level : LogLevel
  message : String
  fields : List (String × Json)

namespace LogEntry

/-- A step of the program. -/
def ofMilestone (m : Milestone) : LogEntry := ⟨m.target, .info, m.message, []⟩

/-- An observation, where those go to the log. -/
def ofObservation (o : Observation) : LogEntry :=
  let e := LogEvent.ofObservation o
  ⟨"jmx_scraper::emitter", .info, e.message,
    [("metric", .str e.metric), ("kind", .str e.kind), ("value", .real e.value),
      ("labels", .str e.labels), ("unit", .str e.unit)]⟩

/-- The end of a run by a failure. -/
def ofFailure (text : String) : LogEntry :=
  ⟨"jmx_scraper", .error, "jmx-scraper failed", [("error", .str text)]⟩

/-- What has gone wrong between two states of the statistics. -/
def ofProgress (endpoint : String) (before after : ScrapeStats) : List LogEntry :=
  let entry (message : String) : LogEntry :=
    ⟨"jmx_scraper::scheduler", .warn, message, [("endpoint", .str endpoint)]⟩
  (if before.connectFailures < after.connectFailures then
    [entry "No session available, skipping tick"] else []) ++
  (if before.readFailures < after.readFailures then
    [entry "Read failed, session marked stale"] else [])

/-- The word for the level of an event, in capital letters. -/
def levelText (e : LogEntry) : String := String.ofList (e.level.name.toList.map Char.toUpper)

/-- A word with blanks in front up to the width of the longest level. -/
def aligned (word : String) : String := String.ofList (List.replicate (5 - word.length) ' ') ++ word

/-- A field in a line for readers. -/
def fieldText (field : String × Json) : String :=
  " " ++ field.1 ++ "=" ++
    match field.2 with
    | .str s => s
    | .real x => x.positional
    | v => v.compact

/-- An event as a line, without its end. -/
def line (format : LogFormat) (microseconds : Int) (e : LogEntry) : String :=
  match format with
  | .text =>
    momentText microseconds ++ " " ++ aligned e.levelText ++ " " ++ e.target ++ ": " ++ e.message ++
      String.join (e.fields.map fieldText)
  | .json =>
    Json.compact (.obj [
      ("timestamp", .str (momentText microseconds)),
      ("level", .str e.levelText),
      ("fields", .obj (("message", .str e.message) :: e.fields)),
      ("target", .str e.target)])

end LogEntry

end BeanMeter
