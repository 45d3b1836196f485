import BeanMeter.CommandLine.Arguments
import BeanMeter.Text.LowerCase

/-! # Log filters

Which events are logged. A filter is a list of directives: a level for everything, or one for the
parts of the program whose names begin in some way.

* `LogFilter.parse?` — reads a filter.
* `LogFilter.allows` — whether an event is logged.
-/

namespace BeanMeter

/-- A directive of a filter. -/
structure LogDirective where
  /-- What the names of the parts begin with; nothing for all parts. -/
  target : Option String
  /-- The last level that is logged, counted from the most urgent one; 0 for none. -/
  limit : Nat
  deriving DecidableEq, Repr

namespace LogDirective

/-- The place of a level, counted from the most urgent one. -/
def rank : LogLevel → Nat
  | .error => 1
  | .warn => 2
  | .info => 3
  | .debug => 4
  | .trace => 5

/-- The words for limits, in any case, and the digits that stand for them. -/
def limit? (word : String) : Option Nat :=
  let words := [("off", 0), ("error", 1), ("warn", 2), ("info", 3), ("debug", 4), ("trace", 5),
    ("0", 0), ("1", 1), ("2", 2), ("3", 3), ("4", 4), ("5", 5)]
  (words.find? fun w => Text.equalIgnoringCase w.1 word).map (·.2)

/-- The characters of the names of parts. -/
def isTargetChar (c : Char) : Bool :=
  ('0' ≤ c && c ≤ '9') || ('A' ≤ c && c ≤ 'Z') || ('a' ≤ c && c ≤ 'z') || c == '_' || c == '-' ||
    c == ':'

/-- Reads a directive: a limit, the name of a part, or both with an equals sign between them. A
part without a limit is logged in full. -/
def parse? (text : String) : Option LogDirective :=
  match limit? text with
  | some limit => some ⟨none, limit⟩
  | none =>
    let (target, limit) : List Char × Option Nat :=
      match Text.splitFirst? '=' text.toList with
      | none => (text.toList, some 5)
      | some (target, []) => (target, some 5)
      | some (target, limit) => (target, limit? (String.ofList limit))
    if target ≠ [] ∧ target.all isTargetChar then
      limit.map fun limit =>
        let name := String.ofList target
        ⟨if (limit? name).isSome then none else some name, limit⟩
    else none

/-- Whether a directive is about a part. -/
def concerns (d : LogDirective) (target : String) : Bool :=
  match d.target with
  | none => true
  | some name => (Text.stripStart? name.toList target.toList).isSome

/-- How much of a part's name a directive gives. -/
def weight (d : LogDirective) : Nat := (d.target.map fun name => name.length + 1).getD 0

end LogDirective

/-- Which events are logged. -/
structure LogFilter where
  directives : List LogDirective
  deriving DecidableEq, Repr

namespace LogFilter

/-- The filter for a level. -/
def ofLevel (level : LogLevel) : LogFilter := ⟨[⟨none, LogDirective.rank level⟩]⟩

/-- Reads a filter; one without directives lets errors pass. -/
def parse? (text : String) : Option LogFilter :=
  let parts := (Text.splitString ',' text).filter fun part => part != ""
  (parts.mapM LogDirective.parse?).map fun ds =>
    ⟨if ds = [] then [⟨none, 1⟩] else ds⟩

/-- The directive that decides about a part: the most precise one, and of equal ones the last. -/
def deciding? (f : LogFilter) (target : String) : Option LogDirective :=
  (f.directives.filter fun d => d.concerns target).foldl (fun best d =>
    match best with
    | some b => if d.weight < b.weight then some b else some d
    | none => some d) none

/-- Whether an event of a part is logged. -/
def allows (f : LogFilter) (target : String) (level : LogLevel) : Bool :=
  (f.deciding? target).any fun d => LogDirective.rank level ≤ d.limit

/-- The variable that sets the filter. -/
def variableName : String := "RUST_LOG"

/-- The filter of a run: what the environment says, if that can be read, or else a level. -/
def ofEnvironment (environment : String → Option String) (level : LogLevel) : LogFilter :=
  ((environment variableName).bind parse?).getD (ofLevel level)

end LogFilter

end BeanMeter
