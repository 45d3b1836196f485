import BeanMeter.CommandLine.LogFilter
import BeanMeter.CommandLine.Report
import BeanMeter.Version

/-! # The program

What a run comes to: its exit code, what it prints and which of its steps it logs.

* `Program.begin` — the run up to the first tick, which is all of it for a report or a failure.
* `Program.finish` — the rest of a run that is told to stop.
-/

namespace BeanMeter

/-- A step that the log tells about. -/
inductive Milestone where
  | starting
  | loadedMappings
  | listening
  | polling
  | interrupted
  | terminated
  | draining
  | stopped
  | complete
  deriving DecidableEq, Repr

namespace Milestone

/-- What the log says. -/
def message : Milestone → String
  | .starting => "Starting jmx-scraper"
  | .loadedMappings => "Loaded attribute mappings"
  | .listening => "Prometheus endpoint listening"
  | .polling => "Starting polling scheduler"
  | .interrupted => "Received Ctrl+C, shutting down"
  | .terminated => "Received terminate signal, shutting down"
  | .draining => "Draining scheduler"
  | .stopped => "Scheduler stopped"
  | .complete => "Shutdown complete"

/-- The part of the program that a step belongs to. -/
def target : Milestone → String
  | .starting | .interrupted | .terminated | .complete => "jmx_scraper"
  | .loadedMappings => "jmx_scraper::mapping"
  | .listening => "jmx_scraper::emitter::prometheus"
  | .polling | .draining | .stopped => "jmx_scraper::scheduler"

end Milestone

/-- Why a run ends before the first tick. -/
inductive RunFault where
  | failure (f : Failure)
  /-- The address of the exposition cannot be used, in the words of the operating system. -/
  | bind (address : SocketAddress) (reason : String)
  deriving DecidableEq, Repr

namespace RunFault

/-- The reason at the bottom of a failure, where a lower layer gives one of its own. -/
def rootCause? (detail : String) : Failure → Option String
  | .config (.unreadable _ fault) => some fault.message
  | .mapping (.unreadable _ fault) => some fault.message
  | .mapping (.malformed _) => some detail
  | .connection (.setup _) | .connection (.unreachable _) => some detail
  | _ => none

/-- What is printed: the failure, its cause and what is below that. -/
def message (detail : String) : RunFault → String
  | .failure f =>
    ": ".intercalate ([f.message detail, f.cause detail] ++ (rootCause? detail f).toList)
  | .bind address reason =>
    "Failed to bind Prometheus endpoint on " ++ address.text ++ ": " ++ reason

/-- The exit code: 3 if the program must not start with the failure. -/
def exitCode : RunFault → Nat
  | .failure f => if f.isStartup then 3 else 1
  | .bind _ _ => 1

end RunFault

/-- What a run is told to stop by. -/
inductive StopSignal where
  | interrupt
  | terminate
  deriving DecidableEq, Repr

/-- What becomes of a run before its first tick. -/
inductive Beginning where
  /-- The command line is not carried out. -/
  | refused (fault : ArgumentFault)
  | failed (fault : RunFault)
  /-- The run is over with a report. -/
  | reported (text : String)
  /-- The run polls an agent. -/
  | polls (startup : Startup)

namespace Program

/-- What is printed for the version. -/
def versionLine : String := "jmx-scraper " ++ programVersion ++ "\n"

/-- The steps up to the first tick, and what becomes of the run there. `bind` says why an address
cannot be used, if it cannot. -/
def beginWith (around : Surroundings) (bind : SocketAddress → Option String) (args : Arguments)
    (libraries : Libraries := .standard) : Beginning × List Milestone :=
  match Startup.configure around args with
  | .error f => (.failed (.failure f), [.starting])
  | .ok (config, exporter) =>
    match Startup.mappings around config with
    | .error f => (.failed (.failure f), [.starting])
    | .ok registry =>
      let loaded := [Milestone.starting, .loadedMappings]
      match Startup.connection around config libraries with
      | .error f => (.failed (.failure f), loaded)
      | .ok connector =>
        let startup := ⟨config, exporter, registry, connector⟩
        if args.validate then (.reported (Report.validation startup args.outputFormat), loaded)
        else if args.dryRun then (.reported (Report.dryRun startup args.outputFormat), loaded)
        else
          match exporter with
          | .logging => (.polls startup, loaded ++ [.polling])
          | .prometheus =>
            match config.exporter.bindAddress with
            | .error e => (.failed (.failure (.config e)), loaded)
            | .ok address =>
              match bind address with
              | some reason => (.failed (.bind address reason), loaded)
              | none => (.polls startup, loaded ++ [.polling, .listening])

/-- The run up to the first tick. -/
def begin (around : Surroundings) (bind : SocketAddress → Option String) (words : List String)
    (libraries : Libraries := .standard) : Beginning × List Milestone :=
  match Arguments.parse around.environment words with
  | .error fault => (.refused fault, [])
  | .ok args => beginWith around bind args libraries

/-- The steps of a run while it is told to stop. -/
def toldToStop : StopSignal → List Milestone
  | .interrupt => [.interrupted, .draining]
  | .terminate => [.terminated, .draining]

/-- The last steps of a run that is told to stop. -/
def ending : List Milestone := [.stopped, .complete]

/-- The steps of a run from being told to stop to its end. -/
def finish (signal : StopSignal) : List Milestone := toldToStop signal ++ ending

/-- The exit code of a run that needs no agent, or is told to stop. -/
def exitCode : Beginning → Nat
  | .refused .help | .refused .version => 0
  | .refused _ => 2
  | .failed fault => fault.exitCode
  | .reported _ | .polls _ => 0

/-- What a run prints. -/
def output : Beginning → String
  | .refused .version => versionLine
  | .reported text => text
  | _ => ""

/-- What a run says about its failure. -/
def errorLine? (detail : String) : Beginning → Option String
  | .failed fault => some ("Error: " ++ fault.message detail)
  | _ => none

/-- The filter of a run's log. -/
def logFilter (around : Surroundings) (words : List String) : Option LogFilter :=
  match Arguments.parse around.environment words with
  | .ok args => some (LogFilter.ofEnvironment around.environment args.logLevel)
  | .error _ => none

end Program

end BeanMeter
