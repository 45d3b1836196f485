import BeanMeter.Agent.SessionManager
import BeanMeter.Emission.Emission
import BeanMeter.Mapping.Registry
import BeanMeter.Metrics.ScrapeStats

/-! # Scheduler

Polls an agent in ticks that never overlap. A tick gets a session, reads the planned attributes and
hands the observations to the emitter. The scheduler is a machine: something happens, and the
machine moves on and says which requests it sends and what the emitter gets.

* `Scheduler` — what the machine knows; `SchedulerState` and `Activity` say where it is.
* `Scheduler.start`, `fire`, `receive`, `shutdown`, `expire` — the things that happen.
* `Scheduler.step`, `Scheduler.run` — one of them, and any sequence of them.
-/

namespace BeanMeter

/-! ## States -/

/-- The life cycle of a scheduler. -/
inductive SchedulerState where
  | idle
  | running
  /-- No tick begins any more, but one may still be in flight. -/
  | draining
  | stopped
  deriving DecidableEq, Repr

/-- The word for a state. -/
def SchedulerState.name : SchedulerState → String
  | .idle => "idle"
  | .running => "running"
  | .draining => "draining"
  | .stopped => "stopped"

/-- A scheduler can be started only once, and not after it has been shut down. -/
inductive SchedulerError where
  | invalidState (state : SchedulerState)
  deriving DecidableEq, Repr

/-- The wording of an error. -/
def SchedulerError.message : SchedulerError → String
  | .invalidState state => "Scheduler cannot start from state " ++ state.name

/-- What comes of the connecting part of a tick. -/
abbrev ConnectResult : Type := SessionManager × Except ConnectionError Session

/-- What a tick in flight is waiting for. -/
inductive Pending where
  /-- The answer to a request that opens a session. -/
  | connecting (resume : Reply → Exchange ConnectResult)
  /-- The answer to a bulk read. -/
  | reading (resume : Reply → Exchange (Except ReadError ReadResults))

/-- What the machine is doing. -/
inductive Activity where
  /-- Nothing: before the start, or after the end. -/
  | resting
  /-- Waiting for the next tick. -/
  | waiting
  /-- In a tick that began at some moment. -/
  | ticking (began : Int) (pending : Pending)
  /-- Nothing, after a tick was cut off. -/
  | cancelled

/-- Whether a tick is in flight. -/
def Activity.isTicking : Activity → Bool
  | .ticking _ _ => true
  | _ => false

/-! ## Effects -/

/-- What the machine does for others to see. -/
inductive Effect where
  | sent (r : AgentRequest)
  | emitted (e : Emission)
  deriving DecidableEq, Repr

/-! ## The machine -/

/-- What a scheduler knows. -/
structure Scheduler where
  registry : Registry
  /-- Where the trusted certificate is looked up. -/
  files : Files
  manager : SessionManager
  stats : ScrapeStats
  state : SchedulerState
  activity : Activity

namespace Scheduler

/-- A scheduler that has not been started. -/
def new (registry : Registry) (files : Files) (connector : Connector) : Scheduler :=
  ⟨registry, files, .new connector, .initial, .idle, .resting⟩

/-- What the scheduler reads in every tick. -/
def plan (s : Scheduler) : List ReadRequest := s.registry.readPlan

/-- Changes the statistics. -/
def record (f : ScrapeStats → ScrapeStats) (s : Scheduler) : Scheduler :=
  { s with stats := f s.stats }

/-! ### Ticks -/

/-- Goes on after a tick: waits for the next one, or ends if no more ticks are to begin. -/
def settle (s : Scheduler) : Scheduler :=
  if s.state = .running then { s with activity := .waiting }
  else { s with activity := .resting, state := .stopped, manager := s.manager.drop }

/-- The time from one moment to another, in seconds. -/
def secondsBetween (began now : Int) : Binary64 :=
  .ofRatio (decide (now < began)) (now - began).natAbs 1000000

/-- Ends a tick without observations. -/
def skipTick (s : Scheduler) : Scheduler := (s.record ScrapeStats.tickSkipped).settle

/-- Ends a tick with the results of its read. -/
def finishTick (began now : Int) (results : ReadResults) (s : Scheduler) :
    Scheduler × List Effect :=
  let observations := s.registry.observe results now
  ((s.record (ScrapeStats.tickDone observations.length (secondsBetween began now))).settle,
    (Emission.ofObservations observations).map .emitted)

/-- Goes on with the read of a tick. A failed read drops the session. -/
def goOnReading (began now : Int) (s : Scheduler) :
    Exchange (Except ReadError ReadResults) → Scheduler × List Effect
  | .send request resume =>
    ({ s with activity := .ticking began (.reading resume) }, [.sent request])
  | .done (.ok results) => s.finishTick began now results
  | .done (.error _) =>
    (({ s with manager := s.manager.drop }.record ScrapeStats.readFailed).skipTick, [])

/-- Goes on with the part of a tick that gets a session; `held` says that one was held when the tick
began. -/
def goOnConnecting (held : Bool) (began now : Int) (s : Scheduler) :
    Exchange ConnectResult → Scheduler × List Effect
  | .send request resume =>
    ({ s with activity := .ticking began (.connecting resume) }, [.sent request])
  | .done (manager, .error _) =>
    (({ s with manager := manager }.record (ScrapeStats.connected false)).skipTick, [])
  | .done (manager, .ok session) =>
    let s := { s with manager := manager }
    -- A session that was held already is no new connection.
    let s := if held then s else s.record (ScrapeStats.connected true)
    s.goOnReading began now (session.read s.plan)

/-! ### Events -/

/-- Starts the scheduler. -/
def start (s : Scheduler) : Except SchedulerError Scheduler :=
  if s.state = .idle then .ok { s with state := .running, activity := .waiting }
  else .error (.invalidState s.state)

/-- The timer fires: a tick begins if the scheduler waits for one. -/
def fire (now : Int) (s : Scheduler) : Scheduler × List Effect :=
  match s.activity with
  | .waiting =>
    let s := s.record ScrapeStats.tickStarted
    s.goOnConnecting s.manager.session.isSome now now (s.manager.current s.files)
  | _ => (s, [])

/-- Something comes back for the request that a tick waits for. -/
def receive (now : Int) (reply : Reply) (s : Scheduler) : Scheduler × List Effect :=
  match s.activity with
  | .ticking began (.connecting resume) => s.goOnConnecting false began now (resume reply)
  | .ticking began (.reading resume) => s.goOnReading began now (resume reply)
  | _ => (s, [])

/-- The scheduler is to stop: no tick begins any more, and without a tick in flight it ends at
once. -/
def shutdown (s : Scheduler) : Scheduler :=
  match s.activity with
  | .ticking _ _ => { s with state := .draining }
  | .cancelled => s
  | .resting | .waiting =>
    { s with state := .stopped, activity := .resting, manager := s.manager.drop }

/-- A tick in flight has been waited for long enough after a shutdown, and is cut off. -/
def expire (s : Scheduler) : Scheduler :=
  if s.state = .draining then
    { s with state := .stopped, activity := .cancelled, manager := s.manager.drop }
  else s

/-- What can happen to a scheduler. -/
inductive Event where
  | start
  | fire (now : Int)
  | receive (now : Int) (reply : Reply)
  | shutdown
  | expire

/-- What becomes of a scheduler when something happens, and what it does. A start that is refused
changes nothing. -/
def step (s : Scheduler) : Event → Scheduler × List Effect
  | .start =>
    match s.start with
    | .ok s => (s, [])
    | .error _ => (s, [])
  | .fire now => s.fire now
  | .receive now reply => s.receive now reply
  | .shutdown => (s.shutdown, [])
  | .expire => (s.expire, [])

/-- What becomes of a scheduler in a sequence of events, and all that it does. -/
def run (s : Scheduler) : List Event → Scheduler × List Effect
  | [] => (s, [])
  | e :: es =>
    let (s, effects) := s.step e
    let (s, more) := s.run es
    (s, effects ++ more)

end Scheduler

end BeanMeter
