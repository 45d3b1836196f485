import BeanMeter.Agent.Script
import BeanMeter.Scheduling.Scheduler

/-! # Rehearsals

Runs of a scheduler against a scripted agent in time that is only counted. Requests beyond the end
of the script arrive and are held, up to the call timeout.

* `Rehearsal` — a scheduler, its agent and the clock.
* `Rehearsal.step` — starts it, shuts it down, or waits for something to be the case.
-/

namespace BeanMeter

/-- A scheduler, its agent and the clock, in milliseconds. -/
structure Rehearsal where
  scheduler : Scheduler
  peer : Peer
  intervalMs : Nat
  graceMs : Nat
  now : Nat
  /-- When the timer fires next. -/
  nextTick : Nat
  /-- What comes back for the request in flight, and when. -/
  due : Option (Nat × Reply)
  /-- Whether the request in flight is held without an answer to come. -/
  blocked : Bool
  /-- The requests that have arrived. -/
  requests : List AgentRequest
  /-- What the emitter has got. -/
  emissions : List Emission

namespace Rehearsal

/-- A rehearsal before its first step. -/
def new (scheduler : Scheduler) (peer : Peer) (intervalMs graceMs : Nat) : Rehearsal :=
  ⟨scheduler, peer, intervalMs, graceMs, 0, 0, none, false, [], []⟩

/-- How long the scheduler waits for an answer. -/
def timeoutMs (r : Rehearsal) : Nat := r.scheduler.manager.connector.callTimeoutMs

/-- A request is sent. -/
def send (request : AgentRequest) (r : Rehearsal) : Rehearsal :=
  match r.peer with
  | .nobody => { r with due := some (r.now, .lost), blocked := false }
  | .scripted [] =>
    { r with
      due := some (r.now + r.timeoutMs, .late)
      blocked := true
      requests := r.requests ++ [request] }
  | .scripted (next :: rest) =>
    { r with
      peer := .scripted rest
      due := some (r.now + next.delayMs r.timeoutMs, next.reply r.timeoutMs)
      blocked := false
      requests := r.requests ++ [request] }

/-- Something is done by the scheduler. -/
def perform (r : Rehearsal) : Effect → Rehearsal
  | .sent request => r.send request
  | .emitted e => { r with emissions := r.emissions ++ [e] }

/-- Something happens to the scheduler. -/
def happen (e : Scheduler.Event) (r : Rehearsal) : Rehearsal :=
  let (s, effects) := r.scheduler.step e
  effects.foldl perform { r with scheduler := s, due := none, blocked := false }

/-- The moment on the clock, in microseconds. -/
def moment (r : Rehearsal) : Int := r.now * 1000

/-- The next thing that happens, if it does so up to some time. Ticks that are late begin at
once. -/
def advance? (limit : Nat) (r : Rehearsal) : Option Rehearsal :=
  match r.scheduler.activity with
  | .ticking _ _ =>
    match r.due with
    | some (time, reply) =>
      if time ≤ limit then
        let r := { r with now := max r.now time }
        some (r.happen (.receive r.moment reply))
      else none
    | none => none
  | .waiting =>
    if max r.now r.nextTick ≤ limit then
      -- The timer counts from its own moments, so a late tick does not delay the next one.
      let r := { r with now := max r.now r.nextTick, nextTick := r.nextTick + r.intervalMs }
      some (r.happen (.fire r.moment))
    else none
  | .resting | .cancelled => none

/-- Lets things happen until something is the case, up to some time and at most `fuel` of them. -/
def advanceUntil (goal : Rehearsal → Bool) (limit : Nat) : Nat → Rehearsal → Rehearsal
  | 0, r => r
  | fuel + 1, r =>
    if goal r then r
    else
      match r.advance? limit with
      | some r => advanceUntil goal limit fuel r
      | none => { r with now := max r.now limit }

/-- How long a step waits for what may never be the case. -/
def patienceMs : Nat := 2000

/-- How many things may happen in so many milliseconds. -/
def fuelFor (ms : Nat) (r : Rehearsal) : Nat :=
  let script := match r.peer with
    | .scripted replies => replies.length
    | .nobody => 0
  4 * ms + 4 * script + 100

/-- What can be done with a rehearsal. -/
inductive Step where
  | look
  | start
  | shutdown
  /-- Waits until a request is held. -/
  | awaitBlocked
  | awaitRequests (n : Nat)
  | awaitTicks (n : Nat)
  deriving DecidableEq, Repr

/-- What comes of a step. -/
inductive Outcome where
  | nothing
  | done
  | refused (e : SchedulerError)
  /-- Whether what was waited for is the case. -/
  | reached (yes : Bool)
  deriving DecidableEq, Repr

/-- Waits until something is the case. -/
def await (goal : Rehearsal → Bool) (r : Rehearsal) : Rehearsal × Outcome :=
  let r := advanceUntil goal (r.now + patienceMs) (r.fuelFor patienceMs) r
  (r, .reached (goal r))

/-- Shuts the scheduler down, and waits for a tick in flight as long as it is granted. -/
def shutdown (r : Rehearsal) : Rehearsal :=
  let r := { r with scheduler := r.scheduler.shutdown }
  let r := advanceUntil (fun r => r.scheduler.state == .stopped) (r.now + r.graceMs)
    (r.fuelFor r.graceMs) r
  r.happen .expire

/-- One step of a rehearsal. -/
def step (r : Rehearsal) : Step → Rehearsal × Outcome
  | .look => (r, .nothing)
  | .start =>
    match r.scheduler.start with
    | .ok s => ({ r with scheduler := s, nextTick := r.now }, .done)
    | .error e => (r, .refused e)
  | .shutdown => (r.shutdown, .done)
  | .awaitBlocked => r.await fun r => r.blocked
  | .awaitRequests n => r.await fun r => n ≤ r.requests.length
  | .awaitTicks n => r.await fun r =>
    n ≤ r.scheduler.stats.skipped + r.scheduler.stats.completed

end Rehearsal

end BeanMeter
