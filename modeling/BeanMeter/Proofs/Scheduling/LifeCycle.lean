import BeanMeter.Proofs.Scheduling.Move
import Mathlib.Data.List.Chain
import Mathlib.Logic.Relation

/-! # The life cycle of a scheduler

A scheduler is started at most once, begins no tick once it is to stop, and changes no more once it
has stopped.

* `SchedulerState.Next` — the moves along the life cycle.
* `Scheduler.drain`, `Scheduler.windUp` — the two halves of a shutdown.
* `Scheduler.passed` — all states that a scheduler goes through in a run.
* `Scheduler.run_stopped` — nothing happens after the end.
* `Scheduler.life_cycle_run` — the life cycle, at every point of every run.
-/

namespace BeanMeter

/-- One move along the life cycle. A scheduler that was never started stops at once. -/
inductive SchedulerState.Next : SchedulerState → SchedulerState → Prop
  | start : Next .idle .running
  | drain : Next .running .draining
  | finish : Next .draining .stopped
  | unused : Next .idle .stopped

/-- What becomes of the state at the end of a tick or on the way to it: it stays, or the tick was
the last one. -/
def SchedulerState.Stays (before after : SchedulerState) : Prop :=
  after = before ∨ before ≠ .running ∧ after = .stopped

open Relation (ReflGen)

/-- Whoever stops after a tick makes one move, for only a running scheduler goes on. -/
theorem SchedulerState.Stays.move {before after : SchedulerState} (stays : Stays before after) :
    ReflGen Next before after := by
  rcases stays with rfl | ⟨other, rfl⟩
  · exact .refl
  · cases before with
    | idle => exact .single .unused
    | running => exact absurd rfl other
    | draining => exact .single .finish
    | stopped => exact .refl

-- By cases: comparing the two statistics as they are would compute the durations.
theorem ScrapeStats.tickDone_ticks (observations : Nat) (seconds : Binary64)
    (stats : ScrapeStats) : (stats.tickDone observations seconds).ticks = stats.ticks := by
  cases stats
  rfl

namespace Scheduler

open SchedulerState (Stays Next)

/-! ## The state after a tick -/

@[simp] theorem record_stats (s : Scheduler) (f : ScrapeStats → ScrapeStats) :
    (s.record f).stats = f s.stats := (rfl)

@[simp] theorem record_state (s : Scheduler) (f : ScrapeStats → ScrapeStats) :
    (s.record f).state = s.state := (rfl)

theorem stays_settle (s : Scheduler) : Stays s.state s.settle.state := by
  unfold settle
  split
  · exact .inl rfl
  · next ends => exact .inr ⟨ends, rfl⟩

theorem stays_settle_record (change : ScrapeStats → ScrapeStats) (s : Scheduler) :
    Stays s.state (s.record change).settle.state := by
  have stays := stays_settle (s.record change)
  rwa [record_state] at stays

theorem stays_skipTick (change : ScrapeStats → ScrapeStats) (s : Scheduler) :
    Stays s.state (s.record change).skipTick.state := by
  have stays := stays_settle_record ScrapeStats.tickSkipped (s.record change)
  rwa [record_state] at stays

theorem stays_goOnReading (s : Scheduler) (began now : Int)
    (x : Exchange (Except ReadError ReadResults)) :
    Stays s.state (s.goOnReading began now x).1.state := by
  cases x with
  | send request resume => exact .inl rfl
  | done result =>
    cases result with
    | ok results => exact stays_settle_record _ s
    | error e => exact stays_skipTick _ { s with manager := s.manager.drop }

theorem stays_goOnConnecting (s : Scheduler) (held : Bool) (began now : Int)
    (x : Exchange ConnectResult) :
    Stays s.state (s.goOnConnecting held began now x).1.state := by
  cases x with
  | send request resume => exact .inl rfl
  | done result =>
    obtain ⟨m, result⟩ := result
    cases result with
    | ok session =>
      cases held with
      | true => exact stays_goOnReading { s with manager := m } began now _
      | false =>
        have stays := stays_goOnReading (Scheduler.record (ScrapeStats.connected true)
          { s with manager := m }) began now (session.read s.plan)
        rw [record_state] at stays
        exact stays
    | error e => exact stays_skipTick _ { s with manager := m }

theorem stays_fire (s : Scheduler) (now : Int) : Stays s.state (s.fire now).1.state := by
  unfold fire
  split
  · exact stays_goOnConnecting (s.record ScrapeStats.tickStarted) _ now now _
  · exact .inl rfl

theorem stays_receive (s : Scheduler) (now : Int) (reply : Reply) :
    Stays s.state (s.receive now reply).1.state := by
  unfold receive
  split
  · exact stays_goOnConnecting s _ _ now _
  · exact stays_goOnReading s _ now _
  · exact .inl rfl

/-- Ticks alone, failed or not, never end a scheduler that runs. -/
theorem step_running {s : Scheduler} {e : Event} (running : s.state = .running)
    (goesOn : e ≠ .shutdown) : (s.step e).1.state = .running := by
  have kept : ∀ {after : SchedulerState}, Stays s.state after → after = .running := by
    rintro after (same | ⟨other, _⟩)
    · exact same.trans running
    · exact absurd running other
  cases e with
  | start => simp [step, start, running]
  | fire now => exact kept (s.stays_fire now)
  | receive now reply => exact kept (s.stays_receive now reply)
  | shutdown => exact absurd rfl goesOn
  | expire => simp [step, expire, running]

theorem run_running {s : Scheduler} {events : List Event} (running : s.state = .running)
    (goesOn : .shutdown ∉ events) : (s.run events).1.state = .running := by
  induction events generalizing s with
  | nil => exact running
  | cons e rest ih =>
    rw [List.mem_cons, not_or] at goesOn
    rw [run_cons]
    exact ih (step_running running (Ne.symm goesOn.1)) goesOn.2

/-! ## The two halves of a shutdown -/

/-- The first half of a shutdown: a scheduler that runs is to begin no more ticks. -/
def drain (s : Scheduler) : Scheduler :=
  if s.state = .running then { s with state := .draining } else s

/-- The second half: a scheduler that is in no tick ends. -/
def windUp (s : Scheduler) : Scheduler :=
  match s.activity with
  | .ticking _ _ | .cancelled => s
  | .resting | .waiting => s.settle

theorem drain_state_ne_running (s : Scheduler) : s.drain.state ≠ .running := by
  unfold drain
  split
  · simp
  · assumption

theorem drain_activity (s : Scheduler) : s.drain.activity = s.activity := by
  unfold drain
  split <;> rfl

theorem settle_drain (s : Scheduler) :
    s.drain.settle =
      { s with state := .stopped, activity := .resting, manager := s.manager.drop } := by
  unfold settle
  rw [if_neg s.drain_state_ne_running]
  unfold drain
  split <;> rfl

section

variable {s : Scheduler} {log : TickLog}

theorem drain_of_alive (alive : s.state = .running ∨ s.state = .draining) :
    s.drain = { s with state := .draining } := by
  unfold drain
  split
  · rfl
  · next other =>
    have draining : s.state = .draining := alive.resolve_left other
    rw [← draining]

/-- A shutdown is its two halves. -/
theorem shutdown_eq (stage : Stage s log) : s.shutdown = s.drain.windUp := by
  unfold windUp
  rw [drain_activity, settle_drain]
  cases stage with
  | connecting alive activity | reading alive activity =>
    simp only [shutdown, activity, drain_of_alive alive]
  | cancelled state activity => simp [shutdown, drain, activity, state]
  | idle _ activity | waiting _ activity | stopped _ activity => simp only [shutdown, activity]

end

/-! ## Passing along the life cycle -/

/-- The states that a scheduler goes through in a run, with the one between the two halves of a
shutdown. -/
def passed (s : Scheduler) : List Event → List SchedulerState
  | [] => []
  | .shutdown :: rest =>
    s.drain.state :: s.drain.windUp.state :: s.drain.windUp.passed rest
  | e :: rest => (s.step e).1.state :: (s.step e).1.passed rest

theorem next_drain (s : Scheduler) : ReflGen Next s.state s.drain.state := by
  unfold drain
  split
  · next running =>
    rw [running]
    exact .single .drain
  · exact .refl

theorem next_windUp (s : Scheduler) : ReflGen Next s.state s.windUp.state := by
  unfold windUp
  split
  · exact .refl
  · exact .refl
  · exact (stays_settle s).move
  · exact (stays_settle s).move

theorem next_start (s : Scheduler) : ReflGen Next s.state (s.step .start).1.state := by
  by_cases unused : s.state = .idle
  · simp only [step, start, unused, if_true]
    exact .single .start
  · simp only [step, start, unused, if_false]
    exact .refl

theorem next_expire (s : Scheduler) : ReflGen Next s.state s.expire.state := by
  unfold expire
  split
  · next draining =>
    rw [draining]
    exact .single .finish
  · exact .refl

section

variable {s s' : Scheduler} {log log' : TickLog} {t : Tick} {effects : List Effect}

theorem step_shutdown (stage : Stage s log) : (s.step .shutdown).1 = s.drain.windUp :=
  shutdown_eq stage

theorem chain_passed (stage : Stage s log) (events : List Event) :
    List.IsChain (ReflGen Next) (s.state :: s.passed events) := by
  induction events generalizing s log with
  | nil => exact List.isChain_singleton _
  | cons e rest ih =>
    have next := ih (stage_of_move stage (move_of_step stage e))
    cases e with
    | shutdown =>
      rw [step_shutdown stage] at next
      exact .cons_cons s.next_drain (.cons_cons s.drain.next_windUp next)
    | start => exact .cons_cons s.next_start next
    | fire now => exact .cons_cons (s.stays_fire now).move next
    | receive now reply => exact .cons_cons (s.stays_receive now reply).move next
    | expire => exact .cons_cons s.next_expire next

/-! ## After the end -/

theorem step_stopped (stage : Stage s log) (stopped : s.state = .stopped) (e : Event) :
    s.step e = (s, []) := by
  have refused : s.step .start = (s, []) := by simp [step, start, stopped]
  have late : s.step .expire = (s, []) := by simp [step, expire, stopped]
  cases stage with
  | idle state | waiting state => simp [state] at stopped
  | connecting alive | reading alive => simp [stopped] at alive
  | cancelled _ activity =>
    cases e with
    | start => exact refused
    | expire => exact late
    | fire now => simp [step, fire, activity]
    | receive now reply => simp [step, receive, activity]
    | shutdown => simp [step, shutdown, activity]
  | stopped _ activity free =>
    have dropped : s.manager.drop = s.manager := by rw [SessionManager.drop, ← free]
    cases e with
    | start => exact refused
    | expire => exact late
    | fire now => simp [step, fire, activity]
    | receive now reply => simp [step, receive, activity]
    | shutdown =>
      simp only [step, shutdown, activity, dropped]
      rw [← stopped, ← activity]

theorem run_stopped (stage : Stage s log) (stopped : s.state = .stopped) (events : List Event) :
    s.run events = (s, []) := by
  induction events with
  | nil => rfl
  | cons e rest ih =>
    rw [run_cons, step_stopped stage stopped, ih]
    rfl

/-! ## After a shutdown -/

/-- A shutdown has been called. -/
def Ending (s : Scheduler) : Prop := s.state = .draining ∨ s.state = .stopped

theorem ending_shutdown (stage : Stage s log) : s.shutdown.Ending := by
  cases stage with
  | idle _ activity | waiting _ activity | stopped _ activity =>
    simp only [shutdown, activity]
    exact .inr rfl
  | connecting _ activity | reading _ activity =>
    simp only [shutdown, activity]
    exact .inl rfl
  | cancelled state activity =>
    simp only [shutdown, activity]
    exact .inr state

theorem ending_of_stays (stays : Stays s.state s'.state) (ending : s.Ending) : s'.Ending := by
  rcases stays with same | ⟨_, stopped⟩
  · unfold Ending
    rw [same]
    exact ending
  · exact .inr stopped

@[simp] theorem withSession_state (session : Session) (s : Scheduler) :
    (s.withSession session).state = s.state := rfl

theorem Progress.stays {began now : Int} (progress : Progress s began now t s' effects) :
    Stays s.state s'.state := by
  cases progress with
  | connecting | reading => exact .inl rfl
  | unconnected => exact stays_skipTick _ s
  | @nothingToRead session =>
    have stays := stays_settle_record (ScrapeStats.tickDone
      (s.registry.observe (ReadResults.ofResponses []) now).length (secondsBetween began now))
      (s.withSession session)
    rw [withSession_state] at stays
    exact stays
  | completed => exact stays_settle_record _ s
  | unread => exact stays_skipTick _ { s with manager := s.manager.drop }

theorem withSession_ticks (session : Session) (s : Scheduler) :
    (s.withSession session).stats.ticks = s.stats.ticks := by
  unfold withSession
  dsimp only
  split <;> rfl

theorem Progress.ticks_eq {began now : Int} (progress : Progress s began now t s' effects) :
    s'.stats.ticks = s.stats.ticks := by
  cases progress with
  | connecting => rfl
  | @reading session => exact withSession_ticks session s
  | unconnected | unread =>
    rw [skipTick, settle_stats]
    rfl
  | @nothingToRead session =>
    rw [settle_stats, record_stats, ScrapeStats.tickDone_ticks]
    exact withSession_ticks session s
  | completed => rw [settle_stats, record_stats, ScrapeStats.tickDone_ticks]

theorem length_ticks_note : (log.note t s' effects).ticks.length =
    log.finished.length + log.cut.toList.length + 1 := by
  unfold TickLog.note
  split
  · simp [TickLog.ticks, Nat.add_assoc]
  · simp [TickLog.ticks]
    omega

/-- After a shutdown nothing begins a tick. -/
theorem Move.ending (move : Move s log s' log' effects) (stage : Stage s log)
    (ending : s.Ending) :
    s'.Ending ∧ s'.stats.ticks = s.stats.ticks ∧ log'.ticks.length = log.ticks.length := by
  cases move with
  | stays => exact ⟨ending, rfl, rfl⟩
  | starts state | begins state => simp [Ending, state] at ending
  | hears activity current progress =>
    refine ⟨ending_of_stays progress.stays ending, progress.ticks_eq, ?_⟩
    rw [length_ticks_note]
    simp [TickLog.ticks, current, Nat.add_assoc]
  | drains => exact ⟨.inl rfl, rfl, rfl⟩
  | stops => exact ⟨.inr rfl, rfl, rfl⟩
  | cancels activity current =>
    have cut := (stage.ticking activity).2
    refine ⟨.inr rfl, rfl, ?_⟩
    simp [TickLog.ticks, current, cut]

theorem run_ending (stage : Stage s log) (ending : s.Ending) (events : List Event) :
    (s.run events).1.Ending ∧ (s.run events).1.stats.ticks = s.stats.ticks ∧
      (s.logFrom log events).ticks.length = log.ticks.length := by
  refine (run_induction (fun _ now current => now.Ending ∧ now.stats.ticks = s.stats.ticks ∧
    current.ticks.length = log.ticks.length) ?_ events [] stage ⟨ending, rfl, rfl⟩).2
  rintro _ _ _ _ _ _ stage move ⟨ending, begun, ticks⟩
  obtain ⟨ending', begun', ticks'⟩ := move.ending stage ending
  exact ⟨ending', begun'.trans begun, ticks'.trans ticks⟩

theorem Stage.ticking_of_draining (stage : Stage s log) (draining : s.state = .draining) :
    s.activity.isTicking = true := by
  cases stage with
  | connecting _ activity | reading _ activity =>
    rw [activity]
    rfl
  | idle state | waiting state | stopped state | cancelled state => simp [draining] at state

theorem expire_of_ending (ending : s.Ending) : s.expire.state = .stopped := by
  unfold expire
  rcases ending with draining | stopped
  · rw [if_pos draining]
  · simp [stopped]

/-- The end of the grace period ends a scheduler that is to stop, whatever its tick waits for. -/
theorem stopped_of_expire (stage : Stage s log) (ending : s.Ending) {events : List Event}
    (expires : .expire ∈ events) : (s.run events).1.state = .stopped := by
  induction events generalizing s log with
  | nil => cases expires
  | cons e rest ih =>
    have move := move_of_step stage e
    have next := stage_of_move stage move
    rw [run_cons]
    rcases List.mem_cons.mp expires with rfl | later
    · have stopped : (s.step .expire).1.state = .stopped := expire_of_ending ending
      rw [run_stopped next stopped]
      exact stopped
    · exact ih next (move.ending stage ending).1 later

end

/-! ## Runs -/

/-- The life cycle, seen from one point of a run. -/
structure LifeCycle (s : Scheduler) (log : TickLog) : Prop where
  /-- Only an idle scheduler can be started, and it waits for its first tick then. -/
  starts : ∀ started, s.start = .ok started ↔
    s.state = .idle ∧ started = { s with state := .running, activity := .waiting }
  /-- A start that is refused says why, and changes nothing. -/
  refused : s.state ≠ .idle →
    s.start = .error (.invalidState s.state) ∧ s.step .start = (s, [])
  /-- A scheduler is started at most once. -/
  once : ∀ started, s.start = .ok started → ∀ later, ∃ state,
    (started.run later).1.start = .error (.invalidState state)
  /-- A shutdown goes through the state between its halves. -/
  halves : s.shutdown = s.drain.windUp
  /-- No tick begins after a shutdown. -/
  noTick : ∀ later,
    (s.run (.shutdown :: later)).1.stats.ticks = s.stats.ticks ∧
      (s.logFrom log (.shutdown :: later)).ticks.length = log.ticks.length
  /-- A shutdown ends with the tick in flight, and at the latest with the grace period. -/
  returns : ∀ later,
    ((s.run (.shutdown :: later)).1.state = .stopped ∨
      (s.run (.shutdown :: later)).1.state = .draining ∧
        (s.run (.shutdown :: later)).1.activity.isTicking = true) ∧
      (.expire ∈ later → (s.run (.shutdown :: later)).1.state = .stopped)
  /-- Nothing happens after that, another shutdown included. -/
  rests : s.state = .stopped → ∀ later, s.run later = (s, [])

section

variable {s : Scheduler} {log : TickLog}

theorem stage_run (stage : Stage s log) (events : List Event) :
    Stage (s.run events).1 (s.logFrom log events) :=
  (run_induction (fun _ _ _ => True) (fun _ _ _ _ _ _ _ _ _ => trivial) events [] stage trivial).1

theorem start_eq_ok_iff {started : Scheduler} : s.start = .ok started ↔
    s.state = .idle ∧ started = { s with state := .running, activity := .waiting } := by
  by_cases unused : s.state = .idle
  · simp only [start, unused, if_true, Except.ok.injEq, true_and]
    exact eq_comm
  · simp [start, unused]

theorem start_of_used (used : s.state ≠ .idle) : s.start = .error (.invalidState s.state) := by
  rw [start, if_neg used]

theorem run_used (stage : Stage s log) (used : s.state ≠ .idle) (events : List Event) :
    (s.run events).1.state ≠ .idle := by
  refine (run_induction (fun _ now _ => now.state ≠ .idle) ?_ events [] stage used).2
  intro _ now _ now' _ _ _ move used
  have kept : ∀ {after : SchedulerState}, Stays now.state after → after ≠ .idle := by
    rintro after (same | ⟨_, stopped⟩)
    · exact same ▸ used
    · simp [stopped]
  cases move with
  | stays => exact used
  | begins _ _ progress => exact kept progress.stays
  | hears _ _ progress => exact kept progress.stays
  | starts | drains | stops | cancels => simp

theorem shutdown_stats (s : Scheduler) : s.shutdown.stats = s.stats := by
  unfold shutdown
  split <;> rfl

theorem passed_last (stage : Stage s log) (events : List Event) :
    (s.state :: s.passed events).getLast? = some (s.run events).1.state := by
  induction events generalizing s log with
  | nil => rfl
  | cons e rest ih =>
    have next := ih (stage_of_move stage (move_of_step stage e))
    rw [run_cons]
    cases e with
    | shutdown =>
      rw [step_shutdown stage] at next ⊢
      simpa [passed] using next
    | start | fire | receive | expire => simpa [passed] using next

theorem Stage.lifeCycle (stage : Stage s log) : LifeCycle s log := by
  have ending : (s.step .shutdown).1.Ending := ending_shutdown stage
  have next : Stage (s.step .shutdown).1 log := by
    have next := stage_of_move stage (move_of_shutdown stage)
    rwa [record_shutdown] at next
  constructor
  · exact fun _ => start_eq_ok_iff
  · intro used
    have refusal := start_of_used used
    exact ⟨refusal, by rw [step, refusal]⟩
  · intro started ok later
    obtain ⟨unused, rfl⟩ := start_eq_ok_iff.mp ok
    have waiting := stage_of_move stage (.starts unused (stage.resting_of_idle unused))
    exact ⟨_, start_of_used (run_used waiting (by simp) later)⟩
  · exact shutdown_eq stage
  · intro later
    obtain ⟨_, begun, ticks⟩ := run_ending next ending later
    rw [run_cons, logFrom, record_shutdown]
    exact ⟨begun.trans (congrArg _ s.shutdown_stats), ticks⟩
  · intro later
    rw [run_cons]
    refine ⟨?_, stopped_of_expire next ending⟩
    rcases (run_ending next ending later).1 with draining | stopped
    · exact .inr ⟨draining, (stage_run next later).ticking_of_draining draining⟩
    · exact .inl stopped
  · exact run_stopped stage

end

/-- The state of a scheduler only moves along the life cycle, and at every point of every run it can
be started only if it is idle, which it is never again, begins no tick once a shutdown has been
called, and does nothing any more once it has stopped. -/
theorem life_cycle_run (registry : Registry) (files : Files) (connector : Connector)
    (events : List Event) :
    List.IsChain (ReflGen Next) (.idle :: (new registry files connector).passed events) ∧
      (.idle :: (new registry files connector).passed events).getLast? =
        some ((new registry files connector).run events).1.state ∧
      LifeCycle ((new registry files connector).run events).1
        ((new registry files connector).logFrom .empty events) := by
  have start := stage_new registry files connector
  exact ⟨chain_passed start events, passed_last start events, (stage_run start events).lifeCycle⟩

end Scheduler

end BeanMeter
