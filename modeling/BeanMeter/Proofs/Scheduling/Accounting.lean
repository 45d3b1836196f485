import BeanMeter.Proofs.Scheduling.Move

/-! # Accounts of ticks

The counters of a scheduler add up at every point of every run.

* `Tally` — the counts of a scheduler, set against the ticks that have come to their end; the
  invariant of a run.
* `Scheduler.Accounted` — the equations between the counters.
* `Scheduler.accounted_run` — they hold at every point of every run.
-/

namespace BeanMeter

/-- How many ticks are in flight or were cut off. -/
def Activity.unfinished : Activity → Nat
  | .ticking _ _ | .cancelled => 1
  | .resting | .waiting => 0

/-- How many observations the last tick to come to its end had: none if it was skipped. -/
def Tick.lastObservations (registry : Registry) (files : Files) (finished : List Tick) : Nat :=
  match finished.getLast? with
  | some t => if t.completed registry files then (t.observations registry).length else 0
  | none => 0

/-- How many connections were made that no failed read has ended. -/
def ScrapeStats.openConnections (stats : ScrapeStats) : Int :=
  stats.connectAttempts - stats.connectFailures - stats.readFailures

/-! ## Counting -/

/-- The counts after the ticks `finished` have come to their end and `unfinished` more have begun,
while a session is held or not. -/
structure Tally (registry : Registry) (files : Files) (finished : List Tick) (unfinished : Nat)
    (stats : ScrapeStats) (held : Bool) : Prop where
  ticks : stats.ticks = stats.skipped + stats.completed + unfinished
  ended : stats.skipped + stats.completed = finished.length
  completed : stats.completed = finished.countP (Tick.completed registry files)
  skipped : stats.skipped = stats.connectFailures + stats.readFailures
  attempts : stats.connectAttempts = stats.connectFailures + stats.readFailures + held.toNat
  lastObservations : stats.lastObservations =
    .ofNat (Tick.lastObservations registry files finished)

theorem Binary64.ofNat_zero : Binary64.ofNat 0 = .zero := by decide +kernel

namespace Tally

variable {registry : Registry} {files : Files} {finished : List Tick} {stats : ScrapeStats}
  {held : Bool} {t : Tick}

theorem initial : Tally registry files [] 0 .initial false where
  ticks := rfl
  ended := rfl
  completed := rfl
  skipped := rfl
  attempts := rfl
  lastObservations := Binary64.ofNat_zero.symm

theorem begins (tally : Tally registry files finished 0 stats held) :
    Tally registry files finished 1 stats.tickStarted held where
  ticks := congrArg (· + 1) tally.ticks
  ended := tally.ended
  completed := tally.completed
  skipped := tally.skipped
  attempts := tally.attempts
  lastObservations := tally.lastObservations

theorem connects (tally : Tally registry files finished 1 stats false) :
    Tally registry files finished 1 (stats.connected true) true where
  ticks := tally.ticks
  ended := tally.ended
  completed := tally.completed
  skipped := tally.skipped
  attempts := congrArg (· + 1) tally.attempts
  lastObservations := tally.lastObservations

/-- A tick is skipped after a failure, which leaves no session. -/
theorem skips (tally : Tally registry files finished 1 stats held)
    (incomplete : t.completed registry files = false) {attempts failures reads : Nat}
    (failed : failures + reads = stats.connectFailures + stats.readFailures + 1)
    (closed : attempts = failures + reads) :
    Tally registry files (finished ++ [t]) 0
      { stats with
        connectAttempts := attempts
        connectFailures := failures
        readFailures := reads }.tickSkipped false where
  ticks := by
    have ticks := tally.ticks
    show stats.ticks = stats.skipped + 1 + stats.completed
    omega
  ended := by
    have ended := tally.ended
    rw [List.length_append, ← ended]
    show stats.skipped + 1 + stats.completed = stats.skipped + stats.completed + 1
    omega
  completed := by
    rw [List.countP_append, ← tally.completed]
    simp [incomplete]
    rfl
  skipped := by
    have skipped := tally.skipped
    show stats.skipped + 1 = failures + reads
    omega
  attempts := closed
  lastObservations := by
    have none : Tick.lastObservations registry files (finished ++ [t]) = 0 := by
      simp [Tick.lastObservations, incomplete]
    rw [none, Binary64.ofNat_zero]
    rfl

theorem unconnected (tally : Tally registry files finished 1 stats false)
    (incomplete : t.completed registry files = false) :
    Tally registry files (finished ++ [t]) 0 (stats.connected false).tickSkipped false := by
  show Tally registry files (finished ++ [t]) 0
    { stats with
      connectAttempts := stats.connectAttempts + 1
      connectFailures := stats.connectFailures + 1 }.tickSkipped false
  have attempts : stats.connectAttempts = stats.connectFailures + stats.readFailures :=
    tally.attempts
  exact tally.skips incomplete (by omega) (by omega)

theorem unread (tally : Tally registry files finished 1 stats true)
    (incomplete : t.completed registry files = false) :
    Tally registry files (finished ++ [t]) 0 stats.readFailed.tickSkipped false :=
  tally.skips incomplete rfl tally.attempts

theorem observes (tally : Tally registry files finished 1 stats held)
    (complete : t.completed registry files = true) {last : Binary64} {duration : Histogram}
    (observed : last = .ofNat (t.observations registry).length)
    (counted : duration.count = stats.tickDuration.count + 1) :
    Tally registry files (finished ++ [t]) 0
      { stats with lastObservations := last, tickDuration := duration } held where
  ticks := by
    have ticks := tally.ticks
    show stats.ticks = stats.skipped + duration.count
    rw [counted]
    exact ticks
  ended := by
    rw [List.length_append, ← tally.ended]
    show stats.skipped + duration.count = stats.skipped + stats.completed + 1
    rw [counted]
    rfl
  completed := by
    rw [List.countP_append, ← tally.completed]
    show duration.count = stats.completed + List.countP _ [t]
    simp [complete, counted, ScrapeStats.completed]
  skipped := tally.skipped
  attempts := tally.attempts
  lastObservations := by
    have latest : Tick.lastObservations registry files (finished ++ [t]) =
        (t.observations registry).length := by
      simp [Tick.lastObservations, complete]
    rw [latest]
    exact observed

theorem completes (tally : Tally registry files finished 1 stats held)
    (complete : t.completed registry files = true) (seconds : Binary64) :
    Tally registry files (finished ++ [t]) 0
      (stats.tickDone (t.observations registry).length seconds) held :=
  tally.observes complete rfl rfl

theorem openConnections_eq {unfinished : Nat}
    (tally : Tally registry files finished unfinished stats held) :
    stats.openConnections = held.toNat := by
  have attempts := tally.attempts
  unfold ScrapeStats.openConnections
  omega

end Tally

namespace Scheduler

/-! ## Runs -/

/-- The counts of a scheduler are those of its ticks. After the end no session is held any more, but
the counts are still those of the one that was dropped last. -/
def Tallied (s : Scheduler) (log : TickLog) : Prop :=
  ∃ held, Tally s.registry s.files log.finished s.activity.unfinished s.stats held ∧
    (s.state ≠ .stopped → s.manager.session.isSome = held)

theorem tallied_new (registry : Registry) (files : Files) (connector : Connector) :
    Tallied (new registry files connector) .empty :=
  ⟨false, .initial, fun _ => rfl⟩

section

variable {s s' : Scheduler} {log log' : TickLog} {t : Tick} {effects : List Effect}

theorem tallied_settle {change : ScrapeStats → ScrapeStats}
    (tally : Tally s.registry s.files (log.finished ++ [t]) 0 (change s.stats)
      s.manager.session.isSome) :
    Tallied (s.record change).settle (log.note t (s.record change).settle effects) := by
  have between : (s.record change).settle.activity.unfinished = 0 := by
    rcases (s.record change).settle_activity with activity | activity <;> rw [activity] <;> rfl
  refine ⟨s.manager.session.isSome, ?_, fun alive => by rw [settle_manager _ alive]; rfl⟩
  rw [note_settle, settle_registry, settle_files, settle_stats, between]
  exact tally

theorem tally_withSession {finished : List Tick}
    (tally : Tally s.registry s.files finished 1 s.stats s.manager.session.isSome)
    (session : Session) :
    Tally s.registry s.files finished 1 (s.withSession session).stats true := by
  cases held : s.manager.session.isSome with
  | true =>
    rw [held] at tally
    simpa only [withSession, held, if_true] using tally
  | false =>
    rw [held] at tally
    simpa only [withSession, held, Bool.false_eq_true, if_false] using tally.connects

theorem Progress.tallied {began now : Int} (progress : Progress s began now t s' effects)
    (moment : t.moment = now)
    (tally : Tally s.registry s.files log.finished 1 s.stats s.manager.session.isSome) :
    Tallied s' (log.note t s' effects) := by
  cases progress with
  | connecting found free reached => exact ⟨_, tally, fun _ => rfl⟩
  | @reading session more reached => exact ⟨true, tally_withSession tally session, fun _ => rfl⟩
  | unconnected free reached =>
    have incomplete : t.completed s.registry s.files = false :=
      (Tick.Course.unconnected reached).completed_eq
    apply tallied_settle
    rw [free] at tally
    show Tally s.registry s.files _ 0 _ s.manager.session.isSome
    rw [free]
    exact tally.unconnected incomplete
  | @nothingToRead session empty reached =>
    have course : Tick.Course s.registry s.files t (some []) := .idle empty reached
    have observed := course.observations_eq moment
    apply tallied_settle
    rw [← observed]
    exact (tally_withSession tally session).completes course.completed_eq _
  | completed holds more reached said decoded =>
    have course := decoded ▸ Tick.Course.answered more reached said
    have observed := course.observations_eq moment
    apply tallied_settle
    rw [← observed]
    exact tally.completes course.completed_eq _
  | unread holds more reached said decoded =>
    have course := decoded ▸ Tick.Course.answered more reached said
    rw [holds] at tally
    apply tallied_settle
    exact tally.unread course.completed_eq

theorem Stage.unfinished_eq (stage : Stage s log) :
    s.activity.unfinished = log.cut.toList.length + log.current.toList.length := by
  cases stage with
  | idle _ activity _ cut current | waiting _ activity cut current
  | stopped _ activity _ cut current | cancelled _ activity _ cut current
  | connecting _ activity cut current | reading _ activity cut current =>
    rw [activity, cut, current]
    rfl

/-- The session that the counts speak of is the one that is held while the scheduler is alive. -/
theorem Tallied.alive (tallied : Tallied s log) (alive : s.state ≠ .stopped) :
    Tally s.registry s.files log.finished s.activity.unfinished s.stats
      s.manager.session.isSome := by
  obtain ⟨held, tally, same⟩ := tallied
  rw [same alive]
  exact tally

theorem Tallied.move (tallied : Tallied s log) (stage : Stage s log)
    (move : Move s log s' log' effects) : Tallied s' log' := by
  cases move with
  | stays => exact tallied
  | starts state activity =>
    have tally := tallied.alive (by simp [state])
    rw [activity] at tally
    exact ⟨_, tally, fun _ => rfl⟩
  | begins state activity progress =>
    have tally := tallied.alive (by simp [state])
    rw [activity] at tally
    exact progress.tallied rfl tally.begins
  | hears activity current progress =>
    have tally := tallied.alive (stage.not_stopped activity)
    rw [activity] at tally
    exact progress.tallied rfl tally
  | drains activity =>
    have tally := tallied.alive (stage.not_stopped activity)
    exact ⟨_, tally, fun _ => rfl⟩
  | stops activity =>
    obtain ⟨held, tally, _⟩ := tallied
    refine ⟨held, ?_, fun alive => absurd rfl alive⟩
    rcases activity with activity | activity <;> rw [activity] at tally <;> exact tally
  | cancels activity current =>
    obtain ⟨held, tally, _⟩ := tallied
    rw [activity] at tally
    exact ⟨held, tally, fun alive => absurd rfl alive⟩

/-- The accounts of a scheduler. -/
structure Accounted (registry : Registry) (files : Files) (s : Scheduler) (log : TickLog) :
    Prop where
  /-- Every tick has been skipped or completed, is in flight or was cut off. -/
  ticks : s.stats.ticks = s.stats.skipped + s.stats.completed + s.activity.unfinished
  /-- The ticks counted are those that have begun. -/
  begun : s.stats.ticks = log.ticks.length
  /-- The ticks counted as completed are those that came to their end with results. -/
  completed : s.stats.completed = log.finished.countP (Tick.completed registry files)
  /-- Ticks are skipped for failed connections and failed reads alone. -/
  skipped : s.stats.skipped = s.stats.connectFailures + s.stats.readFailures
  /-- At most one connection is open. -/
  connections : s.stats.openConnections = 0 ∨ s.stats.openConnections = 1
  /-- Until the scheduler has stopped, there is an open connection exactly if a session is held. -/
  held : s.state ≠ .stopped → (s.stats.openConnections = 1 ↔ s.manager.session.isSome)
  lastObservations : s.stats.lastObservations =
    .ofNat (Tick.lastObservations registry files log.finished)

theorem Tallied.accounted (tallied : Tallied s log) (stage : Stage s log) :
    Accounted s.registry s.files s log := by
  obtain ⟨held, tally, same⟩ := tallied
  have connections := tally.openConnections_eq
  refine ⟨tally.ticks, ?_, tally.completed, tally.skipped, ?_, fun alive => ?_,
    tally.lastObservations⟩
  · rw [tally.ticks, tally.ended, stage.unfinished_eq]
    simp only [TickLog.ticks, List.length_append]
    omega
  · rw [connections]
    cases held
    · exact .inl rfl
    · exact .inr rfl
  · rw [connections, same alive]
    cases held <;> simp

end

/-- The accounts of a scheduler are right at every point of every run. -/
theorem accounted_run (registry : Registry) (files : Files) (connector : Connector)
    (events : List Event) :
    Accounted registry files ((new registry files connector).run events).1
      ((new registry files connector).logFrom .empty events) := by
  have start := stage_new registry files connector
  obtain ⟨stage, tallied⟩ := run_induction (fun _ => Tallied)
    (fun _ _ _ _ _ _ stage move tallied => tallied.move stage move) events [] start
    (tallied_new registry files connector)
  have accounted := tallied.accounted stage
  obtain ⟨sameRegistry, sameFiles⟩ := run_settings events start
  rw [sameRegistry, sameFiles] at accounted
  exact accounted

theorem sample_accounted :
    let s := (Sample.scheduler.run Sample.interrupted).1
    let log := Sample.scheduler.logFrom .empty Sample.interrupted
    Accounted Sample.registry (.ofList []) s log ∧ log.ticks.length = 3 ∧
      (s.stats.skipped, s.stats.completed, s.activity.unfinished) = (1, 1, 1) ∧
      (s.stats.connectFailures, s.stats.readFailures) = (0, 1) ∧ s.stats.openConnections = 1 :=
  ⟨accounted_run _ _ _ Sample.interrupted, by decide +kernel⟩

end Scheduler

end BeanMeter
