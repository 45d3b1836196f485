import BeanMeter.Proofs.Scheduling.TickLog

/-! # Moves of a scheduler

What an event can do to a scheduler, said once for all that is proved about its runs.

* `Scheduler.Stage` — where a scheduler is, with what the log says about it.
* `Scheduler.Progress` — what becomes of a tick that has heard what it waited for.
* `Scheduler.Move` — what an event can do to a scheduler and its log.
* `Scheduler.move_of_step` — nothing else can happen, and `Scheduler.stage_of_move` the next stage.
* `Scheduler.run_induction` — what every move preserves, a run preserves.
-/

namespace BeanMeter.Scheduler

/-! ## The end of a tick -/

section

variable (s : Scheduler)

-- The parentheses keep `simp` from using these up to reduction: comparing `s.record f` with `s`
-- would compute the statistics that `f` makes.
@[simp] theorem record_registry (f : ScrapeStats → ScrapeStats) :
    (s.record f).registry = s.registry := (rfl)

@[simp] theorem record_files (f : ScrapeStats → ScrapeStats) :
    (s.record f).files = s.files := (rfl)

@[simp] theorem settle_registry : s.settle.registry = s.registry := by
  unfold settle
  split <;> rfl

@[simp] theorem settle_files : s.settle.files = s.files := by
  unfold settle
  split <;> rfl

@[simp] theorem settle_stats : s.settle.stats = s.stats := by
  unfold settle
  split <;> rfl

theorem settle_activity : s.settle.activity = .waiting ∨ s.settle.activity = .resting := by
  unfold settle
  split
  · exact .inl rfl
  · exact .inr rfl

/-- A session outlives a tick unless the tick is the last one. -/
theorem settle_manager (alive : s.settle.state ≠ .stopped) : s.settle.manager = s.manager := by
  unfold settle at alive ⊢
  split
  · rfl
  · next ends =>
    rw [if_neg ends] at alive
    exact absurd rfl alive

end

theorem note_settle (s : Scheduler) (t : Tick) (effects : List Effect) (log : TickLog) :
    log.note t s.settle effects =
      { log with finished := log.finished ++ [t], current := none } := by
  unfold TickLog.note
  rcases s.settle_activity with between | between <;> rw [between] <;> rfl

/-! ## Stages -/

/-- Where a scheduler is in its run, and what the log says about it. -/
inductive Stage (s : Scheduler) (log : TickLog) : Prop
  | idle (state : s.state = .idle) (activity : s.activity = .resting)
      (free : s.manager.session = none) (cut : log.cut = none) (current : log.current = none)
  | waiting (state : s.state = .running) (activity : s.activity = .waiting)
      (cut : log.cut = none) (current : log.current = none)
  | connecting {t : Tick} {began : Int} {request : AgentRequest}
      {resume : Reply → Exchange ConnectResult}
      (alive : s.state = .running ∨ s.state = .draining)
      (activity : s.activity = .ticking began (.connecting resume))
      (cut : log.cut = none) (current : log.current = some t) (asked : t.asked = some request)
      (found : t.manager = s.manager)
      (reached : (t.manager.current s.files).Reaches t.dialogue (.send request resume))
  | reading {t : Tick} {began : Int} {session : Session}
      (alive : s.state = .running ∨ s.state = .draining)
      (activity :
        s.activity = .ticking began (.reading fun reply => .done (session.results reply)))
      (cut : log.cut = none) (current : log.current = some t)
      (asked : t.asked = some (session.client.request (.bulkRead s.plan)))
      (holds : s.manager.session = some session) (more : s.plan ≠ [])
      (reached : (t.manager.current s.files).Reaches t.dialogue (.done (s.manager, .ok session)))
  | stopped (state : s.state = .stopped) (activity : s.activity = .resting)
      (free : s.manager.session = none) (cut : log.cut = none) (current : log.current = none)
  | cancelled {t : Tick} (state : s.state = .stopped) (activity : s.activity = .cancelled)
      (free : s.manager.session = none) (cut : log.cut = some t) (current : log.current = none)
      (course : t.Course s.registry s.files none)

theorem stage_new (registry : Registry) (files : Files) (connector : Connector) :
    Stage (new registry files connector) .empty :=
  .idle rfl rfl rfl rfl rfl

theorem stage_settle (s : Scheduler) {log : TickLog} (cut : log.cut = none)
    (current : log.current = none) : Stage s.settle log := by
  unfold settle
  split
  · next running => exact .waiting running rfl cut current
  · exact .stopped rfl rfl rfl cut current

theorem stage_note_settle (s : Scheduler) (t : Tick) (effects : List Effect) {log : TickLog}
    (cut : log.cut = none) : Stage s.settle (log.note t s.settle effects) := by
  rw [note_settle]
  exact stage_settle s cut rfl

section

variable {s : Scheduler} {log : TickLog}

theorem Stage.resting_of_idle (stage : Stage s log) (unused : s.state = .idle) :
    s.activity = .resting := by
  cases stage with
  | idle _ activity => exact activity
  | waiting state | stopped state | cancelled state => simp [state] at unused
  | connecting alive | reading alive => simp [unused] at alive

/-- Outside of ticks nothing is in flight, and nothing has been cut off. -/
theorem Stage.quiet (stage : Stage s log)
    (activity : s.activity = .resting ∨ s.activity = .waiting) :
    log.cut = none ∧ log.current = none := by
  cases stage with
  | idle _ _ _ cut current | waiting _ _ cut current | stopped _ _ _ cut current =>
    exact ⟨cut, current⟩
  | connecting _ ticking | reading _ ticking | cancelled _ ticking => simp [ticking] at activity

theorem Stage.current_course {t : Tick} (stage : Stage s log) (current : log.current = some t) :
    t.Course s.registry s.files none := by
  cases stage with
  | connecting _ _ _ same _ _ reached =>
    rw [current] at same
    cases same
    exact .connecting reached
  | reading _ _ _ same _ _ more reached =>
    rw [current] at same
    cases same
    exact .reading more reached
  | idle _ _ _ _ none | waiting _ _ _ none | stopped _ _ _ _ none | cancelled _ _ _ _ none =>
    simp [current] at none

/-- Neither the tick in flight nor one that was cut off has come to its end. -/
theorem Stage.unfinished_course {t : Tick} (stage : Stage s log)
    (unfinished : log.cut = some t ∨ log.current = some t) :
    t.Course s.registry s.files none := by
  rcases unfinished with cutOff | current
  · cases stage with
    | cancelled _ _ _ cut _ course =>
      rw [cutOff] at cut
      cases cut
      exact course
    | idle _ _ _ cut | waiting _ _ cut | stopped _ _ _ cut | connecting _ _ cut
    | reading _ _ cut => simp [cutOff] at cut
  · exact stage.current_course current

/-- A tick is only in flight while the scheduler is alive. -/
theorem Stage.ticking {began : Int} {pending : Pending} (stage : Stage s log)
    (activity : s.activity = .ticking began pending) :
    (s.state = .running ∨ s.state = .draining) ∧ log.cut = none := by
  cases stage with
  | connecting alive _ cut | reading alive _ cut => exact ⟨alive, cut⟩
  | idle _ other | waiting _ other | stopped _ other | cancelled _ other =>
    simp [activity] at other

theorem Stage.not_stopped {began : Int} {pending : Pending} (stage : Stage s log)
    (activity : s.activity = .ticking began pending) : s.state ≠ .stopped := by
  rcases (stage.ticking activity).1 with state | state <;> simp [state]

end

/-! ## Progress within a tick -/

/-- The scheduler once it has a session; a session that was held already is no new connection. -/
def withSession (session : Session) (s : Scheduler) : Scheduler where
  registry := s.registry
  files := s.files
  manager := { s.manager with session := some session }
  stats := if s.manager.session.isSome then s.stats else s.stats.connected true
  state := s.state
  activity := s.activity

@[simp] theorem withSession_registry (session : Session) (s : Scheduler) :
    (s.withSession session).registry = s.registry := rfl

@[simp] theorem withSession_files (session : Session) (s : Scheduler) :
    (s.withSession session).files = s.files := rfl

/-- What becomes of a scheduler in a tick that has heard what it waited for, and what it does. -/
inductive Progress (s : Scheduler) (began now : Int) (t : Tick) :
    Scheduler → List Effect → Prop
  | connecting {request : AgentRequest} {resume : Reply → Exchange ConnectResult}
      (found : t.manager = s.manager) (free : s.manager.session = none)
      (reached : (t.manager.current s.files).Reaches t.dialogue (.send request resume)) :
      Progress s began now t { s with activity := .ticking began (.connecting resume) }
        [.sent request]
  | unconnected {e : ConnectionError} (free : s.manager.session = none)
      (reached : (t.manager.current s.files).Reaches t.dialogue (.done (s.manager, .error e))) :
      Progress s began now t (s.record (ScrapeStats.connected false)).skipTick []
  | reading {session : Session} (more : s.plan ≠ [])
      (reached : (t.manager.current s.files).Reaches t.dialogue
        (.done ({ s.manager with session := some session }, .ok session))) :
      Progress s began now t
        { s.withSession session with
          activity := .ticking began (.reading fun reply => .done (session.results reply)) }
        [.sent (session.client.request (.bulkRead s.plan))]
  | nothingToRead {session : Session} (empty : s.plan = [])
      (reached : (t.manager.current s.files).Reaches t.dialogue
        (.done ({ s.manager with session := some session }, .ok session))) :
      Progress s began now t
        ((s.withSession session).record (ScrapeStats.tickDone
          (s.registry.observe (ReadResults.ofResponses []) now).length
          (secondsBetween began now))).settle
        ((Emission.ofObservations
          (s.registry.observe (ReadResults.ofResponses []) now)).map .emitted)
  | completed {session : Session} {probes : Dialogue} {reply : Reply} {responses : List Response}
      (holds : s.manager.session = some session) (more : s.plan ≠ [])
      (reached : (t.manager.current s.files).Reaches probes (.done (s.manager, .ok session)))
      (said : t.dialogue = probes ++ [(session.client.request (.bulkRead s.plan), reply)])
      (decoded : reply.responses? = some responses) :
      Progress s began now t
        (s.record (ScrapeStats.tickDone
          (s.registry.observe (ReadResults.ofResponses responses) now).length
          (secondsBetween began now))).settle
        ((Emission.ofObservations
          (s.registry.observe (ReadResults.ofResponses responses) now)).map .emitted)
  | unread {session : Session} {probes : Dialogue} {reply : Reply}
      (holds : s.manager.session = some session) (more : s.plan ≠ [])
      (reached : (t.manager.current s.files).Reaches probes (.done (s.manager, .ok session)))
      (said : t.dialogue = probes ++ [(session.client.request (.bulkRead s.plan), reply)])
      (decoded : reply.responses? = none) :
      Progress s began now t
        ({ s with manager := s.manager.drop }.record ScrapeStats.readFailed).skipTick []

theorem goOnConnecting_ok (s : Scheduler) (session : Session) (began now : Int) :
    s.goOnConnecting s.manager.session.isSome began now
        (.done ({ s.manager with session := some session }, .ok session)) =
      (s.withSession session).goOnReading began now (session.read s.plan) := by
  unfold goOnConnecting withSession
  dsimp only
  split <;> rfl

theorem progress_of_connecting {s : Scheduler} {t : Tick} {began now : Int}
    {x : Exchange ConnectResult} (found : t.manager = s.manager)
    (reached : (t.manager.current s.files).Reaches t.dialogue x) :
    Progress s began now t (s.goOnConnecting s.manager.session.isSome began now x).1
      (s.goOnConnecting s.manager.session.isSome began now x).2 := by
  have gets := ((t.manager.current_probes s.files).reached reached).2
  cases x with
  | send request resume =>
    exact .connecting found (found ▸ SessionManager.free_of_current reached) reached
  | done result =>
    obtain ⟨m, result⟩ := result
    rw [found] at gets
    cases result with
    | error e =>
      obtain ⟨rfl, free⟩ : m = s.manager ∧ s.manager.session = none := gets
      exact .unconnected free reached
    | ok session =>
      obtain rfl : m = { s.manager with session := some session } := gets
      rw [goOnConnecting_ok, Session.read]
      split
      · next empty => exact .nothingToRead empty reached
      · next more => exact .reading more reached

theorem progress_of_reading {s : Scheduler} {t : Tick} {began now : Int} {session : Session}
    {probes : Dialogue} {reply : Reply} (holds : s.manager.session = some session)
    (more : s.plan ≠ [])
    (reached : (t.manager.current s.files).Reaches probes (.done (s.manager, .ok session)))
    (said : t.dialogue = probes ++ [(session.client.request (.bulkRead s.plan), reply)]) :
    Progress s began now t (s.goOnReading began now (.done (session.results reply))).1
      (s.goOnReading began now (.done (session.results reply))).2 := by
  cases decoded : reply.responses? with
  | some responses =>
    rw [Session.results_of_some decoded]
    exact .completed holds more reached said decoded
  | none =>
    obtain ⟨e, failed⟩ := Session.results_of_none (s := session) decoded
    rw [failed]
    exact .unread holds more reached said decoded

/-! ## Moves -/

/-- What an event can do to a scheduler and its log: the scheduler and the log afterwards, and the
effects. -/
inductive Move (s : Scheduler) (log : TickLog) : Scheduler → TickLog → List Effect → Prop
  | stays : Move s log s log []
  | starts (state : s.state = .idle) (activity : s.activity = .resting) :
      Move s log { s with state := .running, activity := .waiting } log []
  | begins {now : Int} {s' : Scheduler} {effects : List Effect} (state : s.state = .running)
      (activity : s.activity = .waiting)
      (progress : Progress (s.record ScrapeStats.tickStarted) now now (Tick.start s.manager now)
        s' effects) :
      Move s log s' (log.note (Tick.start s.manager now) s' effects) effects
  | hears {t : Tick} {began now : Int} {pending : Pending} {reply : Reply} {s' : Scheduler}
      {effects : List Effect} (activity : s.activity = .ticking began pending)
      (current : log.current = some t)
      (progress : Progress s began now (t.hear now reply) s' effects) :
      Move s log s' (log.note (t.hear now reply) s' effects) effects
  /-- A tick in flight is to be the last one. -/
  | drains {began : Int} {pending : Pending} (activity : s.activity = .ticking began pending) :
      Move s log { s with state := .draining } log []
  /-- The scheduler ends between ticks. -/
  | stops (activity : s.activity = .resting ∨ s.activity = .waiting) :
      Move s log { s with state := .stopped, activity := .resting, manager := s.manager.drop }
        log []
  | cancels {t : Tick} {began : Int} {pending : Pending}
      (activity : s.activity = .ticking began pending) (current : log.current = some t) :
      Move s log { s with state := .stopped, activity := .cancelled, manager := s.manager.drop }
        { log with cut := some t, current := none } []

section

variable {s : Scheduler} {log : TickLog}

/-- The log only follows what happens to ticks. -/
theorem record_start : log.record s .start = log := by
  unfold TickLog.record
  cases s.activity <;> cases log.current <;> rfl

theorem record_shutdown : log.record s .shutdown = log := by
  unfold TickLog.record
  cases s.activity <;> cases log.current <;> rfl

theorem move_of_start (stage : Stage s log) :
    Move s log (s.step .start).1 (log.record s .start) (s.step .start).2 := by
  rw [record_start]
  by_cases unused : s.state = .idle
  · simp only [step, start, unused, if_true]
    exact .starts unused (stage.resting_of_idle unused)
  · simp only [step, start, unused, if_false]
    exact .stays

theorem move_of_fire (stage : Stage s log) (now : Int) :
    Move s log (s.step (.fire now)).1 (log.record s (.fire now)) (s.step (.fire now)).2 := by
  cases stage with
  | waiting state activity =>
    simp only [TickLog.record, step, fire, activity]
    exact .begins state activity (progress_of_connecting rfl .refl)
  | idle _ activity | stopped _ activity | cancelled _ activity =>
    simp only [TickLog.record, step, fire, activity]
    exact .stays
  | connecting _ activity _ current | reading _ activity _ current =>
    simp only [TickLog.record, step, fire, activity, current]
    exact .stays

theorem move_of_receive (stage : Stage s log) (now : Int) (reply : Reply) :
    Move s log (s.step (.receive now reply)).1 (log.record s (.receive now reply))
      (s.step (.receive now reply)).2 := by
  cases stage with
  | @connecting t began request resume _ activity _ current asked found reached =>
    simp only [TickLog.record, step, receive, activity, current]
    have free : s.manager.session = none := found ▸ SessionManager.free_of_current reached
    have heard : ((t.hear now reply).manager.current s.files).Reaches
        (t.hear now reply).dialogue (resume reply) := by
      simpa [Tick.hear, asked] using reached.hear reply
    have progress : Progress s began now (t.hear now reply) _ _ :=
      progress_of_connecting found heard
    rw [free] at progress
    exact .hears activity current progress
  | reading _ activity _ current asked holds more reached =>
    simp only [TickLog.record, step, receive, activity, current]
    refine .hears activity current (progress_of_reading holds more reached ?_)
    simp [Tick.hear, asked]
  | idle _ activity | waiting _ activity | stopped _ activity | cancelled _ activity =>
    simp only [TickLog.record, step, receive, activity]
    exact .stays

theorem move_of_shutdown (stage : Stage s log) :
    Move s log (s.step .shutdown).1 (log.record s .shutdown) (s.step .shutdown).2 := by
  rw [record_shutdown]
  cases stage with
  | idle _ activity | stopped _ activity =>
    simp only [step, shutdown, activity]
    exact .stops (.inl activity)
  | waiting _ activity =>
    simp only [step, shutdown, activity]
    exact .stops (.inr activity)
  | connecting _ activity | reading _ activity =>
    have taken : s.shutdown = { s with state := .draining } := by
      simp only [shutdown, activity]
    simp only [step, taken]
    exact .drains activity
  | cancelled _ activity =>
    simp only [step, shutdown, activity]
    exact .stays

/-- A tick in flight is only cut off after a shutdown. -/
theorem move_of_expire_ticking {t : Tick} {began : Int} {pending : Pending}
    (activity : s.activity = .ticking began pending) (current : log.current = some t) :
    Move s log (s.step .expire).1 (log.record s .expire) (s.step .expire).2 := by
  simp only [TickLog.record, step, activity, current]
  by_cases draining : s.state = .draining
  · simp only [expire, draining, if_true]
    exact .cancels activity current
  · simp only [expire, draining, if_false, activity]
    exact .stays

theorem move_of_expire (stage : Stage s log) :
    Move s log (s.step .expire).1 (log.record s .expire) (s.step .expire).2 := by
  cases stage with
  | connecting _ activity _ current | reading _ activity _ current =>
    exact move_of_expire_ticking activity current
  | idle state activity | waiting state activity | stopped state activity
  | cancelled state activity =>
    simp only [TickLog.record, step, expire, activity, state, reduceCtorEq, if_false]
    exact .stays

end

theorem move_of_step {s : Scheduler} {log : TickLog} (stage : Stage s log) (e : Event) :
    Move s log (s.step e).1 (log.record s e) (s.step e).2 := by
  cases e with
  | start => exact move_of_start stage
  | fire now => exact move_of_fire stage now
  | receive now reply => exact move_of_receive stage now reply
  | shutdown => exact move_of_shutdown stage
  | expire => exact move_of_expire stage

/-! ## The next stage -/

theorem Progress.stage {s s' : Scheduler} {t : Tick} {began now : Int} {effects : List Effect}
    {log : TickLog} (progress : Progress s began now t s' effects)
    (alive : s.state = .running ∨ s.state = .draining) (cut : log.cut = none) :
    Stage s' (log.note t s' effects) := by
  cases progress with
  | connecting found free reached => exact .connecting alive rfl cut rfl rfl found reached
  | reading more reached => exact .reading alive rfl cut rfl rfl rfl more reached
  | unconnected | nothingToRead | completed | unread => exact stage_note_settle _ t _ cut

/-- A tick in flight goes on after a shutdown. -/
theorem Stage.drain {s : Scheduler} {log : TickLog} {began : Int} {pending : Pending}
    (stage : Stage s log) (activity : s.activity = .ticking began pending) :
    Stage { s with state := .draining } log := by
  cases stage with
  | connecting _ waits cut current asked found reached =>
    exact .connecting (.inr rfl) waits cut current asked found reached
  | reading _ waits cut current asked holds more reached =>
    exact .reading (.inr rfl) waits cut current asked holds more reached
  | idle _ other | waiting _ other | stopped _ other | cancelled _ other =>
    simp [activity] at other

theorem stage_of_move {s s' : Scheduler} {log log' : TickLog} {effects : List Effect}
    (stage : Stage s log) (move : Move s log s' log' effects) : Stage s' log' := by
  cases move with
  | stays => exact stage
  | starts state activity =>
    obtain ⟨cut, current⟩ := stage.quiet (.inl activity)
    exact .waiting rfl rfl cut current
  | begins state activity progress =>
    exact progress.stage (.inl state) (stage.quiet (.inr activity)).1
  | hears activity current progress =>
    obtain ⟨alive, cut⟩ := stage.ticking activity
    exact progress.stage alive cut
  | drains activity => exact stage.drain activity
  | stops activity =>
    obtain ⟨cut, current⟩ := stage.quiet activity
    exact .stopped rfl rfl rfl cut current
  | cancels activity current =>
    exact .cancelled rfl rfl rfl rfl rfl (stage.current_course current)

/-! ## Settings -/

theorem Progress.settings {s s' : Scheduler} {t : Tick} {began now : Int}
    {effects : List Effect} (progress : Progress s began now t s' effects) :
    s'.registry = s.registry ∧ s'.files = s.files := by
  cases progress with
  | connecting | reading => exact ⟨rfl, rfl⟩
  | unconnected | nothingToRead | completed | unread => simp [skipTick]

/-- What is read in every tick never changes. -/
theorem Move.settings {s s' : Scheduler} {log log' : TickLog} {effects : List Effect}
    (move : Move s log s' log' effects) : s'.registry = s.registry ∧ s'.files = s.files := by
  cases move with
  | begins _ _ progress | hears _ _ progress => exact progress.settings
  | stays | starts | drains | stops | cancels => exact ⟨rfl, rfl⟩

/-! ## Runs -/

theorem run_cons (s : Scheduler) (e : Event) (rest : List Event) :
    s.run (e :: rest) =
      (((s.step e).1.run rest).1, (s.step e).2 ++ ((s.step e).1.run rest).2) := rfl

/-- What every move preserves, a run preserves, together with its stage. The invariant may speak of
all effects so far. -/
theorem run_induction (Inv : List Effect → Scheduler → TickLog → Prop)
    (kept : ∀ past s log s' log' effects, Stage s log → Move s log s' log' effects →
      Inv past s log → Inv (past ++ effects) s' log')
    (events : List Event) (past : List Effect) {s : Scheduler} {log : TickLog}
    (stage : Stage s log) (start : Inv past s log) :
    Stage (s.run events).1 (s.logFrom log events) ∧
      Inv (past ++ (s.run events).2) (s.run events).1 (s.logFrom log events) := by
  induction events generalizing past s log with
  | nil =>
    refine ⟨stage, ?_⟩
    rw [run, List.append_nil]
    exact start
  | cons e rest ih =>
    have move := move_of_step stage e
    have next := ih _ (stage_of_move stage move) (kept past s log _ _ _ stage move start)
    rw [run_cons, logFrom, ← List.append_assoc]
    exact next

theorem run_settings (events : List Event) {s : Scheduler} {log : TickLog}
    (stage : Stage s log) :
    (s.run events).1.registry = s.registry ∧ (s.run events).1.files = s.files := by
  refine (run_induction (fun _ now _ => now.registry = s.registry ∧ now.files = s.files)
    ?_ events [] stage ⟨rfl, rfl⟩).2
  intro _ _ _ _ _ _ _ move same
  exact ⟨move.settings.1.trans same.1, move.settings.2.trans same.2⟩

end BeanMeter.Scheduler
