import BeanMeter.Proofs.Scheduling.Move

/-! # What the emitter gets

Ticks are atomic for the emitter: it gets all of a tick that comes to its end with results, and
nothing at all of any other tick.

* `Emitted` — what has been emitted, set against the ticks that have come to their end; the
  invariant of a run.
* `Scheduler.emissions_run` — the emissions of every run, tick by tick.
-/

namespace BeanMeter

/-! ## Emissions of effects and ticks -/

theorem Effect.emissions_append (first second : List Effect) :
    Effect.emissions (first ++ second) = Effect.emissions first ++ Effect.emissions second :=
  List.filterMap_append

theorem Effect.emissions_emitted (emissions : List Emission) :
    Effect.emissions (emissions.map .emitted) = emissions := by
  rw [Effect.emissions, List.filterMap_map]
  exact List.filterMap_some

namespace Tick

variable {registry : Registry} {files : Files} {t : Tick}

theorem Course.emissions_none (course : Course registry files t none) :
    t.emissions registry files = [] := by
  rw [emissions, course.completed_eq]
  rfl

theorem Course.emissions_some {responses : List Response} {now : Int}
    (course : Course registry files t (some responses)) (moment : t.moment = now) :
    t.emissions registry files = Emission.ofObservations
      (registry.observe (ReadResults.ofResponses responses) now) := by
  rw [emissions, course.completed_eq, course.observations_eq moment]
  rfl

theorem flatMap_emissions (registry : Registry) (files : Files) (ticks : List Tick) :
    ticks.flatMap (Tick.emissions registry files) =
      (ticks.filter (Tick.completed registry files)).flatMap
        fun t => Emission.ofObservations (t.observations registry) := by
  induction ticks with
  | nil => rfl
  | cons t rest ih =>
    rw [List.flatMap_cons, ih, List.filter_cons, emissions]
    split <;> simp

end Tick

namespace TickLog

theorem mem_ticks {log : TickLog} {t : Tick} :
    t ∈ log.ticks ↔ t ∈ log.finished ∨ log.cut = some t ∨ log.current = some t := by
  simp [ticks]

/-- Ticks that have not come to their end do not count where they come to nothing. -/
theorem flatMap_ticks {log : TickLog} {f : Tick → List Emission}
    (silent : ∀ t, log.cut = some t ∨ log.current = some t → f t = []) :
    log.ticks.flatMap f = log.finished.flatMap f := by
  have cut : log.cut.toList.flatMap f = [] :=
    List.flatMap_eq_nil_iff.mpr fun t member => silent t (.inl (Option.mem_toList.mp member))
  have current : log.current.toList.flatMap f = [] :=
    List.flatMap_eq_nil_iff.mpr fun t member => silent t (.inr (Option.mem_toList.mp member))
  rw [ticks, List.flatMap_append, List.flatMap_append, cut, current, List.append_nil,
    List.append_nil]

end TickLog

/-! ## Runs -/

/-- What has been emitted so far is what the ticks come to that have ended. -/
structure Emitted (registry : Registry) (files : Files) (past : List Effect) (log : TickLog) :
    Prop where
  emissions : Effect.emissions past = log.finished.flatMap (Tick.emissions registry files)
  courses : ∀ t ∈ log.finished, ∃ ended, t.Course registry files ended

theorem emitted_empty (registry : Registry) (files : Files) : Emitted registry files [] .empty where
  emissions := rfl
  courses := fun _ member => (List.not_mem_nil member).elim

namespace Scheduler

section

variable {s s' : Scheduler} {log log' : TickLog} {t : Tick} {past effects : List Effect}

theorem emitted_settle {registry : Registry} {files : Files} {ended : Option (List Response)}
    (emitted : Emitted registry files past log) (course : t.Course registry files ended)
    (more : Effect.emissions effects = t.emissions registry files) :
    Emitted registry files (past ++ effects) (log.note t s.settle effects) := by
  rw [note_settle]
  constructor
  · rw [Effect.emissions_append, emitted.emissions, more, List.flatMap_append,
      List.flatMap_singleton]
  · intro t' member
    rcases List.mem_append.mp member with earlier | last
    · exact emitted.courses t' earlier
    · rw [List.mem_singleton.mp last]
      exact ⟨ended, course⟩

theorem Progress.emitted {began now : Int} (progress : Progress s began now t s' effects)
    (moment : t.moment = now) (emitted : Emitted s.registry s.files past log) :
    Emitted s.registry s.files (past ++ effects) (log.note t s' effects) := by
  cases progress with
  | connecting | reading =>
    refine ⟨?_, emitted.courses⟩
    rw [Effect.emissions_append, emitted.emissions]
    exact List.append_nil _
  | unconnected free reached =>
    have course : t.Course s.registry s.files none := .unconnected reached
    exact emitted_settle emitted course course.emissions_none.symm
  | nothingToRead empty reached =>
    have course : t.Course s.registry s.files (some []) := .idle empty reached
    apply emitted_settle emitted course
    rw [Effect.emissions_emitted]
    exact (course.emissions_some moment).symm
  | completed holds more reached said decoded =>
    have course := decoded ▸ Tick.Course.answered more reached said
    apply emitted_settle emitted course
    rw [Effect.emissions_emitted]
    exact (course.emissions_some moment).symm
  | unread holds more reached said decoded =>
    have course := decoded ▸ Tick.Course.answered more reached said
    exact emitted_settle emitted course course.emissions_none.symm

theorem Move.emitted (move : Move s log s' log' effects)
    (emitted : Emitted s.registry s.files past log) :
    Emitted s'.registry s'.files (past ++ effects) log' := by
  rw [move.settings.1, move.settings.2]
  cases move with
  | begins state activity progress => exact progress.emitted rfl emitted
  | hears activity current progress => exact progress.emitted rfl emitted
  | stays | starts | drains | stops | cancels =>
    rw [List.append_nil]
    exact ⟨emitted.emissions, emitted.courses⟩

end

/-- The emitter gets, for the ticks that come to their end with results and in their order, the
observations in the reply of the tick between its two marks, and nothing else. Those ticks are the
ones that got the responses to their bulk read, and neither a tick that was cut off nor one in
flight is among them. -/
theorem emissions_run (registry : Registry) (files : Files) (connector : Connector)
    (events : List Event) :
    let log := (new registry files connector).logFrom .empty events
    Effect.emissions ((new registry files connector).run events).2 =
        ((log.ticks.filter (Tick.completed registry files)).flatMap fun t =>
          [.beginTick] ++
            (registry.observe (ReadResults.ofResponses t.responses) t.moment).map .observation ++
            [.endTick]) ∧
      (∀ t, log.cut = some t ∨ log.current = some t → t.completed registry files = false) ∧
      ∀ t ∈ log.ticks, registry.readPlan ≠ [] →
        (t.completed registry files = true ↔
          ∃ responses, t.readReply?.bind Reply.responses? = some responses) := by
  intro log
  have start := stage_new registry files connector
  obtain ⟨stage, emitted⟩ := run_induction
    (fun past now log => Emitted now.registry now.files past log)
    (fun _ _ _ _ _ _ _ move emitted => move.emitted emitted) events [] start
    (emitted_empty registry files)
  obtain ⟨sameRegistry, sameFiles⟩ := run_settings events start
  have unfinished : ∀ t, log.cut = some t ∨ log.current = some t →
      t.Course registry files none := by
    intro t among
    have course := stage.unfinished_course among
    rw [sameRegistry, sameFiles] at course
    exact course
  rw [sameRegistry, sameFiles] at emitted
  refine ⟨?_, ?_, ?_⟩
  · calc Effect.emissions ((new registry files connector).run events).2
        = log.finished.flatMap (Tick.emissions registry files) := emitted.emissions
      _ = log.ticks.flatMap (Tick.emissions registry files) :=
        (TickLog.flatMap_ticks fun t among => (unfinished t among).emissions_none).symm
      _ = _ := Tick.flatMap_emissions registry files log.ticks
  · intro t among
    exact (unfinished t among).completed_eq
  · intro t member more
    have courses : ∃ ended, t.Course registry files ended := by
      rcases TickLog.mem_ticks.mp member with finished | among
      · exact emitted.courses t finished
      · exact ⟨none, unfinished t among⟩
    obtain ⟨ended, course⟩ := courses
    rw [course.completed_eq, course.readReply?_eq more, Option.isSome_iff_exists]

/-- Of three ticks the first one gets its results, and only its observations reach the emitter. -/
theorem sample_emissions :
    let log := Sample.scheduler.logFrom .empty Sample.interrupted
    log.ticks.map (Tick.completed Sample.registry (.ofList [])) = [true, false, false] ∧
      Effect.emissions (Sample.scheduler.run Sample.interrupted).2 =
        [.beginTick, .observation ⟨"jvm.threads", .gauge, .ofNat 42, .empty, 2, none, none⟩,
          .endTick] ∧
      Effect.emissions (Sample.scheduler.run Sample.interrupted).2 =
        (log.ticks.filter (Tick.completed Sample.registry (.ofList []))).flatMap fun t =>
          [.beginTick] ++ (Sample.registry.observe (ReadResults.ofResponses t.responses)
            t.moment).map .observation ++ [.endTick] :=
  ⟨by decide +kernel, by decide +kernel, (emissions_run _ _ _ Sample.interrupted).1⟩

end Scheduler

end BeanMeter
