import BeanMeter.Exposition.SeriesStore
import Mathlib.Data.List.DropRight
import Mathlib.Data.List.Induction

/-! # Which series are held

What a tick has not refreshed is dropped at its end, and until then nothing is. The number of the
tick, which stands beside every sample, has to tell these apart; it does as long as no number is
used twice.

* `Emission.sinceBegin` — what has been emitted since the latest tick began.
* `SeriesStore.Stamped` — what the numbers in a store say about the past; the invariant of a run.
* `SeriesStore.series_held_run` — the series that are held at every moment of a run.
-/

namespace BeanMeter

/-! ## What has been emitted -/

namespace Emission

variable {past : List Emission}

def observation? : Emission → Option Observation
  | .observation o => some o
  | .beginTick | .endTick => none

def observations (emissions : List Emission) : List Observation := emissions.filterMap observation?

theorem observations_beginTick : observations (past ++ [.beginTick]) = observations past := by
  simp [observations, observation?]

theorem observations_observation {o : Observation} :
    observations (past ++ [.observation o]) = observations past ++ [o] := by
  simp [observations, observation?]

theorem observations_endTick : observations (past ++ [.endTick]) = observations past := by
  simp [observations, observation?]

/-- The observations since the latest tick began, or all of them if none has begun. -/
def sinceBegin (emissions : List Emission) : List Observation :=
  observations (emissions.rtakeWhile (· ≠ .beginTick))

theorem sinceBegin_beginTick : sinceBegin (past ++ [.beginTick]) = [] := by
  simp [sinceBegin, observations]

theorem sinceBegin_observation {o : Observation} :
    sinceBegin (past ++ [.observation o]) = sinceBegin past ++ [o] := by
  simp [sinceBegin, observations, observation?]

theorem sinceBegin_endTick : sinceBegin (past ++ [.endTick]) = sinceBegin past := by
  simp [sinceBegin, observations, observation?]

end Emission

/-! ## The newest sample of a series -/

/-- Labels under the names that they are exposed by. -/
def sanitizeLabels (labels : SortedMap String String) : SortedMap String String :=
  .ofList (labels.entries.map fun (label, value) => (sanitizeLabel label, value))

/-- What tells the series of an observation from others: its name and its labels, as they are
exposed. -/
def Observation.seriesKey (o : Observation) : SeriesKey :=
  (sanitizeName o.name, (sanitizeLabels o.labels).entries)

/-- The sample of the last observation that belongs to a series. -/
def newest? (key : SeriesKey) (os : List Observation) : Option Sample :=
  (os.filter fun o => o.seriesKey = key).getLast?.map Sample.ofObservation

section

variable {key : SeriesKey} {os : List Observation} {o : Observation}

@[simp] theorem newest?_nil : newest? key [] = none := rfl

theorem newest?_concat : newest? key (os ++ [o]) =
    if o.seriesKey = key then some (Sample.ofObservation o) else newest? key os := by
  by_cases same : o.seriesKey = key <;> simp [newest?, List.filter_append, same]

theorem isSome_newest?_iff : (newest? key os).isSome ↔ ∃ o ∈ os, o.seriesKey = key := by
  simp [newest?]

end

/-! ## Runs -/

namespace SeriesStore

/-- What becomes of a store when an emitter gets one thing after the other. -/
def run (s : SeriesStore) (emissions : List Emission) : SeriesStore := emissions.foldl take s

/-- The sample that is held of a series. -/
def sample? (s : SeriesStore) (key : SeriesKey) : Option Sample :=
  (s.series.get? key).map (·.sample)

section

variable {s : SeriesStore} {past later : List Emission} {key : SeriesKey} {o : Observation}

theorem run_append : s.run (past ++ later) = (s.run past).run later := List.foldl_append

theorem get?_emit : (s.emit o).series.get? key =
    if key = o.seriesKey then some ⟨s.generation, Sample.ofObservation o⟩
    else s.series.get? key :=
  SortedMap.get?_insert _ _ _ _

theorem get?_endTick : s.endTick.series.get? key =
    (s.series.get? key).filter (·.generation == s.generation) :=
  SortedMap.get?_filter _ _ _

theorem sample?_emit : (s.emit o).sample? key =
    if o.seriesKey = key then some (Sample.ofObservation o) else s.sample? key := by
  rw [sample?, get?_emit]
  by_cases same : o.seriesKey = key
  · simp [same]
  · simp [same, Ne.symm same, sample?]

theorem mem_keys_iff : key ∈ s.series.keys ↔ (s.sample? key).isSome := by
  rw [SortedMap.mem_keys_iff, sample?, Option.isSome_map, Option.isSome_iff_exists]

/-- Until a tick ends, the newest sample of a series counts, and no series is dropped. -/
theorem sample?_run_of_open (s : SeriesStore) (key : SeriesKey) (goesOn : .endTick ∉ later) :
    (s.run later).sample? key =
      (newest? key (Emission.observations later)).or (s.sample? key) := by
  induction later using List.reverseRecOn with
  | nil => rfl
  | append_singleton later e ih =>
    rw [List.mem_append, List.mem_singleton, not_or] at goesOn
    rw [run_append]
    have before := ih goesOn.1
    cases e with
    | beginTick =>
      rw [Emission.observations_beginTick]
      exact before
    | observation o =>
      change ((s.run later).emit o).sample? key = _
      rw [sample?_emit, before, Emission.observations_observation, newest?_concat]
      split <;> rfl
    | endTick => exact absurd rfl goesOn.2

/-! ## Numbers of ticks -/

/-- A sample bears the number of the current tick if it has been refreshed since that tick began,
and otherwise the number of an earlier one. -/
structure Stamped (past : List Emission) (s : SeriesStore) : Prop where
  generation : s.generation = UInt64.ofNat (past.count .beginTick)
  fresh : ∀ key sample, newest? key (Emission.sinceBegin past) = some sample →
    s.series.get? key = some ⟨s.generation, sample⟩
  stale : ∀ key x, newest? key (Emission.sinceBegin past) = none → s.series.get? key = some x →
    ∃ earlier < past.count .beginTick, x.generation = UInt64.ofNat earlier

theorem stamped_empty : Stamped [] empty where
  generation := rfl
  fresh := by
    intro key sample found
    cases found
  stale := by
    intro key x _ held
    cases held

theorem Stamped.beginTick (stamped : Stamped past s) :
    Stamped (past ++ [.beginTick]) s.beginTick where
  generation := by
    rw [List.count_append, List.count_singleton_self, UInt64.ofNat_add, ← stamped.generation]
    rfl
  fresh := by
    intro key sample found
    rw [Emission.sinceBegin_beginTick] at found
    cases found
  stale := by
    intro key x _ held
    change s.series.get? key = some x at held
    rw [List.count_append, List.count_singleton_self]
    cases refreshed : newest? key (Emission.sinceBegin past) with
    | none =>
      obtain ⟨earlier, before, number⟩ := stamped.stale key x refreshed held
      exact ⟨earlier, by omega, number⟩
    | some sample =>
      -- What was fresh becomes stale, with the number of the tick that ends here.
      rw [stamped.fresh key sample refreshed, Option.some.injEq] at held
      exact ⟨past.count .beginTick, by omega, by rw [← held, stamped.generation]⟩

theorem Stamped.emit (stamped : Stamped past s) (o : Observation) :
    Stamped (past ++ [.observation o]) (s.emit o) where
  generation := by
    rw [List.count_append]
    exact stamped.generation
  fresh := by
    intro key sample found
    rw [Emission.sinceBegin_observation, newest?_concat] at found
    rw [get?_emit]
    by_cases same : o.seriesKey = key
    · rw [if_pos same, Option.some.injEq] at found
      rw [if_pos same.symm, found]
      rfl
    · rw [if_neg same] at found
      rw [if_neg (Ne.symm same)]
      exact stamped.fresh key sample found
  stale := by
    intro key x missing held
    rw [Emission.sinceBegin_observation, newest?_concat] at missing
    rw [get?_emit] at held
    by_cases same : o.seriesKey = key
    · simp [same] at missing
    · rw [if_neg same] at missing
      rw [if_neg (Ne.symm same)] at held
      rw [List.count_append]
      exact stamped.stale key x missing held

theorem Stamped.endTick (stamped : Stamped past s) : Stamped (past ++ [.endTick]) s.endTick where
  generation := by
    rw [List.count_append]
    exact stamped.generation
  fresh := by
    intro key sample found
    rw [Emission.sinceBegin_endTick] at found
    rw [get?_endTick, stamped.fresh key sample found]
    simp [SeriesStore.endTick]
  stale := by
    intro key x missing held
    rw [Emission.sinceBegin_endTick] at missing
    rw [get?_endTick, Option.filter_eq_some_iff] at held
    rw [List.count_append]
    exact stamped.stale key x missing held.1

theorem stamped_run (past : List Emission) : Stamped past (empty.run past) := by
  -- From the end of the run, where the latest tick is looked for.
  induction past using List.reverseRecOn with
  | nil => exact stamped_empty
  | append_singleton past e stamped =>
    rw [run_append]
    cases e with
    | beginTick => exact stamped.beginTick
    | observation o => exact stamped.emit o
    | endTick => exact stamped.endTick

/-- Numbers that have not started over tell what has been refreshed from what has not. -/
theorem Stamped.sample?_endTick (stamped : Stamped past s)
    (few : past.count .beginTick < UInt64.size) (key : SeriesKey) :
    s.endTick.sample? key = newest? key (Emission.sinceBegin past) := by
  rw [sample?, get?_endTick]
  cases refreshed : newest? key (Emission.sinceBegin past) with
  | some sample => simp [stamped.fresh key sample refreshed]
  | none =>
    cases held : s.series.get? key with
    | none => rfl
    | some x =>
      obtain ⟨earlier, before, number⟩ := stamped.stale key x refreshed held
      have other : x.generation ≠ s.generation := by
        rw [number, stamped.generation]
        intro same
        have numbers := congrArg UInt64.toNat same
        rw [UInt64.toNat_ofNat_of_lt' (before.trans few), UInt64.toNat_ofNat_of_lt' few] at numbers
        omega
      simp [other]

end

/-- When a tick has ended, the series that are held are those of the observations since the latest
tick began, each with its newest sample. From then on a series is only ever replaced by a newer
sample of it, until another tick ends. -/
theorem series_held_run (emissions : List Emission)
    (few : emissions.count .beginTick < UInt64.size) :
    (∀ past, emissions = past ++ [.endTick] →
      (∀ key, key ∈ (empty.run emissions).series.keys ↔
        ∃ o ∈ Emission.sinceBegin past, o.seriesKey = key) ∧
      ∀ key, (empty.run emissions).sample? key = newest? key (Emission.sinceBegin past)) ∧
    ∀ past later, emissions = past ++ later → .endTick ∉ later → ∀ key,
      (key ∈ (empty.run past).series.keys → key ∈ (empty.run emissions).series.keys) ∧
      (empty.run emissions).sample? key =
        (newest? key (Emission.observations later)).or ((empty.run past).sample? key) := by
  refine ⟨?_, ?_⟩
  · rintro past rfl
    have fewer : past.count .beginTick < UInt64.size := by
      rwa [List.count_append] at few
    have held : ∀ key, (empty.run (past ++ [.endTick])).sample? key =
        newest? key (Emission.sinceBegin past) := by
      intro key
      rw [run_append]
      exact (stamped_run past).sample?_endTick fewer key
    refine ⟨fun key => ?_, held⟩
    rw [mem_keys_iff, held, isSome_newest?_iff]
  · rintro past later rfl goesOn key
    have now : (empty.run (past ++ later)).sample? key =
        (newest? key (Emission.observations later)).or ((empty.run past).sample? key) := by
      rw [run_append]
      exact sample?_run_of_open _ key goesOn
    refine ⟨fun before => ?_, now⟩
    rw [mem_keys_iff] at before ⊢
    rw [now, Option.isSome_or, before, Bool.or_true]

namespace Held

def gauge (name : String) (value : Nat) : Observation :=
  ⟨name, .gauge, .ofNat value, .empty, 0, none, none⟩

/-- One series is there before any tick has begun, goes away and comes back between two ticks. -/
def past : List Emission :=
  [.observation (gauge "a.b" 1), .beginTick, .observation (gauge "c" 2), .endTick,
    .observation (gauge "a.b" 3)]

def run : List Emission := past ++ [.endTick]

end Held

theorem sample_series_held :
    Held.run.count .beginTick < UInt64.size ∧
      ("a_b", []) ∈ (empty.run Held.run).series.keys ∧
      (empty.run Held.run).sample? ("a_b", []) =
        some (Sample.ofObservation (Held.gauge "a.b" 3)) := by
  have few : Held.run.count .beginTick < UInt64.size := by decide +kernel
  obtain ⟨ended, -⟩ := series_held_run _ few
  obtain ⟨keys, newest⟩ := ended Held.past rfl
  have last : newest? ("a_b", []) (Emission.sinceBegin Held.past) =
      some (Sample.ofObservation (Held.gauge "a.b" 3)) := by decide +kernel
  have among : ∃ o ∈ Emission.sinceBegin Held.past, o.seriesKey = ("a_b", []) :=
    isSome_newest?_iff.mp (by rw [last]; rfl)
  exact ⟨few, (keys _).mpr among, (newest _).trans last⟩

end SeriesStore

end BeanMeter
