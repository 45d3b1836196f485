import BeanMeter.Proofs.Exposition.Retention
import BeanMeter.Proofs.Exposition.RoundTrip

/-! # How many lines a series has

An exposition shows the store and, behind it, the statistics of the program itself. In each of the
two a name with its labels occurs once. The store does not know the statistics, though: what is
scraped may get the name of one of them, and then both are shown.

* `Exposition.families_perm` — no sample is lost or doubled when samples are put into families.
* `ScrapeStats.Recorded` — the statistics that calls can lead to.
* `SeriesStore.Observed` — whence the samples of a store come; kept by every call.
* `SeriesStore.count_lines_render` — the lines of every series in an exposition.
-/

namespace BeanMeter

/-! ## Families -/

namespace Exposition

theorem families_perm (samples : List Sample) :
    ((families samples).flatMap Family.samples).Perm samples := by
  rw [families_eq, List.flatMap_map]
  match samples with
  | [] => simp
  | s :: rest =>
    -- The family of the first sample, and then those of the samples that are not in it.
    let others := rest.filter fun t => !(t.family == s.family)
    have names : ((s :: rest).map Sample.family).eraseDups =
        s.family :: (others.map Sample.family).eraseDups := by
      rw [List.map_cons, List.eraseDups_cons, List.filter_map]
      rfl
    have apart : ∀ name ∈ (others.map Sample.family).eraseDups,
        ((s :: rest).filter fun t => t.family == name) =
          others.filter fun t => t.family == name := by
      intro name member
      obtain ⟨t, among, rfl⟩ := List.mem_map.mp (List.mem_eraseDups.mp member)
      have other : t.family ≠ s.family := by simpa using (List.mem_filter.mp among).2
      simp only [others, List.filter_filter, List.filter_cons]
      grind
    have later := families_perm others
    rw [families_eq, List.flatMap_map] at later
    have first := List.filter_append_perm (fun t => t.family == s.family) (s :: rest)
    rw [names, List.flatMap_cons, List.flatMap_congr apart]
    refine (List.Perm.append_left _ later).trans ?_
    simpa [others] using first
  termination_by samples.length
  decreasing_by exact Nat.lt_succ_of_le (List.length_filter_le _ _)

end Exposition

/-! ## Statistics -/

namespace ScrapeStats

variable {s t : ScrapeStats}

/-- The statistics that calls can lead to, in whatever order they come. -/
inductive Recorded : ScrapeStats → Prop
  | initial : Recorded .initial
  | tickStarted {s : ScrapeStats} : Recorded s → Recorded s.tickStarted
  | tickSkipped {s : ScrapeStats} : Recorded s → Recorded s.tickSkipped
  | connected {s : ScrapeStats} (ok : Bool) : Recorded s → Recorded (s.connected ok)
  | readFailed {s : ScrapeStats} : Recorded s → Recorded s.readFailed
  | tickDone {s : ScrapeStats} (observations : Nat) (seconds : Binary64) :
      Recorded s → Recorded (s.tickDone observations seconds)

/-- The names of the statistics, with their labels. -/
def ownKeys : List SeriesKey := initial.samples.map SeriesStore.key

theorem ownKeys_nodup : ownKeys.Nodup := by decide +kernel

theorem map_key_samples_congr
    (same : s.tickDuration.buckets.map Bucket.bound = t.tickDuration.buckets.map Bucket.bound) :
    s.samples.map SeriesStore.key = t.samples.map SeriesStore.key := by
  have buckets := congrArg (List.map fun bound => (durationFamily ++ "_bucket",
    (SortedMap.ofList [("le", boundText bound)]).entries)) same
  simp only [List.map_map] at buckets
  simpa [samples, histogramSamples, counterSample, Sample.plain, SeriesStore.key,
    Function.comp_def] using buckets

/-- Whatever has been counted, it is shown under the same names. -/
theorem Recorded.map_key_samples (recorded : s.Recorded) :
    s.samples.map SeriesStore.key = ownKeys := by
  apply map_key_samples_congr
  induction recorded with
  | initial => rfl
  | tickStarted _ ih | tickSkipped _ ih | connected _ _ ih | readFailed _ ih => exact ih
  | @tickDone s observations seconds _ ih =>
    rw [← ih, ScrapeStats.tickDone, Histogram.observe, List.map_map]
    apply List.map_congr_left
    intro b _
    dsimp only [Function.comp_apply]
    split <;> rfl

end ScrapeStats

/-! ## The store -/

namespace SeriesStore

variable {s : SeriesStore} {past : List Emission} {key : SeriesKey} {o : Observation}

/-- Every sample of a store is under its own name and is that of an observation. -/
def Observed (past : List Emission) (s : SeriesStore) : Prop :=
  ∀ key x, s.series.get? key = some x →
    ∃ o ∈ Emission.observations past, o.seriesKey = key ∧ x.sample = .ofObservation o

theorem Observed.emit (observed : Observed past s) (o : Observation) :
    Observed (past ++ [.observation o]) (s.emit o) := by
  intro key x held
  rw [Emission.observations_observation]
  rw [get?_emit] at held
  split at held
  · next own =>
    cases held
    exact ⟨o, by simp, own.symm, rfl⟩
  · obtain ⟨o', among, same, sample⟩ := observed key x held
    exact ⟨o', List.mem_append_left _ among, same, sample⟩

theorem Observed.endTick (observed : Observed past s) :
    Observed (past ++ [.endTick]) s.endTick := by
  intro key x held
  rw [get?_endTick, Option.filter_eq_some_iff] at held
  rw [Emission.observations_endTick]
  exact observed key x held.1

theorem observed_run (past : List Emission) : Observed past (empty.run past) := by
  induction past using List.reverseRecOn with
  | nil => nofun
  | append_singleton past e observed =>
    rw [run_append]
    cases e with
    | beginTick =>
      intro key x held
      rw [Emission.observations_beginTick]
      exact observed key x held
    | observation o => exact observed.emit o
    | endTick => exact observed.endTick

theorem Observed.map_key_samples (observed : Observed past s) :
    s.samples.map SeriesStore.key = s.series.keys := by
  rw [samples, SortedMap.values, SortedMap.keys, List.map_map, List.map_map]
  apply List.map_congr_left
  rintro ⟨key, x⟩ held
  obtain ⟨o, -, rfl, sample⟩ := observed key x (SortedMap.get?_eq_some_iff.mpr held)
  rw [Function.comp_apply, Function.comp_apply, sample]
  rfl

end SeriesStore

/-! ## Expositions -/

namespace Exposition

/-- What a line shows a value of. Labels are written in ascending order of their names, so that the
same labels make the same key. -/
def Entry.key (e : Entry) : SeriesKey := (e.name, e.labels)

/-- What the lines of a text show values of, line by line. -/
def shownKeys (blocks : List Block) : List SeriesKey :=
  (blocks.flatMap Block.samples).map Entry.key

theorem samples_ofFamily {timestamps : Bool} (fs : List Family) :
    (fs.map (Block.ofFamily timestamps)).flatMap Block.samples =
      (fs.flatMap Family.samples).map (.ofSample timestamps) := by
  simp only [List.flatMap_map, List.map_flatMap, Block.ofFamily]

end Exposition

namespace SeriesStore

open Exposition

variable {s : SeriesStore} {past : List Emission} {stats : ScrapeStats}

/-- The lines of an exposition are those of the store and those of the statistics. -/
theorem Observed.exists_read?_render (observed : Observed past s) (stats : ScrapeStats) :
    ∃ blocks, read? (s.render (some stats)) = some blocks ∧
      (blocks.flatMap Block.samples).Perm ((s.samples ++ stats.samples).map (.ofSample false)) := by
  have named : ∀ sample ∈ s.samples ++ stats.samples, Named sample := by
    intro sample member
    rcases List.mem_append.mp member with scraped | counted
    · obtain ⟨x, among, rfl⟩ := List.mem_map.mp scraped
      obtain ⟨⟨key, x⟩, held, rfl⟩ := List.mem_map.mp among
      obtain ⟨o, -, -, same⟩ := observed key x (SortedMap.get?_eq_some_iff.mpr held)
      rw [same]
      exact named_ofObservation o
    · exact named_of_stats counted
  refine ⟨_, read?_text_of_named named, ?_⟩
  rw [samples_ofFamily]
  exact (families_perm _).map _

theorem Observed.shownKeys_perm (observed : Observed past s) (recorded : stats.Recorded)
    {blocks : List Block} (lines : (blocks.flatMap Block.samples).Perm
      ((s.samples ++ stats.samples).map (.ofSample false))) :
    (shownKeys blocks).Perm (s.series.keys ++ ScrapeStats.ownKeys) := by
  have keys := lines.map Entry.key
  rw [List.map_map, List.map_append] at keys
  rwa [← observed.map_key_samples, ← recorded.map_key_samples]

/-- A name with its labels is shown once for the store, if a series there has them, and once for the
statistics, if one of these has them. So no two lines are of the same series exactly if the store
holds nothing under a name of the statistics, and surely if nothing of that name was scraped. -/
theorem count_lines_render (emissions : List Emission) (recorded : stats.Recorded) :
    ∃ blocks, read? ((empty.run emissions).render (some stats)) = some blocks ∧
      (∀ key, (shownKeys blocks).count key =
        (if key ∈ (empty.run emissions).series.keys then 1 else 0) +
          if key ∈ ScrapeStats.ownKeys then 1 else 0) ∧
      ((shownKeys blocks).Nodup ↔
        ∀ key ∈ (empty.run emissions).series.keys, key ∉ ScrapeStats.ownKeys) ∧
      ((∀ o ∈ Emission.observations emissions, o.seriesKey ∉ ScrapeStats.ownKeys) →
        (shownKeys blocks).Nodup) := by
  have observed := observed_run emissions
  obtain ⟨blocks, read, lines⟩ := observed.exists_read?_render stats
  have shown := observed.shownKeys_perm recorded lines
  -- Nothing is shown twice within the store or within the statistics, only across.
  have held := (empty.run emissions).series.keys_nodup
  have unique : (shownKeys blocks).Nodup ↔
      ∀ key ∈ (empty.run emissions).series.keys, key ∉ ScrapeStats.ownKeys := by
    rw [shown.nodup_iff, List.nodup_append']
    simp [held, ScrapeStats.ownKeys_nodup, List.Disjoint]
  refine ⟨blocks, read, fun key => ?_, unique, fun foreign => unique.mpr fun key member => ?_⟩
  · rw [shown.count_eq, List.count_append, held.count, ScrapeStats.ownKeys_nodup.count]
  · obtain ⟨x, found⟩ := SortedMap.mem_keys_iff.mp member
    obtain ⟨o, among, rfl, -⟩ := observed key x found
    exact foreign o among

theorem sample_count_lines : ∃ blocks,
    read? ((empty.run Held.run).render (some .initial)) = some blocks ∧
      (shownKeys blocks).Nodup ∧ (shownKeys blocks).count ("a_b", []) = 1 := by
  obtain ⟨blocks, read, counts, -, foreign⟩ := count_lines_render Held.run .initial
  refine ⟨blocks, read, foreign (by decide +kernel), ?_⟩
  rw [counts, if_pos (by decide +kernel), if_neg (by decide +kernel)]

/-- The name of an observation becomes that of a statistic in the exposition. Both have a line, and
the lines say different things. -/
theorem two_lines_of_series : ∃ blocks,
    read? ((empty.run [.beginTick, .observation (Held.gauge "jmx.scraper.ticks.total" 5),
      .endTick]).render (some .initial)) = some blocks ∧
    (shownKeys blocks).count ("jmx_scraper_ticks_total", []) = 2 ∧
    ⟨"jmx_scraper_ticks_total", [], "5", none⟩ ∈ blocks.flatMap Block.samples ∧
    ⟨"jmx_scraper_ticks_total", [], "0", none⟩ ∈ blocks.flatMap Block.samples := by
  have observed := observed_run
    [.beginTick, .observation (Held.gauge "jmx.scraper.ticks.total" 5), .endTick]
  obtain ⟨blocks, read, lines⟩ := observed.exists_read?_render .initial
  refine ⟨blocks, read, ?_, lines.mem_iff.mpr ?_, lines.mem_iff.mpr ?_⟩
  · rw [(observed.shownKeys_perm .initial lines).count_eq]
    decide +kernel
  · decide +kernel
  · decide +kernel

end SeriesStore

end BeanMeter
