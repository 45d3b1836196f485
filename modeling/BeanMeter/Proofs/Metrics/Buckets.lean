import BeanMeter.Exposition.Sample
import BeanMeter.Proofs.Number.Exactness
import BeanMeter.Proofs.Number.Order
import Mathlib.Data.List.Forall2
import Mathlib.Data.List.Induction

/-! # Buckets

A histogram puts its bounds in order and counts every value in all buckets that it fits into. So a
bucket holds the number of all values up to its bound, and the last one, which is not bounded, the
number of all values; and this is what the statistics of the program show of the durations of ticks.

* `Histogram.ascending_sortBounds`, `sortBounds_perm` — bounds are sorted.
* `Histogram.buckets_observed` — the buckets after any sequence of observations.
* `ScrapeStats.tickDuration_after` — the durations that calls in any order leave behind.
* `Histogram.buckets_exact` — bounds, counts and samples together.
-/

namespace BeanMeter

namespace Histogram

variable {x b : Binary64} {bounds ys xs : List Binary64}

/-! ## Bounds -/

/-- A bound that a bucket can have: a finite one, or positive infinity. -/
def IsBound (b : Binary64) : Prop := b ≠ .nan ∧ b ≠ .infinite true

instance (b : Binary64) : Decidable (IsBound b) :=
  inferInstanceAs (Decidable (b ≠ .nan ∧ b ≠ .infinite true))

/-- Each bound is at most as large as those after it. -/
def Ascending (bounds : List Binary64) : Prop := bounds.Pairwise fun a b => a.le b = true

theorem insertBound_perm (x : Binary64) (ys : List Binary64) :
    (insertBound x ys).Perm (x :: ys) := by
  induction ys with
  | nil => rfl
  | cons y ys ih =>
    rw [insertBound]
    split
    · rfl
    · exact (ih.cons y).trans (.swap x y ys)

theorem ascending_insertBound (number : x ≠ .nan) (numbers : ∀ y ∈ ys, y ≠ .nan)
    (ascending : Ascending ys) : Ascending (insertBound x ys) := by
  induction ys with
  | nil => exact List.pairwise_singleton _ x
  | cons y ys ih =>
    obtain ⟨first, rest⟩ := List.pairwise_cons.mp ascending
    obtain ⟨own, others⟩ := List.forall_mem_cons.mp numbers
    rw [insertBound]
    split
    · next below =>
      refine List.pairwise_cons.mpr ⟨fun z member => ?_, ascending⟩
      exact Binary64.le_of_lt (List.all_eq_true.mp below z member)
    · next notBelow =>
      -- Something in the list is not above the new bound, and so its first item is not either.
      have low : y.le x = true := by
        simp only [List.all_eq_true, not_forall] at notBelow
        obtain ⟨z, member, notBelow⟩ := notBelow
        have under := Binary64.le_of_not_lt number (numbers z member) notBelow
        rcases List.mem_cons.mp member with rfl | later
        · exact under
        · exact Binary64.le_trans (first z later) under
      refine List.pairwise_cons.mpr ⟨fun z member => ?_, ih others rest⟩
      rcases List.mem_cons.mp ((insertBound_perm x ys).subset member) with rfl | old
      · exact low
      · exact first z old

theorem sortBounds_concat (bounds : List Binary64) (x : Binary64) :
    sortBounds (bounds ++ [x]) = insertBound x (sortBounds bounds) := by
  rw [sortBounds, List.foldl_append]
  rfl

theorem sortBounds_perm (bounds : List Binary64) : (sortBounds bounds).Perm bounds := by
  induction bounds using List.reverseRecOn with
  | nil => rfl
  | append_singleton bounds x ih =>
    rw [sortBounds_concat]
    have inserted : (insertBound x (sortBounds bounds)).Perm (x :: bounds) :=
      (insertBound_perm x _).trans (ih.cons x)
    exact inserted.trans (List.perm_append_singleton x bounds).symm

theorem ascending_sortBounds (numbers : ∀ b ∈ bounds, b ≠ .nan) :
    Ascending (sortBounds bounds) := by
  induction bounds using List.reverseRecOn with
  | nil => exact List.Pairwise.nil
  | append_singleton bounds x ih =>
    obtain ⟨before, last⟩ := List.forall_mem_append.mp numbers
    rw [sortBounds_concat]
    exact ascending_insertBound (last x (List.mem_singleton_self x))
      (fun y member => before y ((sortBounds_perm bounds).subset member)) (ih before)

/-- The bounds of the buckets. -/
def boundsOf (bounds : List Binary64) : List Binary64 := closeBounds (sortBounds bounds)

theorem mem_boundsOf (member : b ∈ bounds) : b ∈ boundsOf bounds := by
  have sorted : b ∈ sortBounds bounds := (sortBounds_perm bounds).mem_iff.mpr member
  rw [boundsOf, closeBounds]
  split
  · exact sorted
  · exact List.mem_append_left _ sorted

theorem ascending_boundsOf (valid : ∀ b ∈ bounds, IsBound b) : Ascending (boundsOf bounds) := by
  have sorted : Ascending (sortBounds bounds) := ascending_sortBounds fun b member =>
    (valid b member).1
  rw [boundsOf, closeBounds]
  split
  · exact sorted
  · refine List.pairwise_append.mpr ⟨sorted, List.pairwise_singleton .., ?_⟩
    intro b member top last
    rw [List.mem_singleton.mp last]
    exact Binary64.le_infinite (valid b ((sortBounds_perm bounds).subset member)).1

theorem getLast?_boundsOf (valid : ∀ b ∈ bounds, IsBound b) :
    (boundsOf bounds).getLast? = some (.infinite false) := by
  rw [boundsOf, closeBounds]
  split
  · next closed =>
    obtain ⟨b, last, infinite⟩ := (Option.any_eq_true ..).mp closed
    have given := valid b ((sortBounds_perm bounds).subset (List.mem_of_getLast? last))
    rw [last]
    cases b with
    | infinite negative => cases negative with
      | false => rfl
      | true => exact absurd rfl given.2
    | nan | finite => cases infinite
  · simp

/-! ## Counts -/

/-- Buckets that hold, for each bound, how many values do not exceed it. -/
def tally (bounds xs : List Binary64) : List Bucket :=
  bounds.map fun b => ⟨b, xs.countP (·.le b)⟩

theorem observe_tally {h : Histogram} (counted : h.buckets = tally bounds xs) (x : Binary64) :
    (h.observe x).buckets = tally bounds (xs ++ [x]) := by
  rw [observe, counted, tally, tally, List.map_map]
  apply List.map_congr_left
  intro b _
  by_cases fits : x.le b = true <;> simp [List.countP_append, fits]

theorem buckets_observed (bounds xs : List Binary64) :
    (xs.foldl observe (ofBounds bounds)).buckets = tally (boundsOf bounds) xs := by
  induction xs using List.reverseRecOn with
  | nil => rfl
  | append_singleton xs x ih =>
    rw [List.foldl_append]
    exact observe_tally ih x

theorem count_observed (bounds xs : List Binary64) :
    (xs.foldl observe (ofBounds bounds)).count = xs.length := by
  induction xs using List.reverseRecOn with
  | nil => rfl
  | append_singleton xs x ih =>
    rw [List.foldl_append, List.length_append, ← ih]
    rfl

theorem map_bound_tally : (tally bounds xs).map Bucket.bound = bounds := by
  simp [tally, Function.comp_def]

/-- A bucket that reaches further holds no less. -/
theorem ascending_counts (ascending : Ascending bounds) :
    ((tally bounds xs).map Bucket.count).Pairwise (· ≤ ·) := by
  rw [tally, List.map_map, List.pairwise_map]
  refine ascending.imp fun further => ?_
  exact List.countP_mono_left fun x _ fits => Binary64.le_trans fits further

theorem countP_infinite (numbers : ∀ x ∈ xs, x ≠ .nan) :
    xs.countP (·.le (.infinite false)) = xs.length :=
  List.countP_eq_length.mpr fun x member => Binary64.le_infinite (numbers x member)

end Histogram

/-! ## Samples -/

namespace ScrapeStats

/-- A call by which something is recorded. -/
inductive Call where
  | tickStarted
  | tickSkipped
  | connected (ok : Bool)
  | readFailed
  | tickDone (observations : Nat) (seconds : Binary64)
  deriving DecidableEq, Repr

/-- The statistics after one more call. -/
def call (s : ScrapeStats) : Call → ScrapeStats
  | .tickStarted => s.tickStarted
  | .tickSkipped => s.tickSkipped
  | .connected ok => s.connected ok
  | .readFailed => s.readFailed
  | .tickDone observations seconds => s.tickDone observations seconds

/-- The duration that a call reports. -/
def Call.seconds? : Call → Option Binary64
  | .tickDone _ seconds => some seconds
  | _ => none

/-- The statistics after a sequence of calls. -/
def after (calls : List Call) : ScrapeStats := calls.foldl call initial

theorem tickDuration_after (calls : List Call) :
    (after calls).tickDuration =
      (calls.filterMap Call.seconds?).foldl Histogram.observe .durations := by
  induction calls using List.reverseRecOn with
  | nil => rfl
  | append_singleton calls c ih =>
    rw [after, List.foldl_append, List.filterMap_append, List.foldl_append, ← ih]
    cases c <;> rfl

/-- The samples of the statistics with a given name. -/
def samplesNamed (s : ScrapeStats) (name : String) : List Sample :=
  s.samples.filter fun sample => sample.name == name

/-- The names of the statistics that are not part of the histogram. -/
def plainNames : List String :=
  ["jmx_scraper_info", "jmx_scraper_ticks_total", "jmx_scraper_ticks_skipped_total",
    "jmx_scraper_connect_attempts_total", "jmx_scraper_connect_failures_total",
    "jmx_scraper_read_failures_total", "jmx_scraper_observations"]

theorem samplesNamed_eq (s : ScrapeStats) {name : String} (other : name ∉ plainNames) :
    s.samplesNamed name =
      (histogramSamples durationFamily "Histogram of tick durations" s.tickDuration).filter
        fun sample => sample.name == name := by
  rw [samplesNamed, samples, List.filter_append, List.append_left_eq_self,
    List.filter_eq_nil_iff]
  intro sample member same
  have named : sample.name ∈ plainNames := by
    simp only [List.mem_cons, List.not_mem_nil, or_false] at member
    rcases member with rfl | rfl | rfl | rfl | rfl | rfl | rfl <;>
      simp [plainNames, Sample.plain, counterSample]
  exact other (beq_iff_eq.mp same ▸ named)

/-- The sample of a bucket. -/
def bucketSample (b : Bucket) : Sample :=
  { Sample.plain (durationFamily ++ "_bucket") (.ofNat b.count) with
    histogram := some durationFamily
    help := some "Histogram of tick durations"
    labels := .ofList [("le", boundText b.bound)] }

theorem samplesNamed_bucket (s : ScrapeStats) :
    s.samplesNamed (durationFamily ++ "_bucket") = s.tickDuration.buckets.map bucketSample := by
  have other : durationFamily ++ "_bucket" ∉ plainNames := by decide
  have sum : durationFamily ++ "_sum" ≠ durationFamily ++ "_bucket" := by decide
  have count : durationFamily ++ "_count" ≠ durationFamily ++ "_bucket" := by decide
  have own : (s.tickDuration.buckets.map bucketSample).filter
      (fun sample => sample.name == durationFamily ++ "_bucket") =
        s.tickDuration.buckets.map bucketSample :=
    List.filter_eq_self.mpr (by simp [bucketSample, Sample.plain])
  rw [samplesNamed_eq s other, histogramSamples, List.filter_append]
  refine (congrArg₂ _ own ?_).trans (List.append_nil _)
  simp [Sample.plain, sum, count]

theorem samplesNamed_count (s : ScrapeStats) :
    s.samplesNamed (durationFamily ++ "_count") =
      [{ Sample.plain (durationFamily ++ "_count") (.ofNat s.tickDuration.count) with
        histogram := some durationFamily }] := by
  have other : durationFamily ++ "_count" ∉ plainNames := by decide
  have sum : durationFamily ++ "_sum" ≠ durationFamily ++ "_count" := by decide
  have bucket : durationFamily ++ "_bucket" ≠ durationFamily ++ "_count" := by decide
  rw [samplesNamed_eq s other, histogramSamples, List.filter_append, List.filter_map]
  simp [Sample.plain, sum, bucket, Function.comp_def]

/-- The samples of the buckets and of the count are those of the durations that were reported. -/
structure Shows (s : ScrapeStats) (xs : List Binary64) : Prop where
  buckets : List.Forall₂ (fun sample bound =>
      sample.labels.entries = [("le", boundText bound)] ∧
        sample.value.toInt? = some (xs.countP (·.le bound) : Int))
    (s.samplesNamed (durationFamily ++ "_bucket"))
    (Histogram.durationBounds ++ [.infinite false])
  count : ∃ sample, s.samplesNamed (durationFamily ++ "_count") = [sample] ∧
    sample.value.toInt? = some (xs.length : Int)

theorem shows_after (calls : List Call)
    (few : (calls.filterMap Call.seconds?).length < 1 <<< 53) :
    (after calls).Shows (calls.filterMap Call.seconds?) := by
  have ordered : Histogram.boundsOf Histogram.durationBounds =
      Histogram.durationBounds ++ [.infinite false] := by decide +kernel
  have timed := tickDuration_after calls
  refine ⟨?_, _, samplesNamed_count _, ?_⟩
  · rw [samplesNamed_bucket, timed, Histogram.durations, Histogram.buckets_observed, ordered,
      Histogram.tally, List.map_map, List.forall₂_map_left_iff, List.forall₂_same]
    intro bound _
    exact ⟨rfl, Binary64.toInt?_ofNat (List.countP_le_length.trans_lt few)⟩
  · rw [timed, Histogram.durations, Histogram.count_observed]
    exact Binary64.toInt?_ofNat few

end ScrapeStats

namespace Histogram

/-- The bounds of the buckets are in order, the given ones are among them, and the last one is
infinite. A bucket holds the number of all values that are at most its bound, so that later buckets
hold no less than earlier ones and the last one holds all. The samples of the durations of ticks
show these numbers, whatever else is recorded between them. -/
theorem buckets_exact (valid : ∀ b ∈ bounds, IsBound b) (numbers : ∀ x ∈ xs, x ≠ .nan)
    (few : xs.length < 1 <<< 53) :
    let h := xs.foldl observe (ofBounds bounds)
    let counts := h.buckets.map Bucket.count
    Ascending (h.buckets.map Bucket.bound) ∧ (∀ b ∈ bounds, b ∈ h.buckets.map Bucket.bound) ∧
      (h.buckets.map Bucket.bound).getLast? = some (.infinite false) ∧
      (∀ b ∈ h.buckets, b.count = xs.countP (·.le b.bound)) ∧
      counts.Pairwise (· ≤ ·) ∧ counts.getLast? = some h.count ∧ h.count = xs.length ∧
      ∀ calls, calls.filterMap ScrapeStats.Call.seconds? = xs →
        (ScrapeStats.after calls).Shows xs := by
  intro h counts
  have buckets : h.buckets = tally (boundsOf bounds) xs := buckets_observed bounds xs
  have total : h.count = xs.length := count_observed bounds xs
  have reached : h.buckets.map Bucket.bound = boundsOf bounds := by
    rw [buckets, map_bound_tally]
  have top := getLast?_boundsOf valid
  refine ⟨?_, ?_, ?_, ?_, ?_, ?_, total, ?_⟩
  · rw [reached]
    exact ascending_boundsOf valid
  · rw [reached]
    exact fun b member => mem_boundsOf member
  · rw [reached]
    exact top
  · rw [buckets]
    intro b member
    obtain ⟨bound, _, rfl⟩ := List.mem_map.mp member
    rfl
  · simp only [counts, buckets]
    exact ascending_counts (ascending_boundsOf valid)
  · simp only [counts, buckets]
    rw [tally, List.map_map, List.getLast?_map, top, Option.map_some, total]
    exact congrArg some (countP_infinite numbers)
  · rintro calls rfl
    exact ScrapeStats.shows_after calls few

namespace Sample

/-- Bounds out of order, one of them twice, and none of them infinite. -/
def bounds : List Binary64 := [.one, .finite true .one, .one]

def values : List Binary64 := [.one, .infinite false, .zero]

end Sample

theorem sample_buckets_exact :
    (Sample.values.foldl observe (ofBounds Sample.bounds)).buckets.map Bucket.bound =
        [.finite true .one, .one, .one, .infinite false] ∧
      (∀ b ∈ (Sample.values.foldl observe (ofBounds Sample.bounds)).buckets,
        b.count = Sample.values.countP (·.le b.bound)) ∧
      (ScrapeStats.after [.tickStarted, .tickDone 2 .one, .tickDone 0 (.infinite false),
        .readFailed, .tickDone 1 .zero]).Shows Sample.values := by
  have valid : ∀ b ∈ Sample.bounds, IsBound b := by decide +kernel
  have numbers : ∀ x ∈ Sample.values, x ≠ .nan := by decide +kernel
  obtain ⟨-, -, -, counts, -, -, -, shown⟩ := buckets_exact valid numbers (by decide +kernel)
  exact ⟨by decide +kernel, counts, shown _ rfl⟩

end Histogram

end BeanMeter
