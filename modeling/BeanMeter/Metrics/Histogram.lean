import BeanMeter.Number.Binary64

/-! # Histograms

Counts of observed values below each of several bounds.

* `Histogram.ofBounds` — the histogram without observations; the last bound is infinite.
* `Histogram.observe` — counts a value.
-/

namespace BeanMeter

/-- A bound and how many observed values are at most that large. The count has no bound of its own:
one of 64 bits says the same for fewer than `2 ^ 64` values, and the same modulo that number
beyond. -/
structure Bucket where
  bound : Binary64
  count : Nat
  deriving DecidableEq, Repr

/-- Counts and the sum of observed values. The count of all values is to be taken like that of a
bucket. -/
structure Histogram where
  buckets : List Bucket
  sum : Binary64
  count : Nat
  deriving DecidableEq, Repr

namespace Histogram

/-- Puts a bound in front of the larger ones at the end of a list. -/
def insertBound (x : Binary64) : List Binary64 → List Binary64
  | [] => [x]
  -- An undefined bound is below no other one, and so comes after those before it.
  | y :: ys => if (y :: ys).all x.lt then x :: y :: ys else y :: insertBound x ys

/-- Bounds in ascending order; equal ones stay in the order given. -/
def sortBounds (bounds : List Binary64) : List Binary64 :=
  bounds.foldl (fun sorted x => insertBound x sorted) []

/-- Bounds with an infinite one at the end, unless the last one is infinite already. -/
def closeBounds (bounds : List Binary64) : List Binary64 :=
  if bounds.getLast?.any Binary64.isInfinite then bounds else bounds ++ [.infinite false]

/-- The histogram without observations for the given bounds. -/
def ofBounds (bounds : List Binary64) : Histogram :=
  ⟨(closeBounds (sortBounds bounds)).map fun b => ⟨b, 0⟩, .zero, 0⟩

/-- Counts a value in every bucket whose bound it does not exceed. -/
def observe (h : Histogram) (x : Binary64) : Histogram where
  buckets := h.buckets.map fun b => if x.le b.bound then { b with count := b.count + 1 } else b
  sum := h.sum.add x
  count := h.count + 1

/-- The bounds for durations in seconds: 5, 10, 25, 50, 100, 250 and 500 milliseconds, and 1, 2.5, 5
and 10 seconds. -/
def durationBounds : List Binary64 :=
  [5, 10, 25, 50, 100, 250, 500, 1000, 2500, 5000, 10000].map fun ms =>
    Binary64.ofRatio false ms 1000

/-- The histogram of durations without observations. -/
def durations : Histogram := ofBounds durationBounds

end Histogram

end BeanMeter
