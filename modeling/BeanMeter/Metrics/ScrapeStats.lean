import BeanMeter.Metrics.Histogram

/-! # Statistics of scraping

What the program counts about its own ticks. -/

namespace BeanMeter

/-- Counts of ticks, connections and reads. Counters of 64 bits say the same as long as they stay
below `2 ^ 64`, and the same modulo that number after they have come round. -/
structure ScrapeStats where
  /-- Ticks started. -/
  ticks : Nat
  /-- Ticks that emitted nothing because of a failed connection or read. -/
  skipped : Nat
  connectAttempts : Nat
  connectFailures : Nat
  readFailures : Nat
  /-- How many observations the last tick emitted. -/
  lastObservations : Binary64
  tickDuration : Histogram
  deriving DecidableEq, Repr

namespace ScrapeStats

/-- The statistics before the first tick. -/
def initial : ScrapeStats := ⟨0, 0, 0, 0, 0, .zero, .durations⟩

/-- A tick has started. -/
def tickStarted (s : ScrapeStats) : ScrapeStats := { s with ticks := s.ticks + 1 }

/-- A tick has emitted nothing. -/
def tickSkipped (s : ScrapeStats) : ScrapeStats :=
  { s with skipped := s.skipped + 1, lastObservations := .zero }

/-- A connection has been attempted. -/
def connected (ok : Bool) (s : ScrapeStats) : ScrapeStats :=
  { s with
    connectAttempts := s.connectAttempts + 1
    connectFailures := if ok then s.connectFailures else s.connectFailures + 1 }

/-- A read has failed. -/
def readFailed (s : ScrapeStats) : ScrapeStats := { s with readFailures := s.readFailures + 1 }

/-- A tick has emitted its observations. -/
def tickDone (observations : Nat) (seconds : Binary64) (s : ScrapeStats) : ScrapeStats :=
  { s with
    lastObservations := .ofNat observations
    tickDuration := s.tickDuration.observe seconds }

/-- How many ticks have emitted their observations. -/
def completed (s : ScrapeStats) : Nat := s.tickDuration.count

end ScrapeStats

end BeanMeter
