import Groth16.Power

/-!
# Verification statistics

Counters of verified and failed proofs, of batches and of the time spent. They are machine
words and wrap around; averages are rounded down and zero when there is nothing to average.
-/

namespace Groth16

/-- The counters. -/
structure Statistics where
  verified : UInt64 := 0
  failed : UInt64 := 0
  batches : UInt64 := 0
  batchedProofs : UInt64 := 0
  /-- The largest arena peak that was reported. -/
  peakArenaBytes : UInt64 := 0
  timedCalls : UInt64 := 0
  /-- The microseconds of all timed calls. -/
  totalTime : UInt64 := 0
  deriving DecidableEq, Repr, Inhabited

namespace Statistics

/-- Counts the outcome for one proof. -/
def countOutcome (accepted : Bool) (statistics : Statistics) : Statistics :=
  if accepted then { statistics with verified := statistics.verified + 1 }
  else { statistics with failed := statistics.failed + 1 }

/-- The whole microseconds of a time in nanoseconds, as far as a word can hold them. -/
def microseconds (nanoseconds : Nat) : UInt64 :=
  .ofNat (min (nanoseconds / 1000) (2 ^ 64 - 1))

/-- Counts one call that took the given nanoseconds. -/
def countCall (accepted : Bool) (nanoseconds : Nat) (statistics : Statistics) : Statistics :=
  let counted := statistics.countOutcome accepted
  { counted with
    timedCalls := counted.timedCalls + 1
    totalTime := counted.totalTime + microseconds nanoseconds }

/-- Counts one batch of the given size. -/
def countBatch (size : Nat) (statistics : Statistics) : Statistics :=
  { statistics with
    batches := statistics.batches + 1
    batchedProofs := statistics.batchedProofs + .ofNat size }

/-- Notes an arena peak. -/
def notePeak (bytes : Nat) (statistics : Statistics) : Statistics :=
  { statistics with peakArenaBytes := max statistics.peakArenaBytes (.ofNat bytes) }

/-- The average number of proofs of a batch. -/
def averageBatchSize (statistics : Statistics) : UInt64 :=
  statistics.batchedProofs / statistics.batches

/-- The average number of microseconds of a timed call. -/
def averageTime (statistics : Statistics) : UInt64 :=
  statistics.totalTime / statistics.timedCalls

/-- The verified and failed proofs, the batches and their average size. -/
def counts (statistics : Statistics) : List UInt64 :=
  [statistics.verified, statistics.failed, statistics.batches, statistics.averageBatchSize]

/-- All that the counters show. -/
def figures (statistics : Statistics) : List UInt64 :=
  statistics.counts ++ [statistics.peakArenaBytes, statistics.averageTime]

end Statistics
end Groth16
