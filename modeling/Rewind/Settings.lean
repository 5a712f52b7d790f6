/-
This file holds what can be tuned. None of it changes what a pattern matches; it trades memory for
time, or says when to pause.
-/

namespace Rewind

/-- What can be tuned about the store. -/
structure StoreSettings where
  /-- The heap size at which the first sweep is asked for. -/
  sweepThreshold : Nat := 4096
  /-- What the threshold is multiplied with when a sweep leaves too little of the heap free. -/
  thresholdGrowth : Float := 2.0
  /-- The percentage of the heap that is to be free. -/
  minimumFreeSpace : Float := 20.0
  /-- How many generations away a cell may be before reading it copies it. -/
  promotionDistance : Nat := 5
  /-- How many cells, and how many levels, are kept for reuse. -/
  poolCapacity : Nat := 50

/-- What can be tuned about a run. -/
structure RunSettings where
  /-- The time a call may take, in milliseconds. -/
  timeout : Nat := 20000
  /-- The number of ticks a call may take. -/
  maxTicks : Option Nat := none
  /-- The number of ticks between two notes on progress; with zero there are none. -/
  noteInterval : Nat := 100000

/-- All that can be tuned. -/
structure Settings where
  store : StoreSettings := {}
  run : RunSettings := {}

end Rewind
