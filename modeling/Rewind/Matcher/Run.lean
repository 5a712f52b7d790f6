/-
This file runs programs. A run is a sequence of ticks: going forward, a tick hands the current
signal to the current node; going backward, it rolls back to the newest checkpoint, and if there is
none the run is over without a match. A call may take so many ticks and then pauses. Nothing is
saved for that: the state of the matcher is all that is needed to go on.
-/

import Rewind.Matcher.Step
import Rewind.Store.Statistics

namespace Rewind

/-- Limits on a single call. -/
structure Budget where
  /-- The time it may take, in milliseconds; without one there is no limit. -/
  timeout : Option Nat := none
  /-- The number of ticks it may take; without one there is no limit. -/
  maxTicks : Option Nat := none
  deriving DecidableEq, Repr

namespace Budget

/-- A budget that is never used up. -/
def unlimited : Budget := {}

/-- A number of ticks. -/
def ofTicks (ticks : Nat) : Budget := { maxTicks := some ticks }

/-- The budget that the settings ask for. -/
def ofSettings (settings : RunSettings) : Budget :=
  { timeout := some settings.timeout, maxTicks := settings.maxTicks }

/-- Ticks are counted in 64 bits, so there are never more. -/
def mostTicks : Nat := 0xffffffffffffffff

/-- The number of ticks a budget allows. A timeout of zero has passed before the first tick; how
much time any other leaves is for the caller to watch. -/
def allowance (budget : Budget) : Nat :=
  if budget.timeout = some 0 then 0 else budget.maxTicks.getD mostTicks

end Budget

namespace Matcher

/-! ### Ticks -/

/-- Hands the current signal to the current node. If that goes on forward, the collector may sweep
then. -/
def stepForward : MatcherM Unit := do
  let matcher ← get
  match matcher.node with
  | none => throw (.defect .missingNode)
  | some id =>
    match matcher.program.node? id with
    | none => throw (.failed (.unknownNode id))
    | some node =>
      stepNode id node matcher.signal
      let stepped ← get
      if stepped.direction = .forward then
        let (_, collector) ← onStore stepped.collector.poll
        modify fun matcher => { matcher with collector := collector }

/-- Continues at a resume point. -/
def resumeAt (matcher : Matcher) (point : ResumePoint) : Matcher :=
  { (matcher.goto point.node point.signal).moveTo point.cursor with direction := .forward }

/-- Rolls back to the newest checkpoint and goes forward from there. Returns whether there was
one. -/
def stepBackward : MatcherM Bool := do
  let (point, store) := (← get).store.rollback
  modify fun matcher => { matcher with store := store }
  match point with
  | none => return false
  | some point =>
    modify fun matcher => matcher.resumeAt point
    return true

/-- Counts a tick, and notes the progress every so often. The count has no end here, while a
word of 64 bits would overflow at tick 2^64. -/
def countTick (matcher : Matcher) : Matcher :=
  let counted := { matcher with ticks := matcher.ticks + 1 }
  let interval := matcher.settings.noteInterval
  if 0 < interval ∧ counted.ticks % interval = 0 then
    let numbers := counted.store.statistics
    counted.note (.progress counted.ticks counted.subject.cursor counted.subject.size
      numbers.heapSize numbers.freeCells numbers.chainLength)
  else counted

/-- One tick. Returns whether the run goes on; it does not if nothing is left to try. -/
def tick : MatcherM Bool := do
  match (← get).direction with
  | .forward =>
    stepForward
    modify countTick
    return true
  | .backward =>
    if ← stepBackward then
      modify countTick
      return true
    else return false

/-- Whether everything has matched. -/
def isDone (matcher : Matcher) : Bool :=
  matcher.direction = .forward ∧ matcher.node = none

/-- Takes ticks until the run ends or the allowance is used up. -/
def drive (allowance : Nat) (matcher : Matcher) : EStateM.Result Abort Matcher Outcome :=
  if matcher.isDone then .ok .matched matcher
  else
    match allowance with
    | 0 => .ok .paused (matcher.note (.paused matcher.ticks))
    | allowance + 1 =>
      match tick matcher with
      | .error abort matcher => .error abort matcher
      | .ok false matcher => .ok .noMatch matcher
      | .ok true matcher => drive allowance matcher

/-! ### Calls -/

/-- Goes on with a run within a budget. -/
def execute (budget : Budget) : MatcherM Outcome := fun matcher =>
  match drive budget.allowance { matcher with status := .executing } with
  | .ok .paused reached =>
    .ok .paused { reached with status := .paused, outcome := some .paused }
  | .ok outcome reached =>
    .ok outcome { reached with status := .ended, outcome := some outcome }
  | .error (.failed failure) reached =>
    .error (.failed failure)
      ({ reached with status := .ended }.note (.aborted reached.ticks failure.message))
  | .error (.defect defect) reached => .error (.defect defect) reached

/-- Prepares a new run: an empty store with an open root match and the global object that leads to
it, and the text from its start. -/
def prepare (entry : NodeId) (text : List Char) : MatcherM Unit := do
  modify fun matcher =>
    { matcher with
      store := matcher.store.clear
      subject := .ofList text
      ticks := 0
      outcome := none }
  let root ← onStore (Store.alloc (.capture { name := rootName, parent := none, start := 0 }))
  let context ← onStore (Store.alloc (.object [(rootName, .ref root)]))
  onStore (Store.push globalName (.ref context))
  onStore (Store.push openName (.ref root))
  modify fun matcher =>
    { (matcher.note (.started text.length entry)).goto entry .enter with direction := .forward }

/-- Starts a new run at a node. Whatever an earlier one left behind is thrown away. -/
def run (entry : NodeId) (text : List Char) (budget : Budget) : MatcherM Outcome := do
  let matcher ← get
  if matcher.status = .paused then throw (.failed .alreadyRunning)
  else if (matcher.program.node? entry).isNone then throw (.failed (.unknownNode entry))
  else
    prepare entry text
    execute budget

/-- Goes on with a paused run. -/
def resume (budget : Budget) : MatcherM Outcome := do
  if (← get).status = .paused then execute budget else throw (.failed .notPaused)

/-- Matches a text within the budget of the settings. -/
def matchText (text : List Char) : MatcherM Outcome := do
  let matcher ← get
  run matcher.program.root text (.ofSettings matcher.settings)

/-- Throws away what the last run left behind. -/
def reset (matcher : Matcher) : Matcher :=
  { matcher with
    store := matcher.store.clear
    node := none
    signal := .enter
    direction := .forward
    status := .ready
    outcome := none }

end Matcher

end Rewind
