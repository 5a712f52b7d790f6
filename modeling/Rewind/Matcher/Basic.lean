/-
This file defines the matcher: a program with all the state of a run, and the moves its nodes are
made of. A run goes forward from node to node, or backward to the newest checkpoint.
-/

import Rewind.Matcher.Failure
import Rewind.Matcher.Subject
import Rewind.Store.Tracing

namespace Rewind

/-- The way a run is going. -/
inductive Direction
  | forward
  | backward
  deriving DecidableEq, Repr

/-- What a matcher is doing. -/
inductive Status
  | ready
  | executing
  | paused
  | ended
  deriving DecidableEq, Repr

/-- How a call came to its end. -/
inductive Outcome
  | matched
  /-- The budget is used up; the run can be resumed. -/
  | paused
  | noMatch
  deriving DecidableEq, Repr

/-- A program, and the state of running it. -/
structure Matcher where
  program : Program
  settings : RunSettings
  store : Store
  collector : Collector := {}
  subject : Subject := .empty
  /-- The node to run next; without one, everything has matched. -/
  node : Option NodeId := none
  /-- The signal it gets. -/
  signal : Signal := .enter
  direction : Direction := .forward
  status : Status := .ready
  outcome : Option Outcome := none
  /-- The number of steps of the run so far, rollbacks included. -/
  ticks : Nat := 0

/-- Operations on a matcher that may abort the run. -/
abbrev MatcherM := EStateM Abort Matcher

namespace Matcher

/-- The name of the object that leads to the root match. -/
def globalName : String := "#global"

/-- The name of the innermost open capture. -/
def openName : String := "#node"

/-- The name of the root match, both as a capture and in the global object. -/
def rootName : String := "root"

/-- A matcher that has not run yet. -/
def ofProgram (program : Program) (settings : Settings) : Matcher :=
  { program := program, settings := settings.run, store := .empty settings.store }

/-- Runs an operation on the store. -/
def onStore {α : Type} (action : StoreM α) : MatcherM α :=
  Action.onPart action store (fun matcher store => { matcher with store := store }) Abort.ofFault

/-- Fails if the store refused. -/
def ofStore {α : Type} : Except StoreError α → MatcherM α
  | .ok value => pure value
  | .error error => throw (.failed (.store error))

/-- Aborts since a node is confused. -/
def confused {α : Type} (node : NodeId) (confusion : Confusion) : MatcherM α :=
  throw (.failed (.confused node confusion))

/-- Notes an event. -/
def note (matcher : Matcher) (event : Event) : Matcher :=
  { matcher with store := matcher.store.note event }

/-! ### Moves -/

/-- Continues at a node with a signal. -/
def goto (matcher : Matcher) (node : NodeId) (signal : Signal) : Matcher :=
  { matcher with node := some node, signal := signal }

/-- Continues at the start of a node. -/
def enter (matcher : Matcher) (node : NodeId) : Matcher := matcher.goto node .enter

/-- Returns from a node to its parent. Finishing a node without a parent ends the run. -/
def finish (matcher : Matcher) (node : NodeId) : Matcher :=
  match matcher.program.link? node with
  | some link => matcher.goto link.parent link.signal
  | none => { matcher with node := none }

/-- Gives the current path up. -/
def backtrack (matcher : Matcher) : Matcher := { matcher with direction := .backward }

/-- Moves the cursor. -/
def moveTo (matcher : Matcher) (cursor : Nat) : Matcher :=
  { matcher with subject := matcher.subject.moveTo cursor }

/-- Starts a generation. Rolling back to it continues at a node with a signal, at the current
cursor. -/
def freeze (matcher : Matcher) (node : NodeId) (signal : Signal) : Checkpoint × Matcher :=
  let point : ResumePoint := { node := node, signal := signal, cursor := matcher.subject.cursor }
  match matcher.store.freeze point with
  | (checkpoint, store) => (checkpoint, { matcher with store := store })

/-- Starts a generation, and forgets its checkpoint. -/
def leaveChoice (matcher : Matcher) (node : NodeId) (signal : Signal) : Matcher :=
  (matcher.freeze node signal).2

/-- The position of the root match, as the global object has it. A node is named that is to blame if
there is none. -/
def rootMatch (matcher : Matcher) (blamed : NodeId) : Except Failure Nat := do
  let context ← (matcher.store.lookup globalName).mapError .store
  match context.reference? with
  | none => throw (.confused blamed .noGlobalContext)
  | some position =>
    let payload ← (matcher.store.peek position).mapError .store
    match (payload.fields?.bind fun fields => fields.get? rootName).bind Value.reference? with
    | some root => return root
    | none => throw (.confused blamed .noRootMatch)

end Matcher

end Rewind
