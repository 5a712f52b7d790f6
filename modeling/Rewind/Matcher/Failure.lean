/-
This file defines what ends a run for good. Not to match is no failure, and neither is running out
of budget.
-/

import Rewind.Program.Node
import Rewind.Store.Fault

namespace Rewind

/-- What a node found wrong with the state it keeps in the store. -/
inductive Confusion
  /-- The node has no such step. -/
  | unexpectedSignal (signal : Signal)
  /-- The name of the global context is not bound to a reference. -/
  | noGlobalContext
  /-- The global context does not lead to the root match. -/
  | noRootMatch
  /-- The root match is no capture. -/
  | rootIsNoCapture
  /-- The name of the open capture is not bound to a reference. -/
  | noOpenCapture
  /-- The capture around this one is no capture. -/
  | parentIsNoCapture
  /-- The capture to close is no capture. -/
  | notACapture
  /-- The name of a frame is not bound to a reference. -/
  | notAFrame (name : String)
  /-- The frame is no list. -/
  | notAList (name : String)
  /-- The frame of a repetition does not hold a count and a cursor. -/
  | malformedRepetition
  /-- The name of the checkpoint is not bound to one. -/
  | noCheckpoint
  /-- The frame of a lookahead does not hold a checkpoint and a cursor. -/
  | malformedLookahead
  /-- The match tree holds something that is no capture. -/
  | foreignInTree
  deriving DecidableEq, Repr

/-- The wording of what a node found wrong. -/
def Confusion.message : Confusion → String
  | unexpectedSignal signal => "unexpected signal " ++ toString signal
  | noGlobalContext => "no global context"
  | noRootMatch => "no root match node"
  | rootIsNoCapture => "root match is not a match node"
  | noOpenCapture => "current match node is missing"
  | parentIsNoCapture => "parent is not a match node"
  | notACapture => "not a match node"
  | notAFrame name => name ++ " is not a frame"
  | notAList name => name ++ " is not a list"
  | malformedRepetition => "malformed quantifier frame"
  | noCheckpoint => "atomic checkpoint missing"
  | malformedLookahead => "malformed lookahead frame"
  | foreignInTree => "match tree holds a non-node"

/-- What ends a run for good. -/
inductive Failure
  /-- The store refused an operation. -/
  | store (error : StoreError)
  /-- Control was handed to a node that the program does not have. -/
  | unknownNode (node : NodeId)
  /-- There is no paused run to go on with. -/
  | notPaused
  /-- A paused run is in the way of a new one. -/
  | alreadyRunning
  /-- A node found its state in the wrong shape. -/
  | confused (node : NodeId) (confusion : Confusion)
  deriving DecidableEq, Repr

/-- The wording of a failure. -/
def Failure.message : Failure → String
  | store error => error.message
  | unknownNode node => "unknown compiled node #" ++ toString node
  | notPaused => "the analyzer is not paused"
  | alreadyRunning => "the analyzer is paused; resume it or free its resources first"
  | confused node confusion => "node #" ++ toString node ++ ": " ++ confusion.message

/-- How a run is aborted. -/
inductive Abort
  | failed (failure : Failure)
  | defect (defect : Defect)
  deriving DecidableEq, Repr

/-- A fault of the store aborts the run. -/
def Abort.ofFault : StoreFault → Abort
  | .refused error => .failed (.store error)
  | .defect found => .defect found

end Rewind
