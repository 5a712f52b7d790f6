/-
This file defines what each kind of node does with a signal. Nodes have no state of their own: what
one has to remember between two signals it keeps in the store under a name of its kind, so that it
is rolled back together with everything else.
-/

import Rewind.Matcher.Basic
import Rewind.Program.Node

namespace Rewind.Matcher

/-! ### Nodes that consume text -/

/-- Finishes at a cursor if a test has passed, and backtracks otherwise. -/
def finishIf (passed : Bool) (id : NodeId) (cursor : Nat) : MatcherM Unit :=
  modify fun matcher =>
    if passed then (matcher.moveTo cursor).finish id else matcher.backtrack

/-- Matches a run of literal characters. -/
def stepText (id : NodeId) (characters : List Char) : MatcherM Unit := do
  let subject := (← get).subject
  finishIf (subject.startsWith characters) id (subject.cursor + characters.length)

/-- Matches one character that passes a test. -/
def stepChar (id : NodeId) (accepts : Char → Bool) : MatcherM Unit := do
  let subject := (← get).subject
  finishIf (subject.peek?.any accepts) id (subject.cursor + 1)

/-- Matches an end of the text. -/
def stepAnchor (id : NodeId) (anchor : Anchor) : MatcherM Unit := do
  let subject := (← get).subject
  let passed := match anchor with
    | .start => subject.isAtStart
    | .stop => subject.isAtEnd
  finishIf passed id subject.cursor

/-! ### Sequences and alternations -/

/-- Runs the child whose index the signal is, or finishes behind the last one. -/
def stepSequence (id : NodeId) (children : List NodeId) (signal : Signal) : MatcherM Unit :=
  modify fun matcher =>
    match children[signal]? with
    | some child => matcher.enter child
    | none => matcher.finish id

/-- Tries a branch, leaving a choice behind if there is another one. -/
def tryBranch (id : NodeId) (children : List NodeId) (branch : Nat) : MatcherM Unit :=
  modify fun matcher =>
    match children[branch]? with
    | none => matcher.backtrack
    | some child =>
      (if branch + 1 < children.length then
        matcher.leaveChoice id (Signal.tryBranch (branch + 1))
      else matcher).enter child

/-- Tries the branches one after the other. -/
def stepAlternation (id : NodeId) (children : List NodeId) : Signal → MatcherM Unit
  | 0 => tryBranch id children 0
  | 1 => modify fun matcher => matcher.finish id
  | branch + 2 => tryBranch id children branch

/-! ### Repetitions -/

/-- The name of the frame of the innermost repetition. It is a list of the number of iterations done
and of the cursor where the current one started. -/
def repetitionName : String := "#quantifier"

/-- The position of the frame under a name, and the items of it. -/
def readFrame (id : NodeId) (name : String) : MatcherM (Nat × List Value) := do
  match (← ofStore ((← get).store.lookup name)).reference? with
  | none => confused id (.notAFrame name)
  | some position =>
    match (← onStore (Store.deref position)).items? with
    | some items => return (position, items)
    | none => confused id (.notAList name)

/-- The frame of the innermost repetition: its position, the iterations done, as a 32-bit number,
and the cursor where the current one started. -/
def repetitionFrame (id : NodeId) : MatcherM (Nat × Nat × Nat) := do
  match ← readFrame id repetitionName with
  | (position, [.int count, .cursor start]) => return (position, (count % 0x100000000).toNat, start)
  | _ => confused id .malformedRepetition

/-- Sets an item of a list, and says whether it was there. Other payloads stay as they are. -/
def setItem (index : Nat) (value : Value) : Payload → Bool × Payload
  | .list items => (index < items.length, .list (items.set index value))
  | payload => (true, payload)

/-- Sets an item of a frame. -/
def updateFrame (frame index : Nat) (value : Value) : MatcherM Unit := do
  let present ← onStore (Store.update frame (setItem index value))
  if present then return () else throw (.defect .shortFrame)

/-- Starts another iteration. -/
def iterate (frame : Nat) (child : NodeId) : MatcherM Unit := do
  updateFrame frame 1 (.cursor (← get).subject.cursor)
  modify fun matcher => matcher.enter child

/-- Stops repeating. -/
def leaveRepetition (id : NodeId) : MatcherM Unit := do
  onStore (Store.remove repetitionName)
  modify fun matcher => matcher.finish id

/-- Decides between another iteration and stopping. If both are allowed, the other one is left as a
choice. -/
def decideRepetition (id child : NodeId) (min : Nat) (max : Option Nat) (lazily : Bool)
    (frame count : Nat) : MatcherM Unit :=
  if count < min then iterate frame child
  else if max.any fun max => max ≤ count then leaveRepetition id
  else if lazily then do
    modify fun matcher => matcher.leaveChoice id .goOn
    leaveRepetition id
  else do
    modify fun matcher => matcher.leaveChoice id .leave
    iterate frame child

/-- Repeats the child. An iteration that consumed nothing is the last one, once there are enough. -/
def stepRepetition (id child : NodeId) (min : Nat) (max : Option Nat) (lazily : Bool) :
    Signal → MatcherM Unit
  | 0 => do
    let frame ← onStore (Store.alloc (.list [.int 0, .cursor (← get).subject.cursor]))
    onStore (Store.push repetitionName (.ref frame))
    decideRepetition id child min max lazily frame 0
  | 1 => do
    let (frame, done, start) ← repetitionFrame id
    let count := done + 1
    if count < 0x100000000 then
      updateFrame frame 0 (.int count)
      if min ≤ count ∧ (← get).subject.cursor = start then leaveRepetition id
      else decideRepetition id child min max lazily frame count
    else throw (.defect .iterationOverflow)
  | 2 => leaveRepetition id
  | 3 => do
    let (frame, _, _) ← repetitionFrame id
    iterate frame child
  | signal => confused id (.unexpectedSignal signal)

/-! ### Atomic groups and lookaheads -/

/-- The name of the checkpoint of the innermost atomic group. -/
def atomicName : String := "#atomic"

/-- The name of the frame of the innermost lookahead. It is a list of its checkpoint and of the
cursor to go back to. -/
def lookaheadName : String := "#lookahead"

/-- Runs the child, and merges what it left behind, so that there is no way back into it. -/
def stepAtomic (id child : NodeId) : Signal → MatcherM Unit
  | 0 => do
    let checkpoint ← modifyGet fun matcher => matcher.freeze id .childFailed
    onStore (Store.push atomicName (.checkpoint checkpoint))
    modify fun matcher => matcher.enter child
  | 1 => do
    match ← ofStore ((← get).store.lookup atomicName) with
    | .checkpoint checkpoint =>
      onStore (Store.remove atomicName)
      onStore (Store.collapse checkpoint)
      modify fun matcher => matcher.finish id
    | _ => confused id .noCheckpoint
  | 2 => modify backtrack
  | signal => confused id (.unexpectedSignal signal)

/-- Runs the child to see whether it matches, and puts the cursor back. -/
def stepLookahead (id child : NodeId) (negative : Bool) : Signal → MatcherM Unit
  | 0 => do
    let start := (← get).subject.cursor
    let checkpoint ← modifyGet fun matcher => matcher.freeze id .childFailed
    let frame ← onStore (Store.alloc (.list [.checkpoint checkpoint, .cursor start]))
    onStore (Store.push lookaheadName (.ref frame))
    modify fun matcher => matcher.enter child
  | 1 => do
    match ← readFrame id lookaheadName with
    | (_, [.checkpoint checkpoint, .cursor start]) =>
      onStore (Store.remove lookaheadName)
      onStore (Store.collapse checkpoint)
      modify fun matcher =>
        if negative then matcher.backtrack else (matcher.moveTo start).finish id
    | _ => confused id .malformedLookahead
  | 2 => modify fun matcher => if negative then matcher.finish id else matcher.backtrack
  | signal => confused id (.unexpectedSignal signal)

/-! ### Captures -/

/-- The position of the innermost open capture. -/
def openCapture (id : NodeId) : MatcherM Nat := do
  match (← ofStore ((← get).store.lookup openName)).reference? with
  | some position => return position
  | none => confused id .noOpenCapture

/-- Changes a capture, and says whether the payload is one. -/
def editCapture (edit : Capture → Capture) : Payload → Bool × Payload
  | .capture record => (true, .capture (edit record))
  | payload => (false, payload)

/-- Changes the capture at a position. -/
def updateCapture (id : NodeId) (position : Nat) (confusion : Confusion)
    (edit : Capture → Capture) : MatcherM Unit := do
  let isCapture ← onStore (Store.update position (editCapture edit))
  if isCapture then return () else confused id confusion

/-- Opens a capture inside of the innermost open one, and closes it once the child has matched. -/
def stepCapture (id : NodeId) (name : String) (child : NodeId) : Signal → MatcherM Unit
  | 0 => do
    let parent ← openCapture id
    let start := (← get).subject.cursor
    let opened ← onStore
      (Store.alloc (.capture { name := name, parent := some parent, start := start }))
    updateCapture id parent .parentIsNoCapture fun record =>
      { record with children := record.children ++ [opened] }
    onStore (Store.push openName (.ref opened))
    modify fun matcher => matcher.enter child
  | 1 => do
    let closing ← openCapture id
    let stop := (← get).subject.cursor
    updateCapture id closing .notACapture fun record => { record with stop := some stop }
    onStore (Store.remove openName)
    modify fun matcher => matcher.finish id
  | signal => confused id (.unexpectedSignal signal)

/-! ### The root -/

/-- Sets where the root match starts, if that is given, and where it stops. -/
def setBounds (id : NodeId) (start stop : Option Nat) : MatcherM Unit := do
  match (← get).rootMatch id with
  | .error failure => throw (.failed failure)
  | .ok root =>
    updateCapture id root .rootIsNoCapture fun record =>
      { record with start := start.getD record.start, stop := stop }

/-- Tries the child at the cursor, leaving the choice to try it further on. -/
def attempt (id child : NodeId) (retry : Bool) : MatcherM Unit := do
  setBounds id (some (← get).subject.cursor) none
  modify fun matcher =>
    (if retry then matcher.leaveChoice id .retry else matcher).enter child

/-- Runs the whole pattern. When searching, a failure is followed by an attempt one position further
on, up to the end of the text. -/
def stepRoot (id child : NodeId) (search : Bool) : Signal → MatcherM Unit
  | 0 => attempt id child search
  | 1 => do
    setBounds id none (some (← get).subject.cursor)
    modify fun matcher => matcher.finish id
  | 2 => do
    if (← get).subject.isAtEnd then modify backtrack
    else
      modify fun matcher => matcher.moveTo (matcher.subject.cursor + 1)
      attempt id child true
  | signal => confused id (.unexpectedSignal signal)

/-! ### All nodes -/

/-- Hands a signal to a node. -/
def stepNode (id : NodeId) (node : Node) (signal : Signal) : MatcherM Unit :=
  match node with
  | .root child search => stepRoot id child search signal
  | .text characters => stepText id characters
  | .any => stepChar id (· != '\n')
  | .charClass set => stepChar id set.contains
  | .anchor anchor => stepAnchor id anchor
  | .sequence children => stepSequence id children signal
  | .alternation children => stepAlternation id children signal
  | .repetition child min max lazily => stepRepetition id child min max lazily signal
  | .atomic child => stepAtomic id child signal
  | .lookahead child negative => stepLookahead id child negative signal
  | .capture name child => stepCapture id name child signal

end Rewind.Matcher
