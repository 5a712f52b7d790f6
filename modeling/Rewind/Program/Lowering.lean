/-
This file lowers patterns to programs. Children are lowered before their parent, so the root is the
last node. Groups that only group leave no trace, runs of literal characters become a single node,
and a sequence that is left with one child is that child.
-/

import Rewind.Pattern.Parse
import Rewind.Program.Node

namespace Rewind

/-- Children of a sequence, each linked with the signal for its index. -/
def sequenceLinks (children : List NodeId) : List (NodeId × Signal) :=
  children.zipIdx.map fun child => (child.1, Signal.itemDone child.2)

/-- Children that are all linked with the same signal. -/
def doneLinks (children : List NodeId) : List (NodeId × Signal) :=
  children.map fun child => (child, Signal.childDone)

namespace Arena

/-- Adds the literal characters gathered so far as one node, if there are any. -/
def addRun (arena : Arena) (run : List Char) : Except LinkError (List NodeId × Arena) :=
  if run.isEmpty then .ok ([], arena)
  else do
    let (id, arena) ← arena.add (.text run) []
    return ([id], arena)

/-- Adds the sequence of some children; a single child needs none. -/
def addSequence (arena : Arena) : List NodeId → Except LinkError (NodeId × Arena)
  | [child] => .ok (child, arena)
  | children => arena.add (.sequence children) (sequenceLinks children)

end Arena

mutual

/-- Adds the nodes of an expression, and returns the outermost one. -/
def Expr.lower (arena : Arena) : Expr → Except LinkError (NodeId × Arena)
  | .char value _ => arena.add (.text [value]) []
  | .any _ => arena.add .any []
  | .anchor anchor _ => arena.add (.anchor anchor) []
  | .charClass set _ => arena.add (.charClass set) []
  | .group kind body _ => do
    let (child, arena) ← body.lower arena
    match kind with
    | .plain => return (child, arena)
    | .named name => arena.add (.capture name child) (doneLinks [child])
    | .atomic => arena.add (.atomic child) (doneLinks [child])
    | .ahead => arena.add (.lookahead child false) (doneLinks [child])
    | .notAhead => arena.add (.lookahead child true) (doneLinks [child])
  | .repetition body min max lazily _ => do
    let (child, arena) ← body.lower arena
    arena.add (.repetition child min max lazily) (doneLinks [child])
  | .sequence items _ => do
    let (children, arena) ← lowerItems arena [] items
    arena.addSequence children
  | .alternation branches _ => do
    let (children, arena) ← lowerBranches arena branches
    arena.add (.alternation children) (doneLinks children)

/-- Adds the items of a sequence behind some literal characters that wait to become a node. -/
def lowerItems (arena : Arena) (run : List Char) :
    List Expr → Except LinkError (List NodeId × Arena)
  | [] => arena.addRun run
  | .char value _ :: items => lowerItems arena (run ++ [value]) items
  | item :: items => do
    let (waiting, arena) ← arena.addRun run
    let (child, arena) ← item.lower arena
    let (children, arena) ← lowerItems arena [] items
    return (waiting ++ child :: children, arena)

/-- Adds the branches of an alternation. -/
def lowerBranches (arena : Arena) : List Expr → Except LinkError (List NodeId × Arena)
  | [] => .ok ([], arena)
  | branch :: branches => do
    let (child, arena) ← branch.lower arena
    let (children, arena) ← lowerBranches arena branches
    return (child :: children, arena)

end

/-- The program of a pattern. When searching it looks for a match anywhere in the text, otherwise
only at the start. -/
def Pattern.compile (pattern : Pattern) (search : Bool) : Except LinkError Program := do
  let (child, arena) ← pattern.expr.lower #[]
  let (root, arena) ← arena.add (.root child search) (doneLinks [child])
  return arena.toProgram root

/-- Why a text could not be compiled. -/
inductive CompileError
  /-- The text is no pattern; the line that reports it. -/
  | unreadable (report : String)
  /-- The nodes were linked wrongly. -/
  | unlinked (error : LinkError)
  deriving DecidableEq, Repr

/-- Reads and compiles the pattern in a source. -/
def Source.compile (source : Source) (search : Bool) : Except CompileError Program :=
  match Pattern.parse source.text with
  | .error error => .error (.unreadable (error.report source))
  | .ok pattern => (pattern.compile search).mapError .unlinked

end Rewind
