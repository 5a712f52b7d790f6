/-
This file defines programs: arenas of nodes, each of which is a small state machine. A node is
entered with a signal and decides where control goes next; when it finishes, control returns along
its link to its parent, which learns from the signal on the link what has finished.

Each kind of node fixes the signal its children are linked with, and those it leaves in the rollback
points it creates.

A program is built from the bottom up. Adding a node links its children to it, so a child has to be
there already and must not belong to another parent.
-/

import Rewind.Pattern.Expr

namespace Rewind

/-- The index of a node within its program. -/
abbrev NodeId := Nat

/-- A step of a node's state machine. Every node is entered with signal zero. -/
abbrev Signal := Nat

namespace Signal

/-- The signal a node is entered with. -/
def enter : Signal := 0

/-- Tells a node with a single child, or an alternation, that the child has matched. -/
def childDone : Signal := 1

/-- Tells the root to try again one position further on. -/
def retry : Signal := 2

/-- Tells a sequence that its child with an index has matched. The signal is also the index of the
child to run next. -/
def itemDone (index : Nat) : Signal := index + 1

/-- Tells an alternation to try the branch with an index. -/
def tryBranch (index : Nat) : Signal := index + 2

/-- Tells a repetition to stop where it once went on. -/
def leave : Signal := 2

/-- Tells a repetition to go on where it once stopped. -/
def goOn : Signal := 3

/-- Tells an atomic group or a lookahead that its child did not match. -/
def childFailed : Signal := 2

end Signal

/-- A node of a program. -/
inductive Node
  /-- The outermost node: it closes the match, and when searching retries at later positions. -/
  | root (child : NodeId) (search : Bool)
  /-- A run of literal characters. -/
  | text (characters : List Char)
  /-- Any character but a line feed. -/
  | any
  /-- A character of a class. -/
  | charClass (set : CharClass)
  /-- An end of the text. -/
  | anchor (anchor : Anchor)
  /-- The children one after the other. -/
  | sequence (children : List NodeId)
  /-- One of the children, the first that does. -/
  | alternation (children : List NodeId)
  /-- The child several times. -/
  | repetition (child : NodeId) (min : Nat) (max : Option Nat) (lazily : Bool)
  /-- The child without going back into it. -/
  | atomic (child : NodeId)
  /-- The child, or its absence, without consuming anything. -/
  | lookahead (child : NodeId) (negative : Bool)
  /-- The child, recorded under a name. -/
  | capture (name : String) (child : NodeId)
  deriving DecidableEq, Repr

/-- Where control goes when a node finishes. -/
structure Link where
  parent : NodeId
  signal : Signal
  deriving DecidableEq, Repr

/-- A node in its place: without a link to a parent, finishing it ends the program. -/
structure LinkedNode where
  node : Node
  link : Option Link := none
  deriving DecidableEq, Repr

/-- An arena of nodes and the one that execution starts at. -/
structure Program where
  nodes : Array LinkedNode
  root : NodeId
  deriving DecidableEq, Repr

namespace Program

/-- The node with an index. -/
def node? (program : Program) (id : NodeId) : Option Node :=
  program.nodes[id]?.map LinkedNode.node

/-- Where control goes when a node finishes. -/
def link? (program : Program) (id : NodeId) : Option Link :=
  program.nodes[id]?.bind LinkedNode.link

/-- The number of nodes. -/
def size (program : Program) : Nat := program.nodes.size

end Program

/-! ### Building programs -/

/-- A mistake in linking nodes. -/
inductive LinkError
  /-- The child belongs to another parent already. -/
  | twoParents (child : NodeId)
  /-- The child has not been added yet. -/
  | missingChild (child : NodeId)
  deriving DecidableEq, Repr

/-- The nodes of a program that is being built. -/
abbrev Arena := Array LinkedNode

namespace Arena

/-- Links a child to a parent. -/
def attach (arena : Arena) (parent : NodeId) (child : NodeId × Signal) : Except LinkError Arena :=
  match arena[child.1]? with
  | none => .error (.missingChild child.1)
  | some linked =>
    match linked.link with
    | some _ => .error (.twoParents child.1)
    | none =>
      .ok (arena.setIfInBounds child.1
        { linked with link := some { parent := parent, signal := child.2 } })

/-- Adds a node, linking children to it with the signals they come with. Returns the index of the
new node. -/
def add (arena : Arena) (node : Node) (children : List (NodeId × Signal)) :
    Except LinkError (NodeId × Arena) := do
  let linked ← children.foldlM (fun arena child => arena.attach arena.size child) arena
  return (arena.size, linked.push { node := node })

/-- Closes an arena into a program. -/
def toProgram (arena : Arena) (root : NodeId) : Program := { nodes := arena, root := root }

end Arena

end Rewind
