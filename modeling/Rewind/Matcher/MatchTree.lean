/-
This file defines match trees: the match, the captures in it, the captures in those, and so on. A
match tree is copied out of the store, so it outlives the run.
-/

import Rewind.Matcher.Run
import Rewind.Text.Quoted

namespace Rewind

/-- A match or one of its captures. -/
structure MatchTree where
  name : String
  start : Nat
  stop : Nat
  text : String
  children : List MatchTree

namespace MatchTree

/-! ### Copying -/

/-- Copies the tree below a capture out of the store, leaving out captures that were never closed.
A tree cannot be deeper than the heap has cells; the depth still allowed is handed down. -/
def extract (store : Store) (subject : Subject) (blamed : NodeId) :
    Nat → Nat → Except Abort (Option MatchTree)
  | 0, _ => .error (.defect .endlessMatchTree)
  | depth + 1, position => do
    let payload ← (store.peek position).mapError fun error => .failed (.store error)
    match payload.capture? with
    | none => throw (.failed (.confused blamed .foreignInTree))
    | some record =>
      match record.stop with
      | none => return none
      | some stop =>
        let children ← record.children.mapM (extract store subject blamed depth)
        return some
          { name := record.name
            start := record.start
            stop := stop
            text := subject.slice record.start stop
            children := children.filterMap id }

/-! ### Looking at trees -/

mutual

/-- The first capture with a name, depth first. -/
def find? (name : String) : MatchTree → Option MatchTree
  | ⟨_, _, _, _, children⟩ => findAmong? name children

/-- The first capture with a name among some trees and what is in them. -/
def findAmong? (name : String) : List MatchTree → Option MatchTree
  | [] => none
  | tree :: trees =>
    if tree.name = name then some tree
    else
      match find? name tree with
      | some found => some found
      | none => findAmong? name trees

end

/-- The line of a match or capture at a depth. -/
def line (depth : Nat) (tree : MatchTree) : String :=
  String.ofList (List.replicate (2 * depth) ' ') ++ tree.name ++ " " ++ toString tree.start
    ++ ".." ++ toString tree.stop ++ " " ++ Text.quotedText tree.text ++ "\n"

mutual

/-- The lines of a tree at a depth, each capture indented below the one around it. -/
def linesAt (depth : Nat) : MatchTree → String
  | ⟨name, start, stop, text, children⟩ =>
    line depth ⟨name, start, stop, text, []⟩ ++ linesOfAll (depth + 1) children

/-- The lines of some trees at a depth. -/
def linesOfAll (depth : Nat) : List MatchTree → String
  | [] => ""
  | tree :: trees => linesAt depth tree ++ linesOfAll depth trees

end

/-- The lines of a tree. -/
def render (tree : MatchTree) : String := linesAt 0 tree

end MatchTree

/-- The match tree of a run that ended with a match. -/
def Matcher.result (matcher : Matcher) : Except Abort (Option MatchTree) := do
  if matcher.status = .ended ∧ matcher.outcome = some .matched then
    let root ← (matcher.rootMatch matcher.program.root).mapError .failed
    MatchTree.extract matcher.store matcher.subject matcher.program.root
      (matcher.store.chain.counters.heapSize + 1) root
  else return none

end Rewind
