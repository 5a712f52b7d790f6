/-
This file defines the journal, in which the store and the matcher note what they do. Keeping one is
optional, and nothing ever reads it back.
-/

namespace Rewind

/-- Something worth noting. -/
inductive Event
  /-- A generation was started on top of another one at some depth. -/
  | froze (generation below depth : Nat)
  /-- There was no checkpoint to roll back to. -/
  | exhausted
  /-- A generation was rolled back. -/
  | rolledBack (generation : Nat)
  /-- Generations were discarded down to one. -/
  | restored (discarded generation : Nat)
  /-- Generations were merged into one. -/
  | merged (count generation : Nat)
  /-- A sweep freed cells and set the threshold. -/
  | swept (freed heapSize before after : Nat)
  /-- A run was started on a text at a node. -/
  | started (characters entry : Nat)
  /-- A run used up its budget. -/
  | paused (ticks : Nat)
  /-- A run was aborted. -/
  | aborted (ticks : Nat) (reason : String)
  /-- How far a run has come. -/
  | progress (ticks cursor characters heapSize freeCells chainLength : Nat)
  deriving DecidableEq, Repr

namespace Event

/-- The line of an event, with its importance in front. -/
def line : Event → String
  | froze generation below depth =>
    "TRACE freeze: generation " ++ toString generation ++ " on top of " ++ toString below
      ++ " (depth " ++ toString depth ++ ")"
  | exhausted => "DEBUG rollback: no checkpoints left"
  | rolledBack generation => "TRACE rollback: discarding generation " ++ toString generation
  | restored discarded generation =>
    "TRACE restore: discarding " ++ toString discarded ++ " generation(s) down to "
      ++ toString generation
  | merged count generation =>
    "DEBUG collapse: merged " ++ toString count ++ " generation(s) into " ++ toString generation
  | swept freed heapSize before after =>
    "DEBUG sweep: freed " ++ toString freed ++ " of " ++ toString heapSize ++ " cells; threshold "
      ++ toString before ++ " -> " ++ toString after
  | started characters entry =>
    "TRACE run: " ++ toString characters ++ " chars from node #" ++ toString entry
  | paused ticks => "DEBUG paused after " ++ toString ticks ++ " ticks"
  | aborted ticks reason =>
    "DEBUG run aborted after " ++ toString ticks ++ " ticks: " ++ reason
  | progress ticks cursor characters heapSize freeCells chainLength =>
    "TRACE tick " ++ toString ticks ++ ": cursor " ++ toString cursor ++ "/" ++ toString characters
      ++ ", heap " ++ toString heapSize ++ " (" ++ toString freeCells ++ " free), chain "
      ++ toString chainLength

end Event

/-- The events noted so far, if a journal is kept. -/
structure Journal where
  kept : Bool := false
  /-- The newest event first. -/
  events : List Event := []
  deriving DecidableEq, Repr

namespace Journal

/-- Notes an event. -/
def note (journal : Journal) (event : Event) : Journal :=
  if journal.kept then { journal with events := event :: journal.events } else journal

/-- The lines of the journal, the oldest first. -/
def lines (journal : Journal) : List String := (journal.events.map Event.line).reverse

end Journal

end Rewind
