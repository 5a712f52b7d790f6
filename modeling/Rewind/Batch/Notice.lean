/-
This file defines what the log of a batch says.
-/

import Rewind.Files.ReadFault
import Rewind.Matcher.Failure

namespace Rewind

/-- A line of the log. -/
inductive Notice
  /-- A file is about to be read and matched. -/
  | matching (name : Path)
  /-- A file has been matched, or tried to. -/
  | finished (name : Path) (ticks : Nat)
  /-- A file cannot be read. -/
  | unreadable (name : Path) (fault : ReadFault)
  /-- Matching a file was aborted. -/
  | failed (name : Path) (failure : Failure)
  /-- A worker is gone. -/
  | workerLost
  deriving DecidableEq, Repr

namespace Notice

/-- Whether something went wrong. -/
def isError : Notice → Bool
  | matching _ | finished _ _ => false
  | unreadable _ _ | failed _ _ | workerLost => true

/-- The wording of a notice. -/
def line : Notice → String
  | matching name => "info: matching " ++ name.display ++ "..."
  | finished name ticks =>
    "info: finished " ++ name.display ++ " in " ++ toString ticks ++ " ticks"
  | unreadable name fault =>
    "error: cannot read file " ++ name.display ++ ": " ++ fault.message
  | failed name failure => "error: " ++ name.display ++ ": " ++ failure.message
  | workerLost => "error: a matcher thread panicked"

end Notice

end Rewind
