/-
This file defines what matching a single file yields, and the claims on files: a file is claimed
before it is matched, so that it is matched only once, and its report is filed under its claim.
-/

import Rewind.Files.ReadFault
import Rewind.Matcher.MatchTree

namespace Rewind

/-- What matching a file yielded. -/
structure Report where
  outcome : Outcome
  /-- The match tree, if there was a match. -/
  tree : Option MatchTree
  ticks : Nat
  /-- The numbers of the store when the run ended. -/
  statistics : Statistics

/-- The report on a run that came to its end. -/
def Matcher.reportOn (matcher : Matcher) (outcome : Outcome) : Except Abort Report := do
  return {
    outcome := outcome
    tree := ← matcher.result
    ticks := matcher.ticks
    statistics := matcher.store.statistics }

/-- Matches a text and throws away what that leaves behind. Only a defect leaves the matcher as it
is. -/
def Matcher.examine (matcher : Matcher) (text : List Char) : Except Abort Report × Matcher :=
  match matcher.matchText text with
  | .ok outcome reached =>
    match reached.reportOn outcome with
    | .error (.defect defect) => (.error (.defect defect), reached)
    | answer => (answer, reached.reset)
  | .error (.defect defect) reached => (.error (.defect defect), reached)
  | .error (.failed failure) reached => (.error (.failed failure), reached.reset)

/-- The claims on files, by the components of their names. A claim has no report while its file is
being matched, nor ever if that failed. -/
structure Claims where
  entries : List (List Path.Component × Option Report) := []

namespace Claims

/-- Whether a file is claimed. -/
def contains (claims : Claims) (name : Path) : Bool :=
  (claims.entries.lookup name.components).isSome

/-- The report filed under the claim on a file. -/
def report? (claims : Claims) (name : Path) : Option Report :=
  (claims.entries.lookup name.components).join

/-- Claims a file, unless it is claimed. -/
def claim? (claims : Claims) (name : Path) : Option Claims :=
  if claims.contains name then none
  else some { claims with entries := (name.components, none) :: claims.entries }

/-- Files a report. -/
def file (claims : Claims) (name : Path) (report : Report) : Claims :=
  { claims with entries := (name.components, some report) :: claims.entries }

@[simp] theorem report?_file_self (claims : Claims) (name : Path) (report : Report) :
    (claims.file name report).report? name = some report := by
  simp [file, report?]

theorem report?_file_other (claims : Claims) {name other : Path} (report : Report)
    (differ : other.components ≠ name.components) :
    (claims.file name report).report? other = claims.report? other := by
  simp [file, report?, List.lookup_cons, beq_eq_false_iff_ne.mpr differ]

/-- Only a file that is not claimed can be claimed, and then it is. -/
theorem contains_of_claim? {claims claimed : Claims} {name : Path}
    (succeeded : claims.claim? name = some claimed) :
    claims.contains name = false ∧ claimed.contains name = true := by
  unfold claim? at succeeded
  split at succeeded
  · cases succeeded
  · rename_i unclaimed
    cases succeeded
    exact ⟨Bool.eq_false_iff.mpr unclaimed, by simp [contains]⟩

/-- The reports on the given files, each once, under the spelling that comes first. -/
def reportsOn (claims : Claims) (names : List Path) : List (Path × Report) :=
  (Path.distinct names).filterMap fun name =>
    (claims.report? name).map fun report => (name, report)

end Claims

end Rewind
