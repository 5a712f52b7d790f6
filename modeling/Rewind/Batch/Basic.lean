/-
This file defines batches. A batch matches a program against the files of one list after the other.
No file is matched twice, not even for different lists, and the matchers of the workers go on from
list to list.
-/

import Rewind.Batch.Round

namespace Rewind

/-- All that a batch has done so far. -/
structure Batch where
  job : Job
  claims : Claims := {}
  /-- What was noted, the oldest first. -/
  log : List Notice := []
  /-- The matchers of the workers. -/
  matchers : List (Option Matcher) := []

namespace Batch

/-- The number of errors so far. -/
def errors (batch : Batch) : Nat := batch.log.countP Notice.isError

/-- The start of a round. There is always a worker. -/
def start (batch : Batch) (names : List Path) (workers : Nat) : Round :=
  { names := names
    claims := batch.claims
    log := batch.log
    workers := (List.range (max workers 1)).map fun index =>
      { matcher := batch.matchers[index]?.join } }

/-- The batch after a round. -/
def conclude (batch : Batch) (round : Round) : Batch :=
  { batch with
    claims := round.claims
    log := if round.hasLost then round.log ++ [.workerLost] else round.log
    matchers := round.workers.map Worker.matcher }

/-- What is answered for a list of files: the reports on them, or the number of errors if there were
any so far. -/
def answer (batch : Batch) (names : List Path) : Except Nat (List (Path × Report)) :=
  if batch.errors = 0 then .ok (batch.claims.reportsOn names) else .error batch.errors

/-- Matches some files with a number of workers that follow a schedule. -/
def matchBy (batch : Batch) (names : List Path) (workers : Nat) (schedule : List Nat) :
    Except Nat (List (Path × Report)) × Batch :=
  let batch := batch.conclude ((batch.start names workers).follow batch.job schedule)
  (batch.answer names, batch)

/-- Matches some files with a number of workers. -/
def matchFiles (batch : Batch) (names : List Path) (workers : Nat) :
    Except Nat (List (Path × Report)) × Batch :=
  batch.matchBy names workers (batch.start names workers).inTurn

end Batch

end Rewind
