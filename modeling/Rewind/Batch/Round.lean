/-
This file defines how workers share a list of files. A worker takes the next name, claims it unless
it is claimed, matches the file with its own matcher, and files the report; then it takes the next
name. Each of these is one step, and a schedule says whose turn it is.
-/

import Rewind.Batch.Notice
import Rewind.Batch.Report

namespace Rewind

/-- What to match, and where the files come from. -/
structure Job where
  program : Program
  settings : Settings := {}
  files : FileSource

/-- What a worker is about to do. -/
inductive Phase
  /-- To take the next name. -/
  | idle
  /-- To claim a file. -/
  | claiming (name : Path)
  /-- To match the file it has claimed. -/
  | matching (name : Path)
  /-- To file a report. -/
  | filing (name : Path) (report : Report)
  /-- Nothing, since no name is left. -/
  | done
  /-- Nothing, since it ran into a defect. -/
  | lost

/-- A worker. Its matcher is made for its first file, and serves all others. -/
structure Worker where
  phase : Phase := .idle
  matcher : Option Matcher := none

/-- Matches a file with the matcher of a worker. Returns what is to be noted. -/
def Worker.matchFile (worker : Worker) (job : Job) (name : Path) : Worker × List Notice :=
  match job.files name with
  | .error fault => ({ worker with phase := .idle }, [.matching name, .unreadable name fault])
  | .ok text =>
    match (worker.matcher.getD (.ofProgram job.program job.settings)).examine text with
    | (.ok report, matcher) =>
      ({ phase := .filing name report, matcher := some matcher },
        [.matching name, .finished name report.ticks])
    | (.error (.failed failure), matcher) =>
      ({ phase := .idle, matcher := some matcher }, [.matching name, .failed name failure])
    | (.error (.defect _), matcher) =>
      ({ phase := .lost, matcher := some matcher }, [.matching name])

/-- Workers on a list of files. -/
structure Round where
  names : List Path
  /-- The index of the next name to take. -/
  next : Nat := 0
  claims : Claims
  /-- What was noted, the oldest first. -/
  log : List Notice
  workers : List Worker

namespace Round

/-- Replaces a worker. -/
def withWorker (round : Round) (index : Nat) (worker : Worker) : Round :=
  { round with workers := round.workers.set index worker }

/-- The step of a worker that is about to take the next name. -/
def take (round : Round) (index : Nat) (worker : Worker) : Round :=
  { round with next := round.next + 1 }.withWorker index
    { worker with
      phase :=
        match round.names[round.next]? with
        | some name => .claiming name
        | none => .done }

/-- The step of a worker that is about to claim a file. -/
def claim (round : Round) (index : Nat) (worker : Worker) (name : Path) : Round :=
  match round.claims.claim? name with
  | none => round.withWorker index { worker with phase := .idle }
  | some claims =>
    { round with claims := claims }.withWorker index { worker with phase := .matching name }

/-- The step of a worker that is about to match a file. -/
def examine (round : Round) (job : Job) (index : Nat) (worker : Worker) (name : Path) : Round :=
  match worker.matchFile job name with
  | (worker, notices) => { round with log := round.log ++ notices }.withWorker index worker

/-- The step of a worker that is about to file a report. -/
def file (round : Round) (index : Nat) (worker : Worker) (name : Path) (report : Report) : Round :=
  { round with claims := round.claims.file name report }.withWorker index
    { worker with phase := .idle }

/-- Lets a worker take a step, if it has any to take. -/
def step (job : Job) (round : Round) (index : Nat) : Round :=
  match round.workers[index]? with
  | none => round
  | some worker =>
    match worker.phase with
    | .idle => round.take index worker
    | .claiming name => round.claim index worker name
    | .matching name => round.examine job index worker name
    | .filing name report => round.file index worker name report
    | .done | .lost => round

/-- Follows a schedule: whose turn it is, one after the other. -/
def follow (job : Job) (round : Round) (schedule : List Nat) : Round :=
  schedule.foldl (step job) round

/-- Whether a worker ran into a defect. -/
def hasLost (round : Round) : Bool :=
  round.workers.any fun worker =>
    match worker.phase with
    | .lost => true
    | _ => false

/-- The schedule by which one worker after the other goes on until it has nothing to do: four steps
for every file, and one to see that there is no other. -/
def inTurn (round : Round) : List Nat :=
  (List.range round.workers.length).flatMap fun index =>
    List.replicate (4 * round.names.length + 1) index

end Round

end Rewind
