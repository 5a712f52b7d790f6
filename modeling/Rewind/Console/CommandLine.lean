/-
This file defines the program as it is called: with a pattern and the files to match it against, or
with nothing for a session.
-/

import Rewind.Batch.Basic
import Rewind.Console.Transcript

namespace Rewind.Console

/-- The number of workers on the files of the command line. -/
def workerCount : Nat := 8

/-- What is printed for a file. -/
def reportText (name : Path) (report : Report) : String :=
  "# " ++ name.display ++ "\n" ++
    match report.tree with
    | some tree => tree.render
    | none => if report.outcome = .paused then "timed out\n" else "no match\n"

/-- What is printed for the files of the command line, in their order, each as often as it was
given. -/
def reportTexts (reports : List (Path × Report)) (names : List Path) : String :=
  String.join (names.map fun name =>
    match reports.find? fun entry => entry.1.sameName name with
    | some (_, report) => reportText name report
    | none => "")

/-- Whether a file matched. -/
def anyMatched (reports : List (Path × Report)) : Bool :=
  reports.any fun entry => entry.2.tree.isSome

/-- Matches a program against files. -/
def matchFiles (program : Program) (files : FileSource) (names : List Path) : Transcript :=
  let start : Batch := { job := { program := program, files := files } }
  let (answer, batch) := start.matchFiles names workerCount
  let log := batch.log.map Notice.line
  match answer with
  | .error count =>
    { messages := log ++ [complaintLine ("got " ++ toString count ++ " errors")]
      ending := .failure }
  | .ok reports =>
    { output := reportTexts reports names
      messages := log
      ending := if anyMatched reports then .success else .failure }

/-- Matches a pattern against files. -/
def matchPattern (pattern : List UInt8) (files : FileSource) (names : List Path) : Transcript :=
  match Text.decode? pattern with
  | none => { messages := [complaintLine "pattern is not valid UTF-8"], ending := .misuse }
  | some text =>
    match Source.compile { name := "<pattern>", text := text } true with
    | .error (.unreadable report) => { messages := [report], ending := .misuse }
    | .error (.unlinked _) => { ending := .crash }
    | .ok program => matchFiles program files names

/-- Runs the program with the given arguments. -/
def run (arguments : List (List UInt8)) (files : FileSource) (input : List UInt8) : Transcript :=
  match arguments with
  | [] => interact input
  | pattern :: names => matchPattern pattern files (names.map Path.mk)

end Rewind.Console
