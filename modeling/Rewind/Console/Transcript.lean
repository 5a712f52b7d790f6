/-
This file defines what a program prints and how it exits, and the transcript of a whole session.
-/

import Rewind.Console.Session
import Rewind.Files.ReadFault
import Rewind.Text.Utf8

namespace Rewind.Console

/-- How a program comes to its end. -/
inductive Ending
  | success
  /-- What was asked for could not be done, or there was no match. -/
  | failure
  /-- It was asked for in a way that makes no sense. -/
  | misuse
  /-- It broke down. -/
  | crash
  deriving DecidableEq, Repr

/-- The exit code of an ending. -/
def Ending.code : Ending → Nat
  | success => 0
  | failure => 1
  | misuse => 2
  | crash => 101

/-- What a program prints, and how it ends. -/
structure Transcript where
  output : String := ""
  /-- The lines for the user that are no output. -/
  messages : List String := []
  ending : Ending
  deriving DecidableEq, Repr

namespace Transcript

/-- Something printed before all else. -/
def printedFirst (text : String) (transcript : Transcript) : Transcript :=
  { transcript with output := text ++ transcript.output }

/-- Something said before all else. -/
def saidFirst (message : String) (transcript : Transcript) : Transcript :=
  { transcript with messages := message :: transcript.messages }

end Transcript

/-- The line of a complaint. -/
def complaintLine (text : String) : String := "error: " ++ text

/-- How a user is welcomed. -/
def greeting : List String :=
  ["Set a pattern with :pattern, then enter lines to match.",
    "Run :quit, or double-press ^C, to escape.",
    "Run :help for more information.",
    ""]

/-- The lines of some bytes. Every line keeps its line feed; the last one may have none. -/
def linesOf : List UInt8 → List (List UInt8)
  | [] => []
  | byte :: rest =>
    if byte = 0x0a then [byte] :: linesOf rest
    else
      match linesOf rest with
      | [] => [[byte]]
      | line :: lines => (byte :: line) :: lines

/-- The rest of a session, given the lines to come. A line that is no text ends it. -/
def converse (session : Session) : List (List UInt8) → Transcript
  | [] => { ending := .success }
  | bytes :: lines =>
    match Text.decode? bytes with
    | none => { messages := [complaintLine ReadFault.notText.message], ending := .failure }
    | some line =>
      match session.respond line with
      | (.silence, session) => converse session lines
      | (.output text, session) => (converse session lines).printedFirst text
      | (.complaint text, session) => (converse session lines).saidFirst (complaintLine text)
      | (.quit, _) => { ending := .success }
      | (.crash, _) => { ending := .crash }

/-- A whole session with the given input. -/
def interact (input : List UInt8) : Transcript :=
  let transcript := converse {} (linesOf input)
  { transcript with messages := greeting ++ transcript.messages }

end Rewind.Console
