/-
This file defines sessions, in which a user sets a pattern and then enters lines to match. A session
takes one line after the other and responds to each.
-/

import Rewind.Console.Command
import Rewind.Matcher.MatchTree
import Rewind.Program.Lowering

namespace Rewind.Console

/-- The state of a session. -/
structure Session where
  settings : Settings := {}
  /-- Whether patterns match anywhere in a line, or only at its start. -/
  search : Bool := true
  /-- The program of the current pattern. -/
  program : Option Program := none
  /-- The numbers of the last match. -/
  statistics : Option String := none

/-- What a session does about a line. -/
inductive Response
  /-- It says nothing. -/
  | silence
  /-- It prints a text. -/
  | output (text : String)
  /-- It prints that something is wrong. -/
  | complaint (text : String)
  /-- It ends. -/
  | quit
  /-- It breaks down. -/
  | crash
  deriving DecidableEq, Repr

/-- A response that is a line of output. -/
def Response.outputLine (text : String) : Response := .output (text ++ "\n")

/-- The list of commands. -/
def help : String :=
  "\n".intercalate
    ["available commands:",
      ":pattern <p> - sets the pattern to match lines against",
      ":search      - toggles between searching and anchored matching",
      ":stats       - shows statistics about the last match",
      ":clear       - clears the terminal",
      ":help        - shows this message",
      ":quit        - exits the REPL"]

/-- What a terminal is sent to clear the screen and to go to its first place. -/
def clearScreen : String := "\x1b[2J\x1b[1;1H"

/-- The numbers of a run. -/
def statisticsOf (matcher : Matcher) : String :=
  toString matcher.ticks ++ " ticks, " ++ toString matcher.collector.sweeps ++ " sweeps\n"
    ++ matcher.store.statistics.summary

/-- What a match or its absence looks like. -/
def matchText : Option MatchTree → String
  | some tree => tree.render
  | none => "no match\n"

namespace Session

/-- Sets the pattern. A pattern that cannot be read leaves everything as it is. -/
def setPattern (session : Session) (text : List Char) : Response × Session :=
  match Source.compile { name := "<stdin>", text := text } session.search with
  | .ok program =>
    (.outputLine ("compiled into " ++ toString program.size ++ " nodes"),
      { session with program := some program })
  | .error (.unreadable report) => (.complaint report, session)
  | .error (.unlinked _) => (.crash, session)

/-- Changes between searching and not searching. The pattern is dropped, since its program was made
for the other mode. -/
def toggleSearch (session : Session) : Response × Session :=
  let search := !session.search
  (.outputLine ((if search then "search" else "anchored") ++ " mode; set the pattern again"),
    { session with search := search, program := none })

/-- Shows the numbers of the last match. -/
def showStatistics (session : Session) : Response :=
  match session.statistics with
  | some text => .outputLine text
  | none => .complaint "nothing has been matched yet"

/-- Carries out a command. -/
def obey (session : Session) : Command → Response × Session
  | .quit => (.quit, session)
  | .clear => (.output clearScreen, session)
  | .help => (.outputLine help, session)
  | .pattern text => session.setPattern text
  | .search => session.toggleSearch
  | .statistics => (session.showStatistics, session)
  | .unknown name => (.complaint ("unknown command: " ++ name), session)

/-- What is said about a run that was aborted. -/
def aborted : Abort → Response
  | .failed failure => .complaint failure.message
  | .defect _ => .crash

/-- What is said about a run that came to its end. -/
def outcomeOf (matcher : Matcher) : Outcome → Response
  | .matched =>
    match matcher.result with
    | .ok tree => .output (matchText tree)
    | .error abort => aborted abort
  | .noMatch => .output (matchText none)
  | .paused => .output "timed out\n"

/-- Matches a line against the current pattern, with a new matcher for every line. -/
def matchLine (session : Session) (line : List Char) : Response × Session :=
  match session.program with
  | none => (.complaint "no pattern; set one with :pattern", session)
  | some program =>
    match (Matcher.ofProgram program session.settings).matchText line with
    | .error abort _ => (aborted abort, session)
    | .ok outcome reached =>
      (outcomeOf reached outcome, { session with statistics := some (statisticsOf reached) })

/-- Responds to a line. An empty one is passed over; what a user enters still has its line feed. -/
def respond (session : Session) (line : List Char) : Response × Session :=
  match line with
  | [] => (.silence, session)
  | first :: _ =>
    if first = commandMark then
      match Command.ofLine? line with
      | some command => session.obey command
      | none => (.crash, session)
    else session.matchLine line

end Session

end Rewind.Console
