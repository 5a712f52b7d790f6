/-
This file defines the commands of a session. A command is a line that starts with a colon; its name
goes up to the first blank, and what follows that blank is its argument.
-/

import Rewind.Text.CharRanges

namespace Rewind.Console

/-- What a line asks for. -/
inductive Command
  /-- To leave. -/
  | quit
  /-- To clear the screen. -/
  | clear
  /-- To list the commands. -/
  | help
  /-- To set the pattern. -/
  | pattern (text : List Char)
  /-- To search from now on, or to stop searching. -/
  | search
  /-- To show the numbers of the last match. -/
  | statistics
  /-- There is no command with this name. -/
  | unknown (name : String)
  deriving DecidableEq, Repr

/-- The mark that every command starts with. -/
def commandMark : Char := ':'

/-- The first word of a line, its words being what separators leave. -/
def firstWord (line : List Char) : List Char :=
  (line.dropWhile Text.isWordSeparator).takeWhile fun character => !Text.isWordSeparator character

/-- The name and the argument of a command. The line is cut in front of its first blank and one byte
further on, so there is no second cut if the blank takes more bytes than one. -/
def nameAndArgument? (line : List Char) : Option (List Char × List Char) :=
  let name := line.takeWhile fun character => !Text.isBlank character
  match line.drop name.length with
  | [] => some (name, [])
  | blank :: argument => if blank.utf8Size = 1 then some (name, argument) else none

/-- The command with a name and an argument. -/
def Command.ofName (name : String) (argument : List Char) : Command :=
  if name = ":help" ∨ name = ":h" then .help
  else if name = ":pattern" ∨ name = ":p" then .pattern argument
  else if name = ":search" ∨ name = ":s" then .search
  else if name = ":stats" then .statistics
  else .unknown name

/-- The command on a line. The two that stand alone are known by the first word, whatever follows;
for any other the line has to be cut. -/
def Command.ofLine? (line : List Char) : Option Command :=
  let word := String.ofList (firstWord line)
  if word = ":quit" ∨ word = ":q" then some .quit
  else if word = ":clear" ∨ word = ":c" then some .clear
  else
    (nameAndArgument? line).map fun (name, argument) =>
      .ofName (String.ofList name) argument

end Rewind.Console
