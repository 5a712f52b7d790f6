/-
This file defines why a file cannot be read, and what all sources of files have in common.
-/

import Rewind.Files.Path

namespace Rewind

/-- Why a file cannot be read. -/
inductive ReadFault
  /-- There is no such file or directory. -/
  | notFound
  /-- Something on the way is no directory. -/
  | notADirectory
  /-- It is a directory. -/
  | isADirectory
  /-- The bytes are no text. -/
  | notText
  /-- The file is not below the directory it has to be in. -/
  | fencedOff
  /-- No file can have such a name. -/
  | zeroInName
  /-- The name or a part of it has too many bytes. -/
  | nameTooLong
  /-- There is no text with this name. -/
  | noSuchText (name : Path)
  /-- Anything else, in the words of the system. -/
  | other (text : String)
  deriving DecidableEq, Repr

/-- The wording of a fault. -/
def ReadFault.message : ReadFault → String
  | notFound => "No such file or directory (os error 2)"
  | notADirectory => "Not a directory (os error 20)"
  | isADirectory => "Is a directory (os error 21)"
  | notText => "stream did not contain valid UTF-8"
  | fencedOff => "attempted to escape local filesystem prefix"
  | zeroInName => "file name contained an unexpected NUL byte"
  | nameTooLong => "File name too long (os error 36)"
  | noSuchText name => "no such file: " ++ name.display
  | other text => text

/-- A source of files gives every name a text or says what is wrong. -/
abbrev FileSource := Path → Except ReadFault (List Char)

/-- The texts in a list, each under a name. A later one replaces an earlier one. -/
def FileSource.ofTexts (texts : List (Path × List Char)) : FileSource := fun name =>
  match texts.reverse.find? fun entry => entry.1.sameName name with
  | some entry => .ok entry.2
  | none => .error (.noSuchText name)

end Rewind
