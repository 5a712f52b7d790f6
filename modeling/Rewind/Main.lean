/-
This file is the program itself: it reads what it is given, hands it over and prints the answer.
Runs are limited in ticks only; nothing here watches the clock.
-/

import Rewind.Console.CommandLine

namespace Rewind.Main

open Console

/-- What is wrong, as the system reports it. Its codes may come with either sign. -/
def faultOf (error : IO.Error) : ReadFault :=
  match error with
  | .noFileOrDirectory _ _ _ => .notFound
  | .inappropriateType _ code _ =>
    if code = 21 ∨ code = -21 then .isADirectory else .notADirectory
  | .invalidArgument _ code _ =>
    if code = 36 ∨ code = -36 then .nameTooLong else .other (toString error)
  | _ => .other (toString error)

/-- Reads a file. -/
def readText (name : Path) : IO (Except ReadFault (List Char)) := do
  try
    let content ← IO.FS.readBinFile name.display
    match Text.decode? content.toList with
    | some text => return .ok text
    | none => return .error .notText
  catch error => return .error (faultOf error)

/-- Reads all files that are named, for the names to be looked up later. -/
def readAll (names : List Path) : IO FileSource := do
  let read ← names.mapM fun name => return (name, ← readText name)
  return fun name =>
    match read.find? fun entry => entry.1.sameName name with
    | some entry => entry.2
    | none => .error .notFound

/-- Prints a transcript. Returns its exit code. -/
def print (transcript : Transcript) : IO UInt32 := do
  for message in transcript.messages do
    IO.eprintln message
  IO.print transcript.output
  return transcript.ending.code.toUInt32

/-- Reads the bytes of a line, its line feed included. There are none at the end of the input. -/
partial def readLine (input : IO.FS.Stream) (bytes : List UInt8) : IO (List UInt8) := do
  match (← input.read 1).toList with
  | [] => return bytes.reverse
  | byte :: _ =>
    if byte = 0x0a then return (byte :: bytes).reverse else readLine input (byte :: bytes)

/-- Responds to one line after the other. Returns the exit code. -/
partial def respondAll (input : IO.FS.Stream) (session : Session) : IO UInt32 := do
  match ← readLine input [] with
  | [] => return Ending.success.code.toUInt32
  | bytes =>
    match Text.decode? bytes with
    | none =>
      IO.eprintln (complaintLine ReadFault.notText.message)
      return Ending.failure.code.toUInt32
    | some line =>
      match session.respond line with
      | (.silence, session) => respondAll input session
      | (.output text, session) =>
        IO.print text
        respondAll input session
      | (.complaint text, session) =>
        IO.eprintln (complaintLine text)
        respondAll input session
      | (.quit, _) => return Ending.success.code.toUInt32
      | (.crash, _) => return Ending.crash.code.toUInt32

end Rewind.Main

/-- Matches a pattern against files, or starts a session if there are no arguments. -/
def main (arguments : List String) : IO UInt32 := do
  match arguments with
  | [] =>
    IO.eprintln "Welcome to rewind"
    for line in Rewind.Console.greeting do
      IO.eprintln line
    Rewind.Main.respondAll (← IO.getStdin) {}
  | pattern :: names =>
    let names := names.map Rewind.Path.ofString
    let files ← Rewind.Main.readAll names
    Rewind.Main.print (Rewind.Console.matchPattern pattern.toUTF8.toList files names)
