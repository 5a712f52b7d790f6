/-
This file defines a tree of directories and files, and how names lead through it. Every part of a
name starts at a directory: an empty part or a single dot stays there, two dots go up, and anything
else goes down. How long a part may be is limited, and how long a name may be that is used to open a
file.
-/

import Rewind.Files.ReadFault

namespace Rewind

/-- Where something is in a tree: the names from the root down. -/
abbrev Location := List (List UInt8)

/-- What is at a location. -/
inductive FileEntry
  | directory
  | file (content : List UInt8)
  deriving DecidableEq, Repr

/-- A tree of directories and files. -/
structure FileTree where
  entries : List (Location × FileEntry) := []
  deriving DecidableEq, Repr

namespace FileTree

/-- What is at a location. There is always a root. -/
def entry? (tree : FileTree) (location : Location) : Option FileEntry :=
  if location = [] then some .directory else tree.entries.lookup location

/-! ### Reading -/

/-- The most bytes that a part of a name can have. -/
def longestPart : Nat := 255

/-- The most bytes that a name can have that is used to open a file. -/
def longestName : Nat := 4095

/-- Goes on along the parts of a name. -/
def walk (tree : FileTree) (here : Location) : List (List UInt8) → Except ReadFault Location
  | [] => .ok here
  | part :: parts =>
    if tree.entry? here ≠ some .directory then .error .notADirectory
    else if part = [] ∨ part = Path.dot then walk tree here parts
    else if part = Path.dotDot then walk tree here.dropLast parts
    else if longestPart < part.length then .error .nameTooLong
    else if tree.entry? (here ++ [part]) = none then .error .notFound
    else walk tree (here ++ [part]) parts

/-- The location that a name leads to from the root. It is found part by part, so the name as a
whole may be of any length. -/
def locate (tree : FileTree) (path : Path) : Except ReadFault Location :=
  if 0 ∈ path.bytes then .error .zeroInName else tree.walk [] path.parts

/-- The text at a location. -/
def textAt (tree : FileTree) (location : Location) : Except ReadFault (List Char) :=
  match tree.entry? location with
  | none => .error .notFound
  | some .directory => .error .isADirectory
  | some (.file content) =>
    match Text.decode? content with
    | some text => .ok text
    | none => .error .notText

/-- The text of the file that a name leads to from the root. -/
def readText (tree : FileTree) (path : Path) : Except ReadFault (List Char) :=
  if 0 ∈ path.bytes then .error .zeroInName
  else if longestName < path.bytes.length then .error .nameTooLong
  else (tree.walk [] path.parts).bind tree.textAt

/-! ### Changing -/

/-- The locations that a name leads through, whether there is anything or not. -/
def route (here : Location) : List (List UInt8) → List Location
  | [] => []
  | part :: parts =>
    let next :=
      if part = [] ∨ part = Path.dot then here
      else if part = Path.dotDot then here.dropLast
      else here ++ [part]
    next :: route next parts

/-- Makes a directory where there is nothing. -/
def makeDirectory (tree : FileTree) (location : Location) : FileTree :=
  match tree.entry? location with
  | some _ => tree
  | none => { tree with entries := (location, .directory) :: tree.entries }

/-- Puts something where a name leads to, and makes the directories on the way. -/
def put (tree : FileTree) (path : Path) (entry : FileEntry) : FileTree :=
  let stops := route [] path.parts
  let tree := stops.dropLast.foldl makeDirectory tree
  match stops.getLast?, entry with
  | none, _ => tree
  | some location, .directory => tree.makeDirectory location
  | some location, .file content =>
    if tree.entry? location = some .directory then tree
    else { tree with entries := (location, .file content) :: tree.entries }

/-- Removes what a name leads to, and all below it. -/
def remove (tree : FileTree) (path : Path) : FileTree :=
  match (route [] path.parts).getLast? with
  | none => tree
  | some location =>
    { tree with entries := tree.entries.filter fun entry => !location.isPrefixOf entry.1 }

end FileTree

end Rewind
