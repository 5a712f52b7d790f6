/-
This file defines files that are read from a directory. Every file is read once and then kept, under
the name it was asked for by; what could not be read is tried again. A fence may keep the files to
those below some directory.
-/

import Rewind.Files.FileTree

namespace Rewind

/-- Files that are read from a directory. -/
structure LocalFiles where
  /-- The directory that names are seen from. -/
  directory : Path
  /-- The directory that everything has to be below. -/
  fence : Option Path := none
  /-- What was read before. -/
  kept : List (List Path.Component × List Char) := []
  deriving DecidableEq, Repr

/-- The components of the one name that leads straight to a location. -/
def Location.components (location : Location) : List Path.Component :=
  .root :: location.map .name

namespace LocalFiles

/-- Looks a file up in the tree as it is now. A name is followed to the end before it is compared
with the fence, and the fence is taken as it is spelled. -/
def fetch (files : LocalFiles) (tree : FileTree) (name : Path) : Except ReadFault (List Char) := do
  let full := files.directory.join name
  match files.fence with
  | none => tree.readText full
  | some fence =>
    let location ← tree.locate full
    if fence.components.isPrefixOf (Location.components location) then tree.textAt location
    else throw .fencedOff

/-- Reads a file, from the tree only if it was not read before. -/
def read (files : LocalFiles) (tree : FileTree) (name : Path) :
    Except ReadFault (List Char) × LocalFiles :=
  match files.kept.lookup name.components with
  | some text => (.ok text, files)
  | none =>
    match files.fetch tree name with
    | .ok text => (.ok text, { files with kept := (name.components, text) :: files.kept })
    | .error fault => (.error fault, files)

end LocalFiles

end Rewind
