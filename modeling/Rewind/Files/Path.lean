/-
This file defines the names of files. A name is any bytes, with slashes between its parts. Two
spellings name the same file to us if they have the same components, whatever there is on the disk.
-/

import Rewind.Text.Utf8

namespace Rewind

/-- The name of a file, as it was spelled. -/
structure Path where
  bytes : List UInt8
  deriving DecidableEq, Repr

namespace Path

/-- What a name is made of. -/
inductive Component
  /-- The root of all files. -/
  | root
  /-- The current directory. -/
  | here
  /-- The directory above. -/
  | parent
  | name (bytes : List UInt8)
  deriving DecidableEq, Repr

/-- The byte between two parts of a name. -/
def slash : UInt8 := 0x2f

/-- The part that stands for the current directory. -/
def dot : List UInt8 := [0x2e]

/-- The part that stands for the directory above. -/
def dotDot : List UInt8 := [0x2e, 0x2e]

/-- The name with the given spelling. -/
def ofString (spelling : String) : Path := ⟨Text.encode spelling.toList⟩

/-- The name for display. -/
def display (path : Path) : String := String.ofList (Text.decodeLossy path.bytes)

/-- The parts between the slashes. There is always one, and any may be empty. -/
def partsOf : List UInt8 → List (List UInt8)
  | [] => [[]]
  | byte :: rest =>
    if byte = slash then [] :: partsOf rest
    else
      match partsOf rest with
      | [] => [[byte]]
      | part :: parts => (byte :: part) :: parts

/-- The parts of a name. -/
def parts (path : Path) : List (List UInt8) := partsOf path.bytes

/-- Whether a name starts at the root. -/
def isAbsolute (path : Path) : Bool := path.bytes.head? = some slash

/-- The component of a part. An empty part has none, and neither has a single dot. -/
def componentOf? (part : List UInt8) : Option Component :=
  if part = [] ∨ part = dot then none
  else if part = dotDot then some .parent
  else some (.name part)

/-- The components of a name. A single dot counts only where the name starts with it. -/
def components (path : Path) : List Component :=
  let counted := path.parts.filterMap componentOf?
  if path.isAbsolute then .root :: counted
  else if path.parts.head? = some dot then .here :: counted
  else counted

/-- Whether two spellings are the same name. -/
def sameName (path other : Path) : Bool := path.components = other.components

/-- The name as seen from a directory. -/
def join (directory path : Path) : Path :=
  if path.isAbsolute then path
  else
    match directory.bytes.getLast? with
    | none => path
    | some last =>
      if last = slash then ⟨directory.bytes ++ path.bytes⟩
      else ⟨directory.bytes ++ slash :: path.bytes⟩

/-- The given names without those that came before in another spelling. -/
def distinct : List Path → List Path
  | [] => []
  | path :: paths => path :: (distinct paths).filter fun other => !path.sameName other

end Path

end Rewind
