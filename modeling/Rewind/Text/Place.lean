/-
This file relates byte offsets of a text to its characters: where the text can be cut, and which
line and column an offset stands at.
-/

namespace Rewind.Text

/-- The number of bytes the characters take in UTF-8. -/
def byteLength (characters : List Char) : Nat :=
  characters.foldr (fun character length => character.utf8Size + length) 0

/-- Cuts the characters at a byte offset. There is no cut inside of a character, nor behind the
last one. -/
def splitAtByte? : Nat → List Char → Option (List Char × List Char)
  | 0, characters => some ([], characters)
  | _ + 1, [] => none
  | offset, character :: rest =>
    if character.utf8Size ≤ offset then
      (splitAtByte? (offset - character.utf8Size) rest).map fun halves =>
        (character :: halves.1, halves.2)
    else none

/-- The characters between two byte offsets, if both are cuts. -/
def slice? (start stop : Nat) (characters : List Char) : Option (List Char) :=
  if start ≤ stop then
    (splitAtByte? start characters).bind fun halves =>
      (splitAtByte? (stop - start) halves.2).map Prod.fst
  else none

/-- The line and column reached by reading some characters from a given line and column. A line
feed ends a line, and so does a carriage return together with the line feed behind it; a carriage
return alone is an ordinary character. -/
def placeFrom (line column : Nat) : List Char → Nat × Nat
  | [] => (line, column)
  | '\r' :: '\n' :: rest => placeFrom (line + 1) 1 rest
  | '\n' :: rest => placeFrom (line + 1) 1 rest
  | _ :: rest => placeFrom line (column + 1) rest

/-- The line and column of a byte offset, both counted from one. -/
def place? (offset : Nat) (characters : List Char) : Option (Nat × Nat) :=
  (splitAtByte? offset characters).map fun halves => placeFrom 1 1 halves.1

end Rewind.Text
