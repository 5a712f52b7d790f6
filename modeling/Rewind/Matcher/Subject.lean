/-
This file defines the subject of a match: the text, with a cursor that counts characters. The cursor
never leaves the text.
-/

namespace Rewind

/-- A text with a cursor in it. -/
structure Subject where
  characters : Array Char
  cursor : Nat
  cursor_le : cursor ≤ characters.size

namespace Subject

/-- A text with the cursor at its start. -/
def ofList (characters : List Char) : Subject :=
  { characters := characters.toArray, cursor := 0, cursor_le := Nat.zero_le _ }

/-- The empty text. -/
def empty : Subject := ofList []

/-- The number of characters. -/
def size (subject : Subject) : Nat := subject.characters.size

/-- Moves the cursor, at most to the end of the text. -/
def moveTo (subject : Subject) (cursor : Nat) : Subject :=
  { subject with
    cursor := min cursor subject.characters.size
    cursor_le := Nat.min_le_right _ _ }

/-- The character at the cursor. -/
def peek? (subject : Subject) : Option Char := subject.characters[subject.cursor]?

/-- Moves the cursor over one character, if there is one. -/
def advance (subject : Subject) : Subject := subject.moveTo (subject.cursor + 1)

/-- Whether the cursor is at the start. -/
def isAtStart (subject : Subject) : Bool := subject.cursor == 0

/-- Whether the cursor is at the end. -/
def isAtEnd (subject : Subject) : Bool := subject.characters.size ≤ subject.cursor

/-- Whether the text goes on with some characters at the cursor. -/
def startsWith (subject : Subject) (characters : List Char) : Bool :=
  (subject.characters.extract subject.cursor (subject.cursor + characters.length)).toList
    == characters

/-- The text between two cursors; what is outside of it is left out. -/
def slice (subject : Subject) (start stop : Nat) : String :=
  String.ofList (subject.characters.extract start stop).toList

end Subject

end Rewind
