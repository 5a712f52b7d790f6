/-
This file defines character classes: which characters `[a-z\d]`, `[^...]` and the shorthands stand
for.
-/

import Rewind.Text.CharRanges

namespace Rewind

/-- One member of a character class. -/
inductive ClassItem
  /-- All characters from one to another, both included; a single character is a range of one. -/
  | range (low high : Char)
  /-- An ASCII digit. -/
  | digit
  /-- A letter or numeral of any script, or the underscore. -/
  | word
  /-- A blank of any script. -/
  | space
  deriving DecidableEq, Repr

/-- Whether a character is one of those an item stands for. -/
def ClassItem.contains : ClassItem → Char → Bool
  | .range low high, character => low ≤ character && character ≤ high
  | .digit, character => character.isDigit
  | .word, character => Text.isAlphanumeric character || character == '_'
  | .space, character => Text.isBlank character

/-- A set of characters: those some item stands for, or all the others. -/
structure CharClass where
  negated : Bool
  items : List ClassItem
  deriving DecidableEq, Repr

/-- Membership in a class. -/
def CharClass.contains (set : CharClass) (character : Char) : Bool :=
  set.items.any (·.contains character) != set.negated

end Rewind
