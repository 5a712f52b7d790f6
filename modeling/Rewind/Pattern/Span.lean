/-
This file defines spans of a pattern's source, and how a span is shown to the user.
-/

import Rewind.Text.Place

namespace Rewind

/-- The bytes from one offset up to another. -/
structure Span where
  start : Nat
  stop : Nat
  deriving DecidableEq, Repr

/-- A named text that a pattern is read from. -/
structure Source where
  name : String
  text : List Char

namespace Source

/-- The characters of a span, none if an end of it is inside of a character. -/
def slice (source : Source) (span : Span) : List Char :=
  (Text.slice? span.start span.stop source.text).getD []

/-- The line and column at which a span starts. -/
def place? (source : Source) (span : Span) : Option (Nat × Nat) :=
  Text.place? span.start source.text

/-- Where a span starts, as `name:line:column`. -/
def locate (source : Source) (span : Span) : String :=
  match source.place? span with
  | some (line, column) => source.name ++ ":" ++ toString line ++ ":" ++ toString column
  | none => source.name ++ ":?:?"

/-- The offsets of a span next to the name of its source, as `<name>[start..stop]`. -/
def outline (source : Source) (span : Span) : String :=
  "<" ++ source.name ++ ">[" ++ toString span.start ++ ".." ++ toString span.stop ++ "]"

end Source

end Rewind
