/-
This file writes cells and what they hold as text, for listings of the heap.
-/

import Rewind.Program.Listing
import Rewind.Store.Cell

namespace Rewind

/-- A reference to a position. -/
def referenceListing (position : Nat) : String := "Ref(#" ++ toString position ++ ")"

/-- A value with its kind in front. -/
def Value.listing : Value → String
  | .nil => "Nil"
  | .bool value => "Bool(" ++ toString value ++ ")"
  | .int value => "Int(" ++ toString value ++ ")"
  | .text value => "Str(" ++ Text.quotedText value ++ ")"
  | .cursor position => "Cursor(" ++ toString position ++ ")"
  | .checkpoint taken =>
    "Checkpoint("
      ++ recordText "Checkpoint"
        [("id", toString taken.id), ("depth", toString taken.depth),
          ("successor", toString taken.successor)]
      ++ ")"
  | .ref position => "Ref(" ++ referenceListing position ++ ")"

/-- The fields of an object between braces. -/
def Fields.listing (fields : Fields) : String :=
  "\x7b"
    ++ ", ".intercalate (fields.map fun field => Text.quotedText field.1 ++ ": " ++ field.2.listing)
    ++ "\x7d"

/-- A payload with its kind in front. -/
def Payload.listing : Payload → String
  | .object fields => "Object(" ++ recordText "Object" [("props", fields.listing)] ++ ")"
  | .list items => "List(" ++ bracketed (items.map Value.listing) ++ ")"
  | .capture record =>
    "Node("
      ++ recordText "MatchNode"
        [("name", Text.quotedText record.name),
          ("parent", optionalText (record.parent.map referenceListing)),
          ("children", bracketed (record.children.map referenceListing)),
          ("from", toString record.start), ("to", optionalText (record.stop.map toString))]
      ++ ")"

/-- A cell with its position in front. -/
def Cell.listing (cell : Cell) : String :=
  "[" ++ toString cell.position ++ "]" ++
    match cell.slot with
    | .free none => " free"
    | .free (some next) => " free -> " ++ toString next
    | .used payload count => " refs<" ++ toString count ++ "> = " ++ payload.listing

end Rewind
