/-
This file writes nodes as text, for listings of a program.
-/

import Rewind.Program.Node
import Rewind.Text.Quoted

namespace Rewind

/-- Some entries between square brackets. -/
def bracketed (entries : List String) : String := "[" ++ ", ".intercalate entries ++ "]"

/-- A record with a name and fields. -/
def recordText (name : String) (fields : List (String × String)) : String :=
  name ++ " \x7b " ++ ", ".intercalate (fields.map fun field => field.1 ++ ": " ++ field.2)
    ++ " \x7d"

/-- A value that may be missing. -/
def optionalText : Option String → String
  | none => "None"
  | some text => "Some(" ++ text ++ ")"

/-- An item of a class. -/
def ClassItem.listing : ClassItem → String
  | .range low high => "Range(" ++ Text.quotedChar low ++ ", " ++ Text.quotedChar high ++ ")"
  | .digit => "Digit"
  | .word => "Word"
  | .space => "Space"

/-- The index of a node. -/
def NodeId.listing (id : NodeId) : String := "NodeId(" ++ toString id ++ ")"

/-- A node with all it holds. -/
def Node.listing : Node → String
  | .root child search =>
    recordText "Root" [("child", NodeId.listing child), ("search", toString search)]
  | .text characters => recordText "Text" [("chars", bracketed (characters.map Text.quotedChar))]
  | .any => "Any"
  | .charClass set =>
    recordText "Class"
      [("negated", toString set.negated), ("items", bracketed (set.items.map ClassItem.listing))]
  | .anchor .start => "Start"
  | .anchor .stop => "End"
  | .sequence children =>
    recordText "Sequence" [("children", bracketed (children.map NodeId.listing))]
  | .alternation children =>
    recordText "Alternation" [("children", bracketed (children.map NodeId.listing))]
  | .repetition child min max lazily =>
    recordText "Quantifier"
      [("child", NodeId.listing child), ("min", toString min),
        ("max", optionalText (max.map toString)), ("lazy", toString lazily)]
  | .atomic child => recordText "Atomic" [("child", NodeId.listing child)]
  | .lookahead child negative =>
    recordText "Lookahead" [("child", NodeId.listing child), ("negative", toString negative)]
  | .capture name child =>
    recordText "Capture" [("name", Text.quotedText name), ("child", NodeId.listing child)]

end Rewind
