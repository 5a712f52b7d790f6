/-
This file defines what the store holds. Values are primitive: they are bound to names and kept
inside of payloads, and the only one that points anywhere is a reference, which is the position of
a cell. Payloads are what cells hold. Copying either is shallow, since a reference is copied as a
position.
-/

namespace Rewind

/-- A rollback point: the generation that was current when it was taken, its depth in the chain,
and the generation that the freeze started on top of it. -/
structure Checkpoint where
  id : Nat
  depth : Nat
  successor : Nat
  deriving DecidableEq, Repr

/-- A primitive value. -/
inductive Value
  | nil
  | bool (value : Bool)
  | int (value : Int)
  | text (value : String)
  /-- A position in the text that is matched. -/
  | cursor (position : Nat)
  /-- A rollback point, kept so that the chain can be collapsed to it later. -/
  | checkpoint (checkpoint : Checkpoint)
  /-- A reference to the cell at a position. -/
  | ref (position : Nat)
  deriving DecidableEq, Repr, Inhabited

/-- The position a value refers to. -/
def Value.reference? : Value → Option Nat
  | .ref position => some position
  | _ => none

/-! ### Objects -/

/-- Named values in ascending order of their names, each name once. -/
abbrev Fields := List (String × Value)

namespace Fields

/-- The value of a name. -/
def get? (fields : Fields) (name : String) : Option Value := fields.lookup name

/-- Sets the value of a name. -/
def insert (name : String) (value : Value) : Fields → Fields
  | [] => [(name, value)]
  | field :: fields =>
    if name < field.1 then (name, value) :: field :: fields
    else if name = field.1 then (name, value) :: fields
    else field :: insert name value fields

/-- Removes a name. -/
def erase (fields : Fields) (name : String) : Fields := fields.filter fun field => field.1 != name

end Fields

/-! ### Payloads -/

/-- A node of the match tree: a capture, open until it has a stop. It points at the capture around
it, which in turn lists it among its children. -/
structure Capture where
  name : String
  parent : Option Nat
  children : List Nat := []
  start : Nat
  stop : Option Nat := none
  deriving DecidableEq, Repr

/-- What a cell holds. -/
inductive Payload
  | object (fields : Fields)
  | list (items : List Value)
  | capture (record : Capture)
  deriving DecidableEq, Repr

namespace Payload

/-- The positions a payload refers to, in order. One that occurs twice is listed twice, for it
accounts for two references. -/
def references : Payload → List Nat
  | object fields => fields.filterMap fun field => field.2.reference?
  | list items => items.filterMap Value.reference?
  | capture record => record.parent.toList ++ record.children

/-- The fields of an object. -/
def fields? : Payload → Option Fields
  | object fields => some fields
  | _ => none

/-- The items of a list. -/
def items? : Payload → Option (List Value)
  | list items => some items
  | _ => none

/-- The capture of a node. -/
def capture? : Payload → Option Capture
  | capture record => some record
  | _ => none

end Payload

end Rewind
