/-
This file defines the cells of the heap. A cell is in use, with a payload and a count of the
references to it, or free, with a link to the next free cell; so a free cell has no count.
-/

import Rewind.Store.Fault
import Rewind.Store.Value

namespace Rewind

/-- The contents of a cell. -/
inductive Slot
  | used (payload : Payload) (count : Nat)
  | free (next : Option Nat)
  deriving DecidableEq, Repr

/-- A place in the heap. -/
structure Cell where
  position : Nat
  slot : Slot
  deriving DecidableEq, Repr

namespace Cell

/-- Whether the cell is free. -/
def isFree (cell : Cell) : Bool :=
  match cell.slot with
  | .free _ => true
  | .used _ _ => false

/-- The number of references counted; none if the cell is free. -/
def count (cell : Cell) : Nat :=
  match cell.slot with
  | .used _ count => count
  | .free _ => 0

/-- The link of a free cell to the next one. -/
def nextFree? (cell : Cell) : Option (Option Nat) :=
  match cell.slot with
  | .free next => some next
  | .used _ _ => none

/-- The payload of a cell in use. -/
def payload (cell : Cell) : Except StoreError Payload :=
  match cell.slot with
  | .used payload _ => .ok payload
  | .free _ => .error (.freedCell cell.position)

/-- Puts another payload into a cell in use. -/
def withPayload (cell : Cell) (payload : Payload) : Except StoreError Cell :=
  match cell.slot with
  | .used _ count => .ok { cell with slot := .used payload count }
  | .free _ => .error (.freedCell cell.position)

/-- Counts one more reference. -/
def increase (cell : Cell) : Except StoreError Cell :=
  match cell.slot with
  | .used payload count => .ok { cell with slot := .used payload (count + 1) }
  | .free _ => .error (.freedCell cell.position)

/-- Counts one reference less. -/
def decrease (cell : Cell) : Except StoreError Cell :=
  match cell.slot with
  | .used _ 0 => .error (.countUnderflow cell.position)
  | .used payload (count + 1) => .ok { cell with slot := .used payload count }
  | .free _ => .error (.freedCell cell.position)

/-- Frees a cell, linking it to the next free one, and hands back its payload. A free cell stays as
it is. -/
def vacate (cell : Cell) (next : Option Nat) : Option Payload × Cell :=
  match cell.slot with
  | .used payload _ => (some payload, { cell with slot := .free next })
  | .free _ => (none, cell)

/-- Fills a cell with a payload that nothing refers to yet. -/
def occupy (cell : Cell) (payload : Payload) : Cell :=
  { cell with slot := .used payload 0 }

end Cell

end Rewind
