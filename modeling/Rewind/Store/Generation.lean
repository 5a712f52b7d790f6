/-
This file defines generations. A generation owns only the cells and levels that were made or changed
while it was the newest; everything else is found further back. Its counters are not differences:
they describe the whole store as it is seen from this generation, so they are copied forward when a
generation follows and backward when it is merged.
-/

import Rewind.Program.Node
import Rewind.Store.Recycling
import Std.Data.TreeMap

namespace Rewind

/-- Where a rollback continues: a node, the signal it gets, and the cursor. -/
structure ResumePoint where
  node : NodeId
  signal : Signal
  cursor : Nat
  deriving DecidableEq, Repr

/-- The numbers that describe the whole store as seen from one generation. -/
structure Counters where
  /-- The number of positions, free or not. -/
  heapSize : Nat := 0
  /-- The number of positions in use. -/
  usedCells : Nat := 0
  /-- The free position to use next. -/
  freeHead : Option Nat := none
  /-- The heap size at which a sweep is asked for. -/
  sweepThreshold : Nat
  /-- The number of levels of the stack. -/
  levelCount : Nat := 0
  /-- The number of bindings on the stack. -/
  stackSize : Nat := 0
  deriving DecidableEq, Repr

namespace Counters

/-- The number of free positions. -/
def freeCells (counters : Counters) : Nat := counters.heapSize - counters.usedCells

/-- A natural number below 2^64 as a floating-point number. -/
def toFloat (number : Nat) : Float := number.toUInt64.toFloat

/-- The percentage of the heap that is free, where the heap counts as at least as large as the
sweep threshold. -/
def freeSpace (counters : Counters) : Float :=
  let capacity := max (max counters.heapSize counters.sweepThreshold) 1
  100.0 - toFloat counters.usedCells * 100.0 / toFloat capacity

end Counters

/-- The copies that one generation owns, by position or index. -/
abbrev Overlay (α : Type) := Std.TreeMap Nat α

/-- One generation of the store. All but the oldest have a point to resume at when they are rolled
back. -/
structure Generation where
  id : Nat
  cells : Overlay Cell := {}
  levels : Overlay Level := {}
  counters : Counters
  resume : Option ResumePoint := none

namespace Generation

/-- The oldest generation of a chain. -/
def oldest (id sweepThreshold : Nat) : Generation :=
  { id := id, counters := { sweepThreshold := sweepThreshold } }

/-- The generation that follows another one; it owns nothing yet. -/
def successor (generation : Generation) (id : Nat) (resume : ResumePoint) : Generation :=
  { id := id, counters := generation.counters, resume := some resume }

/-- Whether the generation owns a copy of the cell at a position. -/
def owns (generation : Generation) (position : Nat) : Bool := generation.cells.contains position

/-- The number of cells the generation owns. -/
def localCells (generation : Generation) : Nat := generation.cells.size

/-- Makes the generation own a cell. -/
def putCell (generation : Generation) (position : Nat) (cell : Cell) : Generation :=
  { generation with cells := generation.cells.insert position cell }

/-- Makes the generation own a level. -/
def putLevel (generation : Generation) (index : Nat) (level : Level) : Generation :=
  { generation with levels := generation.levels.insert index level }

/-- Gives the cells and levels of a generation that is gone back to the pools. -/
def recycle (generation : Generation) (pools : Pools) : Pools :=
  { cells := pools.cells.giveBackAll generation.cells.values
    levels := pools.levels.giveBackAll generation.levels.values }

/-- Merges a generation into an older one. Its copies win over the older ones, its counters become
those of the merged generation, and levels above its top are dropped. The merged generation keeps
the id and the resume point of the older one. -/
def mergeInto (newer older : Generation) (pools : Pools) : Generation × Pools :=
  let replacedCells := older.cells.filter fun position _ => newer.cells.contains position
  let replacedLevels := older.levels.filter fun index _ => newer.levels.contains index
  let levels := older.levels ∪ newer.levels
  let top := newer.counters.levelCount
  let dropped := levels.filter fun index _ => top ≤ index
  ({ older with
      cells := older.cells ∪ newer.cells
      levels := levels.filter fun index _ => index < top
      counters := newer.counters },
    { cells := pools.cells.giveBackAll replacedCells.values
      levels := (pools.levels.giveBackAll replacedLevels.values).giveBackAll dropped.values })

/-- The newest copy of a cell in some generations, the newest of which comes first, and the number
of generations walked to find it. -/
def findCell? (position : Nat) : List Generation → Option (Cell × Nat)
  | [] => none
  | generation :: older =>
    match generation.cells[position]? with
    | some cell => some (cell, 1)
    | none => (findCell? position older).map fun found => (found.1, found.2 + 1)

/-- The newest copy of a level in some generations, the newest of which comes first. -/
def findLevel? (index : Nat) : List Generation → Option Level
  | [] => none
  | generation :: older =>
    match generation.levels[index]? with
    | some level => some level
    | none => findLevel? index older

end Generation

end Rewind
