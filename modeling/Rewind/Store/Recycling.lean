/-
This file defines the pools that cells and levels go back to when the generation that owns them is
gone, and from which new ones are taken. A pool keeps a bounded number of items and wipes each
before it keeps it, so whoever takes one finds nothing of its former contents.
-/

import Rewind.Store.Cell
import Rewind.Store.Level

namespace Rewind

/-- Items that can be wiped and used again. -/
class Recyclable (α : Type) where
  /-- The item without its contents. -/
  wipe : α → α

instance : Recyclable Cell where
  wipe _ := { position := 0, slot := .free none }

instance : Recyclable Level where
  wipe _ := { index := 0, bindings := [] }

/-- At most `capacity` wiped items, the one last given back on top. -/
structure Pool (α : Type) where
  capacity : Nat
  items : List α := []
  deriving Repr

namespace Pool

variable {α : Type}

/-- The number of items in the pool. -/
def size (pool : Pool α) : Nat := pool.items.length

/-- Takes an item out of the pool. -/
def take (pool : Pool α) : Option α × Pool α :=
  match pool.items with
  | [] => (none, pool)
  | item :: items => (some item, { pool with items := items })

/-- Gives an item back. A full pool drops it. -/
def giveBack [Recyclable α] (pool : Pool α) (item : α) : Pool α :=
  if pool.items.length < pool.capacity then
    { pool with items := Recyclable.wipe item :: pool.items }
  else pool

/-- Gives several items back. -/
def giveBackAll [Recyclable α] (pool : Pool α) (items : List α) : Pool α :=
  items.foldl giveBack pool

/-- A cell at a position with given contents. -/
def cell (pool : Pool Cell) (position : Nat) (slot : Slot) : Cell × Pool Cell :=
  match pool.take with
  | (some cell, pool) => ({ cell with position := position, slot := slot }, pool)
  | (none, pool) => ({ position := position, slot := slot }, pool)

/-- A cell at a position with a payload that nothing refers to yet. -/
def newCell (pool : Pool Cell) (position : Nat) (payload : Payload) : Cell × Pool Cell :=
  pool.cell position (.used payload 0)

/-- A copy of a cell. -/
def copyCell (pool : Pool Cell) (copied : Cell) : Cell × Pool Cell :=
  pool.cell copied.position copied.slot

/-- A level with an index and whatever bindings a taken item still has. -/
def newLevel (pool : Pool Level) (index : Nat) : Level × Pool Level :=
  match pool.take with
  | (some level, pool) => ({ level with index := index }, pool)
  | (none, pool) => ({ index := index, bindings := [] }, pool)

/-- A copy of a level. -/
def copyLevel (pool : Pool Level) (copied : Level) : Level × Pool Level :=
  match pool.newLevel copied.index with
  | (level, pool) => ({ level with bindings := level.bindings ++ copied.bindings }, pool)

end Pool

/-- The pools shared by the generations of a chain. -/
structure Pools where
  cells : Pool Cell
  levels : Pool Level
  deriving Repr

/-- Two empty pools of the same capacity. -/
def Pools.ofCapacity (capacity : Nat) : Pools :=
  { cells := { capacity := capacity }, levels := { capacity := capacity } }

end Rewind
