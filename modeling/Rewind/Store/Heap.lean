/-
This file defines the operations on the cells of a chain. A cell is changed only in a copy that the
tail owns; free cells form a list that is threaded through the heap and starts at the counters'
free head.
-/

import Rewind.Store.Chain

namespace Rewind.Chain

/-- Takes a copy of a cell into the tail. -/
def adopt (chain : Chain) (position : Nat) (cell : Cell) : Cell × Chain :=
  match chain.pools.cells.copyCell cell with
  | (copy, cells) =>
    (copy, { chain with
      tail := chain.tail.putCell position copy
      pools := { chain.pools with cells := cells } })

/-- Looks at the cell at a position without taking a copy. -/
def peek (position : Nat) : ChainM Cell := do
  ChainM.ofExcept ((← get).cell position)

/-- Reads the cell at a position. If it is more than `distance` generations away, the tail takes a
copy of it, so that it is close the next time. -/
def read (distance position : Nat) : ChainM Cell := fun chain =>
  if position < chain.counters.heapSize then
    match chain.tail.cells[position]? with
    | some cell => .ok cell chain
    | none =>
      match Generation.findCell? position chain.older with
      | none => .error (.refused (.outsideHeap position)) chain
      | some (cell, hops) =>
        if hops ≤ distance then .ok cell chain
        else
          match chain.adopt position cell with
          | (copy, chain) => .ok copy chain
  else .error (.refused (.outsideHeap position)) chain

/-- Makes the tail own the cell at a position, and returns its copy. -/
def own (position : Nat) : ChainM Cell := fun chain =>
  if position < chain.counters.heapSize then
    match chain.tail.cells[position]? with
    | some cell => .ok cell chain
    | none =>
      match Generation.findCell? position chain.older with
      | none => .error (.refused (.outsideHeap position)) chain
      | some (cell, _) =>
        match chain.adopt position cell with
        | (copy, chain) => .ok copy chain
  else .error (.refused (.outsideHeap position)) chain

/-- Changes the cell at a position in the copy of the tail. -/
def change (position : Nat) (edit : Cell → Except StoreError Cell) : ChainM Cell := do
  let cell ← own position
  let changed ← ChainM.ofExcept (edit cell)
  modify (putCell position changed)
  return changed

/-- Overwrites the payload of a cell that the tail owns, and returns the old one. -/
def overwrite (position : Nat) (payload : Payload) : ChainM Payload := do
  let chain ← get
  if position < chain.counters.heapSize then
    match chain.tail.cells[position]? with
    | none => throw (.defect (.unownedWrite position))
    | some cell =>
      let old ← ChainM.ofExcept cell.payload
      let changed ← ChainM.ofExcept (cell.withPayload payload)
      set (chain.putCell position changed)
      return old
  else throw (.refused (.outsideHeap position))

/-- Grows the heap by a cell that holds a payload. -/
def grow (chain : Chain) (payload : Payload) : Chain :=
  let position := chain.counters.heapSize
  match chain.pools.cells.newCell position payload with
  | (cell, cells) =>
    let cells := match chain.tail.cells[position]? with
      | some stale => cells.giveBack stale
      | none => cells
    mapCounters (fun counters =>
        { counters with
          heapSize := counters.heapSize + 1
          usedCells := counters.usedCells + 1 })
      { chain with
        tail := chain.tail.putCell position cell
        pools := { chain.pools with cells := cells } }

/-- Stores a payload in a free cell, or in a new one if none is free, with no reference to it yet.
Returns its position, and whether the heap has grown up to the sweep threshold. -/
def alloc (payload : Payload) : ChainM (Nat × Bool) := do
  let chain ← get
  match chain.counters.freeHead with
  | none =>
    let grown := chain.grow payload
    set grown
    return (chain.counters.heapSize, grown.counters.sweepThreshold ≤ grown.counters.heapSize)
  | some position =>
    let cell ← own position
    match cell.nextFree? with
    | none => throw (.defect (.usedCellOnFreeList position))
    | some next =>
      modify fun chain =>
        mapCounters (fun counters =>
            { counters with freeHead := next, usedCells := counters.usedCells + 1 })
          (chain.putCell position (cell.occupy payload))
      return (position, false)

/-- Frees a cell of the tail that is in use, and returns its payload. The cell becomes the head of
the free list. -/
def vacate (position : Nat) (cell : Cell) : ChainM (Option Payload) := fun chain =>
  match chain.counters.usedCells with
  | 0 => .error (.defect .usedCellsUnderflow) chain
  | used + 1 =>
    match cell.vacate chain.counters.freeHead with
    | (payload, vacant) =>
      .ok payload
        (mapCounters (fun counters =>
            { counters with freeHead := some position, usedCells := used })
          (chain.putCell position vacant))

/-- Frees the cell at a position and returns its payload. A free cell must not be freed again, nor
one that is still referred to; but a sweep may do both, and finds nothing to do in a free cell. -/
def free (sweeping : Bool) (position : Nat) : ChainM (Option Payload) := do
  let seen ← peek position
  if seen.isFree then
    if sweeping then return none
    else throw (.refused (.doubleFree position))
  else if 0 < seen.count ∧ sweeping = false then
    throw (.refused (.stillReferenced position seen.count))
  else
    let cell ← own position
    vacate position cell

end Rewind.Chain
