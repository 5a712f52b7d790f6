/-
This file defines chains of generations and what can be seen in them. Only the newest generation,
the tail, is ever changed. What is seen from it is, for every position and index, the newest copy in
the chain.

Operations that may fail run in a monad that keeps the state they reached: an operation that fails
half-way leaves behind what it did before.
-/

import Rewind.Store.Generation

namespace Rewind

/-- The generations of a store, and the pools they share. -/
structure Chain where
  tail : Generation
  /-- The generations before the tail, the newest of them first. -/
  older : List Generation := []
  pools : Pools

/-- Operations on a chain that may fail. -/
abbrev ChainM := EStateM StoreFault Chain

/-- Fails if the answer is a refusal. -/
def ChainM.ofExcept {α : Type} : Except StoreError α → ChainM α
  | .ok value => pure value
  | .error error => throw (.refused error)

namespace Chain

/-- A chain of a single, empty generation. -/
def ofOldest (id sweepThreshold poolCapacity : Nat) : Chain :=
  { tail := .oldest id sweepThreshold, pools := .ofCapacity poolCapacity }

/-- All generations, the newest first. -/
def generations (chain : Chain) : List Generation := chain.tail :: chain.older

/-- The number of generations. -/
def length (chain : Chain) : Nat := chain.older.length + 1

/-- The counters of the tail. -/
def counters (chain : Chain) : Counters := chain.tail.counters

/-- Changes the counters of the tail. -/
def mapCounters (change : Counters → Counters) (chain : Chain) : Chain :=
  { chain with tail := { chain.tail with counters := change chain.tail.counters } }

/-- Puts a copy of a cell into the tail. -/
def putCell (position : Nat) (cell : Cell) (chain : Chain) : Chain :=
  { chain with tail := chain.tail.putCell position cell }

/-- Puts a copy of a level into the tail. -/
def putLevel (index : Nat) (level : Level) (chain : Chain) : Chain :=
  { chain with tail := chain.tail.putLevel index level }

/-! ### What is seen from the tail -/

/-- The cell at a position. -/
def cell (chain : Chain) (position : Nat) : Except StoreError Cell :=
  if position < chain.counters.heapSize then
    match Generation.findCell? position chain.generations with
    | some (cell, _) => .ok cell
    | none => .error (.outsideHeap position)
  else .error (.outsideHeap position)

/-- The level with an index. -/
def level? (chain : Chain) (index : Nat) : Option Level :=
  if index < chain.counters.levelCount then Generation.findLevel? index chain.generations
  else none

/-- All bindings, from the bottom of the stack up. -/
def bindings (chain : Chain) : Bindings :=
  (List.range chain.counters.levelCount).flatMap fun index =>
    match chain.level? index with
    | some level => level.bindings
    | none => []

/-- The innermost binding of a name among the lowest `count` levels. -/
def getBelow? (chain : Chain) (name : String) : Nat → Option Value
  | 0 => none
  | index + 1 =>
    match (chain.level? index).bind fun level => level.get? name with
    | some value => some value
    | none => chain.getBelow? name index

/-- The innermost binding of a name. -/
def get? (chain : Chain) (name : String) : Option Value :=
  chain.getBelow? name chain.counters.levelCount

/-! ### Growing and shrinking the chain -/

/-- Starts a generation on top of the tail. -/
def extend (chain : Chain) (id : Nat) (resume : ResumePoint) : Chain :=
  { chain with
    tail := chain.tail.successor id resume
    older := chain.tail :: chain.older }

/-- Discards the tail; a chain of one generation stays as it is. -/
def discardTail (chain : Chain) : Chain :=
  match chain.older with
  | [] => chain
  | tail :: older =>
    { tail := tail, older := older, pools := chain.tail.recycle chain.pools }

/-- Discards generations down to a depth, the oldest first. -/
def discardTo (chain : Chain) (depth : Nat) : Chain :=
  match chain.generations.drop (chain.older.length - depth) with
  | [] => chain
  | tail :: older =>
    let discarded := (chain.generations.take (chain.older.length - depth)).reverse
    { tail := tail
      older := older
      pools := discarded.foldl (fun pools generation => generation.recycle pools) chain.pools }

/-- Merges generations down to a depth into the one there, the oldest first. -/
def mergeTo (chain : Chain) (depth : Nat) : Chain :=
  match chain.generations.drop (chain.older.length - depth) with
  | [] => chain
  | target :: older =>
    let newer := (chain.generations.take (chain.older.length - depth)).reverse
    let (tail, pools) := newer.foldl
      (fun merged generation => generation.mergeInto merged.1 merged.2) (target, chain.pools)
    { tail := tail, older := older, pools := pools }

/-- The generation at a depth, where the oldest is at depth zero. -/
def generationAt? (chain : Chain) (depth : Nat) : Option Generation :=
  if depth ≤ chain.older.length then chain.generations[chain.older.length - depth]? else none

end Chain

end Rewind
