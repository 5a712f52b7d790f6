/-
This file defines the versioned store: a heap of cells whose references are counted, and a stack of
named values. Freezing it starts a generation and gives a checkpoint, rolling back returns to the
newest checkpoint, restoring to a given one; collapsing keeps what was done since a checkpoint and
gives up the way back.
-/

import Rewind.Journal
import Rewind.Settings
import Rewind.Store.Counting
import Rewind.Store.Stack

namespace Rewind

/-- A versioned store. -/
structure Store where
  chain : Chain
  /-- The id of the generation to start next. Ids are never used again. -/
  nextId : Nat
  settings : StoreSettings
  /-- Whether a sweep is going on. -/
  sweeping : Bool := false
  /-- Whether the heap has grown up to its threshold since the last sweep. -/
  sweepRequested : Bool := false
  journal : Journal := {}

/-- Operations on a store that may fail. -/
abbrev StoreM := EStateM StoreFault Store

/-- The name under which a result is handed on. -/
def Store.last : String := "#last"

namespace Store

/-- A store of a single, empty generation. -/
def empty (settings : StoreSettings) : Store :=
  { chain := .ofOldest 0 settings.sweepThreshold settings.poolCapacity
    nextId := 1
    settings := settings }

/-- Notes an event. -/
def note (store : Store) (event : Event) : Store :=
  { store with journal := store.journal.note event }

/-- Runs an operation on the chain of the store. -/
def onChain {α : Type} (action : ChainM α) : StoreM α :=
  Action.onPart action chain (fun store chain => { store with chain := chain }) id

/-! ### Generations -/

/-- Starts a generation. Rolling back to the checkpoint continues at the resume point. -/
def freeze (store : Store) (resume : ResumePoint) : Checkpoint × Store :=
  let checkpoint : Checkpoint :=
    { id := store.chain.tail.id, depth := store.chain.older.length, successor := store.nextId }
  let extended : Store :=
    { store with
      chain := store.chain.extend store.nextId resume
      nextId := store.nextId + 1 }
  (checkpoint, extended.note (.froze store.nextId checkpoint.id checkpoint.depth))

/-- Discards the newest generation and returns its resume point, unless it is the only one. -/
def rollback (store : Store) : Option ResumePoint × Store :=
  match store.chain.older with
  | [] => (none, store.note .exhausted)
  | _ :: _ =>
    let tail := store.chain.tail
    (tail.resume,
      { store with chain := store.chain.discardTail }.note (.rolledBack tail.id))

/-- Whether the generation of a checkpoint is still in the chain. -/
def holds (store : Store) (checkpoint : Checkpoint) : Bool :=
  (store.chain.generationAt? checkpoint.depth).any fun generation => generation.id == checkpoint.id

/-- The generation that the freeze of a checkpoint started, if it and the one below are still in the
chain. -/
def startedBy? (store : Store) (checkpoint : Checkpoint) : Option Generation :=
  if store.holds checkpoint then
    (store.chain.generationAt? (checkpoint.depth + 1)).filter fun generation =>
      generation.id == checkpoint.successor
  else none

/-- Discards all generations since a checkpoint, and returns the resume point it was taken with. -/
def restore (checkpoint : Checkpoint) : StoreM ResumePoint := do
  let store ← get
  match store.startedBy? checkpoint with
  | none => throw (.refused .nothingToRestore)
  | some started =>
    match started.resume with
    | none => throw (.defect .missingResumePoint)
    | some resume =>
      let discarded := store.chain.older.length - checkpoint.depth
      set ({ store with chain := store.chain.discardTo checkpoint.depth }.note
        (.restored discarded checkpoint.id))
      return resume

/-- Merges all generations since a checkpoint into the one it was taken in. -/
def collapse (checkpoint : Checkpoint) : StoreM Unit := do
  let store ← get
  if store.holds checkpoint then
    let count := store.chain.older.length - checkpoint.depth
    let merged : Store := { store with chain := store.chain.mergeTo checkpoint.depth }
    set (if 0 < count then merged.note (.merged count checkpoint.id) else merged)
  else throw (.refused .staleCheckpoint)

/-- Discards everything, and any request for a sweep. -/
def clear (store : Store) : Store :=
  let pools := store.chain.generations.reverse.foldl
    (fun pools generation => generation.recycle pools) store.chain.pools
  { store with
    chain :=
      { tail := .oldest store.nextId store.settings.sweepThreshold
        pools := pools }
    nextId := store.nextId + 1
    sweepRequested := false }

/-! ### Cells -/

/-- Stores a payload in a cell, and returns its position. The references it holds are counted. -/
def alloc (payload : Payload) : StoreM Nat := do
  onChain (Chain.retainAll payload.references)
  let (position, grown) ← onChain (Chain.alloc payload)
  if grown then modify fun store => { store with sweepRequested := true }
  return position

/-- The payload of the cell at a position. A cell from far back is copied into the tail. -/
def deref (position : Nat) : StoreM Payload := do
  let distance := (← get).settings.promotionDistance
  onChain do
    let cell ← Chain.read distance position
    ChainM.ofExcept cell.payload

/-- The payload of the cell at a position; nothing is copied. -/
def peek (store : Store) (position : Nat) : Except StoreError Payload := do
  (← store.chain.cell position).payload

/-- The number of references counted at the cell at a position. -/
def count (store : Store) (position : Nat) : Except StoreError Nat :=
  (store.chain.cell position).map Cell.count

/-- Whether the cell at a position is free. -/
def isFreed (store : Store) (position : Nat) : Except StoreError Bool :=
  (store.chain.cell position).map Cell.isFree

/-- Takes the references some positions stand for away. -/
def releaseAll (positions : List Nat) : StoreM Unit := do
  let sweeping := (← get).sweeping
  onChain (Chain.release sweeping positions)

/-- Puts another payload into the cell at a position. -/
def assign (position : Nat) (payload : Payload) : StoreM Unit := do
  onChain (Chain.retainAll payload.references)
  let old ← onChain do
    let _ ← Chain.own position
    Chain.overwrite position payload
  releaseAll old.references

/-- Changes the payload of the cell at a position, and returns what the change says. -/
def update {α : Type} (position : Nat) (edit : Payload → α × Payload) : StoreM α := do
  let (result, changed) := edit (← deref position)
  assign position changed
  return result

/-- Frees a cell that nothing refers to. -/
def free (position : Nat) : StoreM Unit := do
  let sweeping := (← get).sweeping
  onChain (Chain.freeAndRelease sweeping position)

/-- Counts one more reference to a cell. -/
def retain (position : Nat) : StoreM Unit := onChain (Chain.retain position)

/-- Takes one reference to a cell away. -/
def release (position : Nat) : StoreM Unit := releaseAll [position]

/-! ### Bindings -/

/-- Counts the reference a value may be. -/
def retainValue (value : Value) : StoreM Unit :=
  match value.reference? with
  | some position => retain position
  | none => return ()

/-- Takes the reference a value may be away. -/
def releaseValue (value : Value) : StoreM Unit :=
  match value.reference? with
  | some position => release position
  | none => return ()

/-- Binds a name on top of the stack. -/
def push (name : String) (value : Value) : StoreM Unit := do
  retainValue value
  onChain (Chain.push name value)

/-- The innermost binding of a name. -/
def lookup (store : Store) (name : String) : Except StoreError Value :=
  match store.chain.get? name with
  | some value => .ok value
  | none => .error (.unboundName name)

/-- Whether a name is bound. -/
def contains (store : Store) (name : String) : Bool := (store.chain.get? name).isSome

/-- Removes the innermost binding of a name. -/
def remove (name : String) : StoreM Unit := do
  releaseValue (← onChain (Chain.remove name))

/-- Overwrites the innermost binding of a name. -/
def replace (name : String) (value : Value) : StoreM Unit := do
  retainValue value
  releaseValue (← onChain (Chain.replace name value))

/-- Moves the innermost binding of a name to the top of the stack, under another name. No count
changes. -/
def rename (name renamed : String) : StoreM Unit := onChain do
  let value ← Chain.remove name
  Chain.push renamed value

/-- All bindings, from the bottom of the stack up. -/
def bindings (store : Store) : Bindings := store.chain.bindings

end Store

end Rewind
