/-
This file says what is seen of a store from one of its generations. A snapshot is flat: it gives the
cell at every position, the level at every index and the counters, and tells nothing about which
generation owns what.

The operations that change cells and bindings are described once, by what they do to a snapshot.
That this is all they do is the theorem about each of them: a chain may take copies into its tail on
the way and use recycled levels, but none of that can be seen. What lies below the tail stays
untouched.
-/

import Mathlib
import Rewind.Store.Tracing

namespace Rewind

/-! ### Overlays -/

theorem Overlay.getElem?_insert {α : Type} (overlay : Overlay α) (key other : Nat) (value : α) :
    (overlay.insert key value)[other]? = if key = other then some value else overlay[other]? := by
  rw [Std.TreeMap.getElem?_insert]
  simp only [Nat.compare_eq_eq]

theorem Overlay.getElem?_erase {α : Type} (overlay : Overlay α) (key other : Nat) :
    (overlay.erase key)[other]? = if key = other then none else overlay[other]? := by
  rw [Std.TreeMap.getElem?_erase]
  simp only [Nat.compare_eq_eq]

theorem Overlay.getElem?_filter_key {α : Type} (overlay : Overlay α) (keep : Nat → Bool)
    (key : Nat) :
    (overlay.filter fun other _ => keep other)[key]? =
      if keep key then overlay[key]? else none := by
  rw [Std.TreeMap.getElem?_filter]
  simp only [Std.TreeMap.getKey_eq, Option.pfilter_eq_filter]
  cases overlay[key]? <;> simp [Option.filter]

/-! ### Snapshots -/

/-- A store as it is seen from one generation. -/
@[ext] structure Snapshot where
  cell? : Nat → Option Cell
  level? : Nat → Option Level
  counters : Counters

/-- What is seen from a generation over the older ones. -/
def Generation.over (generation : Generation) (older : List Generation) : Snapshot where
  cell? position :=
    if position < generation.counters.heapSize then
      (findCell? position (generation :: older)).map Prod.fst
    else none
  level? index :=
    if index < generation.counters.levelCount then findLevel? index (generation :: older)
    else none
  counters := generation.counters

/-- What is seen from the tail. -/
def Chain.snapshot (chain : Chain) : Snapshot := chain.tail.over chain.older

/-- Operations on a snapshot that may fail. -/
abbrev SnapshotM := EStateM StoreFault Snapshot

/-- Fails if the answer is a refusal. -/
def SnapshotM.ofExcept {α : Type} : Except StoreError α → SnapshotM α
  | .ok value => pure value
  | .error error => throw (.refused error)

namespace Snapshot

/-- Puts a cell at a position. -/
def putCell (position : Nat) (cell : Cell) (snapshot : Snapshot) : Snapshot :=
  { snapshot with cell? := Function.update snapshot.cell? position (some cell) }

/-- Puts a level at an index. -/
def putLevel (index : Nat) (level : Level) (snapshot : Snapshot) : Snapshot :=
  { snapshot with level? := Function.update snapshot.level? index (some level) }

/-- Changes the counters. -/
def mapCounters (change : Counters → Counters) (snapshot : Snapshot) : Snapshot :=
  { snapshot with counters := change snapshot.counters }

/-! ### Cells -/

/-- Looks at the cell at a position. -/
def look (position : Nat) : SnapshotM Cell := fun snapshot =>
  match snapshot.cell? position with
  | none => .error (.refused (.outsideHeap position)) snapshot
  | some cell => .ok cell snapshot

/-- Changes the cell at a position. -/
def change (position : Nat) (edit : Cell → Except StoreError Cell) : SnapshotM Cell :=
  fun snapshot =>
    match snapshot.cell? position with
    | none => .error (.refused (.outsideHeap position)) snapshot
    | some cell =>
      match edit cell with
      | .error error => .error (.refused error) snapshot
      | .ok changed => .ok changed (snapshot.putCell position changed)

/-- Overwrites the payload of a cell in use, and returns the old one. -/
def overwrite (position : Nat) (payload : Payload) : SnapshotM Payload := fun snapshot =>
  match snapshot.cell? position with
  | none => .error (.refused (.outsideHeap position)) snapshot
  | some ⟨own, .free _⟩ => .error (.refused (.freedCell own)) snapshot
  | some ⟨own, .used old count⟩ =>
    .ok old (snapshot.putCell position ⟨own, .used payload count⟩)

/-- Grows the heap by a cell that holds a payload. -/
def grow (payload : Payload) (snapshot : Snapshot) : Snapshot :=
  mapCounters (fun counters =>
      { counters with
        heapSize := counters.heapSize + 1
        usedCells := counters.usedCells + 1 })
    (snapshot.putCell snapshot.counters.heapSize
      ⟨snapshot.counters.heapSize, .used payload 0⟩)

/-- Stores a payload in the first free cell, or in a new one. -/
def alloc (payload : Payload) : SnapshotM (Nat × Bool) := fun snapshot =>
  match snapshot.counters.freeHead with
  | none =>
    .ok (snapshot.counters.heapSize,
      snapshot.counters.sweepThreshold ≤ snapshot.counters.heapSize + 1) (snapshot.grow payload)
  | some position =>
    match snapshot.cell? position with
    | none => .error (.refused (.outsideHeap position)) snapshot
    | some ⟨_, .used _ _⟩ => .error (.defect (.usedCellOnFreeList position)) snapshot
    | some ⟨own, .free next⟩ =>
      .ok (position, false)
        (mapCounters (fun counters =>
            { counters with freeHead := next, usedCells := counters.usedCells + 1 })
          (snapshot.putCell position ⟨own, .used payload 0⟩))

/-- Frees the cell at a position, which becomes the head of the free list. -/
def free (sweeping : Bool) (position : Nat) : SnapshotM (Option Payload) := fun snapshot =>
  match snapshot.cell? position with
  | none => .error (.refused (.outsideHeap position)) snapshot
  | some ⟨_, .free _⟩ =>
    if sweeping then .ok none snapshot
    else .error (.refused (.doubleFree position)) snapshot
  | some ⟨own, .used payload count⟩ =>
    if 0 < count ∧ sweeping = false then
      .error (.refused (.stillReferenced position count)) snapshot
    else
      match snapshot.counters.usedCells with
      | 0 => .error (.defect .usedCellsUnderflow) snapshot
      | used + 1 =>
        .ok (some payload)
          (mapCounters (fun counters =>
              { counters with freeHead := some position, usedCells := used })
            (snapshot.putCell position ⟨own, .free snapshot.counters.freeHead⟩))

/-! ### Bindings -/

/-- All bindings, from the bottom of the stack up. -/
def bindings (snapshot : Snapshot) : Bindings :=
  (List.range snapshot.counters.levelCount).flatMap fun index =>
    match snapshot.level? index with
    | some level => level.bindings
    | none => []

/-- The innermost binding of a name among the lowest `count` levels. -/
def getBelow? (snapshot : Snapshot) (name : String) : Nat → Option Value
  | 0 => none
  | index + 1 =>
    match (snapshot.level? index).bind fun level => level.get? name with
    | some value => some value
    | none => snapshot.getBelow? name index

/-- The topmost of the lowest `count` levels that binds a name. -/
def levelOfBelow? (snapshot : Snapshot) (name : String) : Nat → Option Nat
  | 0 => none
  | index + 1 =>
    match snapshot.level? index with
    | some level =>
      if level.contains name then some index else snapshot.levelOfBelow? name index
    | none => snapshot.levelOfBelow? name index

/-- Whether a name can be bound only in a new level. -/
def needsLevel (snapshot : Snapshot) (name : String) : Bool :=
  match snapshot.counters.levelCount with
  | 0 => true
  | top + 1 =>
    match snapshot.level? top with
    | some level => level.contains name
    | none => true

/-- Opens an empty level on top of the stack. -/
def openLevel (snapshot : Snapshot) : Snapshot :=
  mapCounters (fun counters => { counters with levelCount := counters.levelCount + 1 })
    (snapshot.putLevel snapshot.counters.levelCount ⟨snapshot.counters.levelCount, []⟩)

/-- Opens a level if a name cannot be bound without. -/
def makeRoom (name : String) (snapshot : Snapshot) : Snapshot :=
  if snapshot.needsLevel name then snapshot.openLevel else snapshot

/-- Binds a name on top of the stack. -/
def push (name : String) (value : Value) : SnapshotM Unit := fun snapshot =>
  let roomy := snapshot.makeRoom name
  let top := roomy.counters.levelCount - 1
  match roomy.level? top with
  | none => .error (.defect (.missingLevel top)) roomy
  | some level =>
    match level.insert name value with
    | .error defect => .error (.defect defect) roomy
    | .ok level =>
      .ok () (mapCounters (fun counters => { counters with stackSize := counters.stackSize + 1 })
        (roomy.putLevel top level))

/-- Forgets the levels from an index on. -/
def cut (top : Nat) (snapshot : Snapshot) : Snapshot :=
  { snapshot with
    level? := fun index => if index < top then snapshot.level? index else none
    counters := { snapshot.counters with levelCount := top } }

/-- Drops empty levels off the top of a stack of `count` levels. -/
def dropEmptyLevels : Nat → Snapshot → Snapshot
  | 0, snapshot => snapshot
  | top + 1, snapshot =>
    if (snapshot.level? top).all Level.isEmpty then dropEmptyLevels top (snapshot.cut top)
    else snapshot

/-- The innermost binding of a name: its level, and its value there. -/
def binding (name : String) : SnapshotM (Nat × Level × Value) := fun snapshot =>
  match snapshot.levelOfBelow? name snapshot.counters.levelCount with
  | none => .error (.refused (.unboundName name)) snapshot
  | some index =>
    match snapshot.level? index with
    | none => .error (.defect (.missingLevel index)) snapshot
    | some level =>
      match level.get? name with
      | none => .error (.defect (.vanishedBinding name index)) snapshot
      | some value => .ok (index, level, value) snapshot

/-- Unbinds a name in one level, and drops the levels that are empty then. -/
def unbind (name : String) (index : Nat) (level : Level) (snapshot : Snapshot) : Snapshot :=
  let smaller :=
    mapCounters (fun counters => { counters with stackSize := counters.stackSize - 1 })
      (snapshot.putLevel index (level.erase name))
  dropEmptyLevels smaller.counters.levelCount smaller

/-- Removes the innermost binding of a name, and returns its value. -/
def remove (name : String) : SnapshotM Value := do
  let (index, level, value) ← binding name
  modify (unbind name index level)
  return value

/-- Overwrites the innermost binding of a name, and returns the old value. -/
def replace (name : String) (value : Value) : SnapshotM Value := do
  let (index, level, old) ← binding name
  modify (putLevel index (level.set name value))
  return old

end Snapshot

end Rewind
