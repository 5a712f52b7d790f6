/-
This file defines the tracing sweep, which frees what counting cannot: cycles. Every cell that can
be reached from a binding is marked, and every other cell is freed, whatever its count. Marks are
kept aside, so marking copies no cell. Freeing takes references away as usual, and may thereby free
cells that the sweep has yet to come to.

A sweep is asked for when the heap has grown up to its threshold, and run by a collector between two
steps of a run. Several requests between two looks of the collector count as one.
-/

import Rewind.Store.Basic

namespace Rewind

/-! ### Marking -/

namespace Chain

theorem count_mark {marks : Array Bool} {position : Nat}
    (unmarked : marks[position]? = some false) :
    (marks.setIfInBounds position true).count false < marks.count false := by
  obtain ⟨inside, isFalse⟩ := Array.getElem?_eq_some_iff.mp unmarked
  rw [Array.setIfInBounds_def, dif_pos inside, Array.count_set]
  have present : 0 < marks.count false :=
    Array.count_pos_iff.mpr (isFalse ▸ Array.getElem_mem inside)
  simp only [isFalse, beq_self_eq_true, ite_true]
  exact Nat.sub_lt present Nat.one_pos

/-- Marks the cells that can be reached from the positions on the worklist through cells that are
not marked yet. Positions that are free or outside of the heap are passed over. -/
def markFrom (chain : Chain) (pending : List Nat) (marks : Array Bool) : Array Bool :=
  match pending with
  | [] => marks
  | position :: rest =>
    if _unmarked : marks[position]? = some false then
      match chain.cell position >>= Cell.payload with
      | .ok payload =>
        chain.markFrom (payload.references.reverse ++ rest) (marks.setIfInBounds position true)
      | .error _ => chain.markFrom rest marks
    else chain.markFrom rest marks
termination_by (marks.count false, pending.length)
decreasing_by
  · exact Prod.Lex.left _ _ (count_mark _unmarked)
  · exact Prod.Lex.right _ (Nat.lt_succ_self _)
  · exact Prod.Lex.right _ (Nat.lt_succ_self _)

/-- The positions that the bindings refer to. -/
def boundReferences (chain : Chain) : List Nat :=
  chain.bindings.filterMap fun binding => binding.2.reference?

/-- For every position of the heap, whether it can be reached from a binding. -/
def marks (chain : Chain) : Array Bool :=
  chain.markFrom chain.boundReferences.reverse (Array.replicate chain.counters.heapSize false)

/-- Frees a cell that is not marked, unless it is free already. -/
def sweepCell (marks : Array Bool) (position : Nat) : ChainM Unit := do
  if marks[position]? = some true then return ()
  else
    let cell ← peek position
    if cell.isFree then return () else freeAndRelease true position

/-- Frees all cells that are not marked, in the order of their positions. -/
def sweepUnmarked (marks : Array Bool) : ChainM Unit :=
  (List.range marks.size).forM (sweepCell marks)

end Chain

/-! ### Sweeping -/

/-- What a sweep did. -/
structure SweepReport where
  /-- The number of cells freed. -/
  freed : Nat
  heapSize : Nat
  thresholdBefore : Nat
  thresholdAfter : Nat
  deriving DecidableEq, Repr

/-- The least natural number not below a floating-point number, between zero and 2^64 - 1. -/
def ceilToWord (number : Float) : Nat := number.ceil.toUInt64.toNat

namespace Store

/-- The threshold to use after a sweep that left too little free: grown by the factor, and by one at
least. -/
def grownThreshold (store : Store) : Except Defect Nat :=
  let threshold := store.chain.counters.sweepThreshold
  if threshold + 1 < 0x10000000000000000 then
    .ok (max (ceilToWord (Counters.toFloat threshold * store.settings.thresholdGrowth))
      (threshold + 1))
  else .error .thresholdOverflow

/-- Whether less of the heap is free than there should be. -/
def isTight (store : Store) : Bool :=
  store.chain.counters.freeSpace < store.settings.minimumFreeSpace

/-- Whether as much of the heap is free as there should be. If that share is not a number, a store
is neither roomy nor tight. -/
def isRoomy (store : Store) : Bool :=
  store.settings.minimumFreeSpace ≤ store.chain.counters.freeSpace

/-- Frees all cells that cannot be reached from a binding. During this the store counts as
sweeping. -/
def freeUnreachable : StoreM Unit := fun store =>
  match onChain (Chain.sweepUnmarked store.chain.marks) { store with sweeping := true } with
  | .ok result swept => .ok result { swept with sweeping := false }
  | .error fault swept => .error fault { swept with sweeping := false }

/-- Raises the threshold if less of the heap is free than there should be. -/
def adjustThreshold : StoreM Unit := do
  let store ← get
  if store.isTight then
    match store.grownThreshold with
    | .error defect => throw (.defect defect)
    | .ok threshold =>
      set { store with
        chain := store.chain.mapCounters fun counters =>
          { counters with sweepThreshold := threshold } }

/-- Sweeps the heap. Unless forced, a sweep is skipped while enough of the heap is free. -/
def sweep (forced : Bool) : StoreM (Option SweepReport) := do
  let before ← get
  if !forced && before.isRoomy then return none
  else
    freeUnreachable
    let threshold := (← get).chain.counters.sweepThreshold
    adjustThreshold
    let after ← get
    let report : SweepReport :=
      { freed := before.chain.counters.usedCells - after.chain.counters.usedCells
        heapSize := after.chain.counters.heapSize
        thresholdBefore := threshold
        thresholdAfter := after.chain.counters.sweepThreshold }
    set (after.note
      (.swept report.freed report.heapSize report.thresholdBefore report.thresholdAfter))
    return some report

end Store

/-! ### The collector -/

/-- Runs the sweeps that a store asks for, and keeps count. -/
structure Collector where
  /-- The number of sweeps run. -/
  sweeps : Nat := 0
  /-- The number of cells they freed. -/
  freed : Nat := 0
  /-- What the last one did. -/
  last : Option SweepReport := none
  deriving DecidableEq, Repr

namespace Collector

/-- Counts a sweep, if one ran. -/
def record (collector : Collector) : Option SweepReport → Collector
  | none => collector
  | some report =>
    { sweeps := collector.sweeps + 1
      freed := collector.freed + report.freed
      last := some report }

/-- Sweeps the store if it asked for that. -/
def poll (collector : Collector) : StoreM (Option SweepReport × Collector) := do
  if (← get).sweepRequested then
    modify fun store => { store with sweepRequested := false }
    let report ← Store.sweep false
    return (report, collector.record report)
  else return (none, collector)

end Collector

end Rewind
