/-
This file defines how an operation of the store can fail: it is refused for a reason the caller can
be told, or it runs into a defect, a state that the store's own invariants rule out.
-/

namespace Rewind

/-- Why an operation of the store is refused. -/
inductive StoreError
  /-- The position is not below the heap size. -/
  | outsideHeap (position : Nat)
  /-- The cell is free, so there is nothing to read or to count. -/
  | freedCell (position : Nat)
  /-- The cell is free already. -/
  | doubleFree (position : Nat)
  /-- The cell is still referred to. -/
  | stillReferenced (position count : Nat)
  /-- The cell has no reference to take back. -/
  | countUnderflow (position : Nat)
  /-- The name is not bound. -/
  | unboundName (name : String)
  /-- What followed the checkpoint has been discarded or merged. -/
  | nothingToRestore
  /-- The generation of the checkpoint is not in the chain any more. -/
  | staleCheckpoint
  deriving DecidableEq, Repr

/-- The wording of a refusal. -/
def StoreError.message : StoreError → String
  | outsideHeap position =>
    "segmentation fault: cell " ++ toString position ++ " is outside of the heap"
  | freedCell position => "cell " ++ toString position ++ " has already been freed"
  | doubleFree position => "double free of cell " ++ toString position
  | stillReferenced position count =>
    "cell " ++ toString position ++ " is still referenced " ++ toString count ++ " time(s)"
  | countUnderflow position => "reference count underflow in cell " ++ toString position
  | unboundName name => "no element called '" ++ name ++ "' in the stack"
  | nothingToRestore => "nothing to roll back to"
  | staleCheckpoint => "checkpoint refers to a generation that is no longer in the chain"

/-- A state that the invariants of the program rule out. -/
inductive Defect
  /-- A cell was written by a generation that owns no copy of it. -/
  | unownedWrite (position : Nat)
  /-- The free list led to a cell in use. -/
  | usedCellOnFreeList (position : Nat)
  /-- More cells were freed than were in use. -/
  | usedCellsUnderflow
  /-- No generation of the chain has the stack level. -/
  | missingLevel (index : Nat)
  /-- A level lost a binding between finding and changing it. -/
  | vanishedBinding (name : String) (index : Nat)
  /-- A level was given a name it has already. -/
  | duplicateBinding (name : String)
  /-- A generation on top of a checkpoint has no point to resume at. -/
  | missingResumePoint
  /-- The sweep threshold does not fit into 64 bits any more. -/
  | thresholdOverflow
  /-- A forward step was taken without a node. -/
  | missingNode
  /-- The count of iterations does not fit into 32 bits any more. -/
  | iterationOverflow
  /-- The frame of a repetition lost an entry. -/
  | shortFrame
  /-- The match tree is deeper than the heap is large, so it has a cycle. -/
  | endlessMatchTree
  deriving DecidableEq, Repr

/-- How an operation of the store fails. -/
inductive StoreFault
  | refused (error : StoreError)
  | defect (defect : Defect)
  deriving DecidableEq, Repr

end Rewind
