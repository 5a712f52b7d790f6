/-
This file counts references. Storing a reference counts it at the cell it points to, taking it away
counts it back, and a cell whose count reaches zero is freed, which takes away the references its
payload held. The references still to be taken away wait on a worklist; no recursion follows the
graph, and cycles are never freed here.

The worklist comes to an end because a cell that puts references on it has just left the cells in
use, of which there are finitely many.
-/

import Rewind.Action
import Rewind.Store.Heap

namespace Rewind.Chain

/-- Counts one more reference to the cell at a position. -/
def retain (position : Nat) : ChainM Unit := do
  let _ ← change position Cell.increase

/-- Counts the references some positions stand for. -/
def retainAll (positions : List Nat) : ChainM Unit := positions.forM retain

/-- Takes one reference to a cell away, and returns its payload if that was the last one and the
cell has been freed. -/
def drop (sweeping : Bool) (position : Nat) : ChainM (Option Payload) := do
  let cell ← change position Cell.decrease
  if 0 < cell.count then return none
  else free sweeping position

/-- Takes one reference to a cell away; but a sweep passes over cells that are free already. -/
def releaseOne (sweeping : Bool) (position : Nat) : ChainM (Option Payload) :=
  if sweeping then do
    let seen ← peek position
    if seen.isFree then return none
    else drop sweeping position
  else drop sweeping position

/-! ### Releasing uses cells up -/

theorem state_of_ofExcept {α : Type} {answer : Except StoreError α} {chain chain' : Chain}
    {value : α} (succeeded : ChainM.ofExcept answer chain = .ok value chain') :
    chain' = chain := by
  cases answer <;> simp_all [ChainM.ofExcept]

theorem state_of_peek {position : Nat} {chain chain' : Chain} {cell : Cell}
    (succeeded : peek position chain = .ok cell chain') : chain' = chain := by
  simp only [peek, Action.bind_eq_ok_iff, Action.get_eq_ok_iff] at succeeded
  obtain ⟨_, _, ⟨rfl, rfl⟩, looked⟩ := succeeded
  exact state_of_ofExcept looked

theorem usedCells_own {position : Nat} {chain chain' : Chain} {cell : Cell}
    (succeeded : own position chain = .ok cell chain') :
    chain'.counters.usedCells = chain.counters.usedCells := by
  unfold own at succeeded
  split at succeeded
  · split at succeeded
    · cases succeeded; rfl
    · split at succeeded
      · cases succeeded
      · cases succeeded; rfl
  · cases succeeded

theorem usedCells_change {position : Nat} {edit : Cell → Except StoreError Cell}
    {chain chain' : Chain} {cell : Cell}
    (succeeded : change position edit chain = .ok cell chain') :
    chain'.counters.usedCells = chain.counters.usedCells := by
  simp only [change, Action.bind_eq_ok_iff, Action.modify_eq_ok_iff, Action.pure_eq_ok_iff]
    at succeeded
  obtain ⟨_, owned, owning, _, edited, editing, _, _, rfl, _, rfl⟩ := succeeded
  rw [← usedCells_own owning, ← state_of_ofExcept editing]
  rfl

theorem usedCells_vacate {position : Nat} {cell : Cell} {chain chain' : Chain}
    {freed : Option Payload} (succeeded : vacate position cell chain = .ok freed chain') :
    chain'.counters.usedCells < chain.counters.usedCells := by
  unfold vacate at succeeded
  split at succeeded
  · cases succeeded
  · rename_i used counted
    cases succeeded
    rw [counted]
    exact Nat.lt_succ_self used

/-- Either a cell has left those in use, or nothing has been freed. -/
theorem usedCells_free {sweeping : Bool} {position : Nat} {chain chain' : Chain}
    {freed : Option Payload} (succeeded : free sweeping position chain = .ok freed chain') :
    chain'.counters.usedCells < chain.counters.usedCells ∨
      freed = none ∧ chain'.counters.usedCells = chain.counters.usedCells := by
  simp only [free, Action.bind_eq_ok_iff] at succeeded
  obtain ⟨seen, looked, looking, succeeded⟩ := succeeded
  cases state_of_peek looking
  split at succeeded
  · split at succeeded
    · simp only [Action.pure_eq_ok_iff] at succeeded
      exact .inr ⟨succeeded.1.symm, by rw [succeeded.2]⟩
    · simp at succeeded
  · split at succeeded
    · simp at succeeded
    · simp only [Action.bind_eq_ok_iff] at succeeded
      obtain ⟨_, owned, owning, vacating⟩ := succeeded
      rw [← usedCells_own owning]
      exact .inl (usedCells_vacate vacating)

theorem usedCells_drop {sweeping : Bool} {position : Nat} {chain chain' : Chain}
    {freed : Option Payload} (succeeded : drop sweeping position chain = .ok freed chain') :
    chain'.counters.usedCells < chain.counters.usedCells ∨
      freed = none ∧ chain'.counters.usedCells = chain.counters.usedCells := by
  simp only [drop, Action.bind_eq_ok_iff] at succeeded
  obtain ⟨cell, changed, changing, succeeded⟩ := succeeded
  rw [← usedCells_change changing]
  split at succeeded
  · simp only [Action.pure_eq_ok_iff] at succeeded
    exact .inr ⟨succeeded.1.symm, by rw [succeeded.2]⟩
  · exact usedCells_free succeeded

theorem usedCells_releaseOne {sweeping : Bool} {position : Nat} {chain chain' : Chain}
    {freed : Option Payload} (succeeded : releaseOne sweeping position chain = .ok freed chain') :
    chain'.counters.usedCells < chain.counters.usedCells ∨
      freed = none ∧ chain'.counters.usedCells = chain.counters.usedCells := by
  unfold releaseOne at succeeded
  split at succeeded
  · simp only [Action.bind_eq_ok_iff] at succeeded
    obtain ⟨seen, looked, looking, succeeded⟩ := succeeded
    cases state_of_peek looking
    split at succeeded
    · simp only [Action.pure_eq_ok_iff] at succeeded
      exact .inr ⟨succeeded.1.symm, by rw [succeeded.2]⟩
    · exact usedCells_drop succeeded
  · exact usedCells_drop succeeded

/-! ### Releasing many references -/

/-- Takes references away, the first of the worklist first. A cell that is freed puts its own
references on the worklist, the last of them first. -/
def releaseAll (sweeping : Bool) (pending : List Nat) (chain : Chain) :
    EStateM.Result StoreFault Chain Unit :=
  match pending with
  | [] => .ok () chain
  | position :: rest =>
    match _released : releaseOne sweeping position chain with
    | .error fault chain => .error fault chain
    | .ok freed chain =>
      releaseAll sweeping ((freed.elim [] Payload.references).reverse ++ rest) chain
termination_by (chain.counters.usedCells, pending.length)
decreasing_by
  rcases usedCells_releaseOne _released with fewer | ⟨rfl, same⟩
  · exact Prod.Lex.left _ _ fewer
  · rw [same]
    exact Prod.Lex.right _ (by simp)

/-- Takes the references some positions stand for away, the last of them first. -/
def release (sweeping : Bool) (positions : List Nat) : ChainM Unit :=
  releaseAll sweeping positions.reverse

/-- Frees the cell at a position and takes away the references its payload held. -/
def freeAndRelease (sweeping : Bool) (position : Nat) : ChainM Unit := do
  match ← free sweeping position with
  | some payload => release sweeping payload.references
  | none => return ()

end Rewind.Chain
