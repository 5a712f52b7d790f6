/-
This file shows that the journal is only written. Two stores that differ in nothing but what has
been noted go on to differ in nothing else, and every operation answers the same on both.
-/

import Mathlib
import Rewind.Proofs.Store.Lockstep

namespace Rewind

/-- Two stores that differ only in what has been noted. -/
structure Store.SameContents (left right : Store) : Prop where
  chain : left.chain = right.chain
  nextId : left.nextId = right.nextId
  settings : left.settings = right.settings
  sweeping : left.sweeping = right.sweeping
  sweepRequested : left.sweepRequested = right.sweepRequested

namespace Store

variable {left right : Store} {α : Type}

@[refl] theorem SameContents.refl (store : Store) : store.SameContents store :=
  ⟨rfl, rfl, rfl, rfl, rfl⟩

theorem SameContents.trans {third : Store} (same : left.SameContents right)
    (next : right.SameContents third) : left.SameContents third :=
  ⟨same.chain.trans next.chain, same.nextId.trans next.nextId, same.settings.trans next.settings,
    same.sweeping.trans next.sweeping, same.sweepRequested.trans next.sweepRequested⟩

theorem SameContents.note (same : left.SameContents right) (event other : Event) :
    (left.note event).SameContents (right.note other) := { same with }

theorem SameContents.lookup (same : left.SameContents right) (name : String) :
    left.lookup name = right.lookup name := by
  unfold Store.lookup
  rw [same.chain]

theorem SameContents.peek (same : left.SameContents right) (position : Nat) :
    left.peek position = right.peek position := by
  unfold Store.peek
  rw [same.chain]

/-! ### Accesses -/

theorem sameContents_onChain (action : ChainM α) :
    Action.Lockstep SameContents id (onChain action) (onChain action) := by
  intro left right same
  unfold onChain Action.onPart
  rw [same.chain]
  cases action right.chain with
  | ok value chain => exact .ok rfl { same with chain := rfl }
  | error fault chain => exact .error { same with chain := rfl }

theorem sameContents_releaseAll (positions : List Nat) :
    Action.Lockstep SameContents id (releaseAll positions) (releaseAll positions) :=
  Action.lockstep_get fun left right same => by
    rw [same.sweeping]
    exact sameContents_onChain _

theorem sameContents_deref (position : Nat) :
    Action.Lockstep SameContents id (deref position) (deref position) :=
  Action.lockstep_get fun left right same => by
    rw [same.settings]
    exact sameContents_onChain _

theorem sameContents_alloc (payload : Payload) :
    Action.Lockstep SameContents id (alloc payload) (alloc payload) := by
  refine Action.lockstep_bind (sameContents_onChain _) fun _ _ _ =>
    Action.lockstep_bind (sameContents_onChain _) fun (position, grown) other equal => ?_
  cases equal
  cases grown with
  | true => exact fun left right same => .ok rfl { same with sweepRequested := rfl }
  | false => exact Action.lockstep_pure rfl

theorem sameContents_update (position : Nat) (edit : Payload → α × Payload) :
    Action.Lockstep SameContents id (update position edit) (update position edit) := by
  have assigns (payload : Payload) :
      Action.Lockstep SameContents id (assign position payload) (assign position payload) := by
    refine Action.lockstep_bind (sameContents_onChain _) fun _ _ _ =>
      Action.lockstep_bind (sameContents_onChain _) fun old other equal => ?_
    cases equal
    exact sameContents_releaseAll _
  refine Action.lockstep_bind (sameContents_deref position) fun payload other equal => ?_
  cases equal
  exact Action.lockstep_bind (assigns _) fun _ _ _ => Action.lockstep_pure rfl

theorem sameContents_push (name : String) (value : Value) :
    Action.Lockstep SameContents id (push name value) (push name value) := by
  have retains : Action.Lockstep SameContents id (retainValue value) (retainValue value) := by
    unfold retainValue
    cases value.reference? with
    | none => exact Action.lockstep_pure rfl
    | some position => exact sameContents_onChain _
  exact Action.lockstep_bind retains fun _ _ _ => sameContents_onChain _

theorem sameContents_remove (name : String) :
    Action.Lockstep SameContents id (remove name) (remove name) := by
  refine Action.lockstep_bind (sameContents_onChain _) fun value other equal => ?_
  cases equal
  unfold releaseValue
  cases value.reference? with
  | none => exact Action.lockstep_pure rfl
  | some position => exact sameContents_releaseAll [position]

/-! ### Generations -/

theorem SameContents.freeze (same : left.SameContents right) (resume : ResumePoint) :
    (left.freeze resume).1 = (right.freeze resume).1 ∧
      (left.freeze resume).2.SameContents (right.freeze resume).2 := by
  unfold Store.freeze
  rw [same.chain, same.nextId]
  exact ⟨rfl, { same with chain := rfl, nextId := rfl }⟩

theorem SameContents.rollback (same : left.SameContents right) :
    left.rollback.1 = right.rollback.1 ∧ left.rollback.2.SameContents right.rollback.2 := by
  unfold Store.rollback
  rw [same.chain]
  split
  · exact ⟨rfl, { same with }⟩
  · exact ⟨rfl, { same with chain := rfl }⟩

theorem sameContents_collapse (checkpoint : Checkpoint) :
    Action.Lockstep SameContents id (collapse checkpoint) (collapse checkpoint) := by
  refine Action.lockstep_get fun left right same => ?_
  have held : left.holds checkpoint = right.holds checkpoint := by
    unfold Store.holds
    rw [same.chain]
  rw [held, same.chain]
  split
  · intro _ _ _
    refine .ok rfl ?_
    split
    · exact { same with chain := rfl }
    · exact { same with chain := rfl }
  · exact Action.lockstep_throw _

/-! ### Sweeps -/

theorem sameContents_freeUnreachable :
    Action.Lockstep SameContents id freeUnreachable freeUnreachable := by
  intro left right same
  have concur := sameContents_onChain (Chain.sweepUnmarked right.chain.marks)
    { left with sweeping := true } { right with sweeping := true } { same with sweeping := rfl }
  have marks : left.chain.marks = right.chain.marks := by rw [same.chain]
  unfold freeUnreachable
  rw [marks]
  generalize onChain (Chain.sweepUnmarked right.chain.marks) { left with sweeping := true } =
    outcome at concur
  generalize onChain (Chain.sweepUnmarked right.chain.marks) { right with sweeping := true } =
    outcome' at concur
  cases concur with
  | ok value reached => exact .ok value { reached with sweeping := rfl }
  | error reached => exact .error { reached with sweeping := rfl }

theorem SameContents.isTight (same : left.SameContents right) : left.isTight = right.isTight := by
  unfold Store.isTight
  rw [same.chain, same.settings]

theorem SameContents.isRoomy (same : left.SameContents right) : left.isRoomy = right.isRoomy := by
  unfold Store.isRoomy
  rw [same.chain, same.settings]

theorem sameContents_adjustThreshold :
    Action.Lockstep SameContents id adjustThreshold adjustThreshold := by
  refine Action.lockstep_get fun left right same => ?_
  have grown : left.grownThreshold = right.grownThreshold := by
    unfold Store.grownThreshold
    rw [same.chain, same.settings]
  rw [same.isTight, grown]
  split
  · cases right.grownThreshold with
    | error defect => exact Action.lockstep_throw _
    | ok threshold =>
      exact fun _ _ _ =>
        .ok rfl { same with
          chain := congrArg
            (Chain.mapCounters fun counters => { counters with sweepThreshold := threshold })
            same.chain }
  · exact Action.lockstep_pure rfl

theorem sameContents_sweep (forced : Bool) :
    Action.Lockstep SameContents id (sweep forced) (sweep forced) := by
  refine Action.lockstep_get fun before otherBefore sameBefore => ?_
  rw [sameBefore.isRoomy, sameBefore.chain]
  split
  · exact Action.lockstep_pure rfl
  · refine Action.lockstep_bind sameContents_freeUnreachable fun _ _ _ =>
      Action.lockstep_get fun swept otherSwept sameSwept => ?_
    rw [sameSwept.chain]
    refine Action.lockstep_bind sameContents_adjustThreshold fun _ _ _ =>
      Action.lockstep_get fun after otherAfter sameAfter _ _ _ => ?_
    rw [sameAfter.chain]
    exact .ok rfl (sameAfter.note _ _)

/-- A look of the collector. -/
theorem sameContents_poll (collector : Collector) :
    Action.Lockstep SameContents id collector.poll collector.poll := by
  refine Action.lockstep_get fun left right same => ?_
  rw [same.sweepRequested]
  split
  · refine Action.lockstep_bind (Action.lockstep_modify fun _ _ same =>
      { same with sweepRequested := rfl }) fun _ _ _ =>
        Action.lockstep_bind (sameContents_sweep false) fun report other equal => ?_
    cases equal
    exact Action.lockstep_pure rfl
  · exact Action.lockstep_pure rfl

end Store

end Rewind
