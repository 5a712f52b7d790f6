/-
This file shows that locality is invisible. Reading a cell from far back copies it into the tail,
and a cell or level that is needed may be taken from a pool. How far back is far and how much a pool
keeps can be tuned. Two stores that are tuned differently in nothing else soon own different copies,
in different generations; but what is seen from each generation is the same, and so is all that they
answer.
-/

import Mathlib
import Rewind.Proofs.Store.Parallel
import Rewind.Store.Statistics

namespace Rewind

/-! ### Accesses with nothing left out -/

theorem Access.mapCheckpoint_id (access : Access) : access.mapCheckpoint id = access := by
  cases access with
  | alloc payload => exact congrArg Access.alloc (congrFun Payload.mapCheckpoint_id payload)
  | assign position payload =>
    exact congrArg (Access.assign position) (congrFun Payload.mapCheckpoint_id payload)
  | push name value => exact congrArg (Access.push name) (congrFun Value.mapCheckpoint_id value)
  | replace name value =>
    exact congrArg (Access.replace name) (congrFun Value.mapCheckpoint_id value)
  | _ => rfl

theorem Answer.covers_id : Forgetting.nothing.Covers (id : Answer → Answer) where
  payload _ _ equal := congrArg Answer.payload equal
  value _ _ equal := congrArg Answer.value equal
  bindings bindings other equal := by
    change bindings.map id = other.map id at equal
    rw [List.map_id, List.map_id] at equal
    rw [equal]

/-- Stores that resemble each other in everything that can be seen answer every access the same. -/
theorem Access.resembles_perform_same (access : Access) :
    Action.Lockstep (Store.Resembles .nothing) id access.perform access.perform := by
  have agree := access.resembles_perform Forgetting.shallow_nothing Answer.covers_id
    (fun payload => (congrFun Payload.mapCheckpoint_id payload).symm)
    (fun value => (congrFun Value.mapCheckpoint_id value).symm)
    fun position edit _ payload other equal => by
      change payload = other at equal
      rw [equal]
      exact ⟨rfl, rfl⟩
  rwa [access.mapCheckpoint_id] at agree

/-! ### Twins -/

/-- Settings by which a store sweeps in the same way. -/
structure StoreSettings.SweepsAs (left right : StoreSettings) : Prop where
  sweepThreshold : left.sweepThreshold = right.sweepThreshold
  thresholdGrowth : left.thresholdGrowth = right.thresholdGrowth
  minimumFreeSpace : left.minimumFreeSpace = right.minimumFreeSpace

/-- Two stores that differ only in which generations own what. -/
structure Store.Twins (left right : Store) : Prop where
  parallel : left.Parallel id right
  settings : left.settings.SweepsAs right.settings
  sweepRequested : left.sweepRequested = right.sweepRequested

namespace Store

variable {left right : Store}

theorem twins_empty {settings other : StoreSettings} (same : settings.SweepsAs other) :
    (empty settings).Twins (empty other) :=
  ⟨parallel_empty (by rw [same.sweepThreshold]), same, rfl⟩

theorem Twins.resembles (twins : left.Twins right) : left.Resembles .nothing right where
  chain := ⟨twins.parallel.top.2.2, twins.parallel.inOrderLeft.wiped,
    twins.parallel.inOrderRight.wiped⟩
  growth := twins.settings.thresholdGrowth
  freeSpace := twins.settings.minimumFreeSpace
  sweeping := twins.parallel.inOrderLeft.idle.trans twins.parallel.inOrderRight.idle.symm
  sweepRequested := twins.sweepRequested

theorem twins_access (access : Access) :
    Action.Lockstep Twins id access.perform access.perform := by
  refine lockstep_of_local (fun _ => access.keeps_perform) (fun _ => access.keeps_perform)
    access.resembles_perform_same ?_ ?_
  · intro left right twins
    exact ⟨twins.resembles, twins.parallel.inOrderLeft.wiped, twins.parallel.inOrderRight.wiped⟩
  · intro left right left' right' twins keepsLeft keepsRight reached
    refine ⟨twins.parallel.keeps keepsLeft keepsRight reached.chain.seen, ?_,
      reached.sweepRequested⟩
    rw [keepsLeft.settings, keepsRight.settings]
    exact twins.settings

theorem Twins.retains (twins : left.Twins right) {left' right' : Store}
    (parallel : left'.Parallel id right') (retainsLeft : left.Retains left')
    (retainsRight : right.Retains right') : left'.Twins right' where
  parallel := parallel
  settings := by
    rw [retainsLeft.settings, retainsRight.settings]
    exact twins.settings
  sweepRequested := by
    rw [retainsLeft.sweepRequested, retainsRight.sweepRequested, twins.sweepRequested]

/-- Twins answer every operation the same, and stay twins. -/
theorem Twins.step (twins : left.Twins right) (operation : Operation) :
    Action.Agree Twins id (operation.perform left) (operation.perform right) := by
  -- Restoring and collapsing may fail; then nothing has changed.
  have answered {α : Type} {action : StoreM α} (answer : α → Answer)
      (agree : Action.Agree (fun left' right' => left'.Parallel id right' ∧ left.Retains left' ∧
        right.Retains right') id (action left) (action right)) :
      Action.Agree Twins id ((do return answer (← action) : StoreM Answer) left)
        ((do return answer (← action) : StoreM Answer) right) := by
    generalize ran : action left = outcome at agree
    generalize ran' : action right = outcome' at agree
    cases agree with
    | error reached =>
      rw [Action.bind_of_error ran, Action.bind_of_error ran']
      exact .error (twins.retains reached.1 reached.2.1 reached.2.2)
    | ok same reached =>
      rw [Action.bind_of_ok ran, Action.bind_of_ok ran']
      exact .ok (congrArg answer same) (twins.retains reached.1 reached.2.1 reached.2.2)
  cases operation with
  | access made => exact twins_access made left right twins
  | freeze resume =>
    obtain ⟨same, frozen⟩ := twins.parallel.freeze resume
    exact .ok (congrArg Answer.checkpoint same) (twins.retains frozen ⟨rfl, rfl⟩ ⟨rfl, rfl⟩)
  | rollback =>
    obtain ⟨same, below⟩ := twins.parallel.rollback
    exact .ok (congrArg Answer.resumed same)
      (twins.retains below left.retains_rollback right.retains_rollback)
  | restore checkpoint =>
    exact answered (fun resume => .resumed (some resume)) (twins.parallel.restore checkpoint)
  | collapse checkpoint => exact answered (fun _ => .done) (twins.parallel.collapse checkpoint)
  | clear =>
    refine .ok rfl ⟨flanks_clear twins.parallel.nextId twins.parallel.inOrderLeft
      twins.parallel.inOrderRight fun _ _ => ?_, twins.settings, rfl⟩
    rw [twins.settings.sweepThreshold]
    rfl

theorem Twins.run (twins : left.Twins right) (operations : List Operation) :
    left.answers operations = right.answers operations ∧
      (left.after operations).Twins (right.after operations) := by
  induction operations generalizing left right with
  | nil => exact ⟨rfl, twins⟩
  | cons operation operations inductionHypothesis =>
    have agree := twins.step operation
    simp only [answers, after_cons]
    generalize operation.perform left = outcome at agree
    generalize operation.perform right = outcome' at agree
    cases agree with
    | ok same reached =>
      obtain ⟨answered, still⟩ := inductionHypothesis reached
      exact ⟨congrArg₂ List.cons (congrArg Except.ok same) answered, still⟩
    | error reached =>
      obtain ⟨answered, still⟩ := inductionHypothesis reached
      exact ⟨congrArg₂ List.cons rfl answered, still⟩

end Store

/-! ### What can be told apart -/

/-- Nothing that is seen of two stores tells them apart, from whichever of their generations. -/
structure Store.Indistinguishable (left right : Store) : Prop where
  length : left.chain.length = right.chain.length
  sweepRequested : left.sweepRequested = right.sweepRequested
  /-- Seen from generations at the same place, all numbers, bindings and cells are the same, and so
  is where a rollback continues. -/
  views : ∀ count generation older other otherOlder,
    left.chain.generations.drop count = generation :: older →
      right.chain.generations.drop count = other :: otherOlder →
        (left.seenFrom generation older).statistics = (right.seenFrom other otherOlder).statistics ∧
          generation.counters = other.counters ∧ generation.resume = other.resume ∧
          (left.seenFrom generation older).bindings = (right.seenFrom other otherOlder).bindings ∧
          ∀ position, (left.seenFrom generation older).chain.cell position =
            (right.seenFrom other otherOlder).chain.cell position

/-- Nothing of the former contents of a cell or level is in what the pools give out. -/
structure Pools.GiveBlank (pools : Pools) : Prop where
  newCell : ∀ position payload,
    (pools.cells.newCell position payload).1 = ⟨position, .used payload 0⟩
  copyCell : ∀ cell, (pools.cells.copyCell cell).1 = cell
  newLevel : ∀ index, (pools.levels.newLevel index).1 = ⟨index, []⟩
  copyLevel : ∀ level, (pools.levels.copyLevel level).1 = level

theorem Store.Twins.indistinguishable {left right : Store} (twins : left.Twins right) :
    left.Indistinguishable right where
  length := congrArg (· + 1) twins.parallel.depth
  sweepRequested := twins.sweepRequested
  views count generation older other otherOlder atLeft atRight := by
    have same := congrArg (List.drop count) twins.parallel.generations
    rw [← Generation.views_drop, ← Generation.views_drop, atLeft, atRight] at same
    obtain ⟨top, below⟩ := List.cons.inj same
    obtain ⟨(sameId : generation.id = other.id), others⟩ := Prod.mk.inj top
    obtain ⟨resume, seen⟩ := Prod.mk.inj others
    have snapshots : (left.seenFrom generation older).chain.snapshot =
        (right.seenFrom other otherOlder).chain.snapshot := seen
    have counters : generation.counters = other.counters := congrArg Snapshot.counters seen
    have depth := congrArg List.length below
    rw [Generation.length_views, Generation.length_views] at depth
    refine ⟨?_, counters, resume, ?_, fun position => ?_⟩
    · simp only [Store.statistics, Store.seenFrom, Chain.counters, Chain.length, counters, depth,
        sameId]
    · unfold Store.bindings
      rw [Chain.bindings_eq_snapshot, Chain.bindings_eq_snapshot, snapshots]
    · rw [Chain.cell_eq_snapshot, Chain.cell_eq_snapshot, snapshots]

theorem Pools.Wiped.giveBlank {pools : Pools} (wiped : pools.Wiped) : pools.GiveBlank where
  newCell := Chain.newCell_fst pools.cells
  copyCell := Chain.copyCell_fst pools.cells
  newLevel index := (Chain.newLevel_of_wiped wiped index).1
  copyLevel level := (Chain.copyLevel_of_wiped wiped level).1

/-- How far back a cell must be to be copied and how much the pools keep is invisible: whatever is
done to two stores that are tuned differently in nothing else, they answer it in the same way, and
nothing that is seen from any of their generations tells them apart. What the pools give out is
blank. -/
theorem locality_is_invisible (settings : StoreSettings) (promotionDistance poolCapacity : Nat)
    (operations : List Operation) :
    let store := Store.empty settings
    let other := Store.empty
      { settings with promotionDistance := promotionDistance, poolCapacity := poolCapacity }
    store.answers operations = other.answers operations ∧
      (store.after operations).Indistinguishable (other.after operations) ∧
      (store.after operations).chain.pools.GiveBlank := by
  intro store other
  have twins : store.Twins other := Store.twins_empty ⟨rfl, rfl, rfl⟩
  obtain ⟨answered, still⟩ := twins.run operations
  exact ⟨answered, still.indistinguishable, still.parallel.inOrderLeft.wiped.giveBlank⟩

end Rewind
