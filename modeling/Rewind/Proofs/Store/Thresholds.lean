/-
This file bounds the threshold at which a store is swept. A sweep is asked for when the heap grows
up to the threshold, so the threshold is no larger than the heap was then. By the time of the sweep
the store may have been rolled back; but the thresholds of older generations are no higher, for a
threshold is handed on to the next generation and only ever raised. So a store with a small heap
never asks for a sweep that its threshold stops.
-/

import Mathlib
import Rewind.Proofs.Store.Transfers

namespace Rewind

/-- The heap is small in every generation, thresholds are no lower in newer ones, and the threshold
is small if a sweep is asked for. -/
structure Store.Modest (size : Nat) (store : Store) : Prop where
  heaps : ∀ generation ∈ store.chain.generations, generation.counters.heapSize ≤ size
  rising : store.chain.generations.Pairwise fun newer older =>
    older.counters.sweepThreshold ≤ newer.counters.sweepThreshold
  requested : store.sweepRequested = true → store.chain.counters.sweepThreshold ≤ size

namespace Store

variable {size larger growth : Nat} {before after : Store}

theorem Modest.mono (modest : before.Modest size) (more : size ≤ larger) :
    before.Modest larger where
  heaps generation member := (modest.heaps generation member).trans more
  rising := modest.rising
  requested asked := (modest.requested asked).trans more

theorem Modest.heap (modest : before.Modest size) : before.chain.counters.heapSize ≤ size :=
  modest.heaps before.chain.tail List.mem_cons_self

/-- A new tail on top of generations that were there before. -/
theorem Modest.of_older (modest : before.Modest size) (more : size ≤ larger)
    (below : after.chain.older <:+ before.chain.generations)
    (heap : after.chain.counters.heapSize ≤ larger)
    (raised : before.chain.counters.sweepThreshold ≤ after.chain.counters.sweepThreshold)
    (requested : after.sweepRequested = true → after.chain.counters.sweepThreshold ≤ larger) :
    after.Modest larger := by
  obtain ⟨lower, -⟩ := List.pairwise_cons.mp modest.rising
  refine ⟨fun generation member => ?_, List.pairwise_cons.mpr ⟨fun generation member => ?_, ?_⟩,
    requested⟩
  · obtain rfl | older := List.mem_cons.mp member
    · exact heap
    · exact (modest.heaps generation (below.mem older)).trans more
  · refine le_trans ?_ raised
    obtain rfl | older := List.mem_cons.mp (below.mem member)
    · exact le_refl _
    · exact lower generation older
  · exact modest.rising.sublist below.sublist

/-- Only growth can make a store ask for a sweep. -/
theorem Modest.moves (modest : before.Modest size) (moves : before.Moves growth after) :
    after.Modest (size + growth) := by
  have threshold := moves.chain.threshold
  have heap : after.chain.counters.heapSize ≤ size + growth :=
    moves.chain.bounded.trans (Nat.add_le_add_right modest.heap growth)
  refine modest.of_older (Nat.le_add_right _ _) ?_ heap threshold.ge fun asked => ?_
  · rw [moves.chain.keeps.older]
    exact List.suffix_cons _ _
  · cases requested : before.sweepRequested with
    | true =>
      rw [threshold]
      exact (modest.requested requested).trans (Nat.le_add_right _ _)
    | false =>
      have calm : before.Calm := fun impossible => nomatch requested.symm.trans impossible
      exact (moves.calm calm asked).trans heap

theorem Modest.freeze (modest : before.Modest size) (resume : ResumePoint) :
    (before.freeze resume).2.Modest size :=
  modest.of_older (le_refl _) (List.suffix_refl _) modest.heap (le_refl _) modest.requested

theorem Modest.rollback (modest : before.Modest size) : before.rollback.2.Modest size := by
  unfold Store.rollback
  have lower := List.pairwise_cons.mp modest.rising
  cases older : before.chain.older with
  | nil => exact ⟨modest.heaps, modest.rising, modest.requested⟩
  | cons tail others =>
    rw [older] at lower
    have chain : before.chain.discardTail.generations = tail :: others := by
      unfold Chain.discardTail
      rw [older]
      rfl
    have newest : before.chain.discardTail.counters = tail.counters := by
      unfold Chain.discardTail
      rw [older]
      rfl
    refine ⟨fun generation member => modest.heaps generation ?_, ?_, fun asked => ?_⟩
    · change generation ∈ before.chain.discardTail.generations at member
      rw [chain, ← older] at member
      exact List.mem_cons_of_mem _ member
    · change before.chain.discardTail.generations.Pairwise _
      rw [chain]
      exact lower.2
    · change before.chain.discardTail.counters.sweepThreshold ≤ size
      rw [newest]
      exact (lower.1 tail List.mem_cons_self).trans (modest.requested asked)

theorem Modest.collapse (modest : before.Modest size) (inOrder : before.InOrder)
    {checkpoint : Checkpoint} (collapsed : Store.collapse checkpoint before = .ok () after) :
    after.Modest size := by
  obtain ⟨failed, -⟩ | ⟨-, merged, succeeded, chain, -, -, -, requested⟩ :=
    before.collapse_cases checkpoint
  · rw [collapsed] at failed
    cases failed
  · rw [collapsed] at succeeded
    cases succeeded
    have counters : after.chain.counters = before.chain.counters := by
      rw [chain, ← Chain.snapshot_counters, (Chain.mergeTo_spec inOrder.layered _).1]
      rfl
    refine modest.of_older (le_refl _) ?_ (counters ▸ modest.heap) (by rw [counters])
      fun asked => counters ▸ modest.requested (requested ▸ asked)
    rw [chain]
    exact Chain.older_mergeTo _ _

theorem Modest.tended (modest : before.Modest size) (tended : before.Tended after) :
    after.Modest size := by
  refine modest.of_older (le_refl _) ?_ (tended.heapSize.le.trans modest.heap) tended.raised
    fun asked => nomatch tended.quiet.symm.trans asked
  rw [tended.keeps.older]
  exact List.suffix_cons _ _

/-! ### Sweeping -/

variable {surplus : Nat → Nat} {entries : Multiset Entry} {bindings : Bindings} {store : Store}

/-- The collector keeps what can be reached. -/
theorem Accounts.poll_cases (accounts : store.Accounts surplus 0 entries bindings)
    (collector : Collector) :
    (∃ result left after, collector.poll store = .ok result after ∧
        after.Accounts surplus 0 left bindings ∧ Entry.Thins entries left ∧ store.Tended after) ∨
      ∃ after, collector.poll store = .error (.defect .thresholdOverflow) after ∧
        after.Accounted ∧ store.sweepRequested = true ∧
        0x10000000000000000 ≤ store.chain.counters.sweepThreshold + 1 := by
  have ready : Accounts surplus 0 entries bindings { store with sweepRequested := false } :=
    ⟨⟨accounts.stands.chain, accounts.stands.idle⟩, accounts.balanced, accounts.isSealed⟩
  obtain ⟨quiet, polled⟩ | ⟨requested, ⟨report, after, swept, polled⟩ |
    ⟨fault, after, swept, polled⟩⟩ := collector.poll_cases store
  · exact .inl ⟨_, entries, store, polled, accounts, .refl entries, .refl store.chain, rfl,
      le_refl _, quiet⟩
  · obtain ⟨left, thins, ⟨_, _, sweeping, settled, keeps, heapSize, raised, still⟩ |
      ⟨_, failed, -⟩⟩ :=
      ready.sweep_cases false
    · rw [swept] at sweeping
      cases sweeping
      exact .inl ⟨_, left, after, polled, settled, thins, keeps, heapSize, raised, still⟩
    · rw [swept] at failed
      cases failed
  · obtain ⟨left, -, ⟨_, _, sweeping, -⟩ | ⟨_, failed, settled, tooLarge⟩⟩ :=
      ready.sweep_cases false
    · rw [swept] at sweeping
      cases sweeping
    · rw [swept] at failed
      cases failed
      exact .inr ⟨after, polled, settled.accounted, requested, tooLarge⟩

end Store

end Rewind
