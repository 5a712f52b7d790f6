/-
This file proves that a sweep frees exactly what cannot be reached. Marking marks nothing else than
what can be reached. Freeing goes through the heap in order of positions and takes references away
as usual, so a cell may be free before the sweep comes to it, and the sweep passes over references
to such cells. What is marked stays: as long as the bindings and the marked cells refer to it, its
count cannot come down to zero.
-/

import Mathlib
import Rewind.Proofs.Store.Soundness
import Rewind.Proofs.Store.Sweeping

namespace Rewind

/-- What a sweep leaves of some entries. -/
structure Entry.Collected (surplus : Nat → Nat) (bindings : Bindings)
    (before after : Multiset Entry) : Prop where
  thins : Thins before after
  survives : ∀ position, position ∈ after.map Entry.position ↔
    position ∈ before.map Entry.position ∧ Reached before bindings position
  balanced : Balanced surplus bindings.held after

theorem Bindings.mem_held {bindings : Bindings} {position : Nat} :
    position ∈ bindings.held ↔ ∃ name, (name, .ref position) ∈ bindings := by
  simp only [Bindings.held, Multiset.mem_coe, List.mem_filterMap]
  constructor
  · rintro ⟨⟨name, value⟩, member, found⟩
    cases value with
    | ref other =>
      cases found
      exact ⟨name, member⟩
    | _ => cases found
  · rintro ⟨name, member⟩
    exact ⟨_, member, rfl⟩

namespace Chain

variable {entries : Multiset Entry} {bindings : Bindings} {chain : Chain} {surplus : Nat → Nat}
  {kept : Nat → Prop}

/-! ### Marking -/

/-- Nothing but cells that can be reached is marked. -/
theorem markFrom_reached (holds : chain.Holds entries bindings) (pending : List Nat)
    (marks : Array Bool)
    (waits : ∀ position ∈ pending, Entry.Reached entries bindings position)
    (marked : ∀ position : Nat, marks[position]? = some true →
      position ∈ entries.map Entry.position ∧ Entry.Reached entries bindings position) :
    ∀ position : Nat, (chain.markFrom pending marks)[position]? = some true →
      position ∈ entries.map Entry.position ∧ Entry.Reached entries bindings position := by
  fun_induction Chain.markFrom chain pending marks with
  | case1 marks => exact marked
  | case2 marks position rest unmarked payload found inductionHypothesis =>
    have reached := waits position List.mem_cons_self
    obtain ⟨entry, member, rfl, payloads⟩ | ⟨-, error, failed⟩ := holds.payload_cases position
    · rw [payloads] at found
      cases found
      refine inductionHypothesis (fun other listed => ?_) (fun other isMarked => ?_)
      · obtain refers | later := List.mem_append.mp listed
        · exact .referred member reached (List.mem_reverse.mp refers)
        · exact waits other (List.mem_cons_of_mem _ later)
      · rw [Array.getElem?_setIfInBounds] at isMarked
        by_cases same : entry.position = other
        · exact same ▸ ⟨Multiset.mem_map_of_mem _ member, reached⟩
        · rw [if_neg same] at isMarked
          exact marked other isMarked
    · rw [failed] at found
      cases found
  | case3 marks position rest unmarked error failed inductionHypothesis =>
    exact inductionHypothesis (fun other later => waits other (List.mem_cons_of_mem _ later)) marked
  | case4 marks position rest known inductionHypothesis =>
    exact inductionHypothesis (fun other later => waits other (List.mem_cons_of_mem _ later)) marked

/-- Exactly the cells in use that can be reached are marked. -/
theorem Holds.marked_iff (holds : chain.Holds entries bindings) (position : Nat) :
    chain.marks[position]? = some true ↔
      position ∈ entries.map Entry.position ∧ Entry.Reached entries bindings position := by
  constructor
  · refine markFrom_reached holds _ _ (fun other listed => ?_) (fun other isMarked => ?_) position
    · unfold boundReferences at listed
      rw [List.mem_reverse, bindings_eq_snapshot, holds.stack.bindings_eq] at listed
      obtain ⟨name, member⟩ := Bindings.mem_held.mp (Multiset.mem_coe.mpr listed)
      exact .bound member
    · rw [Array.getElem?_replicate] at isMarked
      split at isMarked <;> cases isMarked
  · rintro ⟨isEntry, reached⟩
    obtain ⟨entry, member, rfl⟩ := Multiset.mem_map.mp isEntry
    exact holds.marks.2 entry member reached

/-! ### Freeing -/

/-- What freeing leaves while references in the heap may dangle. -/
structure Sweeps (surplus : Nat → Nat) (kept : Nat → Prop) (bindings : Bindings)
    (entries : Multiset Entry) (chain : Chain) (left : Multiset Entry) (after : Chain) : Prop where
  holds : after.Holds left bindings
  owes : Entry.Owes true chain.counters.heapSize surplus kept bindings.held [] left
  thins : Entry.Thins entries left
  moves : chain.Moves 0 after

theorem Moves.heapSize_eq {after : Chain} (moves : chain.Moves 0 after) :
    after.counters.heapSize = chain.counters.heapSize := le_antisymm moves.bounded moves.larger

theorem Sweeps.trans {middle after : Chain} {between left : Multiset Entry}
    (first : Sweeps surplus kept bindings entries chain between middle)
    (second : Sweeps surplus kept bindings between middle left after) :
    Sweeps surplus kept bindings entries chain left after :=
  ⟨second.holds, first.moves.heapSize_eq ▸ second.owes, first.thins.trans second.thins,
    first.moves.trans second.moves⟩

/-- Coming to a position, the sweep frees what is there unless it is marked. -/
theorem Holds.sweepCell (holds : chain.Holds entries bindings) {marks : Array Bool}
    (owes : Entry.Owes true chain.counters.heapSize surplus kept bindings.held [] entries)
    (marked : ∀ position, kept position → marks[position]? = some true)
    {position : Nat} (inside : position < chain.counters.heapSize) :
    ∃ left after, Chain.sweepCell marks position chain = .ok () after ∧
      Sweeps surplus kept bindings entries chain left after ∧
      (marks[position]? ≠ some true → position ∉ left.map Entry.position) := by
  have still : Sweeps surplus kept bindings entries chain entries chain :=
    ⟨holds, owes, .refl entries, .refl chain⟩
  unfold Chain.sweepCell
  split
  · rename_i isMarked
    exact ⟨entries, chain, rfl, still, fun unmarked => absurd isMarked unmarked⟩
  · rename_i unmarked
    obtain ⟨entry, rest, rfl, rfl, seen⟩ | ⟨absent, ⟨-, next, seen⟩ | ⟨outside, -⟩⟩ :=
      holds.heap.cell_cases position
    · rw [Action.bind_of_ok (peek_of_seen seen)]
      change ∃ left after, Chain.freeAndRelease true entry.position chain = _ ∧ _
      unfold Chain.freeAndRelease
      have notKept : ¬ kept entry.position := fun isKept => unmarked (marked _ isKept)
      have apart := holds.heap.distinct
      rw [Multiset.map_cons, Multiset.nodup_cons] at apart
      have ends := holds.free true entry.position
      generalize freeing : Chain.free true entry.position chain = result at ends
      cases ends with
      | @freed other others once here split allowed held moves =>
        have isEntry : other = entry := holds.heap.unique
          (split ▸ Multiset.mem_cons_self other others) (Multiset.mem_cons_self entry rest) here
        subst isEntry
        cases (Multiset.cons_inj_right other).mp split
        have owesFreed := owes.free notKept (.inl rfl) inside
        rw [List.append_nil] at owesFreed
        obtain ⟨left, after, ran, heldLeft, owesLeft, thins, movesLeft⟩ :=
          held.settle moves.heapSize_eq owesFreed
        refine ⟨left, after, ?_, ⟨heldLeft, owesLeft, (Entry.Thins.remove other rest).trans thins,
          moves.trans movesLeft⟩, fun _ survives => apart.1 (thins.subset survives)⟩
        rw [Action.bind_of_ok freeing]
        exact ran
      | skipped _ absent => exact absurd (by simp) absent
      | @failed fault after refused held moves =>
        -- A sweep is never refused a cell in use.
        have allowed : ∃ shown, Snapshot.free true entry.position chain.snapshot =
            .ok (some entry.payload) shown := by
          obtain ⟨shown, flat, -⟩ := holds.heap.free (.inr rfl)
          exact ⟨shown, flat⟩
        obtain ⟨shown, flat⟩ := allowed
        obtain ⟨reached, ran, -⟩ := (follows_free true entry.position).ok holds.wiped flat
        rw [freeing] at ran
        cases ran
    · rw [Action.bind_of_ok (peek_of_seen seen)]
      exact ⟨entries, chain, rfl, still, fun _ => absent⟩
    · exact absurd inside (by rw [snapshot_counters] at outside; omega)

/-- The sweep leaves nothing that is not marked among the positions it has come to. -/
theorem Holds.sweepCells {marks : Array Bool}
    (marked : ∀ position, kept position → marks[position]? = some true) {positions : List Nat}
    (holds : chain.Holds entries bindings)
    (owes : Entry.Owes true chain.counters.heapSize surplus kept bindings.held [] entries)
    (inside : ∀ position ∈ positions, position < chain.counters.heapSize) :
    ∃ left after, positions.forM (Chain.sweepCell marks) chain = .ok () after ∧
      Sweeps surplus kept bindings entries chain left after ∧
      ∀ position ∈ positions, marks[position]? ≠ some true →
        position ∉ left.map Entry.position := by
  induction positions generalizing chain entries with
  | nil =>
    exact ⟨entries, chain, rfl, ⟨holds, owes, .refl entries, .refl chain⟩,
      fun _ member => nomatch member⟩
  | cons position positions inductionHypothesis =>
    obtain ⟨between, middle, ran, sweeps, gone⟩ :=
      holds.sweepCell owes marked (inside position List.mem_cons_self)
    have size := sweeps.moves.heapSize_eq
    obtain ⟨left, after, ranRest, sweepsRest, goneRest⟩ :=
      inductionHypothesis sweeps.holds (size ▸ sweeps.owes)
        (fun other member => size ▸ inside other (List.mem_cons_of_mem _ member))
    refine ⟨left, after, ?_, sweeps.trans sweepsRest, fun other member unmarked => ?_⟩
    · change (Chain.sweepCell marks position >>= fun _ =>
        positions.forM (Chain.sweepCell marks)) chain = _
      rw [Action.bind_of_ok ran]
      exact ranRest
    · obtain same | later := List.mem_cons.mp member
      · subst same
        exact fun survives => gone unmarked (sweepsRest.thins.subset survives)
      · exact goneRest other later unmarked

/-- A sweep over a balanced heap succeeds and leaves exactly what can be reached. -/
theorem Holds.collect (holds : chain.Holds entries bindings)
    (balanced : Entry.Balanced surplus bindings.held entries)
    (inside : ∀ position ∈ bindings.held + Entry.held entries,
      position < chain.counters.heapSize) :
    ∃ left after, Chain.sweepUnmarked chain.marks chain = .ok () after ∧
      after.Holds left bindings ∧ Entry.Collected surplus bindings entries left ∧
      chain.Moves 0 after := by
  have marked := holds.marked_iff
  have owes : Entry.Owes true chain.counters.heapSize surplus
      (fun position => position ∈ entries.map Entry.position ∧
        Entry.Reached entries bindings position) bindings.held [] entries := by
    refine ⟨?_, fun position member => .inr ⟨rfl, inside position ?_⟩,
      fun position isKept => isKept.1, fun position isKept => ?_⟩
    · rwa [Multiset.coe_nil, add_zero]
    · rwa [Multiset.coe_nil, add_zero] at member
    · obtain ⟨-, reached⟩ := isKept
      cases reached with
      | bound member => exact .inl (Bindings.mem_held.mpr ⟨_, member⟩)
      | @referred entry _ member reached refers =>
        exact .inr ⟨entry, member, ⟨Multiset.mem_map_of_mem _ member, reached⟩, refers⟩
  obtain ⟨left, after, ran, sweeps, gone⟩ := holds.sweepCells
    (fun position isKept => (marked position).mpr isKept) owes
    (fun position (member : position ∈ List.range chain.marks.size) => by
      rw [List.mem_range, holds.marks.1] at member
      exact member)
  refine ⟨left, after, ran, sweeps.holds, ⟨sweeps.thins, fun position => ⟨fun survives => ?_,
    fun isKept => sweeps.owes.present position isKept⟩, ?_⟩, sweeps.moves⟩
  · refine (marked position).mp (by_contra fun unmarked => ?_)
    refine gone position ?_ unmarked survives
    rw [List.mem_range, holds.marks.1]
    exact holds.inside (sweeps.thins.subset survives)
  · have settled := sweeps.owes.balanced
    rwa [Multiset.coe_nil, add_zero] at settled

end Chain

/-! ### Sweeping a store -/

namespace Store

variable {entries : Multiset Entry} {bindings : Bindings} {store : Store} {surplus : Nat → Nat}

theorem Stands.collect (stands : store.Stands entries bindings)
    (balanced : Entry.Balanced surplus bindings.held entries)
    (inside : ∀ position ∈ bindings.held + Entry.held entries,
      position < store.chain.counters.heapSize) :
    ∃ left reached, Store.freeUnreachable store = .ok () { store with chain := reached } ∧
      Stands left bindings { store with chain := reached } ∧
      Entry.Collected surplus bindings entries left ∧ store.chain.Moves 0 reached := by
  obtain ⟨left, reached, ran, holds, collected, moves⟩ := stands.chain.collect balanced inside
  have idle := stands.idle
  refine ⟨left, reached, ?_, ⟨holds, idle⟩, collected, moves⟩
  unfold Store.freeUnreachable onChain Action.onPart
  simp only [ran]
  rw [← idle]

/-- A sweep is skipped, or leaves exactly what can be reached; only the threshold can stop it. -/
theorem Stands.sweep_cases (stands : store.Stands entries bindings)
    (balanced : Entry.Balanced surplus bindings.held entries)
    (inside : ∀ position ∈ bindings.held + Entry.held entries,
      position < store.chain.counters.heapSize) (forced : Bool) :
    forced = false ∧ Store.sweep forced store = .ok none store ∨
      ∃ left, Entry.Collected surplus bindings entries left ∧
        ((∃ report after, Store.sweep forced store = .ok (some report) after ∧
            after.Stands left bindings ∧ store.chain.Keeps after.chain ∧
            report.freed = entries.card - left.card) ∨
          ∃ after, Store.sweep forced store = .error (.defect .thresholdOverflow) after ∧
            after.Stands left bindings ∧
            0x10000000000000000 ≤ store.chain.counters.sweepThreshold + 1) := by
  obtain ⟨left, reached, freeing, stood, collected, moves⟩ := stands.collect balanced inside
  obtain skipped | ⟨threshold, report, event, -, swept, freed⟩ | ⟨failed, tooLarge⟩ :=
    sweep_of_freed freeing forced
  · exact .inl skipped
  · have before := stands.chain.heap.counted
    have now := stood.chain.heap.counted
    rw [Chain.snapshot_counters] at before now
    refine .inr
      ⟨left, collected, .inl ⟨report, _, swept, (stood.withThreshold threshold).note event,
      moves.keeps.trans (keeps_withThreshold { store with chain := reached } threshold), ?_⟩⟩
    rw [freed, before, now]
  · refine .inr ⟨left, collected, .inr ⟨_, failed, stood, ?_⟩⟩
    rwa [moves.threshold] at tooLarge

end Store

/-! ### Sweeping after any run -/

/-- The cells that are in use in one view and not in another. -/
def Snapshot.freedIn (before after : Snapshot) : Multiset Entry :=
  before.entries.filter fun entry => entry.position ∉ after.entries.map Entry.position

/-- What a sweep makes of a view. -/
structure Snapshot.Swept (before after : Snapshot) : Prop where
  /-- The cells still in use are those that could be reached. -/
  live : ∀ position, position ∈ after.entries.map Entry.position ↔
    position ∈ before.entries.map Entry.position ∧
      Entry.Reached before.entries before.bindings position
  /-- They keep what they store. -/
  content : ∀ survivor ∈ after.entries, ∃ former ∈ before.entries,
    former.content = survivor.content
  /-- Their counts drop by what the others held. -/
  count : ∀ survivor ∈ after.entries, ∀ former ∈ before.entries,
    former.position = survivor.position →
      survivor.count + (Entry.held (before.freedIn after)).count survivor.position = former.count
  /-- What is still referred to is still counted. -/
  referenced : ∀ survivor ∈ after.entries,
    survivor.position ∈ before.bindings.held + Entry.held after.entries → 0 < survivor.count
  bindings : after.bindings = before.bindings

/-- A view in which no cell counts less than its occurrences is balanced, for some surplus. -/
theorem Snapshot.Holds.exists_balanced {snapshot : Snapshot} {entries : Multiset Entry}
    {bindings : Bindings} (holds : snapshot.Holds entries) (binds : snapshot.Binds bindings)
    (counted : ∀ entry ∈ snapshot.entries,
      snapshot.references.count entry.position ≤ entry.count) :
    ∃ surplus, Entry.Balanced surplus bindings.held entries := by
  refine ⟨fun position => (snapshot.entry? position).elim 0 Entry.count -
    snapshot.references.count position, fun entry member => ?_⟩
  have enough := counted entry (holds.entries_eq.symm ▸ member)
  have found := holds.entry?_eq_some_iff.mpr ⟨member, rfl⟩
  simp only [found, Option.elim_some, ← holds.references_eq binds]
  omega

theorem Entry.Collected.swept {before after : Snapshot} {entries left : Multiset Entry}
    {bindings : Bindings} {surplus : Nat → Nat} (holds : before.Holds entries)
    (binds : before.Binds bindings) (heldAfter : after.Holds left)
    (boundAfter : after.Binds bindings)
    (balanced : Balanced surplus bindings.held entries)
    (collected : Collected surplus bindings entries left) : before.Swept after := by
  have split := collected.thins.partition holds.distinct heldAfter.distinct
  have heldSplit : held entries = held left + held (before.freedIn after) := by
    unfold Snapshot.freedIn
    rw [holds.entries_eq, heldAfter.entries_eq, held_eq_contents, split, Multiset.add_bind,
      ← held_eq_contents, ← held_eq_contents]
  refine ⟨?_, ?_, ?_, ?_, ?_⟩
  · rw [holds.entries_eq, heldAfter.entries_eq, binds.bindings_eq]
    exact collected.survives
  · rw [holds.entries_eq, heldAfter.entries_eq]
    intro survivor member
    obtain ⟨former, present, same, -⟩ := collected.thins.origin survivor member
    exact ⟨former, present, same⟩
  · rw [holds.entries_eq, heldAfter.entries_eq]
    intro survivor member former present same
    rw [balanced former present, collected.balanced survivor member, same, heldSplit]
    simp only [Multiset.count_add]
    omega
  · rw [heldAfter.entries_eq, binds.bindings_eq]
    intro survivor member referenced
    have occurs := Multiset.count_pos.mpr referenced
    rw [collected.balanced survivor member]
    omega
  · rw [binds.bindings_eq, boundAfter.bindings_eq]

/-- A forced sweep of any store whose cells count at least their occurrences succeeds and frees
exactly what cannot be reached, however long the chain and whatever the graph. -/
theorem sweep_collects_unreachable (settings : StoreSettings) (operations : List Operation) :
    let store := (Store.empty settings).after operations
    (∀ entry ∈ store.chain.snapshot.entries,
        store.chain.snapshot.references.count entry.position ≤ entry.count) →
      store.chain.counters.sweepThreshold < 0xffffffffffffffff →
      ∃ report after, Store.sweep true store = .ok (some report) after ∧
        store.chain.snapshot.Swept after.chain.snapshot ∧
        report.freed = (store.chain.snapshot.freedIn after.chain.snapshot).card ∧
        after.chain.older = store.chain.older ∧ after.sweeping = false := by
  intro store counted small
  obtain ⟨inOrder, each⟩ := Store.sound_after settings operations
  obtain ⟨entries, bindings, heap, stack, inside⟩ := each.tail
  have stands : store.Stands entries bindings := ⟨⟨heap, stack, inOrder.wiped⟩, inOrder.idle⟩
  obtain ⟨surplus, balanced⟩ := heap.exists_balanced stack counted
  obtain ⟨notForced, -⟩ | ⟨left, collected, ⟨report, after, swept, stood, keeps, freed⟩ |
    ⟨after, -, -, tooLarge⟩⟩ := stands.sweep_cases balanced inside true
  · exact absurd notForced Bool.true_eq_false_eq_False
  · refine ⟨report, after, swept,
      collected.swept heap stack stood.chain.heap stood.chain.stack balanced, ?_, keeps.older,
      stood.idle⟩
    have split := congrArg Multiset.card
      (collected.thins.partition heap.distinct stood.chain.heap.distinct)
    rw [Multiset.card_add, Multiset.card_map, Multiset.card_map, Multiset.card_map] at split
    unfold Snapshot.freedIn
    rw [freed, heap.entries_eq, stood.chain.heap.entries_eq]
    omega
  · omega

/-- Two cells that refer to each other and to a third one, which alone is bound, in a generation
above theirs. -/
theorem sweep_collects_unreachable_cycle :
    let store := (Store.empty {}).after [
      .access (.alloc (.list [])), .access (.alloc (.list [.ref 0])), .access (.alloc (.list [])),
      .access (.assign 0 (.list [.ref 1, .ref 2])), .freeze ⟨0, Signal.enter, 0⟩,
      .access (.push "kept" (.ref 2))]
    (∀ entry ∈ store.chain.snapshot.entries,
        store.chain.snapshot.references.count entry.position ≤ entry.count) ∧
      store.chain.counters.sweepThreshold < 0xffffffffffffffff ∧
      ∃ report after, Store.sweep true store = .ok (some report) after ∧
        store.chain.snapshot.Swept after.chain.snapshot ∧
        report.freed = (store.chain.snapshot.freedIn after.chain.snapshot).card ∧
        after.chain.older = store.chain.older ∧ after.sweeping = false := by
  intro store
  have met : (∀ entry ∈ store.chain.snapshot.entries,
        store.chain.snapshot.references.count entry.position ≤ entry.count) ∧
      store.chain.counters.sweepThreshold < 0xffffffffffffffff := by
    simp only [store, Store.after_cons, Store.after_nil, Operation.perform, Access.perform,
      Store.assign_eq]
    decide +kernel
  exact ⟨met.1, met.2, sweep_collects_unreachable {} _ met.1 met.2⟩

end Rewind
