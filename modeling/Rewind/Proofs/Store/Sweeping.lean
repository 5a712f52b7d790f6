/-
This file proves that a sweep of a store in which everything can be reached frees nothing. Marking
closes the set of marked cells under references: at any time, what a marked cell refers to is marked
itself or waits on the worklist. So in the end all that can be reached from the bindings is marked,
and whatever is not marked is free already.
-/

import Mathlib
import Rewind.Proofs.Store.Standing

namespace Rewind

/-- The positions that can be reached from the bindings. -/
inductive Entry.Reached (entries : Multiset Entry) (bindings : Bindings) : Nat → Prop
  | bound {name : String} {position : Nat} (member : (name, .ref position) ∈ bindings) :
    Reached entries bindings position
  | referred {entry : Entry} {position : Nat} (member : entry ∈ entries)
    (reached : Reached entries bindings entry.position)
    (refers : position ∈ entry.payload.references) : Reached entries bindings position

/-- What a marked entry refers to is marked or waits. -/
def Entry.Closed (entries : Multiset Entry) (pending : List Nat) (marks : Array Bool) : Prop :=
  ∀ entry ∈ entries, marks[entry.position]? = some true →
    ∀ position ∈ entry.payload.references, position ∈ entries.map Entry.position →
      marks[position]? = some true ∨ position ∈ pending

namespace Entry

variable {entries : Multiset Entry} {position : Nat} {pending rest : List Nat} {marks : Array Bool}

theorem mark_of_marked {other : Nat} (marked : marks[other]? = some true) :
    (marks.setIfInBounds position true)[other]? = some true := by
  rw [Array.getElem?_setIfInBounds]
  have inside := (Array.getElem?_eq_some_iff.mp marked).1
  split
  · rename_i same
    rw [if_pos (same ▸ inside)]
  · exact marked

theorem mark_self (inside : position < marks.size) :
    (marks.setIfInBounds position true)[position]? = some true := by
  rw [Array.getElem?_setIfInBounds, if_pos rfl, if_pos inside]

/-- What is marked, or is not the position of an entry, need not wait. -/
theorem Closed.skip (closed : Closed entries (position :: rest) marks)
    (settled : position ∈ entries.map Entry.position → marks[position]? = some true) :
    Closed entries rest marks := by
  intro entry member marked other refers isEntry
  obtain before | waits := closed entry member marked other refers isEntry
  · exact .inl before
  · obtain isHere | later := List.mem_cons.mp waits
    · subst isHere
      exact .inl (settled isEntry)
    · exact .inr later

/-- A position can be marked when all its entry refers to comes to wait. -/
theorem Closed.mark (closed : Closed entries (position :: rest) marks)
    (inside : position < marks.size)
    (listed : ∀ entry ∈ entries, entry.position = position →
      ∀ other ∈ entry.payload.references, other ∈ pending) :
    Closed entries (pending ++ rest) (marks.setIfInBounds position true) := by
  intro entry member marked other refers isEntry
  by_cases same : entry.position = position
  · exact .inr (List.mem_append_left _ (listed entry member same other refers))
  · rw [Array.getElem?_setIfInBounds, if_neg (Ne.symm same)] at marked
    obtain before | waits := closed entry member marked other refers isEntry
    · exact .inl (mark_of_marked before)
    · obtain isHere | later := List.mem_cons.mp waits
      · subst isHere
        exact .inl (mark_self inside)
      · exact .inr (List.mem_append_right _ later)

end Entry

namespace Chain

variable {entries : Multiset Entry} {bindings : Bindings} {chain : Chain}

/-- Only entries have a payload. -/
theorem Holds.payload_cases (holds : chain.Holds entries bindings) (position : Nat) :
    (∃ entry ∈ entries, entry.position = position ∧
        (chain.cell position >>= Cell.payload) = .ok entry.payload) ∨
      position ∉ entries.map Entry.position ∧
        ∃ error, (chain.cell position >>= Cell.payload) = .error error := by
  rw [cell_eq_snapshot]
  by_cases member : position ∈ entries.map Entry.position
  · left
    obtain ⟨entry, present, rfl⟩ := Multiset.mem_map.mp member
    refine ⟨entry, present, rfl, ?_⟩
    rw [holds.heap.used entry present]
    rfl
  · refine .inr ⟨member, ?_⟩
    cases found : chain.snapshot.cell? position with
    | none => exact ⟨_, rfl⟩
    | some cell =>
      obtain present | ⟨next, free⟩ := holds.heap.whole position (holds.heap.inside _ _ found)
      · exact absurd present member
      · rw [found] at free
        cases free
        exact ⟨_, rfl⟩

theorem markFrom_closed (holds : chain.Holds entries bindings) (pending : List Nat)
    (marks : Array Bool) (size : marks.size = chain.counters.heapSize)
    (closed : Entry.Closed entries pending marks) :
    Entry.Closed entries [] (chain.markFrom pending marks) ∧
      (chain.markFrom pending marks).size = chain.counters.heapSize ∧
      (∀ position : Nat, marks[position]? = some true →
        (chain.markFrom pending marks)[position]? = some true) ∧
      ∀ position ∈ pending, position ∈ entries.map Entry.position →
        (chain.markFrom pending marks)[position]? = some true := by
  fun_induction Chain.markFrom chain pending marks with
  | case1 marks =>
    exact ⟨closed, size, fun _ marked => marked, fun _ member => nomatch member⟩
  | case2 marks position rest unmarked payload found inductionHypothesis =>
    have inside := (Array.getElem?_eq_some_iff.mp unmarked).1
    have listed : ∀ entry ∈ entries, entry.position = position →
        ∀ other ∈ entry.payload.references, other ∈ payload.references.reverse := by
      intro entry member isHere
      obtain ⟨known, present, same, payloads⟩ | ⟨absent, -⟩ := holds.payload_cases position
      · cases holds.heap.unique present member (same.trans isHere.symm)
        rw [payloads] at found
        cases found
        exact fun other refers => List.mem_reverse.mpr refers
      · exact absurd (isHere ▸ Multiset.mem_map_of_mem _ member) absent
    obtain ⟨closedAfter, sizeAfter, kept, done⟩ :=
      inductionHypothesis (by rw [Array.size_setIfInBounds, size]) (closed.mark inside listed)
    refine ⟨closedAfter, sizeAfter, fun other marked => kept other (Entry.mark_of_marked marked),
      List.forall_mem_cons.mpr ⟨fun _ => kept _ (Entry.mark_self inside), ?_⟩⟩
    exact (List.forall_mem_append.mp done).2
  | case3 marks position rest unmarked error failed inductionHypothesis =>
    have absent : position ∉ entries.map Entry.position := by
      obtain ⟨entry, -, -, payloads⟩ | ⟨absent, -⟩ := holds.payload_cases position
      · rw [payloads] at failed
        cases failed
      · exact absent
    obtain ⟨closedAfter, sizeAfter, kept, done⟩ :=
      inductionHypothesis size (closed.skip fun isEntry => absurd isEntry absent)
    exact ⟨closedAfter, sizeAfter, kept,
      List.forall_mem_cons.mpr ⟨fun isEntry => absurd isEntry absent, done⟩⟩
  | case4 marks position rest known inductionHypothesis =>
    -- Entries lie within the store, so what is not unmarked there is marked.
    have marked : position ∈ entries.map Entry.position → marks[position]? = some true := by
      intro isEntry
      obtain ⟨entry, member, rfl⟩ := Multiset.mem_map.mp isEntry
      have inside := holds.heap.inside _ _ (holds.heap.used entry member)
      rw [snapshot_counters, ← size] at inside
      rw [Array.getElem?_eq_getElem inside] at known ⊢
      cases value : marks[entry.position] with
      | true => rfl
      | false => exact absurd (by rw [value]) known
    obtain ⟨closedAfter, sizeAfter, kept, done⟩ := inductionHypothesis size (closed.skip marked)
    exact ⟨closedAfter, sizeAfter, kept,
      List.forall_mem_cons.mpr ⟨fun isEntry => kept _ (marked isEntry), done⟩⟩

/-- All entries that can be reached are marked. -/
theorem Holds.marks (holds : chain.Holds entries bindings) :
    chain.marks.size = chain.counters.heapSize ∧
      ∀ entry ∈ entries, Entry.Reached entries bindings entry.position →
        chain.marks[entry.position]? = some true := by
  have blank : Entry.Closed entries chain.boundReferences.reverse
      (Array.replicate chain.counters.heapSize false) := by
    intro entry _ marked
    rw [Array.getElem?_replicate] at marked
    split at marked <;> cases marked
  obtain ⟨closed, size, -, bound⟩ := markFrom_closed holds _ _ Array.size_replicate blank
  refine ⟨size, fun entry member reached => ?_⟩
  have all : ∀ position, Entry.Reached entries bindings position →
      position ∈ entries.map Entry.position → chain.marks[position]? = some true := by
    intro position reached
    induction reached with
    | bound member =>
      refine bound _ (List.mem_reverse.mpr ?_)
      unfold boundReferences
      rw [bindings_eq_snapshot, holds.stack.bindings_eq]
      exact List.mem_filterMap.mpr ⟨_, member, rfl⟩
    | referred member _ refers inductionHypothesis =>
      intro isEntry
      have marked := inductionHypothesis (Multiset.mem_map_of_mem _ member)
      exact (closed _ member marked _ refers isEntry).resolve_right List.not_mem_nil
  exact all _ reached (Multiset.mem_map_of_mem _ member)

/-- Where all entries can be reached, there is nothing to free. -/
theorem Holds.sweepUnmarked (holds : chain.Holds entries bindings)
    (reached : ∀ entry ∈ entries, Entry.Reached entries bindings entry.position) :
    Chain.sweepUnmarked chain.marks chain = .ok () chain := by
  obtain ⟨size, marked⟩ := holds.marks
  have each : ∀ position < chain.counters.heapSize,
      sweepCell chain.marks position chain = .ok () chain := by
    intro position inside
    unfold sweepCell
    split
    · rfl
    · rename_i unmarked
      obtain present | ⟨next, free⟩ := holds.heap.whole position inside
      · obtain ⟨entry, member, rfl⟩ := Multiset.mem_map.mp present
        exact absurd (marked entry member (reached entry member)) unmarked
      · have looking : peek position chain = .ok ⟨position, .free next⟩ chain := by
          change ChainM.ofExcept (chain.cell position) chain = _
          rw [cell_eq_snapshot, free]
          rfl
        rw [Action.bind_of_ok looking]
        rfl
  have all : ∀ positions : List Nat, (∀ position ∈ positions, position < chain.counters.heapSize) →
      positions.forM (sweepCell chain.marks) chain = .ok () chain := by
    intro positions inside
    induction positions with
    | nil => rfl
    | cons position positions inductionHypothesis =>
      change (sweepCell chain.marks position >>= fun _ =>
        positions.forM (sweepCell chain.marks)) chain = _
      rw [Action.bind_of_ok (each position (inside position List.mem_cons_self))]
      exact inductionHypothesis fun other member => inside other (List.mem_cons_of_mem _ member)
  refine all _ fun position member => ?_
  rw [← size]
  exact List.mem_range.mp member

end Chain

/-! ### What a sweep can do -/

namespace Store

/-- A store with another sweep threshold. -/
def withThreshold (threshold : Nat) (store : Store) : Store :=
  { store with chain := store.chain.mapCounters fun counters =>
      { counters with sweepThreshold := threshold } }

theorem keeps_withThreshold (store : Store) (threshold : Nat) :
    store.chain.Keeps (store.withThreshold threshold).chain := by
  have keeps : store.chain.Keeps (store.chain.mapCounters fun counters =>
      { counters with sweepThreshold := threshold }) := Chain.keeps_mapCounters rfl
  exact keeps

/-- Raising the threshold succeeds as long as it fits into 64 bits. -/
theorem adjustThreshold_cases (store : Store) :
    (∃ threshold, store.chain.counters.sweepThreshold ≤ threshold ∧
        adjustThreshold store = .ok () (store.withThreshold threshold)) ∨
      adjustThreshold store = .error (.defect .thresholdOverflow) store ∧
        0x10000000000000000 ≤ store.chain.counters.sweepThreshold + 1 := by
  unfold adjustThreshold
  rw [Action.bind_of_ok (rfl : (get : StoreM Store) store = .ok store store)]
  split
  · unfold grownThreshold
    simp only
    split
    · exact .inl ⟨_, (Nat.le_succ _).trans (Nat.le_max_right _ _), rfl⟩
    · rename_i tooLarge
      exact .inr ⟨rfl, Nat.le_of_not_lt tooLarge⟩
  · exact .inl ⟨store.chain.counters.sweepThreshold, le_refl _, rfl⟩

/-- A sweep is skipped, or frees cells and raises the threshold; only the threshold can stop it. -/
theorem sweep_of_freed {store swept : Store} (freeing : freeUnreachable store = .ok () swept)
    (forced : Bool) :
    forced = false ∧ sweep forced store = .ok none store ∨
      (∃ threshold report event, swept.chain.counters.sweepThreshold ≤ threshold ∧
        sweep forced store = .ok (some report) ((swept.withThreshold threshold).note event) ∧
          report.freed = store.chain.counters.usedCells - swept.chain.counters.usedCells) ∨
      sweep forced store = .error (.defect .thresholdOverflow) swept ∧
        0x10000000000000000 ≤ swept.chain.counters.sweepThreshold + 1 := by
  unfold sweep
  rw [Action.bind_of_ok (rfl : (get : StoreM Store) store = .ok store store)]
  split
  · rename_i skipped
    rw [Bool.and_eq_true, Bool.not_eq_true'] at skipped
    exact .inl ⟨skipped.1, rfl⟩
  · rw [Action.bind_of_ok freeing,
      Action.bind_of_ok (rfl : (get : StoreM Store) swept = .ok swept swept)]
    obtain ⟨threshold, raised, adjusting⟩ | ⟨failed, tooLarge⟩ := swept.adjustThreshold_cases
    · rw [Action.bind_of_ok adjusting]
      exact .inr (.inl ⟨threshold, _, _, raised, rfl, rfl⟩)
    · rw [Action.bind_of_error failed]
      exact .inr (.inr ⟨rfl, tooLarge⟩)

end Store

/-- The collector passes a quiet store by, and reports on the sweep of any other. -/
theorem Collector.poll_cases (collector : Collector) (store : Store) :
    store.sweepRequested = false ∧ collector.poll store = .ok (none, collector) store ∨
      store.sweepRequested = true ∧
        ((∃ report after, Store.sweep false { store with sweepRequested := false } =
              .ok report after ∧
            collector.poll store = .ok (report, collector.record report) after) ∨
          ∃ fault after, Store.sweep false { store with sweepRequested := false } =
              .error fault after ∧
            collector.poll store = .error fault after) := by
  unfold Collector.poll
  rw [Action.bind_of_ok (rfl : (get : StoreM Store) store = .ok store store)]
  split
  · rename_i requested
    rw [Action.bind_of_ok (rfl : (modify fun store => { store with sweepRequested := false } :
      StoreM PUnit) store = .ok ⟨⟩ { store with sweepRequested := false })]
    refine .inr ⟨requested, ?_⟩
    cases swept : Store.sweep false { store with sweepRequested := false } with
    | ok report after =>
      rw [Action.bind_of_ok swept]
      exact .inl ⟨report, after, rfl, rfl⟩
    | error fault after =>
      rw [Action.bind_of_error swept]
      exact .inr ⟨fault, after, rfl, rfl⟩
  · rename_i quiet
    exact .inl ⟨Bool.eq_false_iff.mpr quiet, rfl⟩

/-! ### Sweeping where everything can be reached -/

/-- What a look of the collector leaves as it is. -/
structure Store.Tended (before after : Store) : Prop where
  keeps : before.chain.Keeps after.chain
  heapSize : after.chain.counters.heapSize = before.chain.counters.heapSize
  raised : before.chain.counters.sweepThreshold ≤ after.chain.counters.sweepThreshold
  quiet : after.sweepRequested = false

namespace Store

variable {entries : Multiset Entry} {bindings : Bindings} {store : Store}

theorem Stands.withThreshold (stands : store.Stands entries bindings) (threshold : Nat) :
    (store.withThreshold threshold).Stands entries bindings :=
  ⟨stands.chain.withThreshold threshold, stands.idle⟩

theorem Stands.note (stands : store.Stands entries bindings) (event : Event) :
    (store.note event).Stands entries bindings := ⟨stands.chain, stands.idle⟩

theorem Stands.freeUnreachable (stands : store.Stands entries bindings)
    (reached : ∀ entry ∈ entries, Entry.Reached entries bindings entry.position) :
    Store.freeUnreachable store = .ok () store := by
  have swept := stands.chain.sweepUnmarked reached
  have idle := stands.idle
  unfold Store.freeUnreachable onChain Action.onPart
  simp only [swept]
  rw [← idle]

theorem Stands.sweep (stands : store.Stands entries bindings)
    (reached : ∀ entry ∈ entries, Entry.Reached entries bindings entry.position) :
    (∃ report after, Store.sweep false store = .ok report after ∧ after.Stands entries bindings ∧
        store.chain.Keeps after.chain ∧
        after.chain.counters.heapSize = store.chain.counters.heapSize ∧
        store.chain.counters.sweepThreshold ≤ after.chain.counters.sweepThreshold ∧
        after.sweepRequested = store.sweepRequested) ∨
      ∃ after, Store.sweep false store = .error (.defect .thresholdOverflow) after ∧
        0x10000000000000000 ≤ store.chain.counters.sweepThreshold + 1 := by
  obtain ⟨-, skipped⟩ | ⟨threshold, report, event, raised, swept, -⟩ | ⟨failed, tooLarge⟩ :=
    sweep_of_freed (stands.freeUnreachable reached) false
  · exact .inl ⟨none, store, skipped, stands, .refl store.chain, rfl, le_refl _, rfl⟩
  · exact .inl ⟨_, _, swept, (stands.withThreshold threshold).note event,
      store.keeps_withThreshold threshold, rfl, raised, rfl⟩
  · exact .inr ⟨store, failed, tooLarge⟩

/-- The collector finds nothing to free, and at most raises the threshold. Only that can fail. -/
theorem Stands.poll_cases (stands : store.Stands entries bindings)
    (reached : ∀ entry ∈ entries, Entry.Reached entries bindings entry.position)
    (collector : Collector) :
    (∃ result after, collector.poll store = .ok result after ∧ after.Stands entries bindings ∧
        store.Tended after) ∨
      ∃ after, collector.poll store = .error (.defect .thresholdOverflow) after ∧
        store.sweepRequested = true ∧
        0x10000000000000000 ≤ store.chain.counters.sweepThreshold + 1 := by
  have ready : Stands entries bindings { store with sweepRequested := false } :=
    ⟨stands.chain, stands.idle⟩
  obtain ⟨quiet, polled⟩ | ⟨requested, ⟨report, after, swept, polled⟩ |
    ⟨fault, after, swept, polled⟩⟩ := collector.poll_cases store
  · exact .inl ⟨_, store, polled, stands, .refl store.chain, rfl, le_refl _, quiet⟩
  · obtain ⟨_, _, sweeping, stood, keeps, heapSize, raised, still⟩ | ⟨_, failed, -⟩ :=
      ready.sweep reached
    · rw [swept] at sweeping
      cases sweeping
      exact .inl ⟨_, after, polled, stood, keeps, heapSize, raised, still⟩
    · rw [swept] at failed
      cases failed
  · obtain ⟨_, _, sweeping, -⟩ | ⟨_, failed, tooLarge⟩ := ready.sweep reached
    · rw [swept] at sweeping
      cases sweeping
    · rw [swept] at failed
      cases failed
      exact .inr ⟨after, polled, requested, tooLarge⟩

/-- A sweep that is only asked for once the heap has grown is not stopped by a small heap. -/
theorem Stands.poll (stands : store.Stands entries bindings)
    (reached : ∀ entry ∈ entries, Entry.Reached entries bindings entry.position)
    (calm : store.Calm) (collector : Collector) :
    (∃ result after, collector.poll store = .ok result after ∧ after.Stands entries bindings ∧
        store.Tended after) ∨
      ∃ after, collector.poll store = .error (.defect .thresholdOverflow) after ∧
        0x10000000000000000 ≤ store.chain.counters.heapSize + 1 := by
  refine (stands.poll_cases reached collector).imp_right ?_
  rintro ⟨after, failed, requested, tooLarge⟩
  exact ⟨after, failed, tooLarge.trans (Nat.succ_le_succ (calm requested))⟩

end Store

end Rewind
