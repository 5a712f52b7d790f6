/-
This file says what every operation on the cells and bindings of a chain comes to, whether it
succeeds or is refused. Each statement lists all the ways it can end, with the entries and bindings
that are there then; a refused operation leaves them as they are. Whatever is claimed of operations
that are not known to succeed is derived from these lists.
-/

import Mathlib
import Rewind.Proofs.Store.Entries

namespace Rewind

variable {entries rest : Multiset Entry} {bindings : Bindings} {entry : Entry}

/-- A position is in use, or free, or outside of the heap. -/
theorem Snapshot.Holds.cell_cases {snapshot : Snapshot} (holds : snapshot.Holds entries)
    (position : Nat) :
    (∃ entry rest, entry.position = position ∧ entries = entry ::ₘ rest ∧
        snapshot.cell? position = some entry.cell) ∨
      position ∉ entries.map Entry.position ∧
        ((position < snapshot.counters.heapSize ∧
            ∃ next, snapshot.cell? position = some ⟨position, .free next⟩) ∨
          (snapshot.counters.heapSize ≤ position ∧ snapshot.cell? position = none)) := by
  by_cases member : position ∈ entries.map Entry.position
  · obtain ⟨entry, rest, rfl, rfl⟩ := Chain.exists_entry member
    exact .inl ⟨entry, rest, rfl, rfl, holds.used entry (Multiset.mem_cons_self _ _)⟩
  · refine .inr ⟨member, ?_⟩
    by_cases inside : position < snapshot.counters.heapSize
    · exact .inl ⟨inside, (holds.whole position inside).resolve_left member⟩
    · refine .inr ⟨Nat.le_of_not_lt inside, ?_⟩
      cases found : snapshot.cell? position with
      | none => rfl
      | some cell => exact absurd (holds.inside position cell found) inside

namespace Chain

variable {chain after : Chain} {sweeping : Bool} {position : Nat}

/-- Where the snapshot's operation is refused, so is the chain's. -/
theorem Follows.error {α : Type} {action : ChainM α} {flat : SnapshotM α} {fault : StoreFault}
    {shown : Snapshot} (follows : Follows action flat) (wiped : chain.pools.Wiped)
    (failed : flat chain.snapshot = .error fault shown) :
    ∃ after, action chain = .error fault after ∧ after.snapshot = shown ∧ chain.Keeps after := by
  have shows := follows chain wiped
  rw [failed] at shows
  generalize action chain = result at shows
  cases shows with
  | error keeps => exact ⟨_, rfl, rfl, keeps⟩

/-- A reference can be counted at a cell in use. Otherwise it is refused for the reason that the
cell cannot be read. -/
theorem retain_cases (wiped : chain.pools.Wiped) (position : Nat) :
    (∃ own payload count after,
        chain.snapshot.cell? position = some ⟨own, .used payload count⟩ ∧
        retain position chain = .ok () after ∧
        after.snapshot = chain.snapshot.putCell position ⟨own, .used payload (count + 1)⟩ ∧
        chain.Keeps after) ∨
      ∃ error after, chain.cell position >>= Cell.payload = .error error ∧
        retain position chain = .error (.refused error) after ∧ after.snapshot = chain.snapshot ∧
        chain.Keeps after := by
  have counting := follows_change position Cell.increase
  rw [cell_eq_snapshot]
  rcases seen : chain.snapshot.cell? position with - | ⟨own, ⟨payload, count⟩ | next⟩
  · obtain ⟨after, ran, same, keeps⟩ := counting.error wiped (by rw [Snapshot.change, seen])
    exact .inr ⟨_, after, rfl, Action.bind_of_error ran, same, keeps⟩
  · obtain ⟨after, ran, same, keeps⟩ := counting.ok wiped (by rw [Snapshot.change, seen]; rfl)
    refine .inl ⟨own, payload, count, after, rfl, ?_, same, keeps⟩
    unfold retain
    rw [Action.bind_of_ok ran]
    rfl
  · obtain ⟨after, ran, same, keeps⟩ := counting.error wiped (by rw [Snapshot.change, seen]; rfl)
    exact .inr ⟨_, after, rfl, Action.bind_of_error ran, same, keeps⟩

theorem Holds.of_snapshot (holds : chain.Holds entries bindings) (keeps : chain.Keeps after)
    (same : after.snapshot = chain.snapshot) :
    after.Holds entries bindings ∧ chain.Moves 0 after :=
  ⟨⟨same ▸ holds.heap, same ▸ holds.stack, keeps.wiped holds.wiped⟩,
    .of_snapshot keeps same rfl rfl⟩

theorem Holds.inside (holds : chain.Holds entries bindings)
    (member : position ∈ entries.map Entry.position) : position < chain.counters.heapSize := by
  obtain ⟨entry, present, rfl⟩ := Multiset.mem_map.mp member
  exact holds.heap.inside _ _ (holds.heap.used entry present)

/-! ### Cells -/

/-- Reading succeeds exactly in cells that are in use, and changes nothing. -/
theorem Holds.read_cases (holds : chain.Holds entries bindings) (distance position : Nat) :
    (∃ entry ∈ entries, entry.position = position ∧ ∃ after,
        (do ChainM.ofExcept (← Chain.read distance position).payload) chain =
          .ok entry.payload after ∧
        after.Holds entries bindings ∧ chain.Moves 0 after) ∨
      position ∉ entries.map Entry.position ∧ ∃ fault after,
        (do ChainM.ofExcept (← Chain.read distance position).payload) chain =
          .error fault after ∧
        after.Holds entries bindings ∧ chain.Moves 0 after := by
  have reading := follows_read distance position
  obtain ⟨entry, rest, rfl, rfl, seen⟩ | ⟨absent, ⟨-, next, seen⟩ | ⟨-, seen⟩⟩ :=
    holds.heap.cell_cases position
  · obtain ⟨after, ran, same, keeps⟩ := reading.ok holds.wiped
      (show Snapshot.look entry.position chain.snapshot = .ok entry.cell chain.snapshot by
        rw [Snapshot.look, seen])
    refine .inl ⟨entry, Multiset.mem_cons_self _ _, rfl, after, ?_, holds.of_snapshot keeps same⟩
    rw [Action.bind_of_ok ran]
    rfl
  · obtain ⟨after, ran, same, keeps⟩ := reading.ok holds.wiped
      (show Snapshot.look position chain.snapshot =
          .ok ⟨position, .free next⟩ chain.snapshot by rw [Snapshot.look, seen])
    refine .inr ⟨absent, .refused (.freedCell position), after, ?_, holds.of_snapshot keeps same⟩
    rw [Action.bind_of_ok ran]
    rfl
  · obtain ⟨after, ran, same, keeps⟩ := reading.error holds.wiped
      (show Snapshot.look position chain.snapshot =
          .error (.refused (.outsideHeap position)) chain.snapshot by rw [Snapshot.look, seen])
    exact .inr ⟨absent, .refused (.outsideHeap position), after, Action.bind_of_error ran,
      holds.of_snapshot keeps same⟩

/-- A reference can be counted exactly at a cell in use. -/
theorem Holds.retain_cases (holds : chain.Holds entries bindings) (position : Nat) :
    (position ∈ entries.map Entry.position ∧ ∃ after,
        Chain.retain position chain = .ok () after ∧
        after.Holds (entries.map (Entry.bump [position])) bindings ∧ chain.Moves 0 after) ∨
      position ∉ entries.map Entry.position ∧ ∃ fault after,
        Chain.retain position chain = .error fault after ∧ after.Holds entries bindings ∧
        chain.Moves 0 after := by
  by_cases member : position ∈ entries.map Entry.position
  · obtain ⟨entry, rest, rfl, rfl⟩ := exists_entry member
    rw [map_bump_one rfl holds.heap.distinct]
    exact .inl ⟨member, holds.retain⟩
  · have refused : ∃ fault, Snapshot.change position Cell.increase chain.snapshot =
        .error fault chain.snapshot := by
      unfold Snapshot.change
      obtain ⟨entry, rest, rfl, rfl, -⟩ | ⟨-, ⟨-, next, seen⟩ | ⟨-, seen⟩⟩ :=
        holds.heap.cell_cases position
      · exact absurd (by simp) member
      · rw [seen]
        exact ⟨_, rfl⟩
      · rw [seen]
        exact ⟨_, rfl⟩
    obtain ⟨fault, failed⟩ := refused
    obtain ⟨after, ran, same, keeps⟩ :=
      (follows_change position Cell.increase).error holds.wiped failed
    refine .inr ⟨member, fault, after, ?_, holds.of_snapshot keeps same⟩
    unfold Chain.retain
    rw [Action.bind_of_error ran]

/-- What taking one reference away comes to. -/
inductive Releases (sweeping : Bool) (position : Nat) (entries : Multiset Entry)
    (bindings : Bindings) (chain : Chain) : EStateM.Result StoreFault Chain (Option Payload) → Prop
  | lowered {entry : Entry} {rest : Multiset Entry} {count : Nat} {after : Chain}
    (here : entry.position = position) (split : entries = entry ::ₘ rest)
    (counted : entry.count = count + 2)
    (holds : after.Holds ({ entry with count := count + 1 } ::ₘ rest) bindings)
    (moves : chain.Moves 0 after) : Releases sweeping position entries bindings
      chain (.ok none after)
  | freed {entry : Entry} {rest : Multiset Entry} {after : Chain}
    (here : entry.position = position) (split : entries = entry ::ₘ rest)
    (counted : entry.count = 1) (holds : after.Holds rest bindings)
    (moves : chain.Moves 0 after) :
    Releases sweeping position entries bindings chain (.ok (some entry.payload) after)
  | skipped (isSweeping : sweeping = true) (absent : position ∉ entries.map Entry.position)
    (inside : position < chain.counters.heapSize) :
    Releases sweeping position entries bindings chain (.ok none chain)
  | failed {fault : StoreFault} {after : Chain}
    (refused : position ∈ entries.map Entry.position ∧
        (∀ entry ∈ entries, entry.position = position → entry.count = 0) ∨
      position ∉ entries.map Entry.position ∧
        (sweeping = true → chain.counters.heapSize ≤ position))
    (holds : after.Holds entries bindings) (moves : chain.Moves 0 after) :
    Releases sweeping position entries bindings chain (.error fault after)

theorem peek_of_seen {cell : Cell} (seen : chain.snapshot.cell? position = some cell) :
    peek position chain = .ok cell chain := by
  change ChainM.ofExcept (chain.cell position) chain = _
  rw [cell_eq_snapshot, seen]
  rfl

theorem Holds.drop_refused (holds : chain.Holds entries bindings) (sweeping : Bool)
    (refused : ∃ error, Snapshot.change position Cell.decrease chain.snapshot =
      .error error chain.snapshot) :
    ∃ fault after, Chain.drop sweeping position chain = .error fault after ∧
      after.Holds entries bindings ∧ chain.Moves 0 after := by
  obtain ⟨fault, failed⟩ := refused
  obtain ⟨after, ran, same, keeps⟩ :=
    (follows_change position Cell.decrease).error holds.wiped failed
  refine ⟨fault, after, ?_, holds.of_snapshot keeps same⟩
  unfold Chain.drop
  rw [Action.bind_of_error ran]

theorem Holds.releaseOne (holds : chain.Holds entries bindings) (sweeping : Bool) (position : Nat) :
    chain.Releases sweeping position entries bindings
      (Chain.releaseOne sweeping position chain) := by
  obtain ⟨entry, rest, rfl, rfl, seen⟩ | ⟨absent, place⟩ := holds.heap.cell_cases position
  · rcases counted : entry.count with _ | _ | count
    · have refused : ∃ error, Snapshot.change entry.position Cell.decrease chain.snapshot =
          .error error chain.snapshot := by
        unfold Snapshot.change
        rw [seen]
        simp only [Cell.decrease, Entry.cell, counted]
        exact ⟨_, rfl⟩
      rw [holds.releaseOne_eq_drop]
      obtain ⟨fault, after, ran, held, moves⟩ := holds.drop_refused sweeping refused
      rw [ran]
      refine .failed (.inl ⟨by simp, fun other member same => ?_⟩) held moves
      rw [holds.heap.unique member (Multiset.mem_cons_self _ _) same, counted]
    · obtain ⟨after, ran, held, moves⟩ := holds.dropLast sweeping counted
      rw [ran]
      exact .freed rfl rfl counted held moves
    · obtain ⟨after, ran, held, moves⟩ := holds.drop sweeping counted
      rw [ran]
      exact .lowered rfl rfl counted held moves
  · unfold Chain.releaseOne
    cases sweeping with
    | false =>
      have refused : ∃ error, Snapshot.change position Cell.decrease chain.snapshot =
          .error error chain.snapshot := by
        unfold Snapshot.change
        obtain ⟨-, next, seen⟩ | ⟨-, seen⟩ := place
        · rw [seen]
          exact ⟨_, rfl⟩
        · rw [seen]
          exact ⟨_, rfl⟩
      obtain ⟨fault, after, ran, held, moves⟩ := holds.drop_refused false refused
      rw [if_neg Bool.false_ne_true, ran]
      exact .failed (.inr ⟨absent, fun sweeps => absurd sweeps Bool.false_ne_true⟩) held moves
    | true =>
      rw [if_pos rfl]
      obtain ⟨inside, next, seen⟩ | ⟨outside, seen⟩ := place
      · rw [Action.bind_of_ok (peek_of_seen seen)]
        exact .skipped rfl absent inside
      · have looking : peek position chain = .error (.refused (.outsideHeap position)) chain := by
          change ChainM.ofExcept (chain.cell position) chain = _
          rw [cell_eq_snapshot, seen]
          rfl
        rw [Action.bind_of_error looking]
        exact .failed (.inr ⟨absent, fun _ => outside⟩) holds (.refl chain)

/-- What freeing a cell comes to. -/
inductive Frees (sweeping : Bool) (position : Nat) (entries : Multiset Entry)
    (bindings : Bindings) (chain : Chain) : EStateM.Result StoreFault Chain (Option Payload) → Prop
  | freed {entry : Entry} {rest : Multiset Entry} {after : Chain}
    (here : entry.position = position) (split : entries = entry ::ₘ rest)
    (allowed : entry.count = 0 ∨ sweeping = true) (holds : after.Holds rest bindings)
    (moves : chain.Moves 0 after) :
    Frees sweeping position entries bindings chain (.ok (some entry.payload) after)
  | skipped (isSweeping : sweeping = true) (absent : position ∉ entries.map Entry.position) :
    Frees sweeping position entries bindings chain (.ok none chain)
  | failed {fault : StoreFault} {after : Chain}
    (refused : ∀ entry ∈ entries, entry.position = position → 0 < entry.count)
    (holds : after.Holds entries bindings) (moves : chain.Moves 0 after) :
    Frees sweeping position entries bindings chain (.error fault after)

theorem Holds.free (holds : chain.Holds entries bindings) (sweeping : Bool) (position : Nat) :
    chain.Frees sweeping position entries bindings (Chain.free sweeping position chain) := by
  have freeing := follows_free sweeping position
  have refused (fault : StoreFault) (referenced : ∀ entry ∈ entries,
      entry.position = position → 0 < entry.count)
      (failed : Snapshot.free sweeping position chain.snapshot = .error fault chain.snapshot) :
      chain.Frees sweeping position entries bindings (Chain.free sweeping position chain) := by
    obtain ⟨after, ran, same, keeps⟩ := freeing.error holds.wiped failed
    obtain ⟨held, moves⟩ := holds.of_snapshot keeps same
    rw [ran]
    exact .failed referenced held moves
  obtain ⟨entry, rest, rfl, rfl, seen⟩ | ⟨absent, place⟩ := holds.heap.cell_cases position
  · by_cases allowed : entry.count = 0 ∨ sweeping = true
    · obtain ⟨shown, flat, heldRest, stack, threshold, heapSize⟩ := holds.heap.free allowed
      obtain ⟨after, ran, same, keeps⟩ := freeing.ok holds.wiped flat
      rw [ran]
      refine .freed rfl rfl allowed ⟨same ▸ heldRest, ?_, keeps.wiped holds.wiped⟩
        (.of_snapshot keeps same threshold heapSize)
      rw [same]
      exact stack.binds holds.stack
    · rw [not_or, Bool.not_eq_true] at allowed
      refine refused (.refused (.stillReferenced entry.position entry.count))
        (fun other member same => ?_) ?_
      · rw [holds.heap.unique member (Multiset.mem_cons_self _ _) same]
        exact Nat.pos_of_ne_zero allowed.1
      · unfold Snapshot.free
        rw [seen]
        exact if_pos ⟨Nat.pos_of_ne_zero allowed.1, allowed.2⟩
  · have unreferenced : ∀ entry ∈ entries, entry.position = position → 0 < entry.count :=
      fun entry member same => absurd (same ▸ Multiset.mem_map_of_mem _ member) absent
    obtain ⟨inside, next, seen⟩ | ⟨outside, seen⟩ := place
    · cases sweeping with
      | false =>
        refine refused (.refused (.doubleFree position)) unreferenced ?_
        unfold Snapshot.free
        rw [seen]
        rfl
      | true =>
        have skips : Chain.free true position chain = .ok none chain := by
          unfold Chain.free
          rw [Action.bind_of_ok (peek_of_seen seen)]
          rfl
        rw [skips]
        exact .skipped rfl absent
    · refine refused (.refused (.outsideHeap position)) unreferenced ?_
      unfold Snapshot.free
      rw [seen]

/-- A payload can be overwritten exactly in a cell in use. -/
theorem Holds.overwrite_cases (holds : chain.Holds entries bindings) (position : Nat)
    (payload : Payload) :
    (∃ entry rest, entry.position = position ∧ entries = entry ::ₘ rest ∧ ∃ after,
        (do
          let _ ← Chain.own position
          Chain.overwrite position payload) chain = .ok entry.payload after ∧
        after.Holds ({ entry with payload := payload } ::ₘ rest) bindings ∧
        chain.Moves 0 after) ∨
      position ∉ entries.map Entry.position ∧ ∃ fault after,
        (do
          let _ ← Chain.own position
          Chain.overwrite position payload) chain = .error fault after ∧
        after.Holds entries bindings ∧ chain.Moves 0 after := by
  have writing := follows_overwrite position payload
  have refused (absent : position ∉ entries.map Entry.position)
      (failed : ∃ fault, Snapshot.overwrite position payload chain.snapshot =
        .error fault chain.snapshot) :
      ∃ fault after, (do
          let _ ← Chain.own position
          Chain.overwrite position payload) chain = .error fault after ∧
        after.Holds entries bindings ∧ chain.Moves 0 after := by
    obtain ⟨fault, flat⟩ := failed
    obtain ⟨after, ran, same, keeps⟩ := writing.error holds.wiped flat
    exact ⟨fault, after, ran, holds.of_snapshot keeps same⟩
  obtain ⟨entry, rest, rfl, rfl, seen⟩ | ⟨absent, ⟨-, next, seen⟩ | ⟨-, seen⟩⟩ :=
    holds.heap.cell_cases position
  · have flat : Snapshot.overwrite entry.position payload chain.snapshot =
        .ok entry.payload (chain.snapshot.putCell entry.position
          ⟨entry.position, .used payload entry.count⟩) := by
      unfold Snapshot.overwrite
      rw [seen]
      rfl
    obtain ⟨after, ran, same, keeps⟩ := writing.ok holds.wiped flat
    refine .inl ⟨entry, rest, rfl, rfl, after, ran, ⟨?_, ?_, keeps.wiped holds.wiped⟩,
      .of_snapshot keeps same rfl rfl⟩
    · rw [same]
      exact holds.heap.change payload entry.count
    · rw [same]
      exact (Snapshot.sameStack_putCell ..).binds holds.stack
  · refine .inr ⟨absent, refused absent ⟨.refused (.freedCell position), ?_⟩⟩
    unfold Snapshot.overwrite
    rw [seen]
  · refine .inr ⟨absent, refused absent ⟨.refused (.outsideHeap position), ?_⟩⟩
    unfold Snapshot.overwrite
    rw [seen]

/-- There is always room for another payload. -/
theorem Holds.alloc (holds : chain.Holds entries bindings) (payload : Payload) :
    ∃ position grown after, Chain.alloc payload chain = .ok (position, grown) after ∧
      after.Holds (⟨position, payload, 0⟩ ::ₘ entries) bindings ∧ chain.Moves 1 after ∧
      (grown = true → after.counters.sweepThreshold ≤ after.counters.heapSize) := by
  obtain ⟨position, grown, shown, flat, allocates⟩ := holds.heap.alloc payload
  obtain ⟨after, ran, same, keeps⟩ := (follows_alloc payload).ok holds.wiped flat
  subst same
  exact ⟨position, grown, after, ran,
    ⟨allocates.holds, allocates.stack.binds holds.stack, keeps.wiped holds.wiped⟩,
    ⟨keeps, allocates.threshold, allocates.larger, allocates.bounded⟩, allocates.request⟩

/-- The threshold says nothing about what is stored. -/
theorem Holds.withThreshold (holds : chain.Holds entries bindings) (threshold : Nat) :
    (chain.mapCounters fun counters =>
      { counters with sweepThreshold := threshold }).Holds entries bindings := by
  have heap := holds.heap
  refine ⟨?_, ?_, holds.wiped⟩
  · rw [snapshot_mapCounters rfl rfl]
    exact ⟨heap.distinct, heap.used, heap.inside, heap.whole, heap.counted, heap.threaded⟩
  · rw [snapshot_mapCounters rfl rfl]
    obtain ⟨levels, leveled, flat⟩ := holds.stack
    exact ⟨levels, ⟨leveled.count, leveled.level, leveled.distinct⟩, flat⟩

/-! ### Bindings -/

theorem Holds.of_sameHeap {shown : Snapshot} {bound : Bindings}
    (holds : chain.Holds entries bindings) (keeps : chain.Keeps after)
    (same : after.snapshot = shown) (heap : chain.snapshot.SameHeap shown)
    (stack : shown.Binds bound) : after.Holds entries bound ∧ chain.Moves 0 after := by
  subst same
  exact ⟨⟨heap.holds holds.heap, stack, keeps.wiped holds.wiped⟩,
    .of_snapshot keeps rfl heap.sweepThreshold heap.heapSize⟩

/-- Every name can be bound. -/
theorem Holds.push (holds : chain.Holds entries bindings) (name : String) (value : Value) :
    ∃ after, Chain.push name value chain = .ok () after ∧
      after.Holds entries (bindings ++ [(name, value)]) ∧ chain.Moves 0 after := by
  obtain ⟨shown, flat, stack, heap⟩ := holds.stack.push name value
  obtain ⟨after, ran, same, keeps⟩ := (follows_push name value).ok holds.wiped flat
  exact ⟨after, ran, holds.of_sameHeap keeps same heap stack⟩

/-- Only a name that is not bound cannot be removed. -/
theorem Holds.remove_cases (holds : chain.Holds entries bindings) (name : String) :
    (∃ front value back after, bindings = front ++ (name, value) :: back ∧
        name ∉ back.map Prod.fst ∧ Chain.remove name chain = .ok value after ∧
        after.Holds entries (front ++ back) ∧ chain.Moves 0 after) ∨
      name ∉ bindings.map Prod.fst ∧ ∃ after,
        Chain.remove name chain = .error (.refused (.unboundName name)) after ∧
        after.Holds entries bindings ∧ chain.Moves 0 after := by
  have removing := follows_remove name
  obtain ⟨unbound, flat⟩ | ⟨front, value, back, shown, split, last, flat, stack, heap⟩ :=
    holds.stack.remove_cases name
  · obtain ⟨after, ran, same, keeps⟩ := removing.error holds.wiped flat
    exact .inr ⟨unbound, after, ran, holds.of_snapshot keeps same⟩
  · obtain ⟨after, ran, same, keeps⟩ := removing.ok holds.wiped flat
    exact .inl ⟨front, value, back, after, split, last, ran,
      holds.of_sameHeap keeps same heap stack⟩

/-- Only a name that is not bound cannot be given another value. -/
theorem Holds.replace_cases (holds : chain.Holds entries bindings) (name : String) (value : Value) :
    (∃ front old back after, bindings = front ++ (name, old) :: back ∧
        name ∉ back.map Prod.fst ∧ Chain.replace name value chain = .ok old after ∧
        after.Holds entries (front ++ (name, value) :: back) ∧ chain.Moves 0 after) ∨
      name ∉ bindings.map Prod.fst ∧ ∃ after,
        Chain.replace name value chain = .error (.refused (.unboundName name)) after ∧
        after.Holds entries bindings ∧ chain.Moves 0 after := by
  have replacing := follows_replace name value
  obtain ⟨unbound, flat⟩ | ⟨front, old, back, shown, split, last, flat, stack, heap⟩ :=
    holds.stack.replace_cases name value
  · obtain ⟨after, ran, same, keeps⟩ := replacing.error holds.wiped flat
    exact .inr ⟨unbound, after, ran, holds.of_snapshot keeps same⟩
  · obtain ⟨after, ran, same, keeps⟩ := replacing.ok holds.wiped flat
    exact .inl ⟨front, old, back, after, split, last, ran,
      holds.of_sameHeap keeps same heap stack⟩

end Chain

end Rewind
