/-
This file describes the heap by the cells that are in use. An entry says what is stored at a
position and how often it is referred to; a heap holds some entries if exactly their positions are
in use, and all others are threaded on the free list. Each operation then adds, changes or takes
away one entry.
-/

import Mathlib
import Rewind.Proofs.Store.Bindings
import Rewind.Proofs.Store.Operations

namespace Rewind

/-- A cell in use. -/
structure Entry where
  position : Nat
  payload : Payload
  count : Nat

/-- The cell of an entry. -/
def Entry.cell (entry : Entry) : Cell := ⟨entry.position, .used entry.payload entry.count⟩

/-- Cells that are free, each linked to the next. -/
def Snapshot.Threads (cell? : Nat → Option Cell) : Option Nat → List Nat → Prop
  | head, [] => head = none
  | head, position :: rest => head = some position ∧
      ∃ next, cell? position = some ⟨position, .free next⟩ ∧ Threads cell? next rest

/-- A heap holds exactly some entries. -/
structure Snapshot.Holds (entries : Multiset Entry) (snapshot : Snapshot) : Prop where
  distinct : (entries.map Entry.position).Nodup
  used : ∀ entry ∈ entries, snapshot.cell? entry.position = some entry.cell
  inside : ∀ position cell, snapshot.cell? position = some cell →
    position < snapshot.counters.heapSize
  whole : ∀ position < snapshot.counters.heapSize, position ∈ entries.map Entry.position ∨
    ∃ next, snapshot.cell? position = some ⟨position, .free next⟩
  counted : snapshot.counters.usedCells = entries.card
  threaded : ∃ free : List Nat, free.Nodup ∧
    Threads snapshot.cell? snapshot.counters.freeHead free

namespace Snapshot

variable {entries rest : Multiset Entry} {snapshot after : Snapshot} {entry : Entry}

theorem SameHeap.holds (same : snapshot.SameHeap after) (holds : snapshot.Holds entries) :
    after.Holds entries where
  distinct := holds.distinct
  used := same.cell? ▸ holds.used
  inside := by rw [same.cell?, same.heapSize]; exact holds.inside
  whole := by rw [same.cell?, same.heapSize]; exact holds.whole
  counted := same.usedCells.trans holds.counted
  threaded := by rw [same.cell?, same.freeHead]; exact holds.threaded

/-! ### Free cells -/

theorem free_of_threads {cell? : Nat → Option Cell} {head : Option Nat} {free : List Nat}
    (threads : Threads cell? head free) {position : Nat} (member : position ∈ free) :
    ∃ next, cell? position = some ⟨position, .free next⟩ := by
  induction free generalizing head with
  | nil => cases member
  | cons first free inductionHypothesis =>
    obtain ⟨-, next, found, below⟩ := threads
    obtain same | deeper := List.mem_cons.mp member
    · exact same ▸ ⟨next, found⟩
    · exact inductionHypothesis below deeper

/-- Changing a cell that is not threaded does not cut the thread. -/
theorem Threads.update {cell? : Nat → Option Cell} {head : Option Nat} {free : List Nat}
    (threads : Threads cell? head free) {position : Nat} (apart : position ∉ free)
    (cell : Option Cell) : Threads (Function.update cell? position cell) head free := by
  induction free generalizing head with
  | nil => exact threads
  | cons first free inductionHypothesis =>
    obtain ⟨isHead, next, found, below⟩ := threads
    rw [List.mem_cons, not_or] at apart
    refine ⟨isHead, next, ?_, inductionHypothesis below apart.2⟩
    rw [Function.update_apply, if_neg (Ne.symm apart.1), found]

theorem sameStack_putCell (snapshot : Snapshot) (position : Nat) (cell : Cell) :
    snapshot.SameStack (snapshot.putCell position cell) := ⟨rfl, rfl⟩

theorem Holds.apart (holds : snapshot.Holds entries) (member : entry ∈ entries)
    {head : Option Nat} {free : List Nat} (threads : Threads snapshot.cell? head free) :
    entry.position ∉ free := by
  intro present
  obtain ⟨next, found⟩ := free_of_threads threads present
  rw [holds.used entry member] at found
  cases found

/-- There is one entry at a position. -/
theorem Holds.unique (holds : snapshot.Holds entries) {other : Entry} (member : entry ∈ entries)
    (otherMember : other ∈ entries) (same : entry.position = other.position) : entry = other := by
  have found := holds.used entry member
  rw [same, holds.used other otherMember] at found
  obtain ⟨position, payload, count⟩ := entry
  obtain ⟨otherPosition, otherPayload, otherCount⟩ := other
  simp only [Entry.cell, Option.some.injEq, Cell.mk.injEq, Slot.used.injEq] at found
  simp only [Entry.mk.injEq]
  exact ⟨found.1.symm, found.2.1.symm, found.2.2.symm⟩

theorem Holds.rest_apart (holds : snapshot.Holds (entry ::ₘ rest)) {other : Entry}
    (member : other ∈ rest) : other.position ≠ entry.position := by
  have distinct := holds.distinct
  rw [Multiset.map_cons, Multiset.nodup_cons] at distinct
  intro same
  exact distinct.1 (same ▸ Multiset.mem_map_of_mem _ member)

/-! ### Changing, adding and removing entries -/

theorem Holds.change (holds : snapshot.Holds (entry ::ₘ rest)) (payload : Payload) (count : Nat) :
    (snapshot.putCell entry.position ⟨entry.position, .used payload count⟩).Holds
      (⟨entry.position, payload, count⟩ ::ₘ rest) where
  distinct := by
    have distinct := holds.distinct
    rwa [Multiset.map_cons] at distinct ⊢
  used other member := by
    simp only [putCell, Function.update_apply]
    obtain same | below := Multiset.mem_cons.mp member
    · subst same
      rw [if_pos rfl]
      rfl
    · rw [if_neg (holds.rest_apart below), holds.used other (Multiset.mem_cons_of_mem below)]
  inside position cell found := by
    simp only [putCell, Function.update_apply] at found
    split at found
    · rename_i same
      rw [same]
      exact holds.inside _ _ (holds.used entry (Multiset.mem_cons_self _ _))
    · exact holds.inside position cell found
  whole position inside := by
    simp only [putCell, Function.update_apply]
    have cases := holds.whole position inside
    rw [Multiset.map_cons] at cases ⊢
    refine cases.imp id fun free => ?_
    obtain ⟨next, found⟩ := free
    refine ⟨next, ?_⟩
    split
    · rename_i same
      rw [same, holds.used entry (Multiset.mem_cons_self _ _)] at found
      cases found
    · exact found
  counted := by
    have counted := holds.counted
    rwa [Multiset.card_cons] at counted ⊢
  threaded := by
    obtain ⟨free, distinct, threads⟩ := holds.threaded
    exact ⟨free, distinct, threads.update (holds.apart (Multiset.mem_cons_self _ _) threads) _⟩

/-- Growing the heap adds an entry behind all others. -/
theorem Holds.grow (holds : snapshot.Holds entries) (payload : Payload) :
    (snapshot.grow payload).Holds (⟨snapshot.counters.heapSize, payload, 0⟩ ::ₘ entries) := by
  have fresh : ∀ cell, snapshot.cell? snapshot.counters.heapSize ≠ some cell := fun cell found =>
    Nat.lt_irrefl _ (holds.inside _ cell found)
  have apart : ∀ other ∈ entries, other.position ≠ snapshot.counters.heapSize := by
    intro other member same
    exact fresh other.cell (same ▸ holds.used other member)
  have cell? (position : Nat) : (snapshot.grow payload).cell? position =
      if position = snapshot.counters.heapSize then
        some ⟨snapshot.counters.heapSize, .used payload 0⟩
      else snapshot.cell? position := Function.update_apply ..
  refine ⟨?_, fun other member => ?_, fun position cell found => ?_,
    fun position inside => ?_, ?_, ?_⟩
  · rw [Multiset.map_cons, Multiset.nodup_cons]
    refine ⟨fun present => ?_, holds.distinct⟩
    obtain ⟨other, member, same⟩ := Multiset.mem_map.mp present
    exact apart other member same
  · rw [cell?]
    obtain same | below := Multiset.mem_cons.mp member
    · subst same
      rw [if_pos rfl]
      rfl
    · rw [if_neg (apart other below), holds.used other below]
  · change position < snapshot.counters.heapSize + 1
    rw [cell?] at found
    split at found
    · omega
    · exact Nat.lt_succ_of_lt (holds.inside position cell found)
  · rw [cell?, Multiset.map_cons, Multiset.mem_cons]
    have bounded : position < snapshot.counters.heapSize + 1 := inside
    by_cases last : position = snapshot.counters.heapSize
    · exact .inl (.inl last)
    · rw [if_neg last]
      exact (holds.whole position (by omega)).imp .inr id
  · change snapshot.counters.usedCells + 1 = _
    rw [holds.counted, Multiset.card_cons]
  · obtain ⟨free, distinct, threads⟩ := holds.threaded
    refine ⟨free, distinct, threads.update (fun present => ?_) _⟩
    obtain ⟨next, found⟩ := free_of_threads threads present
    exact fresh _ found

/-- What storing a payload does. -/
structure Allocates (payload : Payload) (entries : Multiset Entry) (before : Snapshot)
    (position : Nat) (grown : Bool) (after : Snapshot) : Prop where
  holds : after.Holds (⟨position, payload, 0⟩ ::ₘ entries)
  stack : before.SameStack after
  threshold : after.counters.sweepThreshold = before.counters.sweepThreshold
  larger : before.counters.heapSize ≤ after.counters.heapSize
  bounded : after.counters.heapSize ≤ before.counters.heapSize + 1
  request : grown = true → after.counters.sweepThreshold ≤ after.counters.heapSize

theorem Holds.alloc (holds : snapshot.Holds entries) (payload : Payload) :
    ∃ position grown after, Snapshot.alloc payload snapshot = .ok (position, grown) after ∧
      Allocates payload entries snapshot position grown after := by
  unfold Snapshot.alloc
  obtain ⟨free, distinct, threads⟩ := holds.threaded
  cases free with
  | nil =>
    have none : snapshot.counters.freeHead = none := threads
    rw [none]
    refine ⟨_, _, _, rfl, holds.grow payload, ⟨rfl, rfl⟩, rfl, Nat.le_succ _, Nat.le_refl _,
      fun grown => ?_⟩
    exact of_decide_eq_true grown
  | cons position free =>
    obtain ⟨isHead, next, found, below⟩ := threads
    obtain ⟨apart, distinctRest⟩ := List.nodup_cons.mp distinct
    rw [isHead]
    simp only [found]
    refine ⟨_, _, _, rfl, ?_, ⟨rfl, rfl⟩, rfl, Nat.le_refl _, Nat.le_succ _,
      fun grown => nomatch grown⟩
    have unused : ∀ other ∈ entries, other.position ≠ position := by
      intro other member same
      have used := holds.used other member
      rw [same, found] at used
      cases used
    have cell? (other : Nat) : (mapCounters (fun counters =>
        { counters with freeHead := next, usedCells := counters.usedCells + 1 })
        (snapshot.putCell position ⟨position, .used payload 0⟩)).cell? other =
        if other = position then some ⟨position, .used payload 0⟩ else snapshot.cell? other :=
      Function.update_apply ..
    refine ⟨?_, fun other member => ?_, fun other cell present => ?_,
      fun other inside => ?_, ?_, ?_⟩
    · rw [Multiset.map_cons, Multiset.nodup_cons]
      refine ⟨fun present => ?_, holds.distinct⟩
      obtain ⟨other, member, same⟩ := Multiset.mem_map.mp present
      exact unused other member same
    · rw [cell?]
      obtain same | below := Multiset.mem_cons.mp member
      · subst same
        rw [if_pos rfl]
        rfl
      · rw [if_neg (unused other below), holds.used other below]
    · rw [cell?] at present
      split at present
      · rename_i same
        rw [same]
        exact holds.inside _ _ found
      · exact holds.inside other cell present
    · rw [cell?, Multiset.map_cons, Multiset.mem_cons]
      by_cases same : other = position
      · exact .inl (.inl same)
      · rw [if_neg same]
        exact (holds.whole other inside).imp .inr id
    · change snapshot.counters.usedCells + 1 = _
      rw [holds.counted, Multiset.card_cons]
    · exact ⟨free, distinctRest, below.update apart _⟩

/-- Freeing a cell that nothing refers to, or any cell during a sweep. -/
theorem Holds.free {sweeping : Bool} (holds : snapshot.Holds (entry ::ₘ rest))
    (allowed : entry.count = 0 ∨ sweeping = true) :
    ∃ after, Snapshot.free sweeping entry.position snapshot = .ok (some entry.payload) after ∧
      after.Holds rest ∧ snapshot.SameStack after ∧
      after.counters.sweepThreshold = snapshot.counters.sweepThreshold ∧
      after.counters.heapSize = snapshot.counters.heapSize := by
  have used := holds.used entry (Multiset.mem_cons_self _ _)
  have counted := holds.counted
  rw [Multiset.card_cons] at counted
  have idle : ¬ (0 < entry.count ∧ sweeping = false) := by
    rintro ⟨referenced, notSweeping⟩
    obtain none | isSweeping := allowed
    · exact absurd none (Nat.ne_of_gt referenced)
    · exact absurd (isSweeping.symm.trans notSweeping) Bool.true_eq_false_eq_False
  unfold Snapshot.free
  rw [used]
  dsimp only [Entry.cell]
  rw [if_neg idle, counted]
  refine ⟨_, rfl, ?_, ⟨rfl, rfl⟩, rfl, rfl⟩
  obtain ⟨free, distinct, threads⟩ := holds.threaded
  have apart := holds.apart (Multiset.mem_cons_self _ _) threads
  have distinctAll := holds.distinct
  rw [Multiset.map_cons, Multiset.nodup_cons] at distinctAll
  have cell? (other : Nat) : (mapCounters (fun counters =>
      { counters with freeHead := some entry.position, usedCells := rest.card })
      (snapshot.putCell entry.position
        ⟨entry.position, .free snapshot.counters.freeHead⟩)).cell? other =
      if other = entry.position then some ⟨entry.position, .free snapshot.counters.freeHead⟩
      else snapshot.cell? other := Function.update_apply ..
  refine ⟨distinctAll.2, fun other member => ?_, fun other cell present => ?_,
    fun other inside => ?_, rfl, ?_⟩
  · rw [cell?, if_neg (holds.rest_apart member), holds.used other (Multiset.mem_cons_of_mem member)]
  · rw [cell?] at present
    split at present
    · rename_i same
      rw [same]
      exact holds.inside _ _ used
    · exact holds.inside other cell present
  · rw [cell?]
    by_cases same : other = entry.position
    · rw [if_pos same]
      exact .inr ⟨_, by rw [same]⟩
    · rw [if_neg same]
      have cases := holds.whole other inside
      rw [Multiset.map_cons, Multiset.mem_cons] at cases
      exact cases.imp (fun member => member.resolve_left same) id
  · refine ⟨entry.position :: free, List.nodup_cons.mpr ⟨apart, distinct⟩, rfl,
      snapshot.counters.freeHead, ?_, threads.update apart _⟩
    rw [cell?, if_pos rfl]

end Snapshot

/-- Nothing is seen in an empty store. -/
theorem Generation.holds_oldest (id threshold : Nat) :
    ((Generation.oldest id threshold).over []).Holds 0 ∧
      ((Generation.oldest id threshold).over []).Binds [] := by
  refine ⟨⟨Multiset.nodup_zero, ?_, ?_, ?_, rfl, [], List.nodup_nil, rfl⟩,
    [], ⟨rfl, fun _ => rfl, ?_⟩, rfl⟩
  · exact fun entry member => absurd member (Multiset.notMem_zero entry)
  · exact fun position cell found => nomatch found
  · exact fun position inside => absurd inside (Nat.not_lt_zero position)
  · exact fun level member => nomatch member

/-! ### Chains -/

/-- A chain holds some entries and has some bindings. -/
structure Chain.Holds (entries : Multiset Entry) (bindings : Bindings) (chain : Chain) : Prop where
  heap : chain.snapshot.Holds entries
  stack : chain.snapshot.Binds bindings
  wiped : chain.pools.Wiped

/-- What the operations of a run leave as it is, and by how much the heap may grow. -/
structure Chain.Moves (growth : Nat) (before after : Chain) : Prop where
  keeps : before.Keeps after
  threshold : after.counters.sweepThreshold = before.counters.sweepThreshold
  larger : before.counters.heapSize ≤ after.counters.heapSize
  bounded : after.counters.heapSize ≤ before.counters.heapSize + growth

/-- Counts references of some positions. -/
def Entry.bump (positions : List Nat) (entry : Entry) : Entry :=
  { entry with count := entry.count + positions.count entry.position }

namespace Chain

variable {entries rest : Multiset Entry} {bindings : Bindings} {chain after : Chain} {entry : Entry}

theorem Moves.refl (chain : Chain) : chain.Moves 0 chain :=
  ⟨.refl chain, rfl, Nat.le_refl _, Nat.le_refl _⟩

theorem Moves.trans {first second third : Chain} {growth more : Nat}
    (left : first.Moves growth second) (right : second.Moves more third) :
    first.Moves (growth + more) third where
  keeps := left.keeps.trans right.keeps
  threshold := right.threshold.trans left.threshold
  larger := left.larger.trans right.larger
  bounded := by
    have := left.bounded
    have := right.bounded
    omega

theorem Moves.of_snapshot {shown : Snapshot} (keeps : chain.Keeps after)
    (same : after.snapshot = shown)
    (threshold : shown.counters.sweepThreshold = chain.snapshot.counters.sweepThreshold)
    (heapSize : shown.counters.heapSize = chain.snapshot.counters.heapSize) :
    chain.Moves 0 after := by
  subst same
  exact ⟨keeps, threshold, heapSize.symm.le, heapSize.le⟩

theorem Holds.change (holds : chain.Holds (entry ::ₘ rest) bindings)
    {edit : Cell → Except StoreError Cell} {count : Nat}
    (edited : edit entry.cell = .ok ⟨entry.position, .used entry.payload count⟩) :
    ∃ after, Chain.change entry.position edit chain =
        .ok ⟨entry.position, .used entry.payload count⟩ after ∧
      after.Holds ({ entry with count := count } ::ₘ rest) bindings ∧ chain.Moves 0 after := by
  have found := holds.heap.used entry (Multiset.mem_cons_self _ _)
  have flat : Snapshot.change entry.position edit chain.snapshot =
      .ok ⟨entry.position, .used entry.payload count⟩
        (chain.snapshot.putCell entry.position ⟨entry.position, .used entry.payload count⟩) := by
    unfold Snapshot.change
    rw [found]
    simp only [edited]
  obtain ⟨after, ran, same, keeps⟩ := (follows_change entry.position edit).ok holds.wiped flat
  refine ⟨after, ran, ⟨?_, ?_, keeps.wiped holds.wiped⟩, .of_snapshot keeps same rfl rfl⟩
  · rw [same]
    exact holds.heap.change entry.payload count
  · rw [same]
    exact (Snapshot.sameStack_putCell ..).binds holds.stack

theorem Holds.retain (holds : chain.Holds (entry ::ₘ rest) bindings) :
    ∃ after, Chain.retain entry.position chain = .ok () after ∧
      after.Holds ({ entry with count := entry.count + 1 } ::ₘ rest) bindings ∧
      chain.Moves 0 after := by
  have edited : Cell.increase entry.cell =
      .ok ⟨entry.position, .used entry.payload (entry.count + 1)⟩ := rfl
  obtain ⟨after, ran, held, moves⟩ := holds.change edited
  refine ⟨after, ?_, held, moves⟩
  unfold Chain.retain
  rw [Action.bind_of_ok ran]
  rfl

/-! ### Counting many references -/

theorem map_bump_nil (entries : Multiset Entry) : entries.map (Entry.bump []) = entries := by
  have same : Entry.bump [] = id := funext fun entry => rfl
  rw [same, Multiset.map_id]

/-- The reference of a position is counted at its entry only. -/
theorem map_bump_cons (distinct : ((entry ::ₘ rest).map Entry.position).Nodup)
    (positions : List Nat) :
    (entry ::ₘ rest).map (Entry.bump (entry.position :: positions)) =
      ({ entry with count := entry.count + 1 } ::ₘ rest).map (Entry.bump positions) := by
  rw [Multiset.map_cons, Multiset.nodup_cons] at distinct
  rw [Multiset.map_cons, Multiset.map_cons]
  refine congrArg₂ Multiset.cons ?_ (Multiset.map_congr rfl fun other member => ?_)
  · simp only [Entry.bump, List.count_cons_self, Entry.mk.injEq, true_and]
    omega
  · have different : other.position ≠ entry.position := fun same =>
      distinct.1 (same ▸ Multiset.mem_map_of_mem _ member)
    simp only [Entry.bump, List.count_cons_of_ne (Ne.symm different)]

theorem map_bump_one {position : Nat} (here : entry.position = position)
    (distinct : ((entry ::ₘ rest).map Entry.position).Nodup) :
    (entry ::ₘ rest).map (Entry.bump [position]) =
      { entry with count := entry.count + 1 } ::ₘ rest := by
  subst here
  rw [map_bump_cons distinct, map_bump_nil]

theorem exists_entry {position : Nat} (member : position ∈ entries.map Entry.position) :
    ∃ entry rest, entry.position = position ∧ entries = entry ::ₘ rest := by
  obtain ⟨entry, present, same⟩ := Multiset.mem_map.mp member
  obtain ⟨rest, split⟩ := Multiset.exists_cons_of_mem present
  exact ⟨entry, rest, same, split⟩

theorem map_position_bump (entries : Multiset Entry) (positions : List Nat) :
    (entries.map (Entry.bump positions)).map Entry.position = entries.map Entry.position := by
  rw [Multiset.map_map]
  rfl

theorem Holds.retainAll (holds : chain.Holds entries bindings) {positions : List Nat}
    (present : ∀ position ∈ positions, position ∈ entries.map Entry.position) :
    ∃ after, Chain.retainAll positions chain = .ok () after ∧
      after.Holds (entries.map (Entry.bump positions)) bindings ∧ chain.Moves 0 after := by
  induction positions generalizing chain entries with
  | nil =>
    rw [map_bump_nil]
    exact ⟨chain, rfl, holds, .refl chain⟩
  | cons position positions inductionHypothesis =>
    obtain ⟨entry, rest, rfl, rfl⟩ := exists_entry (present position List.mem_cons_self)
    obtain ⟨once, ran, held, moves⟩ := holds.retain
    obtain ⟨after, ranRest, heldRest, movesRest⟩ := inductionHypothesis held fun other member => by
      have listed := present other (List.mem_cons_of_mem _ member)
      rwa [Multiset.map_cons] at listed ⊢
    refine ⟨after, ?_, ?_, moves.trans movesRest⟩
    · change (Chain.retain entry.position >>= fun _ => Chain.retainAll positions) chain = _
      rw [Action.bind_of_ok ran]
      exact ranRest
    · rwa [map_bump_cons holds.heap.distinct]

/-! ### Taking references away -/

/-- A sweep passes over nothing but free cells. -/
theorem Holds.releaseOne_eq_drop (sweeping : Bool) (holds : chain.Holds (entry ::ₘ rest) bindings) :
    releaseOne sweeping entry.position chain = Chain.drop sweeping entry.position chain := by
  unfold releaseOne
  split
  · have looking : peek entry.position chain = .ok entry.cell chain := by
      change ChainM.ofExcept (chain.cell entry.position) chain = _
      rw [cell_eq_snapshot, holds.heap.used entry (Multiset.mem_cons_self _ _)]
      rfl
    rw [Action.bind_of_ok looking]
    rfl
  · rfl

theorem Holds.drop (sweeping : Bool) {count : Nat} (counted : entry.count = count + 2)
    (holds : chain.Holds (entry ::ₘ rest) bindings) :
    ∃ after, releaseOne sweeping entry.position chain = .ok none after ∧
      after.Holds ({ entry with count := count + 1 } ::ₘ rest) bindings ∧ chain.Moves 0 after := by
  have edited : Cell.decrease entry.cell =
      .ok ⟨entry.position, .used entry.payload (count + 1)⟩ := by
    unfold Cell.decrease Entry.cell
    rw [counted]
  obtain ⟨after, ran, held, moves⟩ := holds.change edited
  refine ⟨after, ?_, held, moves⟩
  rw [holds.releaseOne_eq_drop]
  unfold Chain.drop
  rw [Action.bind_of_ok ran]
  rfl

/-- Taking the last reference away frees the cell. -/
theorem Holds.dropLast (sweeping : Bool) (counted : entry.count = 1)
    (holds : chain.Holds (entry ::ₘ rest) bindings) :
    ∃ after, releaseOne sweeping entry.position chain = .ok (some entry.payload) after ∧
      after.Holds rest bindings ∧ chain.Moves 0 after := by
  have edited : Cell.decrease entry.cell = .ok ⟨entry.position, .used entry.payload 0⟩ := by
    unfold Cell.decrease Entry.cell
    rw [counted]
  obtain ⟨lowered, ran, held, moves⟩ := holds.change edited
  obtain ⟨shown, flat, heldRest, stack, threshold, heapSize⟩ :=
    held.heap.free (.inl rfl : _ ∨ sweeping = true)
  obtain ⟨after, freeing, same, keeps⟩ := (follows_free sweeping entry.position).ok held.wiped flat
  refine ⟨after, ?_, ⟨same ▸ heldRest, ?_, keeps.wiped held.wiped⟩,
    moves.trans (.of_snapshot keeps same threshold heapSize)⟩
  · rw [holds.releaseOne_eq_drop]
    unfold Chain.drop
    rw [Action.bind_of_ok ran]
    exact freeing
  · rw [same]
    exact stack.binds held.stack

/-- Taking back references that were only counted on top. -/
theorem Holds.releaseAll {positions : List Nat}
    (holds : chain.Holds (entries.map (Entry.bump positions)) bindings)
    (present : ∀ position ∈ positions, position ∈ entries.map Entry.position)
    (positive : ∀ entry ∈ entries, entry.position ∈ positions → 0 < entry.count) :
    ∃ after, Chain.releaseAll false positions chain = .ok () after ∧
      after.Holds entries bindings ∧ chain.Moves 0 after := by
  induction positions generalizing chain with
  | nil =>
    rw [map_bump_nil] at holds
    refine ⟨chain, ?_, holds, .refl chain⟩
    rw [Chain.releaseAll]
  | cons position positions inductionHypothesis =>
    obtain ⟨entry, rest, rfl, rfl⟩ := exists_entry (present position List.mem_cons_self)
    have distinct := holds.heap.distinct
    rw [map_position_bump] at distinct
    have several := positive entry (Multiset.mem_cons_self _ _) List.mem_cons_self
    rw [map_bump_cons distinct, Multiset.map_cons] at holds
    obtain ⟨count, counted⟩ : ∃ count,
        (Entry.bump positions { entry with count := entry.count + 1 }).count = count + 2 :=
      ⟨entry.count - 1 + positions.count entry.position, by simp only [Entry.bump]; omega⟩
    obtain ⟨once, ran, held, moves⟩ := holds.drop false counted
    have same : { Entry.bump positions { entry with count := entry.count + 1 } with
        count := count + 1 } = Entry.bump positions entry := by
      simp only [Entry.bump, Entry.mk.injEq, true_and] at counted ⊢
      omega
    rw [same, ← Multiset.map_cons] at held
    obtain ⟨after, ranRest, heldRest, movesRest⟩ := inductionHypothesis held
      (fun other member => present other (List.mem_cons_of_mem _ member))
      (fun other member inside => positive other member (List.mem_cons_of_mem _ inside))
    refine ⟨after, ?_, heldRest, moves.trans movesRest⟩
    have first : releaseOne false entry.position chain = .ok none once := ran
    rw [releaseAll_of_ok first]
    exact ranRest

end Chain

end Rewind
