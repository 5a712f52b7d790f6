/-
This file proves which cells are freed when references are taken away. A cell is freed with the last
reference counted at it, and takes the references of its payload away in turn; in which order
depends on the graph and on the order of the references. What is freed does not: it is the least set
of cells that takes in every cell all of whose counted references are among those taken away, from
outside or by cells of the set. The other cells keep their payloads, and their counts drop by what
was taken away.

The worklist is followed by what has been taken from it so far. Together with what still waits, that
is always what was asked for and what the freed cells held.
-/

import Mathlib
import Rewind.Proofs.Store.Collection
import Rewind.Proofs.Store.FreeList

namespace Rewind

/-! ### The least set -/

namespace Entry

open Classical in
/-- The references that the payloads at the positions of a set hold. -/
noncomputable def heldIn (entries : Multiset Entry) (freed : Set Nat) : Multiset Nat :=
  held (entries.filter fun entry => entry.position ∈ freed)

/-- The references that are taken away: those asked for, and those of the cells that are freed. -/
noncomputable def taken (entries : Multiset Entry) (pending : List Nat) (freed : Set Nat) :
    Multiset Nat := pending + heldIn entries freed

/-- A set takes in every cell all of whose counted references are taken away, if there are any. -/
def Absorbs (entries : Multiset Entry) (pending : List Nat) (freed : Set Nat) : Prop :=
  ∀ entry ∈ entries, entry.position ∈ taken entries pending freed →
    entry.count = (taken entries pending freed).count entry.position → entry.position ∈ freed

/-- A cell some of whose references were taken away. -/
def without (references : Multiset Nat) (entry : Entry) : Entry :=
  { entry with count := entry.count - references.count entry.position }

variable {entries freed kept : Multiset Entry} {entry : Entry} {pending worklist : List Nat}
  {position : Nat} {spent : Multiset Nat}

/-- Every cell counts what holds it, and what is taken away on top. Nothing that is taken away is a
reference to a free cell, and neither is what the payloads hold. -/
structure Covers (bound : Multiset Nat) (pending : List Nat) (entries : Multiset Entry) : Prop where
  counted : ∀ entry ∈ entries, (bound + held entries + pending).count entry.position ≤ entry.count
  targets : ∀ position ∈ (pending : Multiset Nat) + held entries,
    position ∈ entries.map Entry.position

/-- Some references have been taken from the worklist, and some cells have been freed. -/
structure Spends (entries : Multiset Entry) (pending worklist : List Nat)
    (spent : Multiset Nat) (freed kept : Multiset Entry) : Prop where
  split : entries = freed + kept
  moved : spent + worklist = (pending : Multiset Nat) + held freed
  used : ∀ entry ∈ freed, entry.position ∈ spent ∧ entry.count = spent.count entry.position
  spared : ∀ entry ∈ kept, entry.position ∈ spent → spent.count entry.position < entry.count
  least : ∀ set, Absorbs entries pending set → ∀ entry ∈ freed, entry.position ∈ set

/-- The worklist starts with what is asked for, in any order. -/
theorem Spends.start (entries : Multiset Entry) (waits : worklist.Perm pending) :
    Spends entries pending worklist 0 0 entries where
  split := (zero_add entries).symm
  moved := by rw [zero_add, held_zero, add_zero, Multiset.coe_eq_coe.mpr waits]
  used := fun _ member => absurd member (Multiset.notMem_zero _)
  spared := fun _ _ spent => absurd spent (Multiset.notMem_zero _)
  least := fun _ _ _ member => absurd member (Multiset.notMem_zero _)

theorem held_add (first second : Multiset Entry) :
    held (first + second) = held first + held second :=
  Multiset.add_bind ..

/-- No more is taken away than what was asked for and what is held. -/
theorem Spends.count_le (spends : Spends entries pending worklist spent freed kept)
    {bound : Multiset Nat} (covers : Covers bound pending entries) (member : entry ∈ entries) :
    (spent + worklist).count entry.position ≤ entry.count := by
  refine le_trans (Multiset.count_le_of_le _ ?_) (covers.counted entry member)
  calc spent + worklist
    _ = held freed + pending := by rw [spends.moved, add_comm]
    _ ≤ held entries + pending := by
      rw [spends.split, held_add]
      exact add_le_add_left (Multiset.le_add_right _ _) _
    _ ≤ bound + held entries + pending := by
      rw [add_assoc]
      exact Multiset.le_add_left _ _

/-- The next reference is to a cell that has not been freed, and it is counted there. -/
theorem Spends.next (spends : Spends entries pending (position :: worklist) spent freed kept)
    {bound : Multiset Nat} (covers : Covers bound pending entries) :
    ∃ entry rest, kept = entry ::ₘ rest ∧ entry.position = position ∧
      spent.count position < entry.count := by
  have waiting : position ∈ (pending : Multiset Nat) + held freed := by
    rw [← spends.moved]
    exact Multiset.mem_add.mpr (.inr (by simp))
  have listed : position ∈ entries.map Entry.position := by
    refine covers.targets position ?_
    refine Multiset.mem_of_le ?_ waiting
    rw [spends.split, held_add]
    exact add_le_add_right (Multiset.le_add_right _ _) _
  obtain ⟨entry, member, rfl⟩ := Multiset.mem_map.mp listed
  have counted := spends.count_le covers member
  rw [Multiset.count_add, ← Multiset.cons_coe, Multiset.count_cons_self] at counted
  have more : spent.count entry.position < entry.count := by omega
  rw [spends.split] at member
  obtain isFreed | isKept := Multiset.mem_add.mp member
  · have used := (spends.used entry isFreed).2
    omega
  · obtain ⟨rest, rfl⟩ := Multiset.exists_cons_of_mem isKept
    exact ⟨entry, rest, rfl, rfl, more⟩

theorem held_le_held {first second : Multiset Entry} (fewer : first ≤ second) :
    held first ≤ held second := by
  obtain ⟨others, rfl⟩ := Multiset.le_iff_exists_add.mp fewer
  rw [held_add]
  exact Multiset.le_add_right _ _

open Classical in
theorem count_taken_le {bound : Multiset Nat} (covers : Covers bound pending entries)
    (member : entry ∈ entries) (set : Set Nat) :
    (taken entries pending set).count entry.position ≤ entry.count := by
  refine le_trans (Multiset.count_le_of_le _ ?_) (covers.counted entry member)
  calc taken entries pending set
    _ ≤ pending + held entries := add_le_add_right (held_le_held (Multiset.filter_le _ _)) _
    _ ≤ bound + held entries + pending := by
      rw [add_comm, add_assoc]
      exact Multiset.le_add_left _ _

open Classical in
/-- What is taken away by a set that some cells lie in and the others do not. -/
theorem taken_of_split (pending : List Nat) {set : Set Nat} (split : entries = freed + kept)
    (inside : ∀ entry ∈ freed, entry.position ∈ set)
    (outside : ∀ entry ∈ kept, entry.position ∉ set) :
    taken entries pending set = pending + held freed := by
  unfold taken heldIn
  rw [split, Multiset.filter_add, Multiset.filter_eq_self.mpr inside,
    Multiset.filter_eq_nil.mpr outside, add_zero]

open Classical in
/-- What has been taken from the worklist is taken away by every set that takes in what is freed. -/
theorem Spends.le_taken (spends : Spends entries pending worklist spent freed kept) {set : Set Nat}
    (inside : ∀ entry ∈ freed, entry.position ∈ set) :
    spent + worklist ≤ taken entries pending set := by
  rw [spends.moved]
  refine add_le_add_right (held_le_held ?_) _
  refine Multiset.le_filter.mpr ⟨?_, inside⟩
  rw [spends.split]
  exact Multiset.le_add_right _ _

section

variable {rest : Multiset Entry} (distinct : (entries.map Entry.position).Nodup)
include distinct

/-- Distinct cells are at distinct positions. -/
theorem Spends.apart
    (spends : Spends entries pending worklist spent freed (entry ::ₘ rest)) {other : Entry}
    (member : other ∈ freed ∨ other ∈ rest) : other.position ≠ entry.position := by
  rw [spends.split, Multiset.add_cons, Multiset.map_cons, Multiset.nodup_cons] at distinct
  intro same
  rw [← same] at distinct
  exact distinct.1 (Multiset.mem_map_of_mem _ (Multiset.mem_add.mpr member))

/-- Taking a reference away that is not the last one. -/
theorem Spends.lower
    (spends : Spends entries pending (entry.position :: worklist) spent freed (entry ::ₘ rest))
    (more : spent.count entry.position + 1 < entry.count) :
    Spends entries pending worklist (entry.position ::ₘ spent) freed (entry ::ₘ rest) where
  split := spends.split
  moved := by
    rw [← spends.moved, ← Multiset.cons_coe, Multiset.add_cons, Multiset.cons_add]
  used other member := by
    have different := spends.apart distinct (.inl member)
    rw [Multiset.count_cons_of_ne different]
    exact ⟨Multiset.mem_cons_of_mem (spends.used other member).1, (spends.used other member).2⟩
  spared other member taken := by
    obtain rfl | below := Multiset.mem_cons.mp member
    · rw [Multiset.count_cons_self]
      exact more
    · have different := spends.apart distinct (.inr below)
      rw [Multiset.count_cons_of_ne different]
      exact spends.spared other member ((Multiset.mem_cons.mp taken).resolve_left different)
  least := spends.least

/-- Taking the last reference to a cell away. -/
theorem Spends.free {bound : Multiset Nat} (covers : Covers bound pending entries)
    (spends : Spends entries pending (entry.position :: worklist) spent freed (entry ::ₘ rest))
    (last : spent.count entry.position + 1 = entry.count) :
    Spends entries pending (entry.payload.references.reverse ++ worklist)
      (entry.position ::ₘ spent) (entry ::ₘ freed) rest where
  split := by
    rw [spends.split, Multiset.add_cons, Multiset.cons_add]
  moved := by
    have moved := spends.moved
    rw [← Multiset.cons_coe, Multiset.add_cons] at moved
    rw [← Multiset.coe_add, Multiset.coe_reverse, held_cons, add_left_comm,
      Multiset.cons_add, moved]
    exact add_left_comm _ _ _
  used other member := by
    obtain rfl | below := Multiset.mem_cons.mp member
    · rw [Multiset.count_cons_self, last]
      exact ⟨Multiset.mem_cons_self _ _, rfl⟩
    · have different := spends.apart distinct (.inl below)
      rw [Multiset.count_cons_of_ne different]
      exact ⟨Multiset.mem_cons_of_mem (spends.used other below).1, (spends.used other below).2⟩
  spared other member taken := by
    have different := spends.apart distinct (.inr member)
    rw [Multiset.count_cons_of_ne different]
    exact spends.spared other (Multiset.mem_cons_of_mem member)
      ((Multiset.mem_cons.mp taken).resolve_left different)
  least set absorbs other member := by
    obtain rfl | below := Multiset.mem_cons.mp member
    · -- All references counted at the cell are taken away by what was freed before it.
      have listed : other ∈ entries := by
        rw [spends.split]
        exact Multiset.mem_add.mpr (.inr (Multiset.mem_cons_self _ _))
      have fewer : other.position ::ₘ spent ≤ taken entries pending set := by
        refine le_trans ?_ (spends.le_taken (spends.least set absorbs))
        rw [← Multiset.cons_coe, Multiset.add_cons]
        exact Multiset.cons_le_cons _ (Multiset.le_add_right _ _)
      have least := Multiset.count_le_of_le other.position fewer
      rw [Multiset.count_cons_self, last] at least
      exact absorbs other listed (Multiset.mem_of_le fewer (Multiset.mem_cons_self _ _))
        (least.antisymm (count_taken_le covers listed set))
    · exact spends.least set absorbs other below

/-- When nothing waits any more, what was freed is the least set that absorbs. -/
theorem Spends.done (spends : Spends entries pending [] spent freed kept) :
    IsLeast {set | Absorbs entries pending set}
      {position | position ∈ freed.map Entry.position} := by
  constructor
  · have inside : ∀ entry ∈ freed, entry.position ∈
        ({position | position ∈ freed.map Entry.position} : Set Nat) := fun entry member =>
      Multiset.mem_map_of_mem _ member
    have outside : ∀ entry ∈ kept, entry.position ∉
        ({position | position ∈ freed.map Entry.position} : Set Nat) := by
      rintro entry member present
      obtain ⟨other, isFreed, same⟩ := Multiset.mem_map.mp present
      rw [spends.split, Multiset.map_add, Multiset.nodup_add] at distinct
      exact Multiset.disjoint_left.mp distinct.2.2 (Multiset.mem_map_of_mem _ isFreed)
        (same ▸ Multiset.mem_map_of_mem _ member)
    have isTaken := taken_of_split pending spends.split inside outside
    rw [← spends.moved, Multiset.coe_nil, add_zero] at isTaken
    intro entry member taken counted
    rw [isTaken] at taken counted
    rw [spends.split] at member
    obtain isFreed | isKept := Multiset.mem_add.mp member
    · exact inside entry isFreed
    · have spared := spends.spared entry isKept taken
      omega
  · rintro set absorbs position present
    obtain ⟨entry, isFreed, rfl⟩ := Multiset.mem_map.mp present
    exact spends.least set absorbs entry isFreed

end

end Entry


/-! ### What is touched -/

/-- Some cells may have been copied into the tail and changed there, and been freed or taken into
use. -/
structure Chain.Touches (touched : Finset Nat) (before after : Chain) : Prop where
  older : after.older = before.older
  id : after.tail.id = before.tail.id
  resume : after.tail.resume = before.tail.resume
  levels : after.tail.levels = before.tail.levels
  counters : { after.counters with usedCells := 0, freeHead := none } =
    { before.counters with usedCells := 0, freeHead := none }
  elsewhere : ∀ position ∉ touched, after.tail.cells[position]? = before.tail.cells[position]?
  owned : ∀ position ∈ touched, (after.tail.cells[position]?).isSome
  inside : ∀ position ∈ touched, position < before.counters.heapSize
  /-- One cell is taken from the pool for every copy. -/
  pools : after.pools = { before.pools with
    cells.items := before.pools.cells.items.drop
      (touched.filter fun position => (before.tail.cells[position]?).isNone).card }

namespace Chain

section Touches

variable {chain after : Chain} {position : Nat} {cell : Cell}

theorem Touches.refl (chain : Chain) : chain.Touches ∅ chain :=
  ⟨rfl, rfl, rfl, rfl, rfl, fun _ _ => rfl, fun _ member => absurd member (Finset.notMem_empty _),
    fun _ member => absurd member (Finset.notMem_empty _), rfl⟩

theorem Touches.heapSize {before : Chain} {touched : Finset Nat}
    (touches : before.Touches touched after) :
    after.counters.heapSize = before.counters.heapSize := by
  have same := congrArg Counters.heapSize touches.counters
  exact same

theorem Touches.isNone {first second : Chain} {touched : Finset Nat}
    (touches : first.Touches touched second) (position : Nat) :
    (second.tail.cells[position]?).isNone ↔
      (first.tail.cells[position]?).isNone ∧ position ∉ touched := by
  by_cases member : position ∈ touched
  · have owned := touches.owned position member
    rw [Option.isSome_iff_ne_none] at owned
    simp [member, owned]
  · rw [touches.elsewhere position member]
    exact (and_iff_left member).symm

theorem Touches.trans {first second third : Chain} {touched others : Finset Nat}
    (left : first.Touches touched second) (right : second.Touches others third) :
    first.Touches (touched ∪ others) third where
  older := right.older.trans left.older
  id := right.id.trans left.id
  resume := right.resume.trans left.resume
  levels := right.levels.trans left.levels
  counters := right.counters.trans left.counters
  elsewhere position outside := by
    rw [Finset.mem_union, not_or] at outside
    rw [right.elsewhere position outside.2, left.elsewhere position outside.1]
  owned position member := by
    by_cases late : position ∈ others
    · exact right.owned position late
    · rw [right.elsewhere position late]
      exact left.owned position ((Finset.mem_union.mp member).resolve_right late)
  inside position member :=
    (Finset.mem_union.mp member).elim (left.inside position) fun late =>
      left.heapSize ▸ right.inside position late
  pools := by
    have copied : ((touched ∪ others).filter fun position =>
          (first.tail.cells[position]?).isNone).card =
        (touched.filter fun position => (first.tail.cells[position]?).isNone).card +
          (others.filter fun position => (second.tail.cells[position]?).isNone).card := by
      rw [← Finset.card_union_of_disjoint]
      · congr 1
        ext position
        simp only [Finset.mem_filter, Finset.mem_union, left.isNone]
        tauto
      · rw [Finset.disjoint_left]
        intro position early late
        exact ((left.isNone position).mp (Finset.mem_filter.mp late).2).2
          (Finset.mem_filter.mp early).1
    rw [right.pools, left.pools, copied, ← List.drop_drop]

theorem adopt_eq (chain : Chain) (position : Nat) (cell : Cell) :
    chain.adopt position cell = (cell, { chain with
      tail := chain.tail.putCell position cell
      pools.cells.items := chain.pools.cells.items.drop 1 }) := by
  obtain ⟨tail, older, ⟨⟨capacity, items⟩, levels⟩⟩ := chain
  cases items <;> rfl

theorem touches_own (succeeded : own position chain = .ok cell after) :
    chain.Touches {position} after := by
  unfold own at succeeded
  split at succeeded
  · rename_i inside
    have here : ∀ other ∈ ({position} : Finset Nat), other < chain.counters.heapSize :=
      fun other member => Finset.mem_singleton.mp member ▸ inside
    split at succeeded
    · rename_i present
      cases succeeded
      refine ⟨rfl, rfl, rfl, rfl, rfl, fun _ _ => rfl, fun other member => ?_, here, ?_⟩
      · rw [Finset.mem_singleton.mp member, present]
        rfl
      · rw [Finset.filter_singleton, if_neg (by simp [present])]
        rfl
    · rename_i absent
      split at succeeded
      · cases succeeded
      · rw [adopt_eq] at succeeded
        cases succeeded
        refine ⟨rfl, rfl, rfl, rfl, rfl, fun other outside => ?_, fun other member => ?_, here, ?_⟩
        · have different : position ≠ other := Ne.symm (Finset.notMem_singleton.mp outside)
          simp only [Generation.putCell, Overlay.getElem?_insert, if_neg different]
        · simp only [Finset.mem_singleton.mp member, Generation.putCell,
            Overlay.getElem?_insert, if_true, Option.isSome_some]
        · rw [Finset.filter_singleton, if_pos (by simp [absent]), Finset.card_singleton]
  · cases succeeded

/-- Changing a cell that the tail has already touched. -/
theorem Touches.putCell {touched : Finset Nat} (touches : chain.Touches touched after)
    (member : position ∈ touched) (cell : Cell) :
    chain.Touches touched (after.putCell position cell) := by
  refine ⟨touches.older, touches.id, touches.resume, touches.levels, touches.counters,
    fun other outside => ?_, fun other isTouched => ?_, touches.inside, touches.pools⟩
  · have different : position ≠ other := fun same => outside (same ▸ member)
    simp only [Chain.putCell, Generation.putCell, Overlay.getElem?_insert, if_neg different]
    exact touches.elsewhere other outside
  · simp only [Chain.putCell, Generation.putCell, Overlay.getElem?_insert]
    split
    · rfl
    · exact touches.owned other isTouched

theorem touches_change {edit : Cell → Except StoreError Cell}
    (succeeded : change position edit chain = .ok cell after) : chain.Touches {position} after := by
  simp only [change, Action.bind_eq_ok_iff, Action.modify_eq_ok_iff, Action.pure_eq_ok_iff]
    at succeeded
  obtain ⟨_, owned, owning, _, edited, editing, _, _, rfl, _, rfl⟩ := succeeded
  cases state_of_ofExcept editing
  exact (touches_own owning).putCell (Finset.mem_singleton_self _) _

theorem Touches.vacate {touched : Finset Nat} {vacated : Chain} {freed : Option Payload}
    (touches : chain.Touches touched after) (member : position ∈ touched)
    (succeeded : Chain.vacate position cell after = .ok freed vacated) :
    chain.Touches touched vacated := by
  unfold Chain.vacate at succeeded
  split at succeeded
  · cases succeeded
  · cases succeeded
    have written := touches.putCell member (cell.vacate after.counters.freeHead).2
    exact ⟨written.older, written.id, written.resume, written.levels, written.counters,
      written.elsewhere, written.owned, written.inside, written.pools⟩

theorem touches_free {sweeping : Bool} {freed : Option Payload}
    (succeeded : free sweeping position chain = .ok freed after) :
    chain = after ∨ chain.Touches {position} after := by
  simp only [free, Action.bind_eq_ok_iff] at succeeded
  obtain ⟨seen, looked, looking, succeeded⟩ := succeeded
  cases state_of_peek looking
  split at succeeded
  · split at succeeded
    · simp only [Action.pure_eq_ok_iff] at succeeded
      exact .inl succeeded.2
    · simp at succeeded
  · split at succeeded
    · simp at succeeded
    · simp only [Action.bind_eq_ok_iff] at succeeded
      obtain ⟨_, copied, owning, vacating⟩ := succeeded
      exact .inr ((touches_own owning).vacate (Finset.mem_singleton_self _) vacating)

/-- Taking a reference away touches the cell that it refers to. -/
theorem touches_releaseOne {freed : Option Payload}
    (succeeded : releaseOne false position chain = .ok freed after) :
    chain.Touches {position} after := by
  simp only [releaseOne, Bool.false_eq_true, if_false, drop, Action.bind_eq_ok_iff] at succeeded
  obtain ⟨cell, changed, changing, succeeded⟩ := succeeded
  have touches := touches_change changing
  split at succeeded
  · simp only [Action.pure_eq_ok_iff] at succeeded
    exact succeeded.2 ▸ touches
  · obtain rfl | more := touches_free succeeded
    · exact touches
    · simpa using touches.trans more

end Touches

/-! ### Taking everything away -/

section Run

open Entry

variable {bound : Multiset Nat} {bindings : Bindings} {entries freed kept : Multiset Entry}
  {pending worklist : List Nat} {position : Nat} {spent : Multiset Nat} {chain : Chain}

theorem map_without_cons {entry : Entry} {rest : Multiset Entry}
    (apart : ∀ other ∈ rest, other.position ≠ entry.position) (spent : Multiset Nat) :
    rest.map (without (entry.position ::ₘ spent)) = rest.map (without spent) := by
  refine Multiset.map_congr rfl fun other member => ?_
  unfold without
  rw [Multiset.count_cons_of_ne (apart other member)]

/-- The next reference can be taken away, and what that comes to. -/
theorem Holds.spend (holds : chain.Holds (kept.map (without spent)) bindings)
    (distinct : (entries.map Entry.position).Nodup) (covers : Covers bound pending entries)
    (spends : Spends entries pending (position :: worklist) spent freed kept) :
    ∃ payload after freedAfter keptAfter,
      Chain.releaseOne false position chain = .ok payload after ∧
      after.Holds (keptAfter.map (without (position ::ₘ spent))) bindings ∧
      Spends entries pending ((payload.elim [] Payload.references).reverse ++ worklist)
        (position ::ₘ spent) freedAfter keptAfter := by
  obtain ⟨entry, rest, rfl, rfl, counted⟩ := spends.next covers
  have apart : ∀ other ∈ rest, other.position ≠ entry.position := fun other member =>
    spends.apart distinct (.inr member)
  rw [Multiset.map_cons] at holds
  by_cases last : spent.count entry.position + 1 = entry.count
  · obtain ⟨after, ran, held, -⟩ := holds.dropLast false (by simp only [without]; omega)
    refine ⟨_, after, entry ::ₘ freed, rest, ran, ?_, spends.free distinct covers last⟩
    rwa [map_without_cons apart]
  · obtain ⟨count, more⟩ :=
      Nat.exists_eq_add_of_le (show spent.count entry.position + 2 ≤ entry.count by
      omega)
    have several : (without spent entry).count = count + 2 := by
      simp only [without]
      omega
    obtain ⟨after, ran, held, -⟩ := holds.drop false several
    refine ⟨_, after, freed, entry ::ₘ rest, ran, ?_, spends.lower distinct (by omega)⟩
    have lowered : { without spent entry with count := count + 1 } =
        without (entry.position ::ₘ spent) entry := by
      simp only [without, Multiset.count_cons_self, Entry.mk.injEq, true_and]
      omega
    rwa [Multiset.map_cons, map_without_cons apart, ← lowered]

/-- The whole worklist can be taken away. -/
theorem Holds.spendAll (distinct : (entries.map Entry.position).Nodup)
    (covers : Covers bound pending entries) {first : Chain}
    (holds : chain.Holds (kept.map (without spent)) bindings)
    (spends : Spends entries pending worklist spent freed kept)
    (touches : first.Touches spent.toFinset chain) :
    ∃ after spent freed kept, Chain.releaseAll false worklist chain = .ok () after ∧
      after.Holds (kept.map (without spent)) bindings ∧
      Spends entries pending [] spent freed kept ∧ first.Touches spent.toFinset after := by
  generalize unswept : false = sweeping
  fun_induction Chain.releaseAll sweeping worklist chain generalizing spent freed kept with
  | case1 chain => exact ⟨chain, spent, freed, kept, rfl, holds, spends, touches⟩
  | case2 chain position worklist fault after failed =>
    subst unswept
    obtain ⟨payload, after, _, _, ran, -⟩ := holds.spend distinct covers spends
    rw [failed] at ran
    cases ran
  | case3 chain position worklist payload once released inductionHypothesis =>
    subst unswept
    obtain ⟨payload, after, _, _, ran, held, spendsOn⟩ := holds.spend distinct covers spends
    have touched := touches.trans (touches_releaseOne released)
    rw [released] at ran
    cases ran
    refine inductionHypothesis held spendsOn ?_
    rwa [Multiset.toFinset_cons, ← Finset.union_singleton]

/-- All that is asked for can be taken away, in any order. -/
theorem Holds.cascade (holds : chain.Holds entries bindings) (covers : Covers bound pending entries)
    (waits : worklist.Perm pending) :
    ∃ after spent freed kept, Chain.releaseAll false worklist chain = .ok () after ∧
      after.Holds (kept.map (without spent)) bindings ∧
      Spends entries pending [] spent freed kept ∧ chain.Touches spent.toFinset after := by
  have untouched : entries.map (without 0) = entries := by
    conv_rhs => rw [← Multiset.map_id entries]
    refine Multiset.map_congr rfl fun entry _ => ?_
    simp only [without, Multiset.count_zero, Nat.sub_zero, id]
  refine Holds.spendAll holds.heap.distinct covers ?_ (.start entries waits) (.refl chain)
  rwa [untouched]

end Run

end Chain

/-! ### The order of the free list -/

/-- A cell without its link, if it is free. -/
def Cell.unlinked (cell : Cell) : Cell :=
  match cell.slot with
  | .used _ _ => cell
  | .free _ => { cell with slot := .free none }

/-- Two chains that differ in the order in which the free cells are linked, and in nothing else. -/
structure Chain.Relinked (left right : Chain) : Prop where
  older : right.older = left.older
  pools : right.pools = left.pools
  id : right.tail.id = left.tail.id
  resume : right.tail.resume = left.tail.resume
  levels : right.tail.levels = left.tail.levels
  counters : { right.counters with freeHead := none } = { left.counters with freeHead := none }
  cells : ∀ position : Nat, (right.tail.cells[position]?).map Cell.unlinked =
    (left.tail.cells[position]?).map Cell.unlinked
  free : ∃ first second : List Nat, first.Perm second ∧
    Snapshot.Threads left.snapshot.cell? left.counters.freeHead first ∧
    Snapshot.Threads right.snapshot.cell? right.counters.freeHead second

namespace Chain

variable {entries : Multiset Entry} {bindings : Bindings} {chain left right : Chain}
  {touched : Finset Nat}

/-- A cell that has been touched is seen in the tail; if it is free, its link is all that is not
known. -/
theorem Touches.cell (touches : chain.Touches touched left) (holds : left.Holds entries bindings)
    {position : Nat} (member : position ∈ touched) :
    (∃ entry ∈ entries, entry.position = position ∧
      left.tail.cells[position]? = some (Entry.cell entry)) ∨
      position ∉ entries.map Entry.position ∧
        (left.tail.cells[position]?).map Cell.unlinked = some ⟨position, .free none⟩ := by
  obtain ⟨cell, present⟩ := Option.isSome_iff_exists.mp (touches.owned position member)
  have inside : position < left.counters.heapSize :=
    touches.heapSize ▸ touches.inside position member
  have seen : left.snapshot.cell? position = some cell := by
    change (if position < left.counters.heapSize then
      (Generation.findCell? position left.generations).map Prod.fst else none) = _
    rw [if_pos inside, generations, Generation.findCell?, present]
    rfl
  obtain ⟨entry, rest, rfl, rfl, found⟩ | ⟨absent, ⟨-, next, found⟩ | ⟨outside, -⟩⟩ :=
    holds.heap.cell_cases position
  · refine .inl ⟨entry, Multiset.mem_cons_self _ _, rfl, ?_⟩
    rw [present, ← seen, found]
  · refine .inr ⟨absent, ?_⟩
    rw [present, ← seen, found]
    rfl
  · exact absurd inside (Nat.not_lt.mpr outside)

/-- Where the same cells are touched and the same are left, only the links can differ. -/
theorem Touches.relinked (first : chain.Touches touched left) (second : chain.Touches touched right)
    (heldLeft : left.Holds entries bindings) (heldRight : right.Holds entries bindings)
    (orderlyLeft : left.snapshot.Orderly) (orderlyRight : right.snapshot.Orderly) :
    left.Relinked right where
  older := second.older.trans first.older.symm
  pools := second.pools.trans first.pools.symm
  id := second.id.trans first.id.symm
  resume := second.resume.trans first.resume.symm
  levels := second.levels.trans first.levels.symm
  counters := by
    have used := heldRight.heap.counted.trans heldLeft.heap.counted.symm
    have others := second.counters.trans first.counters.symm
    simp only [Counters.mk.injEq] at others ⊢
    exact ⟨others.1, used, others.2.2⟩
  cells position := by
    by_cases member : position ∈ touched
    · obtain ⟨entry, present, here, isLeft⟩ | ⟨absent, isLeft⟩ := first.cell heldLeft member
      · obtain ⟨other, listed, there, isRight⟩ | ⟨absent, -⟩ := second.cell heldRight member
        · rw [isLeft, isRight, heldLeft.heap.unique present listed (here.trans there.symm)]
        · exact absurd (here ▸ Multiset.mem_map_of_mem _ present) absent
      · obtain ⟨other, listed, there, -⟩ | ⟨-, isRight⟩ := second.cell heldRight member
        · exact absurd (there ▸ Multiset.mem_map_of_mem _ listed) absent
        · rw [isLeft, isRight]
    · rw [first.elsewhere position member, second.elsewhere position member]
  free := by
    obtain ⟨listed, isLeft⟩ := orderlyLeft
    obtain ⟨relisted, isRight⟩ := orderlyRight
    refine ⟨listed, relisted, ?_, isLeft.threads, isRight.threads⟩
    refine (List.perm_ext_iff_of_nodup isLeft.distinct isRight.distinct).mpr fun position => ?_
    -- What is free is what is in the heap and holds no entry.
    have isFree {chain : Chain} (holds : chain.Holds entries bindings) :
        (∃ next, chain.snapshot.cell? position = some ⟨position, .free next⟩) ↔
          position ∉ entries.map Entry.position ∧ position < chain.counters.heapSize := by
      obtain ⟨entry, rest, rfl, rfl, found⟩ | ⟨absent, ⟨inside, next, found⟩ | ⟨outside, found⟩⟩ :=
        holds.heap.cell_cases position
      · refine iff_of_false (fun ⟨next, isFree⟩ => ?_) fun unlisted => ?_
        · rw [found] at isFree
          cases isFree
        · exact unlisted.1 (Multiset.mem_map_of_mem _ (Multiset.mem_cons_self _ _))
      · exact iff_of_true ⟨next, found⟩ ⟨absent, inside⟩
      · refine iff_of_false (fun ⟨next, isFree⟩ => ?_) fun unlisted => ?_
        · rw [found] at isFree
          cases isFree
        · exact absurd unlisted.2 (Nat.not_lt.mpr outside)
    rw [isLeft.mem_iff, isRight.mem_iff, isFree heldLeft, isFree heldRight, first.heapSize,
      second.heapSize]

end Chain

/-! ### Taking references away at any time -/

/-- What taking references away makes of a view. -/
structure Snapshot.Cascaded (pending : List Nat) (before after : Snapshot) : Prop where
  /-- What is freed is the least set that takes in every cell all of whose counted references are
  taken away. -/
  least : IsLeast {set | Entry.Absorbs before.entries pending set}
    {position | position ∈ (before.freedIn after).map Entry.position}
  /-- The count of any other cell drops by what is taken away, and the cell keeps its payload. -/
  lowered : ∀ former ∈ before.entries,
    former.position ∉ (before.freedIn after).map Entry.position →
      ∃ survivor ∈ after.entries, survivor.content = former.content ∧
        survivor.count + (pending + Entry.held (before.freedIn after)).count former.position =
          former.count
  /-- Nothing comes into use. -/
  former : ∀ survivor ∈ after.entries, ∃ former ∈ before.entries, former.content = survivor.content
  /-- A cell with another counted reference is not freed. -/
  spared : ∀ former ∈ before.entries,
    (pending + Entry.held (before.freedIn after)).count former.position < former.count →
      former.position ∉ (before.freedIn after).map Entry.position
  bindings : after.bindings = before.bindings

namespace Entry

variable {entries freed kept : Multiset Entry} {pending : List Nat} {spent : Multiset Nat}
  {before after : Snapshot} {bindings : Bindings}

theorem map_position_without (spent : Multiset Nat) (kept : Multiset Entry) :
    (kept.map (without spent)).map Entry.position = kept.map Entry.position := Multiset.map_map ..

/-- What was freed is what is not in use any more. -/
theorem Spends.freedIn_eq (spends : Spends entries pending [] spent freed kept)
    (holds : before.Holds entries) (heldAfter : after.Holds (kept.map (without spent))) :
    before.freedIn after = freed := by
  have distinct := holds.distinct
  rw [spends.split, Multiset.map_add, Multiset.nodup_add] at distinct
  unfold Snapshot.freedIn
  rw [holds.entries_eq, heldAfter.entries_eq, map_position_without, spends.split,
    Multiset.filter_add]
  have stays : freed.filter (fun entry => entry.position ∉ kept.map Entry.position) = freed :=
    Multiset.filter_eq_self.mpr fun entry member =>
      Multiset.disjoint_left.mp distinct.2.2 (Multiset.mem_map_of_mem _ member)
  have goes : kept.filter (fun entry => entry.position ∉ kept.map Entry.position) = 0 :=
    Multiset.filter_eq_nil.mpr fun entry member => not_not_intro (Multiset.mem_map_of_mem _ member)
  rw [stays, goes, add_zero]

theorem Spends.cascaded {bound : Multiset Nat} (covers : Covers bound pending entries)
    (spends : Spends entries pending [] spent freed kept)
    (holds : before.Holds entries) (binds : before.Binds bindings)
    (heldAfter : after.Holds (kept.map (without spent))) (boundAfter : after.Binds bindings) :
    before.Cascaded pending after := by
  have isSpent : spent = pending + held freed := by
    have moved := spends.moved
    rwa [Multiset.coe_nil, add_zero] at moved
  have apart : ∀ entry ∈ kept, entry.position ∉ freed.map Entry.position := by
    have distinct := holds.distinct
    rw [spends.split, Multiset.map_add, Multiset.nodup_add] at distinct
    exact fun entry member present =>
      Multiset.disjoint_left.mp distinct.2.2 present (Multiset.mem_map_of_mem _ member)
  refine ⟨?_, ?_, ?_, ?_, binds.bindings_eq.symm ▸ boundAfter.bindings_eq⟩
  · rw [holds.entries_eq, spends.freedIn_eq holds heldAfter]
    exact spends.done holds.distinct
  · rw [holds.entries_eq, heldAfter.entries_eq, spends.freedIn_eq holds heldAfter, ← isSpent]
    intro former member stays
    have enough := spends.count_le covers member
    rw [Multiset.coe_nil, add_zero] at enough
    rw [spends.split] at member
    obtain isFreed | isKept := Multiset.mem_add.mp member
    · exact absurd (Multiset.mem_map_of_mem _ isFreed) stays
    · exact ⟨without spent former, Multiset.mem_map_of_mem _ isKept, rfl, Nat.sub_add_cancel enough⟩
  · rw [holds.entries_eq, heldAfter.entries_eq]
    intro survivor member
    obtain ⟨former, isKept, rfl⟩ := Multiset.mem_map.mp member
    exact ⟨former, spends.split ▸ Multiset.mem_add.mpr (.inr isKept), rfl⟩
  · rw [holds.entries_eq, spends.freedIn_eq holds heldAfter, ← isSpent]
    intro former member more present
    rw [spends.split] at member
    obtain isFreed | isKept := Multiset.mem_add.mp member
    · exact absurd more (Nat.not_lt.mpr (spends.used former isFreed).2.le)
    · exact apart former isKept present

/-- Two runs that come to an end have freed the same, and taken the same away. -/
theorem Spends.unique {spent' : Multiset Nat} {freed' kept' : Multiset Entry}
    (distinct : (entries.map Entry.position).Nodup)
    (left : Spends entries pending [] spent freed kept)
    (right : Spends entries pending [] spent' freed' kept') :
    freed' = freed ∧ kept' = kept ∧ spent' = spent := by
  have sameSet := (right.done distinct).unique (left.done distinct)
  have chosen {some others : Multiset Entry} (split : entries = some + others) :
      some = entries.filter fun entry => entry.position ∈ some.map Entry.position := by
    have apart := distinct
    rw [split, Multiset.map_add, Multiset.nodup_add] at apart
    rw [split, Multiset.filter_add, Multiset.filter_eq_self.mpr fun entry member =>
      Multiset.mem_map_of_mem _ member, Multiset.filter_eq_nil.mpr, add_zero]
    exact fun entry member present =>
      Multiset.disjoint_left.mp apart.2.2 present (Multiset.mem_map_of_mem _ member)
  have sameFreed : freed' = freed := by
    rw [chosen left.split, chosen right.split]
    refine Multiset.filter_congr fun entry _ => ?_
    exact Set.ext_iff.mp sameSet entry.position
  subst sameFreed
  have sameKept : kept' = kept := by
    rw [← add_right_inj freed', ← left.split, ← right.split]
  refine ⟨rfl, sameKept, ?_⟩
  have moved := right.moved.trans left.moved.symm
  rwa [Multiset.coe_nil, add_zero, add_zero] at moved

end Entry

/-- References can be taken away at any time outside of a sweep, where every cell counts at least
its occurrences and those that are taken away, and no reference is to a free cell. In whichever
order this is done, the same cells are freed: the least set that takes in what loses all its
references. -/
theorem cascade_frees_least (settings : StoreSettings) (operations : List Operation)
    (pending : List Nat) :
    let store := (Store.empty settings).after operations
    let view := store.chain.snapshot
    (∀ entry ∈ view.entries, (view.references + pending).count entry.position ≤ entry.count) →
      (∀ position ∈ (pending : Multiset Nat) + Entry.held view.entries,
        position ∈ view.entries.map Entry.position) →
      ∃ after, Store.releaseAll pending store = .ok () { store with chain := after } ∧
        view.Cascaded pending after.snapshot ∧ after.older = store.chain.older ∧
        ∀ reordered : List Nat, reordered.Perm pending →
          ∃ other, Store.releaseAll reordered store = .ok () { store with chain := other } ∧
            after.Relinked other := by
  intro store view counted targets
  obtain ⟨inOrder, each⟩ := Store.sound_after settings operations
  have orderly := (Store.eachView_after Chain.guards_orderly Generation.orderly_oldest settings
    operations).2.tail
  change store.InOrder at inOrder
  change view.Orderly at orderly
  obtain ⟨entries, bindings, heap, stack, inside⟩ := each.tail
  have held : store.chain.Holds entries bindings := ⟨heap, stack, inOrder.wiped⟩
  have covers : Entry.Covers bindings.held pending entries := by
    rw [heap.references_eq stack, heap.entries_eq] at counted
    rw [heap.entries_eq] at targets
    exact ⟨counted, targets⟩
  have runs (reordered : List Nat) (same : reordered.Perm pending) :
      ∃ after spent freed kept,
        Store.releaseAll reordered store = .ok () { store with chain := after } ∧
        after.Holds (kept.map (Entry.without spent)) bindings ∧
        Entry.Spends entries pending [] spent freed kept ∧
        store.chain.Touches spent.toFinset after ∧ after.snapshot.Orderly := by
    obtain ⟨after, spent, freed, kept, ran, heldAfter, spends, touches⟩ :=
      held.cascade covers ((List.reverse_perm reordered).trans same)
    refine ⟨after, spent, freed, kept, ?_, heldAfter, spends, touches, ?_⟩
    · have releasing : Chain.release store.sweeping reordered store.chain = .ok () after := by
        rw [inOrder.idle]
        exact ran
      exact Store.onChain_of_ok releasing
    · have ends :=
        Chain.guards_orderly.toGuardsCounts.releaseAll false reordered.reverse store.chain
        ⟨inOrder.wiped, orderly⟩
      rw [ran] at ends
      exact ends.kept.2
  obtain ⟨after, spent, freed, kept, ran, heldAfter, spends, touches, orderlyAfter⟩ :=
    runs pending (.refl _)
  refine ⟨after, ran, spends.cascaded covers heap stack heldAfter.heap heldAfter.stack,
    touches.older, fun reordered same => ?_⟩
  obtain ⟨other, spent', freed', kept', ranOther, heldOther, spendsOther,
    touchesOther, orderlyOther⟩ :=
    runs reordered same
  obtain ⟨rfl, rfl, rfl⟩ := spends.unique heap.distinct spendsOther
  exact ⟨other, ranOther,
    touches.relinked touchesOther heldAfter heldOther orderlyAfter orderlyOther⟩

/-- A list that holds another one twice, and is released. -/
theorem cascade_frees_least_shared :
    let store := (Store.empty {}).after [
      .access (.alloc (.list [])), .access (.alloc (.list [.ref 0, .ref 0])),
      .freeze ⟨0, Signal.enter, 0⟩, .access (.retain 1)]
    let view := store.chain.snapshot
    let pending := [1]
    (∀ entry ∈ view.entries, (view.references + pending).count entry.position ≤ entry.count) ∧
      (∀ position ∈ (pending : Multiset Nat) + Entry.held view.entries,
        position ∈ view.entries.map Entry.position) ∧
      ∃ after, Store.releaseAll pending store = .ok () { store with chain := after } ∧
        view.Cascaded pending after.snapshot ∧ after.older = store.chain.older ∧
        ∀ reordered : List Nat, reordered.Perm pending →
          ∃ other, Store.releaseAll reordered store = .ok () { store with chain := other } ∧
            after.Relinked other := by
  intro store view pending
  have counted : ∀ entry ∈ view.entries,
      (view.references + pending).count entry.position ≤ entry.count := by
    decide +kernel
  have targets : ∀ position ∈ (pending : Multiset Nat) + Entry.held view.entries,
      position ∈ view.entries.map Entry.position := by
    decide +kernel
  exact ⟨counted, targets, cascade_frees_least {} _ pending counted targets⟩

/-- A cell may be freed while the payload of another one still refers to it. That reference cannot
be taken away any more, so releasing the other cell is refused, though all counts are covered. -/
theorem cascade_stops_at_dangling :
    let store := (Store.empty {}).after [
      .access (.alloc (.list [])), .access (.alloc (.list [.ref 0])), .access (.release 0),
      .access (.retain 1)]
    let view := store.chain.snapshot
    let pending := [1]
    (∀ entry ∈ view.entries, (view.references + pending).count entry.position ≤ entry.count) ∧
      (∀ position ∈ pending, position ∈ view.entries.map Entry.position) ∧
      store.sweeping = false ∧
      ∃ after, Store.releaseAll pending store = .error (.refused (.freedCell 0)) after := by
  intro store view pending
  let built := (Store.empty {}).after [
    .access (.alloc (.list [])), .access (.alloc (.list [.ref 0]))]
  let dangling : Store := { built with
    chain := Action.reached (Chain.releaseOne false 0 built.chain) }
  have freed : Store.release 0 built = .ok () dangling := by
    have alone : Chain.releaseOne false 0 built.chain = .ok (some (.list [])) dangling.chain :=
      Action.eq_ok_of_answer (by decide +kernel)
    refine Store.onChain_of_ok ?_
    change Chain.releaseAll false [0] built.chain = _
    rw [Chain.releaseAll_of_ok alone]
    change Chain.releaseAll false [] dangling.chain = _
    rw [Chain.releaseAll]
  have reached : store = dangling.after [.access (.retain 1)] := by
    change (Action.reached ((Store.release 0 >>= fun _ => pure Answer.done) built)).after _ = _
    rw [Action.bind_of_ok freed]
    rfl
  have covered : (∀ entry ∈ view.entries,
        (view.references + pending).count entry.position ≤ entry.count) ∧
      (∀ position ∈ pending, position ∈ view.entries.map Entry.position) ∧
      store.sweeping = false := by
    simp only [view, reached]
    decide +kernel
  refine ⟨covered.1, covered.2.1, covered.2.2, ?_⟩
  rw [reached]
  -- The cell of the list is freed, and then the reference that it held is refused.
  generalize isLast : dangling.after [.access (.retain 1)] = last
  obtain ⟨once, isOnce⟩ : ∃ once, Action.reached (Chain.releaseOne false 1 last.chain) = once :=
    ⟨_, rfl⟩
  have first : Chain.releaseOne false 1 last.chain = .ok (some (.list [.ref 0])) once :=
    isOnce ▸ Action.eq_ok_of_answer (by rw [← isLast]; decide +kernel)
  have second : Chain.releaseOne false 0 once =
      .error (.refused (.freedCell 0)) (Action.reached (Chain.releaseOne false 0 once)) :=
    Action.eq_error_of_answer (by rw [← isOnce, ← isLast]; decide +kernel)
  have stops : Chain.release last.sweeping pending last.chain =
      .error (.refused (.freedCell 0)) (Action.reached (Chain.releaseOne false 0 once)) := by
    rw [← isLast, show (dangling.after [.access (.retain 1)]).sweeping = false from rfl, isLast]
    change Chain.releaseAll false [1] last.chain = _
    rw [Chain.releaseAll_of_ok first]
    exact Chain.releaseAll_of_error second
  exact ⟨_, Store.onChain_of_error stops⟩

end Rewind
