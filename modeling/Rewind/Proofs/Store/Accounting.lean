/-
This file accounts for references. A position occurs in bindings and in payloads, and the cell there
counts how often. The two agree up to a surplus: what was counted on top without being stored
anywhere. While references are being taken away, those that still wait are owed, that is, they are
counted although nothing holds them any more.

Taking all that is owed away succeeds and leaves the surplus of every cell as it was. A cell that is
freed on the way owes what its payload held, so the account stays even. Only its own references to
a cell are ever taken from it: what is held from elsewhere stays.
-/

import Mathlib
import Rewind.Proofs.Store.Outcomes

namespace Rewind

/-- The references that the payloads of some entries hold, each as often as it occurs. -/
def Entry.held (entries : Multiset Entry) : Multiset Nat :=
  entries.bind fun entry => (entry.payload.references : Multiset Nat)

/-- The references among the values of some bindings. -/
def Bindings.held (bindings : Bindings) : Multiset Nat :=
  (bindings.filterMap fun binding => binding.2.reference? : List Nat)

/-- What is stored at a position, whatever its count. -/
def Entry.content (entry : Entry) : Nat × Payload := (entry.position, entry.payload)

/-- Every entry counts its occurrences, and a surplus on top. Occurrences are those in payloads, and
some from outside of the heap. -/
def Entry.Balanced (surplus : Nat → Nat) (outer : Multiset Nat) (entries : Multiset Entry) : Prop :=
  ∀ entry ∈ entries,
    entry.count = surplus entry.position + (outer + held entries).count entry.position

/-- Every reference is to an entry. -/
def Entry.Sealed (outer : Multiset Nat) (entries : Multiset Entry) : Prop :=
  ∀ position ∈ outer + held entries, position ∈ entries.map Entry.position

/-- Entries have been freed and counts lowered, but no count to zero. -/
structure Entry.Thins (before after : Multiset Entry) : Prop where
  contents : after.map content ≤ before.map content
  origin : ∀ entry ∈ after, ∃ former ∈ before, former.content = entry.content ∧
    (0 < former.count → 0 < entry.count)

namespace Entry

variable {surplus : Nat → Nat} {outer : Multiset Nat}
    {entries rest : Multiset Entry} {entry : Entry}

@[simp] theorem held_zero : held 0 = 0 := Multiset.zero_bind _

@[simp] theorem held_cons (entry : Entry) (rest : Multiset Entry) :
    held (entry ::ₘ rest) = entry.payload.references + held rest := Multiset.cons_bind ..

@[simp] theorem held_bump (positions : List Nat) (entries : Multiset Entry) :
    held (entries.map (bump positions)) = held entries := Multiset.bind_map ..

theorem mem_held {position : Nat} :
    position ∈ held entries ↔ ∃ entry ∈ entries, position ∈ entry.payload.references := by
  simp only [held, Multiset.mem_bind, Multiset.mem_coe]

theorem held_eq_contents (entries : Multiset Entry) :
    held entries =
      (entries.map content).bind fun content => (content.2.references : Multiset Nat) := by
  rw [Multiset.bind_map]
  rfl

/-! ### Thinning -/

theorem Thins.refl (entries : Multiset Entry) : Thins entries entries :=
  ⟨le_refl _, fun entry member => ⟨entry, member, rfl, fun positive => positive⟩⟩

theorem Thins.trans {first second third : Multiset Entry} (left : Thins first second)
    (right : Thins second third) : Thins first third := by
  refine ⟨right.contents.trans left.contents, fun entry member => ?_⟩
  obtain ⟨former, present, same, positive⟩ := right.origin entry member
  obtain ⟨oldest, listed, alike, stays⟩ := left.origin former present
  exact ⟨oldest, listed, alike.trans same, positive ∘ stays⟩

theorem Thins.lower {count : Nat} (positive : 0 < count) :
    Thins (entry ::ₘ rest) ({ entry with count := count } ::ₘ rest) := by
  refine ⟨le_of_eq (by rw [Multiset.map_cons, Multiset.map_cons]; rfl), fun other member => ?_⟩
  obtain same | below := Multiset.mem_cons.mp member
  · subst same
    exact ⟨entry, Multiset.mem_cons_self _ _, rfl, fun _ => positive⟩
  · exact ⟨other, Multiset.mem_cons_of_mem below, rfl, fun stays => stays⟩

theorem Thins.remove (entry : Entry) (rest : Multiset Entry) : Thins (entry ::ₘ rest) rest := by
  refine ⟨?_, fun other member =>
    ⟨other, Multiset.mem_cons_of_mem member, rfl, fun positive => positive⟩⟩
  rw [Multiset.map_cons]
  exact Multiset.le_cons_self _ _

theorem Thins.subset {after : Multiset Entry} (thins : Thins entries after) :
    after.map Entry.position ⊆ entries.map Entry.position := by
  intro position member
  obtain ⟨entry, present, rfl⟩ := Multiset.mem_map.mp member
  obtain ⟨former, listed, same, -⟩ := thins.origin entry present
  exact Multiset.mem_map.mpr ⟨former, listed, congrArg Prod.fst same⟩

/-- What was held before is still held, or was held by what is gone. -/
theorem Thins.held_le {after : Multiset Entry} (thins : Thins entries after) :
    held after ≤ held entries := by
  obtain ⟨gone, split⟩ := Multiset.le_iff_exists_add.mp thins.contents
  rw [held_eq_contents, held_eq_contents entries, split, Multiset.add_bind]
  exact Multiset.le_add_right _ _

/-- What was there before is still there, or at a position that is not in use any more. -/
theorem Thins.partition {after : Multiset Entry} (thins : Thins entries after)
    (distinct : (entries.map Entry.position).Nodup)
    (stillDistinct : (after.map Entry.position).Nodup) :
    entries.map content = after.map content +
      (entries.filter fun entry => entry.position ∉ after.map Entry.position).map content := by
  have once {some : Multiset Entry} (apart : (some.map Entry.position).Nodup) :
      (some.map content).Nodup := by
    refine Multiset.Nodup.of_map Prod.fst ?_
    rwa [Multiset.map_map]
  have kept : (entries.filter fun entry => entry.position ∈ after.map Entry.position).map content =
      after.map content := by
    have fewer :
        (entries.filter fun entry => entry.position ∈ after.map Entry.position).map content ≤
        entries.map content := Multiset.map_le_map (Multiset.filter_le _ _)
    refine (Multiset.Nodup.ext (Multiset.nodup_of_le fewer (once distinct))
      (once stillDistinct)).mpr fun stored => ?_
    simp only [Multiset.mem_map, Multiset.mem_filter]
    constructor
    · rintro ⟨entry, ⟨member, left, present, here⟩, rfl⟩
      obtain ⟨former, listed, same, -⟩ := thins.origin left present
      have isFormer := Multiset.inj_on_of_nodup_map distinct former listed entry member
        ((congrArg Prod.fst same).trans here)
      exact ⟨left, present, isFormer ▸ same.symm⟩
    · rintro ⟨left, present, rfl⟩
      obtain ⟨former, listed, same, -⟩ := thins.origin left present
      exact ⟨former, ⟨listed, left, present, (congrArg Prod.fst same).symm⟩, same⟩
  rw [← kept, ← Multiset.map_add, Multiset.filter_add_not]

/-! ### What is owed -/

/-- The account while references are being taken away: some are bound for good, some pending. During
a sweep a reference may be to a free cell. What is kept is referred to by a binding or by something
that is kept. -/
structure Owes (sweeping : Bool) (heapSize : Nat) (surplus : Nat → Nat) (kept : Nat → Prop)
    (bound : Multiset Nat) (pending : List Nat) (entries : Multiset Entry) : Prop where
  balanced : Balanced surplus (bound + pending) entries
  targets : ∀ position ∈ bound + pending + held entries,
    position ∈ entries.map Entry.position ∨ sweeping = true ∧ position < heapSize
  present : ∀ position, kept position → position ∈ entries.map Entry.position
  supported : ∀ position, kept position → position ∈ bound ∨
    ∃ entry ∈ entries, kept entry.position ∧ position ∈ entry.payload.references

section Owes

variable {sweeping : Bool} {heapSize : Nat} {kept : Nat → Prop} {bound : Multiset Nat}
  {pending : List Nat} {position : Nat}

theorem apart_of_nodup (distinct : ((entry ::ₘ rest).map Entry.position).Nodup) {other : Entry}
    (member : other ∈ rest) : other.position ≠ entry.position := by
  rw [Multiset.map_cons, Multiset.nodup_cons] at distinct
  exact fun same => distinct.1 (same ▸ Multiset.mem_map_of_mem _ member)

/-- The first pending reference is counted. -/
theorem Owes.counted
    (owes : Owes sweeping heapSize surplus kept bound (position :: pending) entries)
    (member : entry ∈ entries) :
    entry.count = surplus entry.position + (bound + pending + held entries).count entry.position +
      if entry.position = position then 1 else 0 := by
  rw [owes.balanced entry member, ← Multiset.cons_coe, Multiset.add_cons, Multiset.cons_add,
    Multiset.count_cons, Nat.add_assoc]

/-- Taking a reference away that is not the last one. -/
theorem Owes.lower (distinct : ((entry ::ₘ rest).map Entry.position).Nodup) {count : Nat}
    (lowered : entry.count = count + 1)
    (owes : Owes sweeping heapSize surplus kept bound (entry.position :: pending)
      (entry ::ₘ rest)) :
    Owes sweeping heapSize surplus kept bound pending ({ entry with count := count } ::ₘ rest) where
  balanced other member := by
    have sameHeld : held ({ entry with count := count } ::ₘ rest) = held (entry ::ₘ rest) := by
      rw [held_cons, held_cons]
    rw [sameHeld]
    obtain same | below := Multiset.mem_cons.mp member
    · subst same
      have counted := owes.counted (Multiset.mem_cons_self entry rest)
      rw [if_pos rfl, lowered] at counted
      exact Nat.succ_inj.mp counted
    · have counted := owes.counted (Multiset.mem_cons_of_mem below)
      rwa [if_neg (apart_of_nodup distinct below), Nat.add_zero] at counted
  targets other member := by
    have listed := owes.targets other (by
      rw [held_cons] at member ⊢
      rw [← Multiset.cons_coe, Multiset.add_cons, Multiset.cons_add]
      exact Multiset.mem_cons_of_mem member)
    rwa [Multiset.map_cons] at listed ⊢
  present other isKept := by
    have listed := owes.present other isKept
    rwa [Multiset.map_cons] at listed ⊢
  supported other isKept := by
    refine (owes.supported other isKept).imp id fun support => ?_
    obtain ⟨holder, member, keptHolder, refers⟩ := support
    obtain same | below := Multiset.mem_cons.mp member
    · subst same
      exact ⟨_, Multiset.mem_cons_self _ _, keptHolder, refers⟩
    · exact ⟨holder, Multiset.mem_cons_of_mem below, keptHolder, refers⟩

/-- What is kept is referred to by something that is not pending. -/
theorem Owes.kept_pos (owes : Owes sweeping heapSize surplus kept bound pending entries)
    (isKept : kept position) : 0 < (bound + held entries).count position := by
  rw [Multiset.count_pos, Multiset.mem_add]
  exact (owes.supported position isKept).imp id fun support =>
    mem_held.mpr ⟨support.choose, support.choose_spec.1, support.choose_spec.2.2⟩

/-- A cell that is freed when its last occurrence is gone leaves no reference to it behind. -/
theorem Owes.free (owes : Owes sweeping heapSize surplus kept bound pending (entry ::ₘ rest))
    (notKept : ¬ kept entry.position)
    (gone : sweeping = true ∨ entry.position ∉ bound + pending + held (entry ::ₘ rest))
    (inside : entry.position < heapSize) :
    Owes sweeping heapSize surplus kept bound
      (entry.payload.references.reverse ++ pending) rest := by
  have moved : bound + ((entry.payload.references.reverse ++ pending : List Nat) : Multiset Nat) +
      held rest = bound + pending + held (entry ::ₘ rest) := by
    rw [held_cons, ← Multiset.coe_add, Multiset.coe_reverse]
    ac_rfl
  refine ⟨fun other member => ?_, fun other member => ?_, fun other isKept => ?_,
    fun other isKept => ?_⟩
  · rw [moved]
    exact owes.balanced other (Multiset.mem_cons_of_mem member)
  · rw [moved] at member
    have listed := owes.targets other member
    rw [Multiset.map_cons, Multiset.mem_cons] at listed
    by_cases same : other = entry.position
    · subst same
      exact .inr ⟨gone.resolve_right fun absent => absent member, inside⟩
    · exact listed.imp (fun found => found.resolve_left same) id
  · have listed := owes.present other isKept
    rw [Multiset.map_cons, Multiset.mem_cons] at listed
    exact listed.resolve_left fun same => notKept (same ▸ isKept)
  · refine (owes.supported other isKept).imp id fun support => ?_
    obtain ⟨holder, member, keptHolder, refers⟩ := support
    obtain same | below := Multiset.mem_cons.mp member
    · exact absurd (same ▸ keptHolder) notKept
    · exact ⟨holder, below, keptHolder, refers⟩

/-- Passing over a reference to a free cell. -/
theorem Owes.skip (absent : position ∉ entries.map Entry.position)
    (owes : Owes sweeping heapSize surplus kept bound (position :: pending) entries) :
    Owes sweeping heapSize surplus kept bound pending entries := by
  refine ⟨fun entry member => ?_, fun other member => owes.targets other ?_, owes.present,
    owes.supported⟩
  · have different : entry.position ≠ position := fun same =>
      absent (same ▸ Multiset.mem_map_of_mem _ member)
    have counted := owes.counted member
    rwa [if_neg different, Nat.add_zero] at counted
  · rw [← Multiset.cons_coe, Multiset.add_cons, Multiset.cons_add]
    exact Multiset.mem_cons_of_mem member

end Owes

end Entry

theorem Bindings.held_append (front back : Bindings) :
    Bindings.held (front ++ back) = front.held + back.held := by
  unfold Bindings.held
  rw [List.filterMap_append, Multiset.coe_add]

theorem Bindings.held_cons (binding : String × Value) (back : Bindings) :
    Bindings.held (binding :: back) = binding.2.reference?.toList + back.held := by
  unfold Bindings.held
  rw [List.filterMap_cons]
  cases binding.2.reference? <;> rfl

theorem Bindings.held_singleton (binding : String × Value) :
    Bindings.held [binding] = binding.2.reference?.toList :=
  (Bindings.held_cons binding []).trans (add_zero _)

/-! ### What can be seen of references -/

namespace Snapshot

/-- The entry at a position, if the cell there is in use. -/
def entry? (snapshot : Snapshot) (position : Nat) : Option Entry :=
  match snapshot.cell? position with
  | some ⟨_, .used payload count⟩ => some ⟨position, payload, count⟩
  | _ => none

/-- All cells in use. -/
def entries (snapshot : Snapshot) : Multiset Entry :=
  ((List.range snapshot.counters.heapSize).filterMap snapshot.entry? : List Entry)

/-- All references in bindings and in the payloads of cells in use, each as often as it occurs. -/
def references (snapshot : Snapshot) : Multiset Nat :=
  snapshot.bindings.held + Entry.held snapshot.entries

variable {entries : Multiset Entry} {bindings : Bindings} {snapshot : Snapshot}

theorem position_of_entry? {position : Nat} {entry : Entry}
    (found : snapshot.entry? position = some entry) : entry.position = position := by
  unfold entry? at found
  split at found
  · cases found
    rfl
  · cases found

theorem Holds.entry?_eq_some_iff (holds : snapshot.Holds entries) {position : Nat} {entry : Entry} :
    snapshot.entry? position = some entry ↔ entry ∈ entries ∧ entry.position = position := by
  constructor
  · intro found
    have here := position_of_entry? found
    unfold entry? at found
    obtain ⟨known, rest, isHere, split, seen⟩ | ⟨-, ⟨-, next, seen⟩ | ⟨-, seen⟩⟩ :=
      holds.cell_cases position
    · rw [seen, Entry.cell] at found
      obtain ⟨place, payload, count⟩ := known
      cases isHere
      cases found
      exact ⟨split ▸ Multiset.mem_cons_self _ _, rfl⟩
    · rw [seen] at found
      cases found
    · rw [seen] at found
      cases found
  · rintro ⟨member, rfl⟩
    unfold entry?
    rw [holds.used entry member]
    rfl

/-- The entries that a heap holds are those that can be seen. -/
theorem Holds.entries_eq (holds : snapshot.Holds entries) : snapshot.entries = entries := by
  have seenOnce : snapshot.entries.Nodup := by
    refine Multiset.coe_nodup.mpr (List.Nodup.filterMap ?_ List.nodup_range)
    intro first second entry foundFirst foundSecond
    rw [← position_of_entry? foundFirst, ← position_of_entry? foundSecond]
  refine (Multiset.Nodup.ext seenOnce (Multiset.Nodup.of_map _ holds.distinct)).mpr fun entry => ?_
  unfold Snapshot.entries
  rw [Multiset.mem_coe, List.mem_filterMap]
  constructor
  · rintro ⟨position, -, found⟩
    exact (holds.entry?_eq_some_iff.mp found).1
  · intro member
    exact ⟨entry.position, List.mem_range.mpr (holds.inside _ _ (holds.used entry member)),
      holds.entry?_eq_some_iff.mpr ⟨member, rfl⟩⟩

theorem Holds.references_eq (holds : snapshot.Holds entries) (binds : snapshot.Binds bindings) :
    snapshot.references = bindings.held + Entry.held entries := by
  unfold references
  rw [holds.entries_eq, binds.bindings_eq]

end Snapshot

/-! ### Taking away what is owed -/

namespace Chain

variable {surplus : Nat → Nat} {kept : Nat → Prop} {bound : Multiset Nat} {bindings : Bindings}

open Entry in
/-- All that is owed can be taken away. -/
theorem Holds.settle {sweeping : Bool} {pending : List Nat} {chain : Chain} {heapSize : Nat}
    {entries : Multiset Entry} (holds : chain.Holds entries bindings)
    (size : chain.counters.heapSize = heapSize)
    (owes : Owes sweeping heapSize surplus kept bound pending entries) :
    ∃ left after, Chain.releaseAll sweeping pending chain = .ok () after ∧
      after.Holds left bindings ∧ Owes sweeping heapSize surplus kept bound [] left ∧
      Thins entries left ∧ chain.Moves 0 after := by
  fun_induction Chain.releaseAll sweeping pending chain generalizing entries with
  | case1 chain => exact ⟨entries, chain, rfl, holds, owes, .refl entries, .refl chain⟩
  | case2 chain position pending fault after failed =>
    have ends := holds.releaseOne sweeping position
    rw [failed] at ends
    cases ends with
    | failed refused _ _ =>
      obtain ⟨isEntry, none⟩ | ⟨absent, outside⟩ := refused
      · obtain ⟨entry, member, rfl⟩ := Multiset.mem_map.mp isEntry
        have counted := owes.counted member
        rw [none entry member rfl, if_pos rfl] at counted
        exact absurd counted (by omega)
      · obtain isEntry | ⟨isSweeping, inside⟩ := owes.targets position (by simp)
        · exact absurd isEntry absent
        · exact absurd (outside isSweeping) (by omega)
  | case3 chain position pending freed once released inductionHypothesis =>
    have ends := holds.releaseOne sweeping position
    have sized {after : Chain} (moves : chain.Moves 0 after) :
        after.counters.heapSize = heapSize := by
      rw [← size]
      exact le_antisymm moves.bounded moves.larger
    rw [released] at ends
    cases ends with
    | @lowered entry rest count _ here split counted held moves =>
      subst here split
      obtain ⟨left, after, ran, heldLeft, owesLeft, thins, movesLeft⟩ :=
        inductionHypothesis held (sized moves) (owes.lower holds.heap.distinct counted)
      exact ⟨left, after, ran, heldLeft, owesLeft, (Thins.lower (Nat.succ_pos _)).trans thins,
        moves.trans movesLeft⟩
    | @freed entry rest _ here split counted held moves =>
      subst here split
      have lowered := owes.lower holds.heap.distinct counted
      have unreferenced := lowered.balanced _ (Multiset.mem_cons_self _ _)
      have gone : entry.position ∉ bound + pending +
          Entry.held ({ entry with count := 0 } ::ₘ rest) := by
        rw [← Multiset.count_eq_zero]
        exact (Nat.add_eq_zero_iff.mp unreferenced.symm).2
      have notKept : ¬ kept entry.position := by
        intro isKept
        have positive := lowered.kept_pos isKept
        rw [Multiset.count_pos, Multiset.mem_add] at positive
        refine gone (Multiset.mem_add.mpr (positive.imp (fun bound => ?_) id))
        exact Multiset.mem_add.mpr (.inl bound)
      have inside : entry.position < heapSize := size ▸ holds.inside (by simp)
      obtain ⟨left, after, ran, heldLeft, owesLeft, thins, movesLeft⟩ :=
        inductionHypothesis held (sized moves) (lowered.free notKept (.inr gone) inside)
      exact ⟨left, after, ran, heldLeft, owesLeft, (Thins.remove entry rest).trans thins,
        moves.trans movesLeft⟩
    | skipped isSweeping absent inside =>
      exact inductionHypothesis holds size (owes.skip absent)

end Chain

end Rewind
