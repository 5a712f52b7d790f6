/-
This file reads match trees out of a store. A scene holds the captures of a match, so copying them
out gives the match tree; a tree is never deeper than the heap has cells, and so the copy is
complete.
-/

import Mathlib
import Rewind.Proofs.Matcher.Root

namespace Rewind

/-- There are no more entries than positions. -/
theorem Snapshot.Holds.card_le {snapshot : Snapshot} {entries : Multiset Entry}
    (holds : snapshot.Holds entries) : entries.card ≤ snapshot.counters.heapSize := by
  have inside : (⟨entries.map Entry.position, holds.distinct⟩ : Finset Nat) ⊆
      Finset.range snapshot.counters.heapSize := by
    intro position member
    obtain ⟨entry, present, rfl⟩ := Multiset.mem_map.mp member
    exact Finset.mem_range.mpr (holds.inside _ _ (holds.used entry present))
  have counted := Finset.card_le_card inside
  rw [Finset.card_range] at counted
  change (entries.map Entry.position).card ≤ _ at counted
  rwa [Multiset.card_map] at counted

namespace MatchTree

variable {entries : Multiset Entry} {bindings : Bindings} {store : Store} {subject : Subject}
  {blamed : NodeId}

/-- Copying a capture that is closed. -/
theorem extract_capture (stands : store.Stands entries bindings) {entry : Entry} {record : Capture}
    (member : entry ∈ entries) (isCapture : entry.payload = .capture record) {stop : Nat}
    (stopped : record.stop = some stop) {depth : Nat} {children : List MatchTree}
    (copied : record.children.mapM (extract store subject blamed depth) =
      .ok (children.map some)) :
    extract store subject blamed (depth + 1) entry.position =
      .ok (some
        { name := record.name
          start := record.start
          stop := stop
          text := subject.slice record.start stop
          children := children }) := by
  rw [extract, stands.peek member, isCapture]
  simp only [bind, Except.bind, Except.mapError, Payload.capture?, stopped, copied]
  change Except.ok (some _) = _
  rw [List.filterMap_map]
  simp only [Function.id_comp, List.filterMap_some]

mutual

theorem extract_located (stands : store.Stands entries bindings) (parent : Nat) :
    ∀ (located : Located) (depth : Nat), located.entries parent ⊆ entries →
      (located.entries parent).card ≤ depth →
        extract store subject blamed depth located.position =
          .ok (some (located.tree subject.characters))
  | .mk place name start stop children, depth, inside, deep => by
    rw [Located.entries] at inside deep
    rw [Multiset.card_cons] at deep
    obtain ⟨below, rfl⟩ : ∃ below, depth = below + 1 := ⟨depth - 1, by omega⟩
    have copied := extract_allLocated stands place children below
      (fun entry member => inside (Multiset.mem_cons_of_mem member)) (by omega)
    rw [Located.tree]
    exact extract_capture stands (inside (Multiset.mem_cons_self _ _)) rfl rfl copied

theorem extract_allLocated (stands : store.Stands entries bindings) (parent : Nat) :
    ∀ (trees : List Located) (depth : Nat), Located.entriesOfAll parent trees ⊆ entries →
      (Located.entriesOfAll parent trees).card ≤ depth →
        (trees.map Located.position).mapM (extract store subject blamed depth) =
          .ok ((Located.trees subject.characters trees).map some)
  | [], _, _, _ => rfl
  | tree :: trees, depth, inside, deep => by
    rw [Located.entriesOfAll] at inside deep
    rw [Multiset.card_add] at deep
    have first := extract_located stands parent tree depth
      (fun entry member => inside (Multiset.mem_add.mpr (.inl member))) (by omega)
    have rest := extract_allLocated stands parent trees depth
      (fun entry member => inside (Multiset.mem_add.mpr (.inr member))) (by omega)
    rw [List.map_cons, List.mapM_cons]
    simp only [bind, Except.bind, first, rest]
    rfl

end

end MatchTree

/-- The result of a run that has matched is the match tree in the store. -/
theorem World.result_eq {world : World} {matcher : Matcher} {tree : MatchTree}
    (concludes : world.Concludes (some tree) matcher) (ended : matcher.status = .ended)
    (matched : matcher.outcome = some .matched) : matcher.result = .ok (some tree) := by
  obtain ⟨floor, context, place, start, stop, closed, rests, made, isTree⟩ := concludes
  have shows := rests.poised.shows
  unfold Matcher.result
  rw [if_pos ⟨ended, matched⟩, rootMatch_eq shows]
  change MatchTree.extract matcher.store matcher.subject matcher.program.root
    (matcher.store.chain.counters.heapSize + 1) place = _
  have within : Located.entriesOfAll place closed ≤
      (Scene.ofRoot context place start (some stop) closed).entries :=
    calc Located.entriesOfAll place closed
      _ ≤ Located.entriesOfAll place closed + 0 := Multiset.le_add_right _ _
      _ ≤ Located.entriesOfAll place closed + 0 + 0 := Multiset.le_add_right _ _
      _ ≤ _ := Multiset.le_cons_self _ _
      _ ≤ _ := Multiset.le_cons_self _ _
  have deep : (Located.entriesOfAll place closed).card ≤ matcher.store.chain.counters.heapSize :=
    (Multiset.card_le_card within).trans shows.chain.heap.card_le
  have copied : (closed.map Located.position ++ (none : Option Nat).toList).mapM
      (MatchTree.extract matcher.store matcher.subject matcher.program.root
        matcher.store.chain.counters.heapSize) =
      .ok ((Located.trees matcher.subject.characters closed).map some) := by
    rw [Option.toList_none, List.append_nil]
    exact MatchTree.extract_allLocated shows place closed _ (Multiset.subset_of_le within) deep
  have extracted := MatchTree.extract_capture shows
    (Multiset.mem_cons_self (Scene.ofRoot context place start (some stop) closed).innerEntry _)
    rfl rfl copied
  rw [isTree, ← made, ← rests.characters]
  exact extracted

end Rewind
