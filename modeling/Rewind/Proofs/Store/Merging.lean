/-
This file proves that merging generations changes nothing that is seen. Merging goes from the oldest
generation up, so for a while the newer ones stand on a merged one; the copies of cells cause no
trouble, but a merged generation has lost the levels above its top. A newer generation could only
miss them if it showed a level that it neither owns nor found below. No generation of a store does.
-/

import Mathlib
import Rewind.Proofs.Store.Operations

namespace Rewind

/-! ### Generations that stand on each other -/

/-- Every generation shows only levels that it owns or that the one below shows. -/
def Generation.Layered : List Generation → Prop
  | [] => True
  | generation :: older => generation.Rooted older ∧ Layered older

/-- Two lists of generations that newer generations can stand on alike. -/
structure Generation.Equivalent (first second : List Generation) : Prop where
  cell : ∀ position, (findCell? position first).map Prod.fst =
    (findCell? position second).map Prod.fst
  counters : first.head?.map counters = second.head?.map counters
  level : ∀ top ∈ first.head?, ∀ index < top.counters.levelCount,
    findLevel? index first = findLevel? index second

namespace Generation

theorem layered_drop {generations : List Generation} (layered : Layered generations)
    (count : Nat) : Layered (generations.drop count) := by
  induction count generalizing generations with
  | zero => exact layered
  | succ count inductionHypothesis =>
    cases generations with
    | nil => exact layered
    | cons generation older => exact inductionHypothesis layered.2

theorem Equivalent.refl (generations : List Generation) : Equivalent generations generations :=
  ⟨fun _ => rfl, rfl, fun _ _ _ _ => rfl⟩

theorem Equivalent.trans {first second third : List Generation} (left : Equivalent first second)
    (right : Equivalent second third) : Equivalent first third where
  cell position := (left.cell position).trans (right.cell position)
  counters := left.counters.trans right.counters
  level top isTop index inside := by
    rw [left.level top isTop index inside]
    have same : second.head?.map Generation.counters = some top.counters := by
      rw [← left.counters, Option.mem_def.mp isTop]
      rfl
    obtain ⟨other, isOther, counted⟩ := Option.map_eq_some_iff.mp same
    exact right.level other isOther index (counted ▸ inside)

/-- What is seen from a generation is the same on both. -/
theorem Equivalent.over_eq {tail tail' : Generation} {older older' : List Generation}
    (equivalent : Equivalent (tail :: older) (tail' :: older')) :
    tail.over older = tail'.over older' := by
  have counted : tail.counters = tail'.counters := Option.some.inj equivalent.counters
  refine Snapshot.ext (funext fun position => ?_) (funext fun index => ?_) counted
  · simp only [Generation.over, equivalent.cell position, counted]
  · simp only [Generation.over, ← counted]
    split
    · rename_i inside
      exact equivalent.level tail rfl index inside
    · rfl

theorem Equivalent.rooted {generation : Generation} {first second : List Generation}
    (equivalent : Equivalent first second) (rooted : generation.Rooted first) :
    generation.Rooted second := by
  intro index inside
  obtain own | ⟨below, isTop, deeper⟩ := rooted index inside
  · exact .inl own
  · have same : second.head?.map Generation.counters = some below.counters := by
      rw [← equivalent.counters, Option.mem_def.mp isTop]
      rfl
    obtain ⟨other, isOther, counted⟩ := Option.map_eq_some_iff.mp same
    exact .inr ⟨other, isOther, counted ▸ deeper⟩

/-- A generation may change what it stands on. -/
theorem Equivalent.cons {generation : Generation} {first second : List Generation}
    (equivalent : Equivalent first second) (rooted : generation.Rooted first) :
    Equivalent (generation :: first) (generation :: second) where
  cell position := by
    simp only [findCell?]
    cases generation.cells[position]? with
    | some cell => rfl
    | none =>
      have same := equivalent.cell position
      simp only [Option.map_map]
      exact same
  counters := rfl
  level top isTop index inside := by
    cases isTop
    simp only [findLevel?]
    obtain own | ⟨below, isBelow, deeper⟩ := rooted index inside
    · obtain ⟨level, found⟩ := Option.isSome_iff_exists.mp own
      rw [found]
    · rw [equivalent.level below isBelow index deeper]

theorem Equivalent.append {newer first second : List Generation}
    (equivalent : Equivalent first second) (layered : Layered (newer ++ first)) :
    Equivalent (newer ++ first) (newer ++ second) ∧
      (Layered second → Layered (newer ++ second)) := by
  induction newer with
  | nil => exact ⟨equivalent, fun layered => layered⟩
  | cons generation newer inductionHypothesis =>
    obtain ⟨lower, rest⟩ := inductionHypothesis layered.2
    exact ⟨lower.cons layered.1, fun below => ⟨lower.rooted layered.1, rest below⟩⟩

/-! ### Merging one generation into the one below -/

theorem cells_mergeInto (newer target : Generation) (pools : Pools) (position : Nat) :
    (newer.mergeInto target pools).1.cells[position]? =
      newer.cells[position]?.or target.cells[position]? := by
  change (target.cells ∪ newer.cells)[position]? = _
  exact Std.TreeMap.getElem?_union

theorem levels_mergeInto (newer target : Generation) (pools : Pools) (index : Nat) :
    (newer.mergeInto target pools).1.levels[index]? =
      if index < newer.counters.levelCount then
        newer.levels[index]?.or target.levels[index]?
      else none := by
  change ((target.levels ∪ newer.levels).filter fun index _ =>
    decide (index < newer.counters.levelCount))[index]? = _
  rw [Overlay.getElem?_filter_key, Std.TreeMap.getElem?_union]
  simp only [decide_eq_true_eq]

theorem equivalent_mergeInto (newer target : Generation) (older : List Generation)
    (pools : Pools) :
    Equivalent (newer :: target :: older) ((newer.mergeInto target pools).1 :: older) where
  cell position := by
    simp only [findCell?, cells_mergeInto]
    cases newer.cells[position]? with
    | some cell => rfl
    | none =>
      cases target.cells[position]? with
      | some cell => rfl
      | none =>
        simp only [Option.map_map, Option.none_or]
        rfl
  counters := rfl
  level top isTop index inside := by
    cases isTop
    simp only [findLevel?, levels_mergeInto, if_pos inside]
    cases newer.levels[index]? with
    | some level => rfl
    | none => cases target.levels[index]? <;> rfl

theorem layered_mergeInto {newer target : Generation} {older : List Generation}
    (layered : Layered (newer :: target :: older)) (pools : Pools) :
    Layered ((newer.mergeInto target pools).1 :: older) := by
  obtain ⟨rooted, rootedBelow, rest⟩ := layered
  refine ⟨fun index inside => ?_, rest⟩
  have shown : index < newer.counters.levelCount := inside
  rw [levels_mergeInto, if_pos shown]
  obtain own | ⟨below, isBelow, deeper⟩ := rooted index shown
  · exact .inl (by rw [Option.isSome_or, own, Bool.true_or])
  · cases isBelow
    obtain own | lower := rootedBelow index deeper
    · exact .inl (by rw [Option.isSome_or, own, Bool.or_true])
    · exact .inr lower

/-! ### Merging many -/

/-- Merging from the oldest generation up leads to an equivalent list. -/
theorem equivalent_foldl_mergeInto (newer : List Generation) (target : Generation)
    (older : List Generation) (pools : Pools)
    (layered : Layered (newer.reverse ++ target :: older)) :
    let merged := newer.foldl (fun merged generation => generation.mergeInto merged.1 merged.2)
      (target, pools)
    Equivalent (newer.reverse ++ target :: older) (merged.1 :: older) ∧
      Layered (merged.1 :: older) := by
  induction newer generalizing target pools with
  | nil => exact ⟨.refl _, layered⟩
  | cons generation newer inductionHypothesis =>
    rw [List.reverse_cons, List.append_assoc, List.singleton_append] at layered ⊢
    have below := layered_drop layered newer.reverse.length
    rw [List.drop_left] at below
    obtain ⟨equivalent, upper⟩ :=
      (equivalent_mergeInto generation target older pools).append layered
    obtain ⟨merged, still⟩ := inductionHypothesis (generation.mergeInto target pools).1
      (generation.mergeInto target pools).2 (upper (layered_mergeInto below pools))
    exact ⟨equivalent.trans merged, still⟩

end Generation

/-- Merging changes nothing that is seen. -/
theorem Chain.mergeTo_spec {chain : Chain} (layered : Generation.Layered chain.generations)
    (depth : Nat) :
    (chain.mergeTo depth).snapshot = chain.snapshot ∧
      Generation.Layered (chain.mergeTo depth).generations := by
  unfold mergeTo
  split
  · exact ⟨rfl, layered⟩
  · rename_i target older dropped
    have whole : chain.generations = ((chain.generations.take (chain.older.length - depth)).reverse
        ).reverse ++ target :: older := by
      rw [List.reverse_reverse, ← dropped, List.take_append_drop]
    generalize (chain.generations.take (chain.older.length - depth)).reverse = newer at whole
    rw [whole] at layered
    obtain ⟨equivalent, still⟩ :=
      Generation.equivalent_foldl_mergeInto newer target older chain.pools layered
    refine ⟨?_, still⟩
    rw [← whole] at equivalent
    exact equivalent.over_eq.symm

/-! ### Stores stay layered -/

/-- A generation that owns nothing yet shows what the one below shows. -/
theorem Generation.rooted_successor (generation : Generation) (older : List Generation) (id : Nat)
    (resume : ResumePoint) : (generation.successor id resume).Rooted (generation :: older) :=
  fun _ inside => .inr ⟨generation, rfl, inside⟩

theorem Chain.layered_discardTail {chain : Chain} (layered : Generation.Layered chain.generations) :
    Generation.Layered chain.discardTail.generations := by
  unfold discardTail
  split
  · exact layered
  · rename_i tail older lower
    have below := layered.2
    rw [lower] at below
    exact below

theorem Chain.layered_discardTo {chain : Chain} (layered : Generation.Layered chain.generations)
    (depth : Nat) : Generation.Layered (chain.discardTo depth).generations := by
  unfold discardTo
  split
  · exact layered
  · rename_i tail older dropped
    have below := Generation.layered_drop layered (chain.older.length - depth)
    rw [dropped] at below
    exact below

theorem Operation.layered_perform (operation : Operation) {store : Store}
    (wiped : store.chain.pools.Wiped) (layered : Generation.Layered store.chain.generations) :
    Generation.Layered (Action.reached (operation.perform store)).chain.generations := by
  obtain ⟨made, rfl⟩ | ⟨reshaped, -⟩ := operation.perform_cases store
  · have keeps := (made.keeps_perform wiped).chain
    exact ⟨keeps.rooted layered.1, keeps.older ▸ layered.2⟩
  · generalize (Action.reached (operation.perform store)).chain = after at reshaped
    cases reshaped with
    | same => exact layered
    | extended resume => exact ⟨Generation.rooted_successor _ _ _ resume, layered⟩
    | shortened => exact Chain.layered_discardTail layered
    | discarded depth => exact Chain.layered_discardTo layered depth
    | merged depth => exact (Chain.mergeTo_spec layered depth).2
    | cleared => exact ⟨fun index inside => absurd inside (Nat.not_lt_zero index), trivial⟩

theorem Store.layered_empty (settings : StoreSettings) :
    Generation.Layered (empty settings).chain.generations :=
  ⟨fun index inside => absurd inside (Nat.not_lt_zero index), trivial⟩

theorem Store.layered_after {store : Store} (wiped : store.chain.pools.Wiped)
    (layered : Generation.Layered store.chain.generations) (operations : List Operation) :
    Generation.Layered (store.after operations).chain.generations := by
  induction operations generalizing store with
  | nil => exact layered
  | cons operation operations inductionHypothesis =>
    exact inductionHypothesis (operation.wiped_perform wiped)
      (operation.layered_perform wiped layered)

end Rewind
