/-
This file adds to the scene of a store what lies below the newest generation. Going back is only
ever to the generation below the newest one, so all a step has to know about the chain is the list
of older generations and where the newest one resumes. Freezing saves a scene in a floor, rolling
back brings it back, and collapsing returns to the floor that was there before, keeping the scene.
-/

import Mathlib
import Rewind.Proofs.Matcher.SceneChanges
import Rewind.Proofs.Store.Transparency

namespace Rewind

/-- What a run falls back on when it fails: the generations below the newest one, and the point
where the newest one resumes. -/
structure Floor where
  older : List Generation
  resume : Option ResumePoint

/-- A store that shows a scene on a floor. No generation has a heap larger than the limit. -/
structure Store.Poised (floor : Floor) (scene : Scene) (limit : Nat) (store : Store) : Prop where
  shows : store.Shows scene
  older : store.chain.older = floor.older
  resume : store.chain.tail.resume = floor.resume
  layered : Generation.Layered store.chain.generations
  calm : store.Calm
  bounded : ∀ generation ∈ store.chain.generations, generation.counters.heapSize ≤ limit

/-- The newest generation of a floor brings a scene back, on the floor below. -/
structure Floor.Saves (floor : Floor) (scene : Scene) (saved : Generation) : Prop where
  heap : (saved.over floor.older).Holds scene.entries
  stack : (saved.over floor.older).Binds scene.bindings
  resume : saved.resume = floor.resume
  layered : Generation.Layered (saved :: floor.older)

namespace Store

variable {floor : Floor} {scene changed : Scene} {limit : Nat} {store after : Store}

theorem Poised.mono (poised : store.Poised floor scene limit) {larger : Nat}
    (fits : limit ≤ larger) : store.Poised floor scene larger :=
  { poised with
    bounded := fun generation member => (poised.bounded generation member).trans fits }

/-- Only the chain and what is asked of the collector matter. -/
theorem Poised.alike (poised : store.Poised floor scene limit) (chain : after.chain = store.chain)
    (sweeping : after.sweeping = store.sweeping)
    (requested : after.sweepRequested = store.sweepRequested) : after.Poised floor scene limit := by
  obtain ⟨⟨holds, idle⟩, older, resume, layered, calm, bounded⟩ := poised
  rw [← chain] at holds older resume layered bounded
  refine ⟨⟨holds, sweeping.trans idle⟩, older, resume, layered, ?_, bounded⟩
  unfold Store.Calm at calm ⊢
  rw [chain, requested]
  exact calm

/-- The operations of a step stay on the floor. -/
theorem Poised.moves (poised : store.Poised floor scene limit) {growth : Nat}
    (shows : after.Shows changed) (moves : store.Moves growth after) :
    after.Poised floor changed (limit + growth) where
  shows := shows
  older := moves.chain.keeps.older.trans poised.older
  resume := moves.chain.keeps.resume.trans poised.resume
  layered := ⟨moves.chain.keeps.rooted poised.layered.1,
    moves.chain.keeps.older ▸ poised.layered.2⟩
  calm := moves.calm poised.calm
  bounded := by
    intro generation member
    obtain isTail | isOlder := List.mem_cons.mp member
    · have before := poised.bounded store.chain.tail List.mem_cons_self
      have grown := moves.chain.bounded
      rw [isTail]
      change after.chain.counters.heapSize ≤ _
      change store.chain.counters.heapSize ≤ _ at before
      omega
    · rw [moves.chain.keeps.older] at isOlder
      have before := poised.bounded generation (List.mem_cons_of_mem _ isOlder)
      omega

/-- So does the collector. -/
theorem Poised.poll (poised : store.Poised floor scene limit) (collector : Collector) :
    (∃ result after, collector.poll store = .ok result after ∧
        after.Poised floor scene limit ∧ after.sweepRequested = false) ∨
      ∃ after, collector.poll store = .error (.defect .thresholdOverflow) after ∧
        0x10000000000000000 ≤ limit + 1 := by
  obtain ⟨result, after, polling, stood, tended⟩ | ⟨after, failed, tooLarge⟩ :=
    poised.shows.poll scene.reached poised.calm collector
  · refine .inl ⟨result, after, polling, ⟨stood, ?_, ?_, ?_, ?_, ?_⟩, tended.quiet⟩
    · exact tended.keeps.older.trans poised.older
    · exact tended.keeps.resume.trans poised.resume
    · exact ⟨tended.keeps.rooted poised.layered.1, tended.keeps.older ▸ poised.layered.2⟩
    · intro requested
      rw [tended.quiet] at requested
      cases requested
    · intro generation member
      obtain isTail | isOlder := List.mem_cons.mp member
      · rw [isTail]
        change after.chain.counters.heapSize ≤ _
        rw [tended.heapSize]
        exact poised.bounded store.chain.tail List.mem_cons_self
      · rw [tended.keeps.older] at isOlder
        exact poised.bounded generation (List.mem_cons_of_mem _ isOlder)
  · have large := poised.bounded store.chain.tail List.mem_cons_self
    change store.chain.counters.heapSize ≤ _ at large
    exact .inr ⟨after, failed, by omega⟩

/-! ### Freezing and rolling back -/

/-- Freezing saves the scene, just as it is seen. -/
theorem Poised.freeze (poised : store.Poised floor scene limit) (resume : ResumePoint) :
    ∃ saved after, store.freeze resume =
        ({ id := saved.id, depth := floor.older.length, successor := store.nextId }, after) ∧
      floor.Saves scene saved ∧ saved.over floor.older = store.chain.snapshot ∧
      after.Poised { older := saved :: floor.older, resume := some resume } scene limit ∧
      after.sweepRequested = store.sweepRequested := by
  obtain ⟨⟨⟨heap, stack, wiped⟩, idle⟩, older, resumes, layered, calm, bounded⟩ := poised
  refine ⟨store.chain.tail, (store.freeze resume).2, ?_, ⟨?_, ?_, resumes, ?_⟩,
    congrArg _ older.symm, ⟨⟨⟨?_, ?_, wiped⟩, idle⟩, ?_, rfl, ?_, calm, ?_⟩, rfl⟩
  · rw [← older]
    rfl
  · rw [← older]
    exact heap
  · rw [← older]
    exact stack
  · rw [← older]
    exact layered
  · change (store.chain.extend store.nextId resume).snapshot.Holds _
    rw [snapshot_extend]
    exact heap
  · change (store.chain.extend store.nextId resume).snapshot.Binds _
    rw [snapshot_extend]
    exact stack
  · rw [← older]
    rfl
  · exact ⟨Generation.rooted_successor _ _ _ resume, layered⟩
  · intro generation member
    obtain isTail | isOlder := List.mem_cons.mp member
    · rw [isTail]
      exact bounded store.chain.tail List.mem_cons_self
    · exact bounded generation isOlder

/-- Rolling back brings the saved scene back. -/
theorem rollback_of_saves {saved : Generation} (saves : floor.Saves scene saved)
    (older : store.chain.older = saved :: floor.older) (wiped : store.chain.pools.Wiped)
    (idle : store.sweeping = false) (quiet : store.sweepRequested = false)
    (bounded : ∀ generation ∈ saved :: floor.older, generation.counters.heapSize ≤ limit) :
    ∃ after, store.rollback = (store.chain.tail.resume, after) ∧
      after.Poised floor scene limit ∧ after.sweepRequested = false := by
  have chain : store.chain.discardTail =
      { tail := saved
        older := floor.older
        pools := store.chain.tail.recycle store.chain.pools } := by
    unfold Chain.discardTail
    rw [older]
  have rolled : store.rollback = (store.chain.tail.resume,
      { store with chain := store.chain.discardTail }.note (.rolledBack store.chain.tail.id)) := by
    unfold Store.rollback
    rw [older]
  refine ⟨_, rolled, ⟨⟨⟨?_, ?_, ?_⟩, idle⟩, ?_, ?_, ?_, ?_, ?_⟩, quiet⟩
  · change store.chain.discardTail.snapshot.Holds _
    rw [chain]
    exact saves.heap
  · change store.chain.discardTail.snapshot.Binds _
    rw [chain]
    exact saves.stack
  · exact Chain.wiped_discardTail wiped
  · change store.chain.discardTail.older = _
    rw [chain]
  · change store.chain.discardTail.tail.resume = _
    rw [chain]
    exact saves.resume
  · change Generation.Layered store.chain.discardTail.generations
    rw [chain]
    exact saves.layered
  · intro requested
    change store.sweepRequested = true at requested
    rw [quiet] at requested
    cases requested
  · change ∀ generation ∈ store.chain.discardTail.generations, _
    rw [chain]
    exact bounded

/-! ### Collapsing -/

/-- A generation that is still on the floor is found at its depth. -/
theorem generation_on_floor (older : store.chain.older = floor.older) {saved : Generation}
    {below : List Generation} (onFloor : saved :: below <:+ floor.older) :
    below.length ≤ store.chain.older.length ∧
      store.chain.generations.drop (store.chain.older.length - below.length) = saved :: below := by
  obtain ⟨newer, whole⟩ := onFloor
  have split : store.chain.older = newer ++ saved :: below := older.trans whole.symm
  have size : store.chain.older.length = newer.length + (below.length + 1) := by
    rw [split, List.length_append, List.length_cons]
  have distance : store.chain.older.length - below.length =
      (store.chain.tail :: newer).length := by
    rw [size, List.length_cons]
    omega
  refine ⟨by omega, ?_⟩
  rw [distance]
  change (store.chain.tail :: store.chain.older).drop _ = _
  rw [split, ← List.cons_append, List.drop_left]

/-- Collapsing to a generation of the floor keeps the scene and returns to what is below. -/
theorem Poised.collapse (poised : store.Poised floor scene limit) {saved : Generation}
    {below : List Generation} (onFloor : saved :: below <:+ floor.older) (successor : Nat) :
    ∃ after, Store.collapse { id := saved.id, depth := below.length, successor := successor }
        store = .ok () after ∧
      after.Poised { older := below, resume := saved.resume } scene limit ∧
      after.sweepRequested = store.sweepRequested := by
  obtain ⟨inside, dropped⟩ := generation_on_floor poised.older onFloor
  have held : store.holds { id := saved.id, depth := below.length, successor := successor } := by
    unfold Store.holds Chain.generationAt?
    rw [if_pos inside, ← List.head?_drop, dropped]
    exact beq_self_eq_true saved.id
  obtain ⟨-, absent⟩ | ⟨-, merged, merging, chain, -, -, sweeping, requested⟩ :=
    store.collapse_cases { id := saved.id, depth := below.length, successor := successor }
  · rw [held] at absent
    cases absent
  obtain ⟨same, layered⟩ := Chain.mergeTo_spec poised.layered below.length
  obtain ⟨target, rest, droppedTo, older, -, resume⟩ := mergeTo_top inside
  rw [dropped] at droppedTo
  cases droppedTo
  have counters : merged.chain.counters = store.chain.counters := by
    rw [chain, ← Chain.snapshot_counters, same]
    rfl
  refine ⟨merged, merging, ⟨⟨⟨?_, ?_, ?_⟩, ?_⟩, ?_, ?_, ?_, ?_, ?_⟩, requested⟩
  · rw [chain, same]
    exact poised.shows.chain.heap
  · rw [chain, same]
    exact poised.shows.chain.stack
  · rw [chain]
    exact Chain.wiped_mergeTo poised.shows.chain.wiped _
  · rw [sweeping]
    exact poised.shows.idle
  · rw [chain]
    exact older
  · rw [chain]
    exact resume
  · rw [chain]
    exact layered
  · intro isRequested
    rw [requested] at isRequested
    rw [counters]
    exact poised.calm isRequested
  · intro generation member
    obtain isTail | isOlder := List.mem_cons.mp member
    · rw [isTail]
      change merged.chain.counters.heapSize ≤ _
      rw [counters]
      exact poised.bounded store.chain.tail List.mem_cons_self
    · rw [chain, older] at isOlder
      refine poised.bounded generation (List.mem_cons_of_mem _ ?_)
      rw [poised.older]
      exact onFloor.subset (List.mem_cons_of_mem _ isOlder)

end Store

end Rewind
