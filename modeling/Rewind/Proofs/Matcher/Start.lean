/-
This file follows a run from its preparation on. The store of a prepared run shows an open root
match and nothing else, and from there the run of a compiled pattern leads to the first match of the
pattern.
-/

import Mathlib
import Rewind.Proofs.Matcher.Root

namespace Rewind

/-! ### Compiled patterns -/

/-- Compiling succeeds. The root runs a node that answers with the ways of the pattern. -/
theorem Pattern.compile_spec (pattern : Pattern) (search : Bool) :
    ∃ program child, pattern.compile search = .ok program ∧
      program.node? program.root = some (.root child search) ∧
      program.exit? child = some (program.root, .childDone) ∧
      program.exit? program.root = none ∧
      ∀ world : World, world.program = program → world.Admits pattern.expr.mins →
        world.Computes child (pattern.expr.ways world.text) := by
  obtain ⟨child, between, lowering, grows, computed⟩ := pattern.expr.lowers #[]
  obtain ⟨after, adding, grown, kept⟩ := grows.add (.root child search) (doneLinks [child]) rfl
  have keeps : (after.toProgram between.size).Keeps 0 [between.size] after :=
    ⟨fun _ _ _ => rfl, fun _ _ _ _ => rfl⟩
  obtain ⟨keepsBody, found, linked⟩ := kept _ keeps
  refine ⟨after.toProgram between.size, child, ?_, found,
    Expr.exit_of_link (linked (child, .childDone) List.mem_cons_self), ?_, ?_⟩
  · unfold Pattern.compile
    simp only [bind, Except.bind, lowering, adding]
    rfl
  · have free := grown.free between.size List.mem_cons_self
    unfold Program.exit?
    change (after[between.size]?.bind LinkedNode.link).map _ = _
    rw [free]
    rfl
  · intro world same admits
    rw [← same] at keepsBody
    exact computed world keepsBody admits

/-! ### Prepared runs -/

/-- A store that was cleared holds nothing. -/
theorem Store.stands_clear {store : Store} (wiped : store.chain.pools.Wiped)
    (idle : store.sweeping = false) : store.clear.Stands 0 [] := by
  obtain ⟨heap, stack⟩ := Generation.holds_oldest store.nextId store.settings.sweepThreshold
  exact ⟨⟨heap, stack, Generation.wiped_foldl_recycle wiped _⟩, idle⟩

/-- The root match and the global object that leads to it are stored and bound. -/
theorem Store.Stands.openRoot {store : Store} (stands : store.Stands 0 []) :
    ∃ place context first second third after,
      Store.alloc (.capture { name := Matcher.rootName, parent := none, start := 0 }) store =
        .ok place first ∧
      Store.alloc (.object [(Matcher.rootName, .ref place)]) first = .ok context second ∧
      Store.push Matcher.globalName (.ref context) second = .ok () third ∧
      Store.push Matcher.openName (.ref place) third = .ok () after ∧
      after.Shows (.ofRoot context place 0 none []) ∧ store.Moves 2 after := by
  obtain ⟨place, first, allocating, stood, moves⟩ := stands.alloc
    (.capture { name := Matcher.rootName, parent := none, start := 0 })
    (fun _ member => nomatch member)
  rw [Multiset.map_zero] at stood
  obtain ⟨context, second, allocatingNext, stoodNext, movesNext⟩ := stood.alloc
    (.object [(Matcher.rootName, .ref place)]) (fun position member => by
      cases List.mem_singleton.mp member
      exact Multiset.mem_map_of_mem _ (Multiset.mem_cons_self _ _))
  change second.Stands (_ ::ₘ Multiset.map (Entry.bump [place]) _) _ at stoodNext
  rw [Chain.map_bump_one rfl stood.chain.heap.distinct] at stoodNext
  obtain ⟨third, pushing, stoodThird, movesThird⟩ := stoodNext.pushRef Matcher.globalName
  rw [Multiset.cons_swap] at stoodThird
  obtain ⟨after, pushingNext, stoodAfter, movesAfter⟩ := stoodThird.pushRef Matcher.openName
  refine ⟨place, context, first, second, third, after, allocating, allocatingNext, pushing,
    pushingNext, ?_, ((moves.trans movesNext).trans movesThird).trans movesAfter⟩
  exact stoodAfter

namespace World

variable {world : World} {matcher : Matcher}

/-- A prepared run is about to enter a node at the start of the text. -/
theorem prepare_spec (world : World) (program : matcher.program = world.program)
    (wiped : matcher.store.chain.pools.Wiped) (idle : matcher.store.sweeping = false)
    (entry : NodeId) (text : List Char) (same : text.toArray = world.text) :
    ∃ context place after, Matcher.prepare entry text matcher = .ok () after ∧
      after.Acts world after.ticks { older := [], resume := none } (.ofRoot context place 0 none [])
        (some (entry, .enter)) 0 := by
  obtain ⟨place, context, first, second, third, store, allocating, allocatingNext, pushing,
    pushingNext, shows, moves⟩ := (Store.stands_clear wiped idle).openRoot
  have rooted : Generation.Layered matcher.store.clear.chain.generations :=
    ⟨fun index inside => absurd inside (Nat.not_lt_zero index), trivial⟩
  have poised :
      store.Poised { older := [], resume := none } (.ofRoot context place 0 none []) 3 := by
    refine ⟨shows, moves.chain.keeps.older, moves.chain.keeps.resume,
      ⟨moves.chain.keeps.rooted rooted.1, moves.chain.keeps.older ▸ rooted.2⟩,
      moves.calm (fun requested => Bool.noConfusion requested), fun generation member => ?_⟩
    have alone : store.chain.older = [] := moves.chain.keeps.older
    unfold Chain.generations at member
    rw [alone] at member
    rw [List.mem_singleton.mp member]
    have small : store.chain.counters.heapSize ≤ 0 + 2 := moves.chain.bounded
    exact small.trans (Nat.le_succ 2)
  let opened : Matcher :=
    { matcher with store := store, subject := .ofList text, ticks := 0, outcome := none }
  refine ⟨context, place,
    { (opened.note (.started text.length entry)).goto entry .enter with direction := .forward }, ?_,
    ⟨program, same, rfl, rfl, rfl, rfl, ?_⟩⟩
  · unfold Matcher.prepare
    rw [Action.bind_of_ok (rfl : (modify _ : MatcherM PUnit) matcher = .ok ⟨⟩ _),
      Action.bind_of_ok (onStore_of_ok allocating),
      Action.bind_of_ok (onStore_of_ok allocatingNext),
      Action.bind_of_ok (onStore_of_ok pushing), Action.bind_of_ok (onStore_of_ok pushingNext)]
    rfl
  · exact poised.alike rfl rfl rfl

/-- From the start a compiled pattern leads to its first match. -/
theorem leads_firstMatch (pattern : Pattern) {search : Bool} {text : List Char} {child : NodeId}
    {context place : Nat}
    (found : world.program.node? world.program.root = some (.root child search))
    (linked : world.program.exit? child = some (world.program.root, .childDone))
    (last : world.program.exit? world.program.root = none) (same : text.toArray = world.text)
    (computed : world.Computes child (pattern.expr.ways world.text))
    (acts : matcher.Acts world matcher.ticks { older := [], resume := none }
      (.ofRoot context place 0 none []) (some (world.program.root, .enter)) 0) :
    world.Leads (world.Concludes (pattern.firstMatch search text)) matcher := by
  have attempts : world.Attempts world.program.root child search search
      { older := [], resume := none } 0 matcher :=
    ⟨.enter, _, 0, acts, fun other acts => ⟨context, place, 0, none, _, other, acts, rfl⟩⟩
  unfold Pattern.firstMatch
  rw [same]
  cases search with
  | false =>
    have leads := leads_attempt found computed linked last attempts
    simp only [Bool.false_eq_true, if_false]
    rw [findSome?_cons_eq_or, List.findSome?_nil, Option.or_none]
    exact leads
  | true =>
    have size : text.length = world.text.size := by rw [← same, List.size_toArray]
    have leads := leads_search found computed linked last world.text.size (Nat.zero_add _) attempts
    simp only [if_true]
    rw [List.range_eq_range', size]
    exact leads

end World

end Rewind
