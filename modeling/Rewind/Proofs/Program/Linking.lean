/-
This file describes arenas while they grow. Lowering only adds nodes behind those that are there,
and returns some of the new ones without a link; adding a node links these to it. A program that is
made of a larger arena keeps what a smaller one had, except for the links of the nodes that were
still free.
-/

import Mathlib
import Rewind.Program.Lowering

namespace Rewind

/-- New nodes were added to an arena, some of which are free to be linked. -/
structure Arena.Grows (before : Arena) (roots : List NodeId) (after : Arena) : Prop where
  larger : before.size ≤ after.size
  same : ∀ id < before.size, after[id]? = before[id]?
  fresh : ∀ id ∈ roots, before.size ≤ id ∧ id < after.size
  free : ∀ id ∈ roots, after[id]?.bind LinkedNode.link = none
  distinct : roots.Nodup

/-- A program has the nodes of an arena from one on, linked alike but for some. -/
structure Program.Keeps (program : Program) (lowest : NodeId)
    (roots : List NodeId) (arena : Arena) :
    Prop where
  node : ∀ id, lowest ≤ id → id < arena.size →
    program.node? id = arena[id]?.map LinkedNode.node
  link : ∀ id, lowest ≤ id → id < arena.size → id ∉ roots →
    program.link? id = arena[id]?.bind LinkedNode.link

namespace Arena

variable {first second third : Arena} {roots more : List NodeId}

theorem Grows.refl (arena : Arena) : arena.Grows [] arena where
  larger := Nat.le_refl _
  same _ _ := rfl
  fresh _ member := nomatch member
  free _ member := nomatch member
  distinct := .nil

theorem Grows.append (left : first.Grows roots second) (right : second.Grows more third) :
    first.Grows (roots ++ more) third where
  larger := left.larger.trans right.larger
  same id inside := (right.same id (inside.trans_le left.larger)).trans (left.same id inside)
  fresh id member := by
    obtain before | after := List.mem_append.mp member
    · obtain ⟨above, below⟩ := left.fresh id before
      exact ⟨above, below.trans_le right.larger⟩
    · obtain ⟨above, below⟩ := right.fresh id after
      exact ⟨left.larger.trans above, below⟩
  free id member := by
    obtain before | after := List.mem_append.mp member
    · rw [right.same id (left.fresh id before).2]
      exact left.free id before
    · exact right.free id after
  distinct := by
    refine List.nodup_append'.mpr ⟨left.distinct, right.distinct, fun id before after => ?_⟩
    have below := (left.fresh id before).2
    have above := (right.fresh id after).1
    exact absurd below (Nat.not_lt.mpr above)

/-- What a program keeps of two growths it keeps of each. -/
theorem Grows.keeps {program : Program} (left : first.Grows roots second)
    (right : second.Grows more third)
    (keeps : program.Keeps first.size (roots ++ more) third) :
    program.Keeps first.size roots second ∧ program.Keeps second.size more third := by
  refine ⟨⟨fun id above below => ?_, fun id above below absent => ?_⟩,
    ⟨fun id above below => ?_, fun id above below absent => ?_⟩⟩
  · rw [keeps.node id above (below.trans_le right.larger), right.same id below]
  · rw [keeps.link id above (below.trans_le right.larger), right.same id below]
    intro member
    obtain before | after := List.mem_append.mp member
    · exact absent before
    · exact absurd below (Nat.not_lt.mpr (right.fresh id after).1)
  · exact keeps.node id (left.larger.trans above) below
  · refine keeps.link id (left.larger.trans above) below fun member => ?_
    obtain before | after := List.mem_append.mp member
    · exact absurd (left.fresh id before).2 (Nat.not_lt.mpr above)
    · exact absent after

/-! ### Adding a node -/

/-- Linking some nodes changes their links and nothing else. -/
structure Links (parent : NodeId) (links : List (NodeId × Signal)) (before after : Arena) :
    Prop where
  size : after.size = before.size
  node : ∀ id : Nat, after[id]?.map LinkedNode.node = before[id]?.map LinkedNode.node
  others : ∀ id : Nat, id ∉ links.map Prod.fst → after[id]? = before[id]?
  linked : ∀ link ∈ links, after[link.1]?.bind LinkedNode.link =
    some { parent := parent, signal := link.2 }

/-- A node that is there and free can be linked. -/
theorem attach_of_free {arena : Arena} (parent : NodeId) {child : NodeId × Signal}
    (inside : child.1 < arena.size) (free : arena[child.1]?.bind LinkedNode.link = none) :
    ∃ after, arena.attach parent child = .ok after ∧ Links parent [child] arena after := by
  obtain ⟨linked, found⟩ : ∃ linked, arena[child.1]? = some linked :=
    ⟨_, Array.getElem?_eq_getElem inside⟩
  rw [found, Option.bind_some] at free
  refine ⟨arena.setIfInBounds child.1
      { linked with link := some { parent := parent, signal := child.2 } }, ?_,
    ⟨Array.size_setIfInBounds, fun id => ?_, fun id absent => ?_, fun link member => ?_⟩⟩
  · unfold attach
    rw [found]
    simp only [free]
  · rw [Array.getElem?_setIfInBounds]
    by_cases same : child.1 = id
    · subst same
      rw [if_pos rfl, if_pos inside, found]
      rfl
    · rw [if_neg same]
  · rw [Array.getElem?_setIfInBounds, if_neg]
    exact fun same => absent (same ▸ List.mem_singleton_self _)
  · cases List.mem_singleton.mp member
    rw [Array.getElem?_setIfInBounds, if_pos rfl, if_pos inside]
    rfl

/-- So can several, one after the other. -/
theorem attachAll_of_free (links : List (NodeId × Signal)) {arena : Arena}
    (distinct : (links.map Prod.fst).Nodup)
    (inside : ∀ id ∈ links.map Prod.fst, id < arena.size)
    (free : ∀ id ∈ links.map Prod.fst, arena[id]?.bind LinkedNode.link = none) :
    ∃ after, links.foldlM (fun arena child => arena.attach arena.size child) arena = .ok after ∧
      Links arena.size links arena after := by
  induction links generalizing arena with
  | nil => exact ⟨arena, rfl, rfl, fun _ => rfl, fun _ _ => rfl, fun _ member => nomatch member⟩
  | cons link links inductionHypothesis =>
    rw [List.map_cons] at distinct inside free
    obtain ⟨absent, distinctRest⟩ := List.nodup_cons.mp distinct
    obtain ⟨once, attaching, linkedOnce⟩ := attach_of_free arena.size
      (inside link.1 List.mem_cons_self) (free link.1 List.mem_cons_self)
    have apart : ∀ id ∈ links.map Prod.fst, id ∉ [link].map Prod.fst := by
      intro id member isFirst
      cases List.mem_singleton.mp isFirst
      exact absent member
    obtain ⟨after, attachingRest, linkedRest⟩ := inductionHypothesis distinctRest
      (fun id member => linkedOnce.size ▸ inside id (List.mem_cons_of_mem _ member))
      (fun id member => by
        rw [linkedOnce.others id (apart id member)]
        exact free id (List.mem_cons_of_mem _ member))
    rw [linkedOnce.size] at linkedRest
    refine ⟨after, ?_, linkedRest.size.trans linkedOnce.size,
      fun id => (linkedRest.node id).trans (linkedOnce.node id), fun id outside => ?_,
      fun other member => ?_⟩
    · rw [List.foldlM_cons, attaching]
      exact attachingRest
    · rw [List.map_cons, List.mem_cons, not_or] at outside
      rw [linkedRest.others id outside.2, linkedOnce.others id]
      exact fun isFirst => outside.1 (List.mem_singleton.mp isFirst)
    · obtain isFirst | later := List.mem_cons.mp member
      · cases isFirst
        rw [linkedRest.others link.1 absent]
        exact linkedOnce.linked link List.mem_cons_self
      · exact linkedRest.linked other later

/-- A node is added on top of free ones, and is free itself. A program that keeps it knows the node
and how it is linked to those below. -/
theorem Grows.add (grows : first.Grows roots second) (node : Node)
    (links : List (NodeId × Signal)) (all : links.map Prod.fst = roots) :
    ∃ third, second.add node links = .ok (second.size, third) ∧ first.Grows [second.size] third ∧
      ∀ program : Program, program.Keeps first.size [second.size] third →
        program.Keeps first.size roots second ∧ program.node? second.size = some node ∧
        ∀ link ∈ links, program.link? link.1 =
          some { parent := second.size, signal := link.2 } := by
  obtain ⟨linked, attaching, changes⟩ := attachAll_of_free links (all ▸ grows.distinct)
    (fun id member => (grows.fresh id (all ▸ member)).2)
    (fun id member => grows.free id (all ▸ member))
  have others := changes.others
  rw [all] at others
  have old : ∀ id < second.size, (linked.push { node := node })[id]? = linked[id]? := by
    intro id inside
    rw [Array.getElem?_push, if_neg (by rw [changes.size]; exact Nat.ne_of_lt inside)]
  have new : (linked.push { node := node })[second.size]? = some { node := node } := by
    rw [← changes.size, Array.getElem?_push_size]
  have size : (linked.push { node := node }).size = second.size + 1 := by
    rw [Array.size_push, changes.size]
  refine ⟨linked.push { node := node }, ?_, ⟨?_, ?_, ?_, ?_, List.nodup_singleton _⟩, ?_⟩
  · unfold Arena.add
    rw [attaching]
    rfl
  · rw [size]
    exact Nat.le_succ_of_le grows.larger
  · intro id inside
    rw [old id (inside.trans_le grows.larger), others id, grows.same id inside]
    exact fun member => absurd inside (Nat.not_lt.mpr (grows.fresh id member).1)
  · intro id member
    cases List.mem_singleton.mp member
    exact ⟨grows.larger, by rw [size]; exact Nat.lt_succ_self _⟩
  · intro id member
    cases List.mem_singleton.mp member
    rw [new]
    rfl
  · intro program keeps
    have below : ∀ id < second.size, id < (linked.push { node := node }).size := by
      intro id inside
      rw [size]
      exact Nat.lt_succ_of_lt inside
    have apart : ∀ id < second.size, id ∉ [second.size] := by
      intro id inside member
      exact absurd (List.mem_singleton.mp member) (Nat.ne_of_lt inside)
    refine ⟨⟨fun id above inside => ?_, fun id above inside absent => ?_⟩, ?_,
      fun link member => ?_⟩
    · rw [keeps.node id above (below id inside), old id inside, changes.node id]
    · rw [keeps.link id above (below id inside) (apart id inside), old id inside, others id absent]
    · rw [keeps.node second.size grows.larger (by rw [size]; exact Nat.lt_succ_self _), new]
      rfl
    · obtain ⟨above, inside⟩ := grows.fresh link.1 (all ▸ List.mem_map_of_mem member)
      rw [keeps.link link.1 above (below _ inside) (apart _ inside), old _ inside]
      exact changes.linked link member

end Arena

end Rewind
