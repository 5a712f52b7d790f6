/-
This file says how the nodes of a compiled pattern are linked. Every child of a node was added
before it, and control returns from the child to the node, with the signal that the node fixes for
it. So a node has one parent at most, the nodes around another one have ever higher indices, and the
outermost one is not part of any.
-/

import Mathlib
import Rewind.Program.Lowering

namespace Rewind

/-- The children of a node, with the signals it links them with. -/
def Node.links : Node → List (NodeId × Signal)
  | .root child _ | .repetition child _ _ _ | .atomic child | .lookahead child _
  | .capture _ child => doneLinks [child]
  | .sequence children => sequenceLinks children
  | .alternation children => doneLinks children
  | .text _ | .any | .charClass _ | .anchor _ => []

/-- Whether a node is an outermost one. -/
def Node.isRoot : Node → Bool
  | .root _ _ => true
  | _ => false

/-- Where the node at an index returns to. -/
def Arena.link? (arena : Arena) (id : NodeId) : Option Link := arena[id]?.bind LinkedNode.link

/-- The children of every node are linked to it, and none of the nodes is an outermost one. -/
structure Arena.Wired (arena : Arena) : Prop where
  linked : ∀ (id : NodeId) (parent : LinkedNode), arena[id]? = some parent →
    ∀ child ∈ parent.node.links,
      child.1 < id ∧ arena.link? child.1 = some { parent := id, signal := child.2 }
  inner : ∀ (id : NodeId) (inner : LinkedNode), arena[id]? = some inner → inner.node.isRoot = false

/-- The children of every node are linked to it, and an outermost node is linked to none. -/
structure Program.Wired (program : Program) : Prop where
  linked : ∀ id node, program.node? id = some node → ∀ child ∈ node.links,
    child.1 < id ∧ program.link? child.1 = some { parent := id, signal := child.2 }
  outermost : ∀ id node, program.node? id = some node → node.isRoot = true →
    program.link? id = none

namespace Arena

variable {arena after : Arena} {parent : NodeId} {links : List (NodeId × Signal)}

/-- Nodes have been linked that were free, and nothing else has changed. -/
structure Attaches (before after : Arena) : Prop where
  node : ∀ id : NodeId, after[id]?.map LinkedNode.node = before[id]?.map LinkedNode.node
  keeps : ∀ (id : NodeId) (link : Link), before.link? id = some link → after.link? id = some link

theorem Attaches.refl (arena : Arena) : arena.Attaches arena := ⟨fun _ => rfl, fun _ _ same => same⟩

theorem Attaches.trans {first second third : Arena} (left : first.Attaches second)
    (right : second.Attaches third) : first.Attaches third :=
  ⟨fun id => (right.node id).trans (left.node id),
    fun id link same => right.keeps id link (left.keeps id link same)⟩

theorem Attaches.size (attaches : arena.Attaches after) : after.size = arena.size := by
  have larger := attaches.node after.size
  have smaller := attaches.node arena.size
  rw [Array.getElem?_eq_none (Nat.le_refl _), Option.map_none] at larger smaller
  have above := Array.getElem?_eq_none_iff.mp (Option.map_eq_none_iff.mp larger.symm)
  have below := Array.getElem?_eq_none_iff.mp (Option.map_eq_none_iff.mp smaller)
  exact le_antisymm below above

theorem attaches_attach {child : NodeId × Signal}
    (attached : arena.attach parent child = .ok after) :
    arena.Attaches after ∧ child.1 < arena.size ∧
      after.link? child.1 = some { parent := parent, signal := child.2 } := by
  unfold attach at attached
  split at attached
  · cases attached
  · rename_i linked found
    split at attached
    · cases attached
    · rename_i free
      cases attached
      have inside := (Array.getElem?_eq_some_iff.mp found).1
      have changed (id : NodeId) : (arena.setIfInBounds child.1
          { linked with link := some { parent := parent, signal := child.2 } })[id]? =
          if child.1 = id then
            some { linked with link := some { parent := parent, signal := child.2 } }
          else arena[id]? := by
        rw [Array.getElem?_setIfInBounds, if_pos inside]
      refine ⟨⟨fun id => ?_, fun id link same => ?_⟩, inside, ?_⟩
      · rw [changed]
        split
        · rename_i here
          rw [← here, found]
          rfl
        · rfl
      · unfold link? at same ⊢
        rw [changed, if_neg]
        · exact same
        · rintro rfl
          rw [found, Option.bind_some, free] at same
          cases same
      · unfold link?
        rw [changed, if_pos rfl]
        rfl

theorem attaches_foldlM (attached :
      links.foldlM (fun arena child => arena.attach arena.size child) arena = .ok after) :
    arena.Attaches after ∧ ∀ child ∈ links, child.1 < arena.size ∧
      after.link? child.1 = some { parent := arena.size, signal := child.2 } := by
  induction links generalizing arena with
  | nil =>
    cases attached
    exact ⟨.refl _, fun _ member => nomatch member⟩
  | cons first links inductionHypothesis =>
    rw [List.foldlM_cons] at attached
    cases once : arena.attach arena.size first with
    | error error =>
      rw [once] at attached
      cases attached
    | ok between =>
      rw [once] at attached
      obtain ⟨attaches, inside, linked⟩ := attaches_attach once
      obtain ⟨rest, others⟩ := inductionHypothesis attached
      rw [attaches.size] at others
      refine ⟨attaches.trans rest, fun child member => ?_⟩
      obtain rfl | later := List.mem_cons.mp member
      · exact ⟨inside, rest.keeps _ _ linked⟩
      · exact others child later

/-- Adding a node links its children, and keeps the links that are there. -/
theorem add_eq_ok {node : Node} {id : NodeId} (added : arena.add node links = .ok (id, after)) :
    id = arena.size ∧ after[id]? = some { node := node } ∧ ∃ linked : Arena,
      arena.Attaches linked ∧ (∀ other < arena.size, after[other]? = linked[other]?) ∧
      after.size = arena.size + 1 ∧
      ∀ child ∈ links, child.1 < arena.size ∧
        linked.link? child.1 = some { parent := arena.size, signal := child.2 } := by
  unfold add at added
  cases attached : links.foldlM (fun arena child => arena.attach arena.size child) arena with
  | error error =>
    rw [attached] at added
    cases added
  | ok linked =>
    rw [attached] at added
    cases added
    obtain ⟨attaches, others⟩ := attaches_foldlM attached
    refine ⟨rfl, ?_, linked, attaches, fun other inside => ?_, ?_, others⟩
    · rw [← attaches.size, Array.getElem?_push_size]
    · rw [Array.getElem?_push, if_neg]
      rw [attaches.size]
      exact Nat.ne_of_lt inside
    · rw [Array.size_push, attaches.size]

/-- What links to the children say stays true when a node is added. -/
theorem Wired.linked_add (wired : arena.Wired) {node : Node} {id : NodeId}
    (added : arena.add node node.links = .ok (id, after)) (other : NodeId) (parent : LinkedNode)
    (found : after[other]? = some parent) :
    ∀ child ∈ parent.node.links,
      child.1 < other ∧ after.link? child.1 = some { parent := other, signal := child.2 } := by
  obtain ⟨rfl, isLast, linked, attaches, same, size, children⟩ := add_eq_ok added
  have seen (child : NodeId) (inside : child < arena.size) :
      after.link? child = linked.link? child := by
    unfold link?
    rw [same child inside]
  have bounded := (Array.getElem?_eq_some_iff.mp found).1
  rw [size] at bounded
  obtain older | rfl := Nat.lt_succ_iff_lt_or_eq.mp bounded
  · rw [same other older] at found
    obtain ⟨former, present, sameNode⟩ : ∃ former, arena[other]? = some former ∧
        former.node = parent.node := by
      have kept := attaches.node other
      rw [found, Option.map_some] at kept
      obtain ⟨former, present, sameNode⟩ := Option.map_eq_some_iff.mp kept.symm
      exact ⟨former, present, sameNode⟩
    intro child member
    obtain ⟨below, link⟩ := wired.linked other former present child (sameNode ▸ member)
    refine ⟨below, ?_⟩
    rw [seen child.1 (below.trans older)]
    exact attaches.keeps _ _ link
  · rw [isLast] at found
    cases found
    intro child member
    obtain ⟨below, link⟩ := children child member
    exact ⟨below, (seen child.1 below).trans link⟩

theorem Wired.add (wired : arena.Wired) {id : NodeId} (node : Node) (isInner : node.isRoot = false)
    (added : arena.add node node.links = .ok (id, after)) : after.Wired := by
  refine ⟨wired.linked_add added, fun other inner found => ?_⟩
  obtain ⟨rfl, isLast, linked, attaches, same, size, -⟩ := add_eq_ok added
  have bounded := (Array.getElem?_eq_some_iff.mp found).1
  rw [size] at bounded
  obtain older | rfl := Nat.lt_succ_iff_lt_or_eq.mp bounded
  · rw [same other older] at found
    have kept := attaches.node other
    rw [found, Option.map_some] at kept
    obtain ⟨former, present, sameNode⟩ := Option.map_eq_some_iff.mp kept.symm
    rw [← sameNode]
    exact wired.inner other former present
  · rw [isLast] at found
    cases found
    exact isInner

theorem Wired.addRun (wired : arena.Wired) {run : List Char} {ids : List NodeId}
    (added : arena.addRun run = .ok (ids, after)) : after.Wired := by
  unfold Arena.addRun at added
  split at added
  · cases added
    exact wired
  · cases text : arena.add (.text run) [] with
    | error error =>
      rw [text] at added
      cases added
    | ok found =>
      rw [text] at added
      cases added
      exact wired.add (.text run) rfl text

theorem Wired.addSequence (wired : arena.Wired) {children : List NodeId} {id : NodeId}
    (added : arena.addSequence children = .ok (id, after)) : after.Wired := by
  unfold Arena.addSequence at added
  split at added
  · cases added
    exact wired
  · exact wired.add (.sequence children) rfl added

end Arena

/-! ### Lowering -/

mutual

theorem Expr.wired_lower {arena after : Arena} {id : NodeId} (wired : arena.Wired) :
    ∀ expr : Expr, expr.lower arena = .ok (id, after) → after.Wired
  | .char value span, lowered => by
    rw [Expr.lower] at lowered
    exact wired.add (.text [value]) rfl lowered
  | .any span, lowered => by
    rw [Expr.lower] at lowered
    exact wired.add .any rfl lowered
  | .anchor place span, lowered => by
    rw [Expr.lower] at lowered
    exact wired.add (.anchor place) rfl lowered
  | .charClass set span, lowered => by
    rw [Expr.lower] at lowered
    exact wired.add (.charClass set) rfl lowered
  | .group kind body span, lowered => by
    rw [Expr.lower] at lowered
    cases inner : body.lower arena with
    | error error =>
      rw [inner] at lowered
      cases lowered
    | ok found =>
      obtain ⟨child, between⟩ := found
      rw [inner] at lowered
      have below := Expr.wired_lower wired body inner
      cases kind with
      | plain =>
        cases lowered
        exact below
      | named name => exact below.add (.capture name child) rfl lowered
      | atomic => exact below.add (.atomic child) rfl lowered
      | ahead => exact below.add (.lookahead child false) rfl lowered
      | notAhead => exact below.add (.lookahead child true) rfl lowered
  | .repetition body min max lazily span, lowered => by
    rw [Expr.lower] at lowered
    cases inner : body.lower arena with
    | error error =>
      rw [inner] at lowered
      cases lowered
    | ok found =>
      obtain ⟨child, between⟩ := found
      rw [inner] at lowered
      exact (Expr.wired_lower wired body inner).add (.repetition child min max lazily) rfl lowered
  | .sequence items span, lowered => by
    rw [Expr.lower] at lowered
    cases inner : lowerItems arena [] items with
    | error error =>
      rw [inner] at lowered
      cases lowered
    | ok found =>
      rw [inner] at lowered
      exact (wired_lowerItems wired items [] inner).addSequence lowered
  | .alternation branches span, lowered => by
    rw [Expr.lower] at lowered
    cases inner : lowerBranches arena branches with
    | error error =>
      rw [inner] at lowered
      cases lowered
    | ok found =>
      rw [inner] at lowered
      exact (wired_lowerBranches wired branches inner).add (.alternation found.1) rfl lowered

theorem wired_lowerItems {arena after : Arena} {ids : List NodeId} (wired : arena.Wired) :
    ∀ (items : List Expr) (run : List Char), lowerItems arena run items = .ok (ids, after) →
      after.Wired
  | [], run, lowered => by
    rw [lowerItems] at lowered
    exact wired.addRun lowered
  | item :: items, run, lowered => by
    by_cases literal : ∃ value span, item = .char value span
    · obtain ⟨value, span, rfl⟩ := literal
      rw [lowerItems] at lowered
      exact wired_lowerItems wired items _ lowered
    · rw [lowerItems.eq_3 arena run item items fun value span same => literal ⟨value, span, same⟩]
        at lowered
      simp only [bind, Except.bind] at lowered
      split at lowered
      · cases lowered
      rename_i waiting ranRun
      split at lowered
      · cases lowered
      rename_i child ranItem
      split at lowered
      · cases lowered
      rename_i children ranRest
      cases lowered
      exact wired_lowerItems (Expr.wired_lower (wired.addRun ranRun) item ranItem) items [] ranRest

theorem wired_lowerBranches {arena after : Arena} {ids : List NodeId} (wired : arena.Wired) :
    ∀ branches : List Expr, lowerBranches arena branches = .ok (ids, after) → after.Wired
  | [], lowered => by
    rw [lowerBranches] at lowered
    cases lowered
    exact wired
  | branch :: branches, lowered => by
    rw [lowerBranches] at lowered
    simp only [bind, Except.bind] at lowered
    split at lowered
    · cases lowered
    rename_i child ranBranch
    split at lowered
    · cases lowered
    rename_i children ranRest
    cases lowered
    exact wired_lowerBranches (Expr.wired_lower wired branch ranBranch) branches ranRest

end

/-- The nodes of a compiled pattern are linked to their parents. -/
theorem Pattern.wired_compile {pattern : Pattern} {search : Bool} {program : Program}
    (compiled : pattern.compile search = .ok program) : program.Wired := by
  have empty : Arena.Wired #[] :=
    ⟨fun _ _ found => (nomatch found), fun _ _ found => (nomatch found)⟩
  unfold Pattern.compile at compiled
  cases lowered : pattern.expr.lower #[] with
  | error error =>
    rw [lowered] at compiled
    cases compiled
  | ok found =>
    obtain ⟨child, arena⟩ := found
    rw [lowered] at compiled
    have wired := Expr.wired_lower empty pattern.expr lowered
    simp only [bind, Except.bind] at compiled
    split at compiled
    · cases compiled
    rename_i last added
    obtain ⟨id, after⟩ := last
    cases compiled
    have linked := wired.linked_add added
    obtain ⟨rfl, isLast, between, attaches, same, size, -⟩ := Arena.add_eq_ok added
    refine ⟨fun other node found child member => ?_, fun other node found isRoot => ?_⟩
    · obtain ⟨parent, present, rfl⟩ := Option.map_eq_some_iff.mp found
      exact linked other parent present child member
    · obtain ⟨outer, present, rfl⟩ := Option.map_eq_some_iff.mp found
      have bounded : other < after.size := (Array.getElem?_eq_some_iff.mp present).1
      rw [size] at bounded
      obtain older | rfl := Nat.lt_succ_iff_lt_or_eq.mp bounded
      · -- Only the last node is an outermost one.
        have kept := attaches.node other
        rw [← same other older, show after[other]? = some outer from present,
          Option.map_some] at kept
        obtain ⟨former, found, sameNode⟩ := Option.map_eq_some_iff.mp kept.symm
        rw [← sameNode, wired.inner other former found] at isRoot
        cases isRoot
      · change after[arena.size]?.bind LinkedNode.link = none
        rw [isLast]
        rfl

end Rewind
