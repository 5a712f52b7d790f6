/-
This file proves that the captures of a run form a tree at any time. Every generation shows the
captures of some scene, and all these scenes have the same root match. When a run has matched, the
match tree is copied from all of its captures, with those that were opened first in front.
-/

import Mathlib
import Rewind.Proofs.Matcher.Captures
import Rewind.Proofs.Matcher.Correctness
import Rewind.Proofs.Matcher.Restoration
import Rewind.Proofs.Store.Views

namespace Rewind

/-! ### The order in which captures appear -/

/-- The positions of the captures that are seen. -/
def Snapshot.captures (view : Snapshot) : List Nat :=
  (List.range view.counters.heapSize).filter fun place => (view.capture? place).isSome

/-- The captures that are seen: first those that were seen before and still are, in their order, and
then the new ones. -/
def Snapshot.chronicle (earlier : List Nat) (view : Snapshot) : List Nat :=
  (earlier.filter fun place => (view.capture? place).isSome) ++
    view.captures.filter fun place => place ∉ earlier

/-- Where a run from the root may be between two ticks, with its captures in the order in which they
have appeared. -/
inductive Matcher.Chronicle (program : Program) (text : List Char) : List Nat → Matcher → Prop
  | prepared {settings : Settings} {uses : List Use} {matcher : Matcher}
    (ready : prepare program.root text ((ofProgram program settings).used uses) = .ok () matcher) :
    Chronicle program text (matcher.store.chain.snapshot.chronicle []) matcher
  | ticked {created : List Nat} {before after : Matcher} {goesOn : Bool}
    (chronicle : Chronicle program text created before) (ticks : tick before = .ok goesOn after) :
    Chronicle program text (after.store.chain.snapshot.chronicle created) after
  | interrupted {created : List Nat} {before after : Matcher}
    (chronicle : Chronicle program text created before) (alike : before.Alike after) :
    Chronicle program text created after

theorem Matcher.Between.chronicle {program : Program} {text : List Char} {matcher : Matcher}
    (between : matcher.Between program text) :
    ∃ created, matcher.Chronicle program text created := by
  induction between with
  | prepared ready => exact ⟨_, .prepared ready⟩
  | ticked _ ticks inductionHypothesis =>
    obtain ⟨created, chronicle⟩ := inductionHypothesis
    exact ⟨_, .ticked chronicle ticks⟩
  | interrupted _ alike inductionHypothesis =>
    obtain ⟨created, chronicle⟩ := inductionHypothesis
    exact ⟨created, .interrupted chronicle alike⟩

namespace Snapshot

variable {view : Snapshot} {scene : Scene} {earlier : List Nat} {place : Nat}

theorem Holds.isSome_capture?_iff (heap : view.Holds scene.entries) :
    (view.capture? place).isSome ↔ place ∈ scene.order := by
  rw [heap.mem_order_iff, Option.isSome_iff_exists]

theorem Holds.mem_captures_iff (heap : view.Holds scene.entries) :
    place ∈ view.captures ↔ place ∈ scene.order := by
  unfold captures
  rw [List.mem_filter, heap.isSome_capture?_iff, List.mem_range]
  refine ⟨And.right, fun member => ⟨?_, member⟩⟩
  obtain ⟨record, present⟩ := heap.mem_order_iff.mp member
  obtain ⟨entry, isEntry, rfl, -⟩ := heap.capture?_eq_some_iff.mp present
  exact heap.inside _ _ (heap.used entry isEntry)

/-- Captures that are no longer seen drop out. -/
theorem Holds.chronicle_of_prefix (heap : view.Holds scene.entries) (distinct : earlier.Nodup)
    (fewer : scene.order <+: earlier) : view.chronicle earlier = scene.order := by
  obtain ⟨rest, rfl⟩ := fewer
  obtain ⟨-, -, apart⟩ := List.nodup_append.mp distinct
  have still : (scene.order ++ rest).filter (fun place => (view.capture? place).isSome) =
      scene.order := by
    rw [List.filter_append, List.filter_eq_self.mpr fun place member =>
      heap.isSome_capture?_iff.mpr member, List.filter_eq_nil_iff.mpr fun place member seen =>
      apart place (heap.isSome_capture?_iff.mp seen) place member rfl, List.append_nil]
  have nothing : view.captures.filter (fun place => place ∉ scene.order ++ rest) = [] := by
    refine List.filter_eq_nil_iff.mpr fun place member => ?_
    rw [decide_eq_true_iff, not_not]
    exact List.mem_append_left rest (heap.mem_captures_iff.mp member)
  unfold chronicle
  rw [still, nothing, List.append_nil]

/-- A new capture comes last. -/
theorem Holds.chronicle_of_append (heap : view.Holds scene.entries)
    (more : scene.order = earlier ++ [place]) : view.chronicle earlier = scene.order := by
  have distinct := heap.nodup_order
  rw [more] at distinct
  obtain ⟨-, -, apart⟩ := List.nodup_append.mp distinct
  have member (other : Nat) : other ∈ view.captures ↔ other ∈ earlier ∨ other = place := by
    rw [heap.mem_captures_iff, more, List.mem_append, List.mem_singleton]
  have still : earlier.filter (fun place => (view.capture? place).isSome) = earlier :=
    List.filter_eq_self.mpr fun other isEarlier =>
      heap.isSome_capture?_iff.mpr (more ▸ List.mem_append_left _ isEarlier)
  have fresh : view.captures.filter (fun place => place ∉ earlier) = [place] := by
    refine List.perm_singleton.mp ((List.perm_ext_iff_of_nodup ?_ (List.nodup_singleton place)).mpr
      fun other => ?_)
    · exact (List.nodup_range.filter _).filter _
    · rw [List.mem_filter, member, List.mem_singleton, decide_eq_true_iff]
      constructor
      · rintro ⟨isEarlier | isPlace, isFresh⟩
        · exact absurd isEarlier isFresh
        · exact isPlace
      · rintro rfl
        exact ⟨.inr rfl, fun isEarlier =>
          apart other isEarlier other (List.mem_singleton_self _) rfl⟩
  unfold chronicle
  rw [still, fresh, more]

end Snapshot

/-! ### Match trees in the store -/

namespace Located

/-- A tree of closed captures copies those in the store: each has the parent and the children there
that it has in the tree. -/
inductive Copies (view : Snapshot) : Option Nat → Located → Prop
  | mk {parent : Option Nat} {place : Nat} {name : String} {start stop : Nat}
    {children : List Located}
    (stored : view.capture? place = some
      { name := name
        parent := parent
        children := children.map position
        start := start
        stop := some stop })
    (contained : ∀ child ∈ children, Copies view (some place) child) :
    Copies view parent (.mk place name start stop children)

/-- A tree of closed captures copies all that are in the store, each one once, in the order in which
they have appeared. -/
structure Complete (created : List Nat) (view : Snapshot) (located : Located) : Prop where
  copies : located.Copies view none
  order : located.order = created
  distinct : created.Nodup
  all : ∀ place, place ∈ created ↔ ∃ record, view.capture? place = some record
  siblings : ∀ place record, view.capture? place = some record → record.children.Sublist created

variable {view : Snapshot} {entries : Multiset Entry}

mutual

theorem copies_entries (heap : view.Holds entries) (parent : Nat) :
    ∀ located : Located, located.entries parent ⊆ entries → located.Copies view (some parent)
  | .mk place name start stop children, inside => by
    rw [Located.entries] at inside
    refine .mk ?_ (copies_entriesOfAll heap place children fun entry isBelow =>
      inside (Multiset.mem_cons_of_mem isBelow))
    exact heap.capture?_eq_some_iff.mpr ⟨_, inside (Multiset.mem_cons_self _ _), rfl, rfl⟩

theorem copies_entriesOfAll (heap : view.Holds entries) (parent : Nat) :
    ∀ trees : List Located, entriesOfAll parent trees ⊆ entries →
      ∀ tree ∈ trees, tree.Copies view (some parent)
  | [], _, other, member => absurd member List.not_mem_nil
  | tree :: trees, inside, other, member => by
    rw [entriesOfAll] at inside
    obtain same | later := List.mem_cons.mp member
    · rw [same]
      exact copies_entries heap parent tree fun entry isFirst =>
        inside (Multiset.mem_add.mpr (.inl isFirst))
    · exact copies_entriesOfAll heap parent trees (fun entry isLater =>
        inside (Multiset.mem_add.mpr (.inr isLater))) other later

end

theorem positions_sublist_orderOfAll (trees : List Located) :
    (trees.map position).Sublist (orderOfAll trees) := by
  induction trees with
  | nil => exact .refl _
  | cons tree trees inductionHypothesis =>
    obtain ⟨place, name, start, stop, children⟩ := tree
    rw [List.map_cons, orderOfAll, order, List.cons_append]
    exact (inductionHypothesis.trans (List.sublist_append_right _ _)).cons_cons place

mutual

/-- Siblings are listed in their order. -/
theorem Copies.siblings {parent : Option Nat} : ∀ {located : Located}, located.Copies view parent →
    ∀ place ∈ located.order, ∀ record, view.capture? place = some record →
      record.children.Sublist located.order
  | .mk own name start stop children, copies, place, member, record, present => by
    cases copies with
    | mk stored contained =>
      rw [order] at member ⊢
      obtain rfl | below := List.mem_cons.mp member
      · rw [stored] at present
        cases present
        exact (positions_sublist_orderOfAll children).cons _
      · exact (siblingsOfAll contained place below record present).cons _

theorem Copies.siblingsOfAll {parent : Option Nat} : ∀ {trees : List Located},
    (∀ tree ∈ trees, tree.Copies view parent) →
    ∀ place ∈ orderOfAll trees, ∀ record, view.capture? place = some record →
      record.children.Sublist (orderOfAll trees)
  | [], _, place, member, _, _ => absurd member List.not_mem_nil
  | tree :: trees, copies, place, member, record, present => by
    rw [orderOfAll] at member ⊢
    obtain first | later := List.mem_append.mp member
    · exact (siblings (copies tree List.mem_cons_self) place first record present).trans
        (List.sublist_append_left _ _)
    · exact (siblingsOfAll
        (fun other isOther => copies other (List.mem_cons_of_mem _ isOther)) place
        later record present).trans (List.sublist_append_right _ _)

end

/-- A root match that is closed makes a complete tree. -/
theorem complete_of_root {context place start stop : Nat} {closed : List Located}
    (heap : view.Holds (Scene.ofRoot context place start (some stop) closed).entries) :
    (Located.mk place Matcher.rootName start stop closed).Complete
      (Scene.ofRoot context place start (some stop) closed).order view := by
  let scene := Scene.ofRoot context place start (some stop) closed
  have inside : entriesOfAll place closed ⊆ scene.entries := fun entry isClosed =>
    Multiset.mem_cons_of_mem (Multiset.mem_cons_of_mem
      (Multiset.mem_add.mpr (.inl (Multiset.mem_add.mpr (.inl isClosed)))))
  have stored := heap.capture?_eq_some_iff.mpr
    ⟨scene.innerEntry, Multiset.mem_cons_self _ _, rfl, rfl⟩
  rw [Option.toList_none, List.append_nil] at stored
  have copies : (Located.mk place Matcher.rootName start stop closed).Copies view none :=
    .mk stored (copies_entriesOfAll heap place closed inside)
  refine ⟨copies, rfl, heap.nodup_order, fun other => heap.mem_order_iff, ?_⟩
  intro other record present
  exact copies.siblings other (heap.mem_order_iff.mpr ⟨record, present⟩) record present

end Located

/-! ### Scenes of older generations -/

namespace Scene

/-- The root match comes first. -/
theorem head?_order (scene : Scene) : scene.order.head? = some scene.root.position := by
  unfold order root
  rw [← List.head?_reverse]
  cases scene.outer.reverse <;> rfl

theorem root_of_prefix {before after : Scene} (grown : before.order <+: after.order) :
    before.root.position = after.root.position := by
  obtain ⟨rest, more⟩ := grown
  have first := after.head?_order
  rw [← more, List.head?_append, before.head?_order] at first
  exact Option.some.inj first

end Scene

namespace World

open Matcher

variable {world : World} {activation : Activation} {scene : Scene} {matcher : Matcher}
  {pattern : Pattern} {search : Bool} {program : Program} {text : List Char} {context place : Nat}
  {view : Snapshot} {created : List Nat}

/-- Every generation above the floor of a node in progress shows a scene that was saved, of which
captures have only been added to since. -/
theorem Pursues.saved (pursues : world.Pursues activation scene matcher) {generation : Generation}
    {older : List Generation} (onChain : generation :: older <:+ matcher.store.chain.older)
    (above : activation.floor.older <:+ older) :
    ∃ saved : Scene, (generation.over older).Holds saved.entries ∧
      (generation.over older).Binds saved.bindings ∧
      (activation.scene.Open world.text.size → saved.Open world.text.size) ∧
      saved.order <+: scene.order := by
  obtain ⟨floor, isFloor, piles⟩ := pursues.piles
  rw [isFloor] at onChain
  obtain ⟨inner, saved, lower, point, -, rfl, saves, inside, waits, grown⟩ :=
    piles.saved onChain above
  exact ⟨saved, saves.heap, saves.stack, fun isOpen => waits.isOpen (inside.isOpen isOpen), grown⟩

/-- While a node is in progress, no open capture has an end; only finishing it may give one. -/
theorem Pursues.isOpen_or_finishes (pursues : world.Pursues activation scene matcher)
    (wired : world.program.Wired) (isOpen : activation.scene.Open world.text.size) :
    scene.Open world.text.size ∨ ∃ floor cursor,
      matcher.Rests world floor scene (world.program.exit? activation.node) cursor ∧
      world.Finishes activation floor scene matcher.store.chain.snapshot cursor := by
  cases pursues with
  | starting same => exact .inl (same ▸ isOpen)
  | forward rests amid piles =>
    generalize seen : matcher.store.chain.snapshot = shown at amid ⊢
    cases amid with
    | entering inside => exact .inl (inside.isOpen isOpen)
    | finishing inside finishes =>
      obtain rfl | ⟨outer, around, enters⟩ := inside.cases_parent
      · exact .inr ⟨_, _, rests, finishes⟩
      · exact .inl ((inside.isOpen isOpen).grows (enters.grows wired finishes))
    | resuming inside waits => exact .inl (waits.isOpen (inside.isOpen isOpen))
  | backward fails shows piles stays => exact .inl (stays isOpen)

/-- The root of a compiled pattern finishes with a root match that is closed and lies in the
text. -/
theorem Finishes.scene_ofRoot (compiled : pattern.compile search = .ok program) {floor : Floor}
    {cursor : Nat} {shown : Snapshot}
    (finishes : (pattern.world program text).Finishes
      (.ofRoot program context place view) floor scene
      shown cursor) :
    ∃ context place start closed, scene = .ofRoot context place start (some cursor) closed ∧
      start ≤ cursor ∧ ∀ tree ∈ closed, tree.Within text.length := by
  obtain ⟨other, child, compiles, found, -⟩ := pattern.compile_spec search
  rw [compiled] at compiles
  cases compiles
  obtain ⟨node, foundNode, shape⟩ := finishes.shape
  cases found.symm.trans foundNode
  obtain ⟨context, place, start, closed, -, isScene, ordered, within⟩ := shape
  exact ⟨context, place, start, closed, isScene, ordered, within⟩

theorem Pursues.bounded_ofRoot (compiled : pattern.compile search = .ok program)
    (pursues : (pattern.world program text).Pursues (.ofRoot program context place view) scene
      matcher) :
    scene.Bounded text.length ∧ (¬ matcher.HandsTo none → scene.Open text.length) := by
  obtain isOpen | ⟨floor, cursor, rests, finishes⟩ := pursues.isOpen_or_finishes
    (Pattern.wired_compile compiled) (Scene.open_ofRoot _ context place 0)
  · exact ⟨Scene.Open.bounded isOpen, fun _ => isOpen⟩
  · obtain ⟨_, _, start, closed, rfl, ordered, within⟩ := finishes.scene_ofRoot compiled
    refine ⟨Scene.bounded_ofRoot ordered rests.cursor_le within, fun goesOn => ?_⟩
    exact absurd ⟨rests.forward, rests.control.trans (exit_root compiled)⟩ goesOn

/-- Every generation shows the captures of a scene with the same root match. -/
theorem Pursues.views (compiled : pattern.compile search = .ok program)
    (pursues : (pattern.world program text).Pursues (.ofRoot program context place view) scene
      matcher) :
    matcher.store.chain.EachView (Snapshot.CaptureTree text.length scene.root.position) ∧
      (¬ matcher.HandsTo none → matcher.store.chain.EachView Snapshot.OpenAreBound) := by
  obtain ⟨bounded, isOpen⟩ := pursues.bounded_ofRoot compiled
  have shows := pursues.shows.chain
  have saved {generation : Generation} {older : List Generation}
      (below : generation :: older <:+ matcher.store.chain.older) :=
    pursues.saved below List.nil_suffix
  have opened := Scene.open_ofRoot text.length context place 0
  constructor
  · intro generation older onChain
    obtain same | below := List.suffix_cons_iff.mp onChain
    · cases same
      exact Snapshot.captureTree_of_scene shows.heap shows.stack bounded
    · obtain ⟨before, heap, stack, stays, grown⟩ := saved below
      rw [← Scene.root_of_prefix grown]
      exact Snapshot.captureTree_of_scene heap stack (Scene.Open.bounded (stays opened))
  · intro goesOn generation older onChain
    obtain same | below := List.suffix_cons_iff.mp onChain
    · cases same
      exact Snapshot.openAreBound_of_scene shows.heap shows.stack (isOpen goesOn)
    · obtain ⟨before, heap, stack, stays, grown⟩ := saved below
      exact Snapshot.openAreBound_of_scene heap stack (stays opened)

/-- The order of the scene is the one in which its captures have appeared. -/
theorem pursues_chronicle (compiled : pattern.compile search = .ok program)
    (chronicle : matcher.Chronicle program text created) (view : Snapshot) :
    ∃ context place scene, (pattern.world program text).Pursues
      (.ofRoot program context place view) scene matcher ∧ scene.order = created := by
  induction chronicle with
  | prepared ready =>
    obtain ⟨context, place, pursues⟩ := pursues_prepared compiled ready view
    refine ⟨context, place, _, pursues, ?_⟩
    exact (pursues.shows.chain.heap.chronicle_of_append (List.nil_append [place]).symm).symm
  | @ticked created before after goesOn _ ticks inductionHypothesis =>
    obtain ⟨context, place, scene, pursues, rfl⟩ := inductionHypothesis
    obtain ⟨next, still, opened, fewer⟩ := pursues.tick_root compiled ticks
    refine ⟨context, place, next, still, ?_⟩
    have distinct := pursues.shows.chain.heap.nodup_order
    have heap := still.shows.chain.heap
    cases way : before.direction with
    | forward =>
      obtain same | more := opened way
      · exact (heap.chronicle_of_prefix distinct (same ▸ List.prefix_refl _)).symm
      · exact (heap.chronicle_of_append more).symm
    | backward => exact (heap.chronicle_of_prefix distinct (fewer way)).symm
  | interrupted _ alike inductionHypothesis =>
    obtain ⟨context, place, scene, pursues, isOrder⟩ := inductionHypothesis
    exact ⟨context, place, scene, pursues.alike alike, isOrder⟩

/-- When a run has matched, its match tree copies all captures. -/
theorem complete_of_concludes (compiled : pattern.compile search = .ok program)
    (chronicle : matcher.Chronicle program text created) {tree : MatchTree}
    (concludes : (pattern.world program text).Concludes (some tree) matcher)
    (copied : matcher.result = .ok (some tree)) :
    ∃ located : Located, matcher.result = .ok (some (located.tree text.toArray)) ∧
      located.Complete created matcher.store.chain.snapshot := by
  obtain ⟨context, place, scene, pursues, rfl⟩ :=
    pursues_chronicle compiled chronicle matcher.store.chain.snapshot
  have last := exit_root compiled
  have upward : ∀ parent signal, program.exit? program.root = some (parent, signal) →
      program.root < parent := fun parent signal exits => nomatch last.symm.trans exits
  obtain ⟨_, _, _, _, _, _, concluded, -⟩ := concludes
  obtain ⟨floor, cursor, rests, finishes⟩ :=
    pursues.finishes (Pattern.wired_compile compiled) upward
    ⟨concluded.forward, concluded.control.trans last.symm⟩
  obtain ⟨context, place, start, closed, rfl, -⟩ := finishes.scene_ofRoot compiled
  refine ⟨.mk place Matcher.rootName start cursor closed, ?_,
    Located.complete_of_root rests.poised.shows.chain.heap⟩
  have ended : matcher.status = .ended ∧ matcher.outcome = some .matched := by
    unfold Matcher.result at copied
    split at copied
    · assumption
    · cases copied
  have atEnd : (pattern.world program text).Concludes
      (some ((Located.mk place Matcher.rootName start cursor closed).tree text.toArray)) matcher :=
    ⟨floor, context, place, start, cursor, closed, last ▸ rests, rfl, rfl⟩
  exact result_eq atEnd ended.1 ended.2

end World

/-- At any time between two ticks of a run from the root of a compiled pattern, whatever the
settings and the earlier uses, the captures in the view of every generation form a tree below the
same root match, and until the root finishes those that are open are those that are bound. When the
run has matched, its result copies the whole tree, each capture once, in the order in which they
have appeared. -/
theorem captures_form_tree (pattern : Pattern) (search : Bool) (text : List Char) :
    ∃ program, pattern.compile search = .ok program ∧
      (∀ matcher : Matcher, matcher.Between program text →
        (∃ root, matcher.store.chain.EachView (Snapshot.CaptureTree text.length root)) ∧
        (¬ matcher.HandsTo none → matcher.store.chain.EachView Snapshot.OpenAreBound)) ∧
      ∀ settings uses first others reached,
        Matcher.runWith program.root text first others
          ((Matcher.ofProgram program settings).used uses) = .ok .matched reached →
        (∃ created, reached.Chronicle program text created) ∧
        ∀ created, reached.Chronicle program text created →
          ∃ located : Located, reached.result = .ok (some (located.tree text.toArray)) ∧
            located.Complete created reached.store.chain.snapshot := by
  obtain ⟨program, compiled, runs⟩ := World.run_ends pattern search text
  refine ⟨program, compiled, fun matcher between => ?_,
    fun settings uses first others reached ran => ⟨?_, fun created chronicle => ?_⟩⟩
  · obtain ⟨context, place, scene, pursues⟩ :=
      World.pursues_between compiled between matcher.store.chain.snapshot
    obtain ⟨trees, bound⟩ := pursues.views compiled
    exact ⟨⟨_, trees⟩, bound⟩
  · exact (Matcher.between_runWith ran).chronicle
  · have reusable := Matcher.reusable_used program settings uses
    obtain ⟨enough, ends⟩ := runs _ reusable.program (Matcher.idle_of_runWith ran)
      reusable.store.inOrder.wiped reusable.store.inOrder.idle
    have report := World.runWith_ends (ends first).1 others
    rw [ran] at report
    cases report with
    | matched found copied concludes =>
      exact World.complete_of_concludes compiled chronicle concludes copied

end Rewind
