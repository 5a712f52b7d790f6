/-
This file describes what a run keeps in the store. A scene is the stack of captures that are open,
the innermost first; each has the captures that were closed inside of it and the frames of
repetitions, atomic groups and lookaheads that were entered since it was opened. Everything else
follows: which cells are in use, what they hold, how often each is referred to, and what is bound.

Every cell of a scene can be reached from a binding, so sweeps find nothing to do.
-/

import Mathlib
import Rewind.Matcher.MatchTree
import Rewind.Proofs.Store.Sweeping

namespace Rewind

/-! ### Closed captures -/

/-- A closed capture and where it is stored, with those inside of it. -/
inductive Located
  | mk (position : Nat) (name : String) (start stop : Nat) (children : List Located)

namespace Located

/-- Where the capture is stored. -/
def position : Located → Nat
  | mk position _ _ _ _ => position

mutual

/-- The cells of a closed capture. The capture around it refers to it, and so do those inside. -/
def entries (parent : Nat) : Located → Multiset Entry
  | mk place name start stop children =>
    ⟨place, .capture
      { name := name
        parent := some parent
        children := children.map position
        start := start
        stop := some stop }, 1 + children.length⟩ ::ₘ entriesOfAll place children

/-- The cells of some closed captures. -/
def entriesOfAll (parent : Nat) : List Located → Multiset Entry
  | [] => 0
  | tree :: trees => entries parent tree + entriesOfAll parent trees

end

mutual

/-- The match tree of a closed capture. -/
def tree (text : Array Char) : Located → MatchTree
  | mk _ name start stop children =>
    { name := name
      start := start
      stop := stop
      text := String.ofList (text.extract start stop).toList
      children := trees text children }

/-- The match trees of some closed captures. -/
def trees (text : Array Char) : List Located → List MatchTree
  | [] => []
  | first :: rest => tree text first :: trees text rest

end

theorem trees_append (text : Array Char) (first second : List Located) :
    trees text (first ++ second) = trees text first ++ trees text second := by
  induction first with
  | nil => rfl
  | cons located first inductionHypothesis =>
    exact congrArg (tree text located :: ·) inductionHypothesis

theorem entriesOfAll_append (parent : Nat) (first second : List Located) :
    entriesOfAll parent (first ++ second) =
      entriesOfAll parent first + entriesOfAll parent second := by
  induction first with
  | nil =>
    rw [List.nil_append, entriesOfAll, zero_add]
  | cons located first inductionHypothesis =>
    rw [List.cons_append, entriesOfAll, entriesOfAll, inductionHypothesis, add_assoc]

end Located

/-! ### Open captures and frames -/

/-- What a node in progress has put on the stack. -/
inductive Frame
  | repetition (position count start : Nat)
  | atomic (checkpoint : Checkpoint)
  | lookahead (position : Nat) (checkpoint : Checkpoint) (start : Nat)

namespace Frame

/-- The binding of a frame. -/
def binding : Frame → String × Value
  | repetition position _ _ => (Matcher.repetitionName, .ref position)
  | atomic taken => (Matcher.atomicName, .checkpoint taken)
  | lookahead position _ _ => (Matcher.lookaheadName, .ref position)

/-- The cell of a frame, if it has one. -/
def entries : Frame → Multiset Entry
  | repetition position count start => {⟨position, .list [.int count, .cursor start], 1⟩}
  | atomic _ => 0
  | lookahead position taken start => {⟨position, .list [.checkpoint taken, .cursor start], 1⟩}

end Frame

/-- A capture that is open. -/
structure Opened where
  position : Nat
  name : String
  start : Nat
  stop : Option Nat := none
  /-- The captures closed inside of it, the first one first. -/
  closed : List Located := []
  /-- The frames since it was opened, the innermost first. -/
  frames : List Frame := []

namespace Opened

/-- The cell of an open capture: it lists what was closed in it, and the open capture inside.
Besides those, its binding and the capture around it refer to it. -/
def entry (parent inner : Option Nat) (opened : Opened) : Entry :=
  { position := opened.position
    payload := .capture
      { name := opened.name
        parent := parent
        children := opened.closed.map Located.position ++ inner.toList
        start := opened.start
        stop := opened.stop }
    count := 2 + opened.closed.length + inner.toList.length }

/-- The cells that come with an open capture. -/
def belongings (opened : Opened) : Multiset Entry :=
  Located.entriesOfAll opened.position opened.closed + (opened.frames.map Frame.entries).sum

/-- The bindings of an open capture and of the frames since. -/
def bindings (opened : Opened) : Bindings :=
  (Matcher.openName, .ref opened.position) :: opened.frames.reverse.map Frame.binding

end Opened

/-- All that a run keeps in the store. -/
structure Scene where
  /-- The position of the global object. -/
  context : Nat
  /-- The innermost open capture. -/
  inner : Opened
  /-- The others, the innermost first. -/
  outer : List Opened := []

namespace Scene

/-- The position of an open capture around others. -/
def around (outer : List Opened) : Option Nat := outer.head?.map Opened.position

/-- The cells of the open captures around one at a position. -/
def outerEntries (inner : Nat) : List Opened → Multiset Entry
  | [] => 0
  | opened :: outer =>
    opened.entry (around outer) (some inner) ::ₘ
      (opened.belongings + outerEntries opened.position outer)

/-- The root match. -/
def root (scene : Scene) : Opened := scene.outer.getLast?.getD scene.inner

/-- The cell of the global object. -/
def contextEntry (scene : Scene) : Entry :=
  ⟨scene.context, .object [(Matcher.rootName, .ref scene.root.position)], 1⟩

/-- The cell of the innermost open capture. -/
def innerEntry (scene : Scene) : Entry := scene.inner.entry (around scene.outer) none

/-- All cells but the one of the innermost open capture. -/
def others (scene : Scene) : Multiset Entry :=
  scene.contextEntry ::ₘ
    (scene.inner.belongings + outerEntries scene.inner.position scene.outer)

/-- All cells of a scene. -/
def entries (scene : Scene) : Multiset Entry := scene.innerEntry ::ₘ scene.others

/-- All bindings of a scene. -/
def bindings (scene : Scene) : Bindings :=
  (Matcher.globalName, .ref scene.context) ::
    (scene.outer.reverse.flatMap Opened.bindings ++ scene.inner.bindings)

/-- Adds a frame. -/
def push (scene : Scene) (frame : Frame) : Scene :=
  { scene with inner := { scene.inner with frames := frame :: scene.inner.frames } }

/-- Adds closed captures. -/
def graft (scene : Scene) (trees : List Located) : Scene :=
  { scene with inner := { scene.inner with closed := scene.inner.closed ++ trees } }

/-- Opens a capture inside of the innermost one. -/
def nest (scene : Scene) (opened : Opened) : Scene :=
  { scene with inner := opened, outer := scene.inner :: scene.outer }

@[simp] theorem graft_nil (scene : Scene) : scene.graft [] = scene := by
  unfold graft
  rw [List.append_nil]

theorem graft_graft (scene : Scene) (first second : List Located) :
    (scene.graft first).graft second = scene.graft (first ++ second) := by
  unfold graft
  rw [List.append_assoc]

theorem graft_push (scene : Scene) (frame : Frame) (trees : List Located) :
    (scene.push frame).graft trees = (scene.graft trees).push frame := rfl

theorem graft_nest (scene : Scene) (opened : Opened) (trees : List Located) :
    (scene.nest opened).graft trees =
      scene.nest { opened with closed := opened.closed ++ trees } := rfl

theorem root_graft (scene : Scene) (trees : List Located) :
    (scene.graft trees).root.position = scene.root.position := by
  unfold root graft
  cases scene.outer.getLast? <;> rfl

theorem root_push (scene : Scene) (frame : Frame) :
    (scene.push frame).root.position = scene.root.position := by
  unfold root push
  cases scene.outer.getLast? <;> rfl

/-! ### Frames come and go at the end -/

theorem entries_push (scene : Scene) (frame : Frame) :
    (scene.push frame).entries = frame.entries + scene.entries := by
  have context : (scene.push frame).contextEntry = scene.contextEntry := by
    unfold contextEntry
    rw [root_push]
    rfl
  have belongings : (scene.push frame).inner.belongings =
      frame.entries + scene.inner.belongings := by
    change Located.entriesOfAll _ _ + (frame.entries + _) = _
    rw [add_left_comm]
    rfl
  unfold entries others
  rw [context, belongings]
  change scene.innerEntry ::ₘ scene.contextEntry ::ₘ (frame.entries + scene.inner.belongings +
    outerEntries scene.inner.position scene.outer) = _
  rw [add_assoc, ← Multiset.add_cons, ← Multiset.add_cons]

theorem bindings_push (scene : Scene) (frame : Frame) :
    (scene.push frame).bindings = scene.bindings ++ [frame.binding] := by
  unfold bindings push Opened.bindings
  simp only [List.reverse_cons, List.map_append, List.map_cons, List.map_nil, List.cons_append,
    List.append_assoc]

/-! ### Names -/

theorem lookup_frame (scene : Scene) (frame : Frame) :
    (scene.push frame).bindings.reverse.lookup frame.binding.1 = some frame.binding.2 := by
  rw [bindings_push, List.reverse_append, List.reverse_singleton, List.singleton_append,
    List.lookup_cons, beq_self_eq_true]

theorem lookup_frames (frames : List Frame) (name : String)
    (different : name ≠ Matcher.repetitionName ∧ name ≠ Matcher.atomicName ∧
      name ≠ Matcher.lookaheadName) :
    (frames.map Frame.binding).lookup name = none := by
  rw [List.lookup_eq_none_iff]
  intro binding member
  obtain ⟨frame, -, rfl⟩ := List.mem_map.mp member
  refine bne_iff_ne.mpr ?_
  cases frame with
  | repetition => exact different.1
  | atomic => exact different.2.1
  | lookahead => exact different.2.2

theorem lookup_openName (scene : Scene) :
    scene.bindings.reverse.lookup Matcher.openName = some (.ref scene.inner.position) := by
  have frames := lookup_frames scene.inner.frames Matcher.openName (by decide)
  unfold bindings Opened.bindings
  simp only [List.reverse_cons, List.reverse_append, List.lookup_append, List.map_reverse,
    List.reverse_reverse, frames]
  rfl

theorem lookup_opened_globalName (opened : Opened) :
    opened.bindings.reverse.lookup Matcher.globalName = none := by
  have frames := lookup_frames opened.frames Matcher.globalName (by decide)
  unfold Opened.bindings
  simp only [List.reverse_cons, List.map_reverse, List.reverse_reverse, List.lookup_append, frames]
  rfl

theorem lookup_globalName (scene : Scene) :
    scene.bindings.reverse.lookup Matcher.globalName = some (.ref scene.context) := by
  have outer : ∀ outer : List Opened,
      (outer.flatMap Opened.bindings).reverse.lookup Matcher.globalName = none := by
    intro outer
    induction outer with
    | nil => rfl
    | cons opened outer inductionHypothesis =>
      rw [List.flatMap_cons, List.reverse_append, List.lookup_append, inductionHypothesis,
        lookup_opened_globalName]
      rfl
  unfold bindings
  rw [List.reverse_cons, List.reverse_append, List.lookup_append, List.lookup_append,
    lookup_opened_globalName, outer]
  rfl

/-! ### Everything can be reached -/

mutual

theorem reached_located {entries : Multiset Entry} {bindings : Bindings} (parent : Nat) :
    ∀ located : Located, (located.entries parent ⊆ entries) →
      Entry.Reached entries bindings located.position →
      ∀ entry ∈ located.entries parent, Entry.Reached entries bindings entry.position
  | .mk place name start stop children, inside, reached, entry, member => by
    rw [Located.entries] at inside member
    have self := inside (Multiset.mem_cons_self _ _)
    obtain same | below := Multiset.mem_cons.mp member
    · rw [same]
      exact reached
    · refine reached_allLocated place children (fun other isBelow =>
        inside (Multiset.mem_cons_of_mem isBelow)) (fun child isChild => ?_) entry below
      refine .referred self reached ?_
      exact List.mem_append_right _ (List.mem_map_of_mem isChild)

theorem reached_allLocated {entries : Multiset Entry} {bindings : Bindings} (parent : Nat) :
    ∀ trees : List Located, (Located.entriesOfAll parent trees ⊆ entries) →
      (∀ tree ∈ trees, Entry.Reached entries bindings tree.position) →
      ∀ entry ∈ Located.entriesOfAll parent trees, Entry.Reached entries bindings entry.position
  | [], _, _, entry, member => absurd member (Multiset.notMem_zero entry)
  | tree :: trees, inside, reached, entry, member => by
    rw [Located.entriesOfAll] at inside member
    obtain first | later := Multiset.mem_add.mp member
    · exact reached_located parent tree (fun other isFirst => inside
        (Multiset.mem_add.mpr (.inl isFirst))) (reached tree List.mem_cons_self) entry first
    · exact reached_allLocated parent trees (fun other isLater => inside
        (Multiset.mem_add.mpr (.inr isLater)))
        (fun other isOther => reached other (List.mem_cons_of_mem _ isOther)) entry later

end

theorem mem_frameEntries {entry : Entry} {frames : List Frame}
    (member : entry ∈ (frames.map Frame.entries).sum) :
    ∃ frame ∈ frames, entry ∈ frame.entries := by
  induction frames with
  | nil => exact absurd member (Multiset.notMem_zero entry)
  | cons frame frames inductionHypothesis =>
    rw [List.map_cons, List.sum_cons] at member
    obtain here | later := Multiset.mem_add.mp member
    · exact ⟨frame, List.mem_cons_self, here⟩
    · obtain ⟨other, isOther, inside⟩ := inductionHypothesis later
      exact ⟨other, List.mem_cons_of_mem _ isOther, inside⟩

theorem Frame.binding_of_mem {entry : Entry} {frame : Frame} (member : entry ∈ frame.entries) :
    ∃ name, frame.binding = (name, .ref entry.position) := by
  cases frame with
  | repetition =>
    rw [Multiset.mem_singleton.mp member]
    exact ⟨_, rfl⟩
  | atomic => exact absurd member (Multiset.notMem_zero entry)
  | lookahead =>
    rw [Multiset.mem_singleton.mp member]
    exact ⟨_, rfl⟩

theorem reached_opened {entries : Multiset Entry} {bindings : Bindings} (opened : Opened)
    (parent inner : Option Nat)
    (inside : opened.entry parent inner ::ₘ opened.belongings ⊆ entries)
    (bound : opened.bindings ⊆ bindings) :
    ∀ entry ∈ opened.entry parent inner ::ₘ opened.belongings,
      Entry.Reached entries bindings entry.position := by
  have self : Entry.Reached entries bindings opened.position := .bound (bound List.mem_cons_self)
  intro entry member
  obtain same | below := Multiset.mem_cons.mp member
  · rw [same]
    exact self
  · have insideBelow : opened.belongings ⊆ entries := fun other isBelow =>
      inside (Multiset.mem_cons_of_mem isBelow)
    obtain closed | framed := Multiset.mem_add.mp below
    · refine reached_allLocated opened.position opened.closed (fun other isClosed =>
        insideBelow (Multiset.mem_add.mpr (.inl isClosed))) (fun tree isTree => ?_) entry closed
      refine .referred (inside (Multiset.mem_cons_self _ _)) self ?_
      exact List.mem_append_right _ (List.mem_append_left _ (List.mem_map_of_mem isTree))
    · obtain ⟨frame, isFrame, isEntry⟩ := mem_frameEntries framed
      obtain ⟨name, binding⟩ := Frame.binding_of_mem isEntry
      have listed : frame.binding ∈ opened.bindings :=
        List.mem_cons_of_mem _ (List.mem_map_of_mem (List.mem_reverse.mpr isFrame))
      rw [binding] at listed
      exact .bound (bound listed)

theorem reached_outer {entries : Multiset Entry} {bindings : Bindings} (inner : Nat)
    (outer : List Opened) (inside : outerEntries inner outer ⊆ entries)
    (bound : ∀ opened ∈ outer, opened.bindings ⊆ bindings) :
    ∀ entry ∈ outerEntries inner outer, Entry.Reached entries bindings entry.position := by
  induction outer generalizing inner with
  | nil => exact fun entry member => absurd member (Multiset.notMem_zero entry)
  | cons opened outer inductionHypothesis =>
    rw [outerEntries, ← Multiset.cons_add] at inside ⊢
    intro entry member
    obtain here | further := Multiset.mem_add.mp member
    · exact reached_opened opened _ _ (fun other isHere =>
        inside (Multiset.mem_add.mpr (.inl isHere))) (bound opened List.mem_cons_self) entry here
    · exact inductionHypothesis opened.position (fun other isFurther =>
        inside (Multiset.mem_add.mpr (.inr isFurther)))
        (fun other isOther => bound other (List.mem_cons_of_mem _ isOther)) entry further

/-- Every cell of a scene can be reached. -/
theorem reached (scene : Scene) :
    ∀ entry ∈ scene.entries, Entry.Reached scene.entries scene.bindings entry.position := by
  have split : scene.entries = (scene.innerEntry ::ₘ scene.inner.belongings) +
      (scene.contextEntry ::ₘ outerEntries scene.inner.position scene.outer) := by
    unfold entries others
    rw [Multiset.add_cons, Multiset.cons_add, Multiset.cons_swap]
  have inside : scene.entries ⊆ scene.entries := Multiset.Subset.refl _
  nth_rewrite 1 [split] at inside
  nth_rewrite 1 [split]
  intro entry member
  obtain here | elsewhere := Multiset.mem_add.mp member
  · exact reached_opened scene.inner _ _ (fun other isHere =>
      inside (Multiset.mem_add.mpr (.inl isHere)))
      (fun binding isBound => List.mem_cons_of_mem _ (List.mem_append_right _ isBound)) entry here
  · obtain same | further := Multiset.mem_cons.mp elsewhere
    · rw [same]
      exact .bound List.mem_cons_self
    · refine reached_outer scene.inner.position scene.outer (fun other isFurther =>
        inside (Multiset.mem_add.mpr (.inr (Multiset.mem_cons_of_mem isFurther))))
        (fun opened isOpened binding isBound => ?_) entry further
      refine List.mem_cons_of_mem _ (List.mem_append_left _ (List.mem_flatMap.mpr ?_))
      exact ⟨opened, List.mem_reverse.mpr isOpened, isBound⟩

/-! ### Everything is referred to -/

mutual

theorem positive_located (parent : Nat) :
    ∀ located : Located, ∀ entry ∈ located.entries parent, 0 < entry.count
  | .mk place name start stop children, entry, member => by
    rw [Located.entries] at member
    obtain same | below := Multiset.mem_cons.mp member
    · rw [same]
      exact Nat.add_pos_left Nat.one_pos _
    · exact positive_allLocated place children entry below

theorem positive_allLocated (parent : Nat) :
    ∀ trees : List Located, ∀ entry ∈ Located.entriesOfAll parent trees, 0 < entry.count
  | [], entry, member => absurd member (Multiset.notMem_zero entry)
  | tree :: trees, entry, member => by
    rw [Located.entriesOfAll] at member
    obtain first | later := Multiset.mem_add.mp member
    · exact positive_located parent tree entry first
    · exact positive_allLocated parent trees entry later

end

theorem positive_belongings (opened : Opened) : ∀ entry ∈ opened.belongings, 0 < entry.count := by
  intro entry member
  obtain closed | framed := Multiset.mem_add.mp member
  · exact positive_allLocated opened.position opened.closed entry closed
  · obtain ⟨frame, -, isEntry⟩ := mem_frameEntries framed
    cases frame with
    | repetition =>
      rw [Multiset.mem_singleton.mp isEntry]
      exact Nat.one_pos
    | atomic => exact absurd isEntry (Multiset.notMem_zero entry)
    | lookahead =>
      rw [Multiset.mem_singleton.mp isEntry]
      exact Nat.one_pos

theorem positive_entry (opened : Opened) (parent inner : Option Nat) :
    0 < (opened.entry parent inner).count :=
  Nat.add_pos_left (Nat.add_pos_left Nat.two_pos _) _

theorem positive_outer (inner : Nat) (outer : List Opened) :
    ∀ entry ∈ outerEntries inner outer, 0 < entry.count := by
  induction outer generalizing inner with
  | nil => exact fun entry member => absurd member (Multiset.notMem_zero entry)
  | cons opened outer inductionHypothesis =>
    intro entry member
    obtain same | others := Multiset.mem_cons.mp member
    · rw [same]
      exact positive_entry opened _ _
    · obtain here | further := Multiset.mem_add.mp others
      · exact positive_belongings opened entry here
      · exact inductionHypothesis opened.position entry further

/-- Every cell of a scene is referred to. -/
theorem positive (scene : Scene) : ∀ entry ∈ scene.entries, 0 < entry.count := by
  intro entry member
  obtain same | others := Multiset.mem_cons.mp member
  · rw [same]
    exact positive_entry scene.inner _ _
  · obtain same | further := Multiset.mem_cons.mp others
    · rw [same]
      exact Nat.one_pos
    · obtain here | outer := Multiset.mem_add.mp further
      · exact positive_belongings scene.inner entry here
      · exact positive_outer scene.inner.position scene.outer entry outer

theorem mem_entriesOfAll (parent : Nat) {trees : List Located} {located : Located}
    (member : located ∈ trees) :
    located.position ∈ (Located.entriesOfAll parent trees).map Entry.position := by
  induction trees with
  | nil => cases member
  | cons tree trees inductionHypothesis =>
    rw [Located.entriesOfAll, Multiset.map_add, Multiset.mem_add]
    obtain here | later := List.mem_cons.mp member
    · left
      subst here
      obtain ⟨place, name, start, stop, children⟩ := located
      rw [Located.entries, Multiset.map_cons]
      exact Multiset.mem_cons_self _ _
    · exact .inr (inductionHypothesis later)

/-- The innermost open capture refers to cells of the scene. -/
theorem references_inner (scene : Scene) :
    ∀ position ∈ scene.innerEntry.payload.references,
      position ∈ scene.entries.map Entry.position := by
  intro position member
  unfold entries others
  simp only [Multiset.map_cons, Multiset.map_add, Multiset.mem_cons, Multiset.mem_add]
  obtain isParent | isChild := List.mem_append.mp member
  · right; right; right
    cases outer : scene.outer with
    | nil =>
      rw [outer] at isParent
      cases isParent
    | cons opened outer =>
      rw [outer] at isParent
      cases List.mem_singleton.mp isParent
      rw [outerEntries, Multiset.map_cons]
      exact Multiset.mem_cons_self _ _
  · right; right; left
    rw [Option.toList_none, List.append_nil] at isChild
    obtain ⟨located, closed, rfl⟩ := List.mem_map.mp isChild
    unfold Opened.belongings
    rw [Multiset.map_add]
    exact Multiset.mem_add.mpr (.inl (mem_entriesOfAll _ closed))

/-! ### Captures come and go -/

theorem root_nest (scene : Scene) (opened : Opened) :
    (scene.nest opened).root = scene.root := by
  unfold root nest
  rw [List.getLast?_cons]
  rfl

theorem bindings_nest (scene : Scene) (opened : Opened) (fresh : opened.frames = []) :
    (scene.nest opened).bindings =
      scene.bindings ++ [(Matcher.openName, .ref opened.position)] := by
  have inner : opened.bindings = [(Matcher.openName, .ref opened.position)] := by
    unfold Opened.bindings
    rw [fresh]
    rfl
  unfold bindings nest
  rw [inner, List.reverse_cons, List.flatMap_append, List.flatMap_cons, List.flatMap_nil,
    List.append_nil, List.cons_append]

/-- What is around a capture without frames: the one it was opened in now lists it. -/
theorem others_nest (scene : Scene) (opened : Opened) (fresh : opened.frames = []) :
    (scene.nest opened).others =
      scene.inner.entry (around scene.outer) (some opened.position) ::ₘ
        (Located.entriesOfAll opened.position opened.closed + scene.others) := by
  have belongings : opened.belongings = Located.entriesOfAll opened.position opened.closed := by
    unfold Opened.belongings
    rw [fresh, List.map_nil, List.sum_nil, add_zero]
  have context : (scene.nest opened).contextEntry = scene.contextEntry := by
    unfold contextEntry
    rw [root_nest]
    rfl
  unfold others
  rw [context]
  change scene.contextEntry ::ₘ
    (opened.belongings + scene.inner.entry (around scene.outer) (some opened.position) ::ₘ
      (scene.inner.belongings + outerEntries scene.inner.position scene.outer)) = _
  rw [belongings, Multiset.add_cons, Multiset.cons_swap, Multiset.add_cons]

/-- Adding a closed capture looks like opening one inside. -/
theorem entries_graft (scene : Scene) (located : Located) :
    (scene.graft [located]).entries =
      scene.inner.entry (around scene.outer) (some located.position) ::ₘ
        (located.entries scene.inner.position + scene.others) := by
  have inner : (scene.graft [located]).innerEntry =
      scene.inner.entry (around scene.outer) (some located.position) := by
    unfold innerEntry graft Opened.entry
    simp only [List.map_append, List.map_cons, List.map_nil, List.length_append, List.length_cons,
      List.length_nil, Option.toList_none, Option.toList_some, List.append_nil]
    rfl
  have context : (scene.graft [located]).contextEntry = scene.contextEntry := by
    unfold contextEntry
    rw [root_graft]
    rfl
  have belongings : (scene.graft [located]).inner.belongings =
      located.entries scene.inner.position + scene.inner.belongings := by
    change Located.entriesOfAll scene.inner.position (scene.inner.closed ++ [located]) +
      (scene.inner.frames.map Frame.entries).sum = _
    rw [Located.entriesOfAll_append, Located.entriesOfAll, Located.entriesOfAll, add_zero,
      add_right_comm, add_comm]
    rfl
  unfold entries others
  rw [inner, context, belongings]
  refine congrArg (Multiset.cons _) ?_
  rw [add_assoc, ← Multiset.add_cons]
  rfl

end Scene

end Rewind
