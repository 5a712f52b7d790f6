/-
This file reads the captures of a scene off what is seen of the store. They form a tree: each but
the root match is listed by exactly one other, the one that it names as its parent. The captures
that are open are those that are bound, and they lead from the root match down along last children.

That parents and lists of children agree is stated as an equation between multisets of pairs, so
that it can be added up over the cells of a scene.
-/

import Mathlib
import Rewind.Proofs.Matcher.Activation
import Rewind.Proofs.Store.Accounting

namespace Rewind

/-! ### Captures that are seen -/

/-- The capture at a position. -/
def Snapshot.capture? (view : Snapshot) (place : Nat) : Option Capture :=
  (view.entry? place).bind fun entry => entry.payload.capture?

/-- One capture lists another one among its children. -/
def Snapshot.Lists (view : Snapshot) (outer inner : Nat) : Prop :=
  ∃ record, view.capture? outer = some record ∧ inner ∈ record.children

/-- The values that a name is bound to, from the bottom of the stack up. -/
def Bindings.named (name : String) (bindings : Bindings) : List Value :=
  (bindings.filter fun binding => binding.1 = name).map Prod.snd

/-- The captures that are seen form a tree, with the root match on top. -/
structure Snapshot.CaptureTree (size root : Nat) (view : Snapshot) : Prop where
  /-- The global object leads to the root match. -/
  recorded : ∃ context count, view.bindings.named Matcher.globalName = [.ref context] ∧
    view.entry? context = some ⟨context, .object [(Matcher.rootName, .ref root)], count⟩
  top : ∃ record, view.capture? root = some record ∧ record.parent = none
  parent : ∀ place record, view.capture? place = some record → place ≠ root →
    ∃ outer, record.parent = some outer ∧ view.Lists outer place
  /-- A capture is listed once by its parent, and not by any other. -/
  listed : ∀ place record, view.capture? place = some record →
    ∀ outer around, view.capture? outer = some around →
      around.children.count place = if record.parent = some outer then 1 else 0
  /-- Nothing but captures is listed. -/
  children : ∀ outer inner, view.Lists outer inner → ∃ record, view.capture? inner = some record
  reachable : ∀ place record, view.capture? place = some record →
    Relation.ReflTransGen view.Lists root place
  /-- What is bound is the root match, and then the last child of what is bound below. -/
  path : ∃ inner, view.bindings.named Matcher.openName = (root :: inner).map Value.ref ∧
    (root :: inner).IsChain fun outer inner =>
      ∃ record, view.capture? outer = some record ∧ record.children.getLast? = some inner
  /-- A capture that is closed lies in the text. -/
  closed : ∀ place record stop, view.capture? place = some record → record.stop = some stop →
    record.start ≤ stop ∧ stop ≤ size

/-- The captures without an end are those that are bound. -/
def Snapshot.OpenAreBound (view : Snapshot) : Prop :=
  ∀ place record, view.capture? place = some record →
    (record.stop = none ↔ .ref place ∈ view.bindings.named Matcher.openName)

/-! ### Captures in cells -/

namespace Entry

/-- The children that a cell lists, if it holds a capture. -/
def children (entry : Entry) : List Nat := entry.payload.capture?.elim [] Capture.children

/-- The parent that a cell names, if it holds a capture that has one. -/
def parent? (entry : Entry) : Option Nat := entry.payload.capture?.bind Capture.parent

/-- The pairs of a capture and a child that it lists. -/
def listings (entry : Entry) : Multiset (Nat × Nat) :=
  (entry.children : Multiset Nat).map fun child => (entry.position, child)

/-- The pair of a capture and the parent that it names. -/
def nestings (entry : Entry) : Multiset (Nat × Nat) :=
  (entry.parent?.toList : Multiset Nat).map fun parent => (parent, entry.position)

/-- Where a capture is stored. -/
def places (entry : Entry) : Multiset Nat :=
  (entry.payload.capture?.toList.map fun _ => entry.position : List Nat)

theorem mem_listings {entry : Entry} {outer inner : Nat} :
    (outer, inner) ∈ entry.listings ↔ outer = entry.position ∧ inner ∈ entry.children := by
  unfold listings
  simp [eq_comm, and_comm]

theorem mem_nestings {entry : Entry} {outer inner : Nat} :
    (outer, inner) ∈ entry.nestings ↔ inner = entry.position ∧ entry.parent? = some outer := by
  unfold nestings
  simp [eq_comm, and_comm]

theorem mem_places {entry : Entry} {place : Nat} :
    place ∈ entry.places ↔ place = entry.position ∧ ∃ record, entry.payload = .capture record := by
  unfold places
  cases entry.payload <;> simp [Payload.capture?]

/-- Only the cell that a pair comes from counts. -/
theorem count_bind {pairs : Entry → Multiset (Nat × Nat)} (key : Nat × Nat → Nat)
    (keyed : ∀ entry, ∀ pair ∈ pairs entry, key pair = entry.position) {entries : Multiset Entry}
    (distinct : (entries.map Entry.position).Nodup) {entry : Entry} (member : entry ∈ entries)
    {pair : Nat × Nat} (here : key pair = entry.position) :
    (entries.bind pairs).count pair = (pairs entry).count pair := by
  obtain ⟨rest, rfl⟩ := Multiset.exists_cons_of_mem member
  rw [Multiset.map_cons, Multiset.nodup_cons] at distinct
  have elsewhere : pair ∉ rest.bind pairs := by
    intro present
    obtain ⟨other, isOther, inside⟩ := Multiset.mem_bind.mp present
    refine distinct.1 (Multiset.mem_map.mpr ⟨other, isOther, ?_⟩)
    rw [← keyed other pair inside, here]
  rw [Multiset.cons_bind, Multiset.count_add, Multiset.count_eq_zero.mpr elsewhere, Nat.add_zero]

theorem count_listings {entry : Entry} (inner : Nat) :
    entry.listings.count (entry.position, inner) = entry.children.count inner := by
  unfold listings
  rw [Multiset.count_map_eq_count' _ _ (Prod.mk_right_injective entry.position), Multiset.coe_count]

theorem count_nestings {entry : Entry} (outer : Nat) :
    entry.nestings.count (outer, entry.position) = if entry.parent? = some outer then 1 else 0 := by
  have injective : Function.Injective fun parent : Nat => (parent, entry.position) :=
    Prod.mk_left_injective entry.position
  unfold nestings
  rw [Multiset.count_map_eq_count' _ _ injective, Multiset.coe_count]
  cases entry.parent? with
  | none => rfl
  | some parent =>
    rw [Option.toList_some, List.count_singleton]
    simp only [beq_iff_eq, Option.some.injEq]

end Entry

namespace Snapshot

variable {view : Snapshot} {entries : Multiset Entry} {place : Nat} {record : Capture}

theorem Holds.capture?_eq_some_iff (holds : view.Holds entries) :
    view.capture? place = some record ↔
      ∃ entry ∈ entries, entry.position = place ∧ entry.payload = .capture record := by
  unfold capture?
  constructor
  · intro found
    obtain ⟨entry, seen, isCapture⟩ := Option.bind_eq_some_iff.mp found
    obtain ⟨member, here⟩ := holds.entry?_eq_some_iff.mp seen
    refine ⟨entry, member, here, ?_⟩
    cases shape : entry.payload with
    | capture record =>
      rw [shape] at isCapture
      cases isCapture
      rfl
    | object fields =>
      rw [shape] at isCapture
      cases isCapture
    | list items =>
      rw [shape] at isCapture
      cases isCapture
  · rintro ⟨entry, member, here, isCapture⟩
    rw [holds.entry?_eq_some_iff.mpr ⟨member, here⟩, Option.bind_some, isCapture]
    rfl

theorem Holds.lists_iff (holds : view.Holds entries) {outer inner : Nat} :
    view.Lists outer inner ↔ (outer, inner) ∈ entries.bind Entry.listings := by
  simp only [Lists, Multiset.mem_bind, Entry.mem_listings, holds.capture?_eq_some_iff]
  constructor
  · rintro ⟨record, ⟨entry, member, rfl, isCapture⟩, inside⟩
    refine ⟨entry, member, rfl, ?_⟩
    unfold Entry.children
    rw [isCapture]
    exact inside
  · rintro ⟨entry, member, rfl, inside⟩
    unfold Entry.children at inside
    cases isCapture : entry.payload with
    | capture record =>
      rw [isCapture] at inside
      exact ⟨record, ⟨entry, member, rfl, isCapture⟩, inside⟩
    | object fields =>
      rw [isCapture] at inside
      cases inside
    | list items =>
      rw [isCapture] at inside
      cases inside

end Snapshot

/-! ### Closed captures -/

namespace Located

mutual

/-- A closed capture names the one around it, and those inside of it are the ones that it lists. -/
theorem nestings_entries (parent : Nat) : ∀ located : Located,
    (located.entries parent).bind Entry.nestings =
      (parent, located.position) ::ₘ (located.entries parent).bind Entry.listings
  | .mk place name start stop children => by
    rw [entries, Multiset.cons_bind, Multiset.cons_bind, nestings_entriesOfAll place children]
    rfl

theorem nestings_entriesOfAll (parent : Nat) : ∀ trees : List Located,
    (entriesOfAll parent trees).bind Entry.nestings =
      (trees.map position : Multiset Nat).map (fun child => (parent, child)) +
        (entriesOfAll parent trees).bind Entry.listings
  | [] => rfl
  | tree :: trees => by
    rw [entriesOfAll, Multiset.add_bind, Multiset.add_bind, nestings_entries parent tree,
      nestings_entriesOfAll parent trees, List.map_cons, ← Multiset.cons_coe, Multiset.map_cons,
      Multiset.cons_add, Multiset.cons_add, add_left_comm]

end

mutual

theorem places_entries (parent : Nat) : ∀ located : Located,
    (located.entries parent).bind Entry.places = located.order
  | .mk place name start stop children => by
    rw [entries, Multiset.cons_bind, places_entriesOfAll place children, order]
    rfl

theorem places_entriesOfAll (parent : Nat) : ∀ trees : List Located,
    (entriesOfAll parent trees).bind Entry.places = orderOfAll trees
  | [] => rfl
  | tree :: trees => by
    rw [entriesOfAll, Multiset.add_bind, places_entries parent tree,
      places_entriesOfAll parent trees, orderOfAll, Multiset.coe_add]

end

mutual

/-- What is handed on to children is handed down a closed capture. -/
theorem handed_entries {property : Nat → Prop} {entries : Multiset Entry}
    (handed : ∀ entry ∈ entries, property entry.position → ∀ child ∈ entry.children, property child)
    (parent : Nat) : ∀ located : Located, located.entries parent ⊆ entries →
      property located.position → ∀ entry ∈ located.entries parent, property entry.position
  | .mk place name start stop children, inside, holds, entry, member => by
    rw [Located.entries] at inside member
    obtain rfl | below := Multiset.mem_cons.mp member
    · exact holds
    · refine handed_entriesOfAll handed place children
        (fun other isBelow => inside (Multiset.mem_cons_of_mem isBelow)) (fun child isChild => ?_)
        entry below
      exact handed _ (inside (Multiset.mem_cons_self _ _)) holds _ (List.mem_map_of_mem isChild)

theorem handed_entriesOfAll {property : Nat → Prop} {entries : Multiset Entry}
    (handed : ∀ entry ∈ entries, property entry.position → ∀ child ∈ entry.children, property child)
    (parent : Nat) : ∀ trees : List Located, entriesOfAll parent trees ⊆ entries →
      (∀ tree ∈ trees, property tree.position) →
        ∀ entry ∈ entriesOfAll parent trees, property entry.position
  | [], _, _, entry, member => absurd member (Multiset.notMem_zero entry)
  | tree :: trees, inside, holds, entry, member => by
    rw [entriesOfAll] at inside member
    obtain first | later := Multiset.mem_add.mp member
    · exact handed_entries handed parent tree
        (fun other isFirst => inside (Multiset.mem_add.mpr (.inl isFirst)))
        (holds tree List.mem_cons_self) entry first
    · exact handed_entriesOfAll handed parent trees
        (fun other isLater => inside (Multiset.mem_add.mpr (.inr isLater)))
        (fun other isOther => holds other (List.mem_cons_of_mem _ isOther)) entry later

end

mutual

/-- All captures inside of one that lies in the text do. -/
theorem Within.entries {size : Nat} (parent : Nat) : ∀ located : Located, located.Within size →
    ∀ entry ∈ located.entries parent, ∃ record stop, entry.payload = .capture record ∧
      record.stop = some stop ∧ record.start ≤ stop ∧ stop ≤ size
  | .mk place name start stop children, within, entry, member => by
    rw [Located.entries] at member
    cases within with
    | mk ordered inside contained =>
      obtain rfl | below := Multiset.mem_cons.mp member
      · exact ⟨_, stop, rfl, rfl, ordered, inside⟩
      · exact Within.entriesOfAll place children contained entry below

theorem Within.entriesOfAll {size : Nat} (parent : Nat) : ∀ trees : List Located,
    (∀ tree ∈ trees, tree.Within size) →
    ∀ entry ∈ Located.entriesOfAll parent trees, ∃ record stop, entry.payload = .capture record ∧
      record.stop = some stop ∧ record.start ≤ stop ∧ stop ≤ size
  | [], _, entry, member => absurd member (Multiset.notMem_zero entry)
  | tree :: trees, within, entry, member => by
    rw [Located.entriesOfAll] at member
    obtain first | later := Multiset.mem_add.mp member
    · exact Within.entries parent tree (within tree List.mem_cons_self) entry first
    · exact Within.entriesOfAll parent trees
        (fun other isOther => within other (List.mem_cons_of_mem _ isOther)) entry later

end

end Located

/-! ### Open captures -/

/-- Frames hold no captures. -/
theorem Frame.capture?_of_mem {frames : List Frame} {entry : Entry}
    (member : entry ∈ (frames.map Frame.entries).sum) : entry.payload.capture? = none := by
  obtain ⟨frame, -, inside⟩ := Scene.mem_frameEntries member
  cases frame with
  | repetition position count start =>
    rw [Multiset.mem_singleton.mp inside]
    rfl
  | atomic taken => exact absurd inside (Multiset.notMem_zero entry)
  | lookahead position taken start =>
    rw [Multiset.mem_singleton.mp inside]
    rfl

/-- What only depends on captures is nothing for frames. -/
theorem Frame.bind_eq_zero {α : Type} {pairs : Entry → Multiset α}
    (none : ∀ entry : Entry, entry.payload.capture? = none → pairs entry = 0)
    (frames : List Frame) : (frames.map Frame.entries).sum.bind pairs = 0 := by
  rw [Multiset.eq_zero_iff_forall_notMem]
  intro pair present
  obtain ⟨entry, member, inside⟩ := Multiset.mem_bind.mp present
  rw [none entry (capture?_of_mem member)] at inside
  exact Multiset.notMem_zero pair inside

namespace Entry

variable {entry : Entry}

theorem children_of_none (none : entry.payload.capture? = none) : entry.children = [] := by
  unfold children
  rw [none]
  rfl

theorem listings_of_none (none : entry.payload.capture? = none) : entry.listings = 0 := by
  unfold listings
  rw [children_of_none none]
  rfl

theorem nestings_of_none (none : entry.payload.capture? = none) : entry.nestings = 0 := by
  unfold nestings parent?
  rw [none]
  rfl

theorem places_of_none (none : entry.payload.capture? = none) : entry.places = 0 := by
  unfold places
  rw [none]
  rfl

end Entry

namespace Opened

theorem nestings_belongings (opened : Opened) :
    opened.belongings.bind Entry.nestings =
      (opened.closed.map Located.position : Multiset Nat).map
        (fun child => (opened.position, child)) + opened.belongings.bind Entry.listings := by
  unfold belongings
  rw [Multiset.add_bind, Multiset.add_bind, Located.nestings_entriesOfAll,
    Frame.bind_eq_zero fun _ => Entry.nestings_of_none,
    Frame.bind_eq_zero fun _ => Entry.listings_of_none, add_zero, add_zero]

theorem places_belongings (opened : Opened) :
    opened.belongings.bind Entry.places = Located.orderOfAll opened.closed := by
  unfold belongings
  rw [Multiset.add_bind, Located.places_entriesOfAll,
    Frame.bind_eq_zero fun _ => Entry.places_of_none, add_zero]

theorem listings_entry (opened : Opened) (parent inner : Option Nat) :
    (opened.entry parent inner).listings =
      (opened.closed.map Located.position : Multiset Nat).map
        (fun child => (opened.position, child)) +
        (inner.toList : Multiset Nat).map (fun child => (opened.position, child)) := by
  rw [← Multiset.map_add, Multiset.coe_add]
  rfl

theorem nestings_entry (opened : Opened) (parent inner : Option Nat) :
    (opened.entry parent inner).nestings =
      (parent.toList : Multiset Nat).map (fun outer => (outer, opened.position)) := rfl

theorem handed_belongings {property : Nat → Prop} {entries : Multiset Entry}
    (handed : ∀ entry ∈ entries, property entry.position → ∀ child ∈ entry.children, property child)
    (opened : Opened) {parent inner : Option Nat}
    (inside : opened.entry parent inner ::ₘ opened.belongings ⊆ entries)
    (holds : property opened.position) {entry : Entry} (member : entry ∈ opened.belongings)
    {record : Capture} (isCapture : entry.payload = .capture record) : property entry.position := by
  have self := inside (Multiset.mem_cons_self _ _)
  obtain closed | framed := Multiset.mem_add.mp member
  · refine Located.handed_entriesOfAll handed opened.position opened.closed
      (fun other isClosed => inside (Multiset.mem_cons_of_mem
        (Multiset.mem_add.mpr (.inl isClosed)))) (fun tree isTree => ?_) entry closed
    exact handed _ self holds _ (List.mem_append_left _ (List.mem_map_of_mem isTree))
  · have none := Frame.capture?_of_mem framed
    rw [isCapture] at none
    cases none

end Opened

namespace Scene

variable {entries : Multiset Entry} {view : Snapshot} {size : Nat}

/-! ### Parents and lists of children agree -/

theorem nestings_outer (inner : Nat) (outer : List Opened) :
    (outerEntries inner outer).bind Entry.nestings +
        ((around outer).toList : Multiset Nat).map (fun place => (place, inner)) =
      (outerEntries inner outer).bind Entry.listings := by
  induction outer generalizing inner with
  | nil => rfl
  | cons opened outer inductionHypothesis =>
    rw [outerEntries, Multiset.cons_bind, Multiset.cons_bind, Multiset.add_bind, Multiset.add_bind,
      opened.listings_entry, opened.nestings_entry, opened.nestings_belongings,
      ← inductionHypothesis opened.position]
    change _ + {(opened.position, inner)} = _ + {(opened.position, inner)} + _
    abel

theorem nestings_entries (scene : Scene) :
    scene.entries.bind Entry.nestings = scene.entries.bind Entry.listings := by
  unfold entries others
  rw [Multiset.cons_bind, Multiset.cons_bind, Multiset.cons_bind, Multiset.cons_bind,
    Multiset.add_bind, Multiset.add_bind, scene.inner.nestings_belongings, innerEntry,
    scene.inner.listings_entry, scene.inner.nestings_entry,
    Entry.nestings_of_none (rfl : scene.contextEntry.payload.capture? = none),
    Entry.listings_of_none (rfl : scene.contextEntry.payload.capture? = none),
    ← nestings_outer scene.inner.position scene.outer]
  change _ = _ + 0 + _
  abel

theorem places_outer (inner : Nat) (outer : List Opened) :
    (outerEntries inner outer).bind Entry.places = outer.flatMap Opened.order := by
  induction outer generalizing inner with
  | nil => rfl
  | cons opened outer inductionHypothesis =>
    rw [outerEntries, Multiset.cons_bind, Multiset.add_bind, inductionHypothesis,
      opened.places_belongings, List.flatMap_cons, ← Multiset.coe_add, ← add_assoc]
    rfl

/-- The captures of a scene in their order are those in its cells. -/
theorem places_entries (scene : Scene) : scene.entries.bind Entry.places = scene.order := by
  have reversed : (scene.outer.reverse.flatMap Opened.order : Multiset Nat) =
      (scene.outer.flatMap Opened.order : List Nat) :=
    Multiset.coe_eq_coe.mpr ((List.reverse_perm scene.outer).flatMap_right _)
  unfold entries others order
  rw [Multiset.cons_bind, Multiset.cons_bind, Multiset.add_bind, scene.inner.places_belongings,
    places_outer, Entry.places_of_none (rfl : scene.contextEntry.payload.capture? = none), zero_add,
    ← Multiset.coe_add, reversed, add_comm (scene.outer.flatMap Opened.order : Multiset Nat),
    ← add_assoc]
  rfl

/-! ### All captures are below the root match -/

theorem handed_outer {property : Nat → Prop}
    (handed : ∀ entry ∈ entries, property entry.position → ∀ child ∈ entry.children, property child)
    (inner : Nat) (outer : List Opened) (inside : outerEntries inner outer ⊆ entries)
    (root : property ((outer.getLast?.map Opened.position).getD inner)) :
    property inner ∧ ∀ entry ∈ outerEntries inner outer, ∀ record,
      entry.payload = .capture record → property entry.position := by
  induction outer generalizing inner with
  | nil => exact ⟨root, fun entry member => absurd member (Multiset.notMem_zero entry)⟩
  | cons opened outer inductionHypothesis =>
    rw [outerEntries, ← Multiset.cons_add] at inside
    have here : opened.entry (around outer) (some inner) ::ₘ opened.belongings ⊆ entries :=
      fun other isHere => inside (Multiset.mem_add.mpr (.inl isHere))
    rw [List.getLast?_cons, Option.map_some, Option.getD_some] at root
    obtain ⟨holds, further⟩ := inductionHypothesis opened.position
      (fun other isFurther => inside (Multiset.mem_add.mpr (.inr isFurther)))
      (by cases last : outer.getLast? <;> simpa [last] using root)
    have isListed : inner ∈ (opened.entry (around outer) (some inner)).children :=
      List.mem_append_right _ (List.mem_singleton_self inner)
    refine ⟨handed _ (here (Multiset.mem_cons_self _ _)) holds inner isListed,
      fun entry member record isCapture => ?_⟩
    rw [outerEntries] at member
    obtain rfl | others := Multiset.mem_cons.mp member
    · exact holds
    · obtain mine | outside := Multiset.mem_add.mp others
      · exact opened.handed_belongings handed here holds mine isCapture
      · exact further entry outside record isCapture

/-- What holds of the root match and is handed on to children holds of all captures. -/
theorem handed_entries (scene : Scene) (property : Nat → Prop)
    (handed : ∀ entry ∈ scene.entries, property entry.position →
      ∀ child ∈ entry.children, property child) (root : property scene.root.position)
    {entry : Entry} (member : entry ∈ scene.entries) {record : Capture}
    (isCapture : entry.payload = .capture record) : property entry.position := by
  have inside : scene.innerEntry ::ₘ scene.inner.belongings ⊆ scene.entries := by
    intro other isOther
    unfold entries others
    obtain rfl | further := Multiset.mem_cons.mp isOther
    · exact Multiset.mem_cons_self _ _
    · exact Multiset.mem_cons_of_mem
        (Multiset.mem_cons_of_mem (Multiset.mem_add.mpr (.inl further)))
  have outer : outerEntries scene.inner.position scene.outer ⊆ scene.entries := fun other isOther =>
    Multiset.mem_cons_of_mem (Multiset.mem_cons_of_mem (Multiset.mem_add.mpr (.inr isOther)))
  obtain ⟨holds, further⟩ := handed_outer handed scene.inner.position scene.outer outer (by
    unfold Scene.root at root
    cases last : scene.outer.getLast? <;> simpa [last] using root)
  obtain rfl | others := Multiset.mem_cons.mp member
  · exact holds
  · obtain rfl | rest := Multiset.mem_cons.mp others
    · cases isCapture
    · obtain mine | outside := Multiset.mem_add.mp rest
      · exact scene.inner.handed_belongings handed inside holds mine isCapture
      · exact further entry outside record isCapture

/-! ### The spine of open captures -/

/-- An open capture is in some cell. -/
theorem mem_entries_of_opened (scene : Scene) {opened : Opened}
    (member : opened ∈ scene.inner :: scene.outer) :
    ∃ parent inner, opened.entry parent inner ∈ scene.entries := by
  have around : ∀ (inner : Nat) (outer : List Opened), opened ∈ outer →
      ∃ parent inner', opened.entry parent inner' ∈ outerEntries inner outer := by
    intro inner outer isOuter
    induction outer generalizing inner with
    | nil => cases isOuter
    | cons first outer inductionHypothesis =>
      rw [outerEntries]
      obtain rfl | further := List.mem_cons.mp isOuter
      · exact ⟨_, _, Multiset.mem_cons_self _ _⟩
      · obtain ⟨parent, inner', present⟩ := inductionHypothesis first.position further
        exact ⟨parent, inner', Multiset.mem_cons_of_mem (Multiset.mem_add.mpr (.inr present))⟩
  obtain rfl | isOuter := List.mem_cons.mp member
  · exact ⟨_, _, Multiset.mem_cons_self _ _⟩
  · obtain ⟨parent, inner, present⟩ := around scene.inner.position scene.outer isOuter
    exact ⟨parent, inner, Multiset.mem_cons_of_mem (Multiset.mem_cons_of_mem
      (Multiset.mem_add.mpr (.inr present)))⟩

/-- A capture is an open one, or inside of one that was closed in an open one. -/
theorem capture_cases (scene : Scene) {entry : Entry} (member : entry ∈ scene.entries)
    {record : Capture} (isCapture : entry.payload = .capture record) :
    ∃ opened ∈ scene.inner :: scene.outer,
      (∃ parent inner, entry = opened.entry parent inner) ∨
        entry ∈ Located.entriesOfAll opened.position opened.closed := by
  have mine {opened : Opened} (present : entry ∈ opened.belongings) :
      entry ∈ Located.entriesOfAll opened.position opened.closed := by
    obtain closed | framed := Multiset.mem_add.mp present
    · exact closed
    · have none := Frame.capture?_of_mem framed
      rw [isCapture] at none
      cases none
  have around : ∀ (inner : Nat) (outer : List Opened), entry ∈ outerEntries inner outer →
      ∃ opened ∈ outer, (∃ parent inner, entry = opened.entry parent inner) ∨
        entry ∈ Located.entriesOfAll opened.position opened.closed := by
    intro inner outer isOuter
    induction outer generalizing inner with
    | nil => exact absurd isOuter (Multiset.notMem_zero entry)
    | cons first outer inductionHypothesis =>
      rw [outerEntries] at isOuter
      obtain here | others := Multiset.mem_cons.mp isOuter
      · exact ⟨first, List.mem_cons_self, .inl ⟨_, _, here⟩⟩
      · obtain present | further := Multiset.mem_add.mp others
        · exact ⟨first, List.mem_cons_self, .inr (mine present)⟩
        · obtain ⟨opened, isOpened, shape⟩ := inductionHypothesis first.position further
          exact ⟨opened, List.mem_cons_of_mem _ isOpened, shape⟩
  obtain here | others := Multiset.mem_cons.mp member
  · exact ⟨scene.inner, List.mem_cons_self, .inl ⟨_, _, here⟩⟩
  · obtain rfl | rest := Multiset.mem_cons.mp others
    · cases isCapture
    · obtain present | further := Multiset.mem_add.mp rest
      · exact ⟨scene.inner, List.mem_cons_self, .inr (mine present)⟩
      · obtain ⟨opened, isOpened, shape⟩ := around scene.inner.position scene.outer further
        exact ⟨opened, List.mem_cons_of_mem _ isOpened, shape⟩

/-- The root match names no parent. -/
theorem mem_entries_root (scene : Scene) :
    ∃ inner, scene.root.entry none inner ∈ scene.entries := by
  have around : ∀ (inner : Nat) (outer : List Opened) (last : Opened), outer.getLast? = some last →
      ∃ inner', last.entry none (some inner') ∈ outerEntries inner outer := by
    intro inner outer last isLast
    induction outer generalizing inner with
    | nil => cases isLast
    | cons first outer inductionHypothesis =>
      rw [outerEntries]
      cases outer with
      | nil =>
        cases isLast
        exact ⟨inner, Multiset.mem_cons_self _ _⟩
      | cons second outer =>
        obtain ⟨inner', present⟩ := inductionHypothesis first.position isLast
        exact ⟨inner', Multiset.mem_cons_of_mem (Multiset.mem_add.mpr (.inr present))⟩
  unfold root
  cases last : scene.outer.getLast? with
  | none =>
    rw [List.getLast?_eq_none_iff] at last
    refine ⟨none, ?_⟩
    unfold entries innerEntry
    rw [last]
    exact Multiset.mem_cons_self _ _
  | some opened =>
    obtain ⟨inner, present⟩ := around scene.inner.position scene.outer opened last
    exact ⟨some inner, Multiset.mem_cons_of_mem (Multiset.mem_cons_of_mem
      (Multiset.mem_add.mpr (.inr present)))⟩

/-- Where the open captures are stored, the root match first. -/
def spine (scene : Scene) : List Nat := ((scene.inner :: scene.outer).map Opened.position).reverse

theorem head_spine (scene : Scene) : ∃ inner, scene.spine = scene.root.position :: inner := by
  have last : scene.spine.head? = some scene.root.position := by
    unfold spine root
    rw [List.head?_reverse, List.getLast?_map, List.getLast?_cons]
    rfl
  exact ⟨scene.spine.tail, (List.cons_head?_tail last).symm⟩

/-- Along the spine every capture is the last child of the one around it. -/
theorem isChain_spine (scene : Scene) : scene.spine.IsChain fun outer inner =>
    ∃ entry ∈ scene.entries, entry.position = outer ∧ entry.children.getLast? = some inner := by
  have around : ∀ (inner : Nat) (outer : List Opened), outerEntries inner outer ⊆ scene.entries →
      (inner :: outer.map Opened.position).IsChain fun inner outer =>
        ∃ entry ∈ scene.entries, entry.position = outer ∧ entry.children.getLast? = some inner := by
    intro inner outer inside
    induction outer generalizing inner with
    | nil => exact .singleton inner
    | cons opened outer inductionHypothesis =>
      rw [outerEntries] at inside
      refine List.isChain_cons_cons.mpr
        ⟨?_, inductionHypothesis opened.position fun other isOther =>
        inside (Multiset.mem_cons_of_mem (Multiset.mem_add.mpr (.inr isOther)))⟩
      refine ⟨_, inside (Multiset.mem_cons_self _ _), rfl, ?_⟩
      exact List.getLast?_concat
  unfold spine
  rw [List.isChain_reverse]
  exact around scene.inner.position scene.outer fun other isOther =>
    Multiset.mem_cons_of_mem (Multiset.mem_cons_of_mem (Multiset.mem_add.mpr (.inr isOther)))

/-! ### What is bound -/

theorem name_of_frame (frame : Frame) :
    frame.binding.1 ≠ Matcher.openName ∧ frame.binding.1 ≠ Matcher.globalName := by
  cases frame <;> simp [Frame.binding, Matcher.openName, Matcher.globalName,
    Matcher.repetitionName, Matcher.atomicName, Matcher.lookaheadName]

theorem named_opened (opened : Opened) :
    opened.bindings.named Matcher.openName = [.ref opened.position] := by
  have frames (binding : String × Value)
      (member : binding ∈ opened.frames.reverse.map Frame.binding) :
      binding.1 ≠ Matcher.openName := by
    obtain ⟨frame, -, rfl⟩ := List.mem_map.mp member
    exact (name_of_frame frame).1
  unfold Opened.bindings Bindings.named
  rw [List.filter_cons_of_pos (by simp), List.filter_eq_nil_iff.mpr fun binding member => by
    simpa using frames binding member]
  rfl

theorem named_append (name : String) (first second : Bindings) :
    (first ++ second).named name = first.named name ++ second.named name := by
  unfold Bindings.named
  rw [List.filter_append, List.map_append]

/-- The open captures are bound, the root match first. -/
theorem named_openName (scene : Scene) :
    scene.bindings.named Matcher.openName = scene.spine.map Value.ref := by
  have outer (outer : List Opened) : Bindings.named Matcher.openName
      (outer.flatMap Opened.bindings) = (outer.map Opened.position).map Value.ref := by
    induction outer with
    | nil => rfl
    | cons opened outer inductionHypothesis =>
      rw [List.flatMap_cons, named_append, named_opened, inductionHypothesis]
      rfl
  have context : scene.bindings.named Matcher.openName =
      Bindings.named Matcher.openName
        (scene.outer.reverse.flatMap Opened.bindings ++ scene.inner.bindings) := by
    unfold bindings Bindings.named
    rw [List.filter_cons_of_neg (by simp [Matcher.globalName, Matcher.openName])]
  rw [context, named_append, named_opened, outer]
  unfold spine
  rw [List.map_cons, List.reverse_cons, List.map_append, List.map_reverse]
  rfl

theorem named_globalName (scene : Scene) :
    scene.bindings.named Matcher.globalName = [.ref scene.context] := by
  have others (binding : String × Value) (member : binding ∈ scene.outer.reverse.flatMap
      Opened.bindings ++ scene.inner.bindings) : binding.1 ≠ Matcher.globalName := by
    have one {opened : Opened} (isBound : binding ∈ opened.bindings) :
        binding.1 ≠ Matcher.globalName := by
      obtain rfl | framed := List.mem_cons.mp isBound
      · simp [Matcher.globalName, Matcher.openName]
      · obtain ⟨frame, -, rfl⟩ := List.mem_map.mp framed
        exact (name_of_frame frame).2
    obtain outer | inner := List.mem_append.mp member
    · obtain ⟨opened, -, isBound⟩ := List.mem_flatMap.mp outer
      exact one isBound
    · exact one inner
  unfold bindings Bindings.named
  rw [List.filter_cons_of_pos (by simp), List.filter_eq_nil_iff.mpr fun binding member => by
    simpa using others binding member]
  rfl

/-! ### Bounds -/

/-- Open captures that have been given an end all the same lie in the text, as do all that are
closed. -/
def Bounded (size : Nat) (scene : Scene) : Prop :=
  ∀ opened ∈ scene.inner :: scene.outer,
    (∀ stop, opened.stop = some stop → opened.start ≤ stop ∧ stop ≤ size) ∧
      ∀ tree ∈ opened.closed, tree.Within size

theorem Open.bounded {scene : Scene} (isOpen : scene.Open size) : scene.Bounded size := by
  intro opened member
  obtain ⟨noStop, closed⟩ := isOpen opened member
  refine ⟨fun stop isStop => ?_, closed⟩
  rw [noStop] at isStop
  cases isStop

theorem bounded_ofRoot {context place start stop : Nat} {closed : List Located}
    (ordered : start ≤ stop) (inside : stop ≤ size) (within : ∀ tree ∈ closed, tree.Within size) :
    (ofRoot context place start (some stop) closed).Bounded size := by
  intro opened member
  cases List.mem_singleton.mp member
  refine ⟨fun other isStop => ?_, within⟩
  cases isStop
  exact ⟨ordered, inside⟩

end Scene

/-! ### Views of a scene -/

namespace Snapshot

variable {view : Snapshot} {scene : Scene} {size : Nat} {place : Nat} {record : Capture}

theorem Holds.listed (heap : view.Holds scene.entries) (present : view.capture? place = some record)
    {outer : Nat} {around : Capture} (isAround : view.capture? outer = some around) :
    around.children.count place = if record.parent = some outer then 1 else 0 := by
  obtain ⟨entry, member, rfl, isCapture⟩ := heap.capture?_eq_some_iff.mp present
  obtain ⟨other, isOther, rfl, isCaptureToo⟩ := heap.capture?_eq_some_iff.mp isAround
  have listings : (scene.entries.bind Entry.listings).count (other.position, entry.position) =
      other.children.count entry.position :=
    (Entry.count_bind Prod.fst (fun entry pair inside => (Entry.mem_listings.mp inside).1)
      heap.distinct isOther rfl).trans (Entry.count_listings _)
  have nestings : (scene.entries.bind Entry.nestings).count (other.position, entry.position) =
      if entry.parent? = some other.position then 1 else 0 :=
    (Entry.count_bind Prod.snd (fun entry pair inside => (Entry.mem_nestings.mp inside).1)
      heap.distinct member rfl).trans (Entry.count_nestings _)
  rw [scene.nestings_entries, listings] at nestings
  have children : other.children = around.children := by
    unfold Entry.children
    rw [isCaptureToo]
    rfl
  have parent : entry.parent? = record.parent := by
    unfold Entry.parent?
    rw [isCapture]
    rfl
  rwa [children, parent] at nestings

/-- A listed capture names the one that lists it. -/
theorem Holds.parent_of_lists (heap : view.Holds scene.entries) {outer inner : Nat}
    (lists : view.Lists outer inner) :
    ∃ record, view.capture? inner = some record ∧ record.parent = some outer := by
  rw [heap.lists_iff, ← scene.nestings_entries] at lists
  obtain ⟨entry, member, inside⟩ := Multiset.mem_bind.mp lists
  obtain ⟨rfl, isParent⟩ := Entry.mem_nestings.mp inside
  obtain ⟨record, isCapture, named⟩ := Option.bind_eq_some_iff.mp isParent
  cases shape : entry.payload with
  | capture other =>
    rw [shape] at isCapture
    cases isCapture
    exact ⟨_, heap.capture?_eq_some_iff.mpr ⟨entry, member, rfl, shape⟩, named⟩
  | object fields =>
    rw [shape] at isCapture
    cases isCapture
  | list items =>
    rw [shape] at isCapture
    cases isCapture

theorem Holds.reachable (heap : view.Holds scene.entries)
    (present : view.capture? place = some record) :
    Relation.ReflTransGen view.Lists scene.root.position place := by
  obtain ⟨entry, member, rfl, isCapture⟩ := heap.capture?_eq_some_iff.mp present
  refine scene.handed_entries (Relation.ReflTransGen view.Lists scene.root.position)
    (fun other isOther reached child isChild => reached.tail ?_) .refl member isCapture
  rw [heap.lists_iff]
  exact Multiset.mem_bind.mpr ⟨other, isOther, Entry.mem_listings.mpr ⟨rfl, isChild⟩⟩

theorem Holds.closed (heap : view.Holds scene.entries) (bounded : scene.Bounded size)
    (present : view.capture? place = some record) {stop : Nat} (isStop : record.stop = some stop) :
    record.start ≤ stop ∧ stop ≤ size := by
  obtain ⟨entry, member, rfl, isCapture⟩ := heap.capture?_eq_some_iff.mp present
  obtain ⟨opened, isOpened, ⟨parent, inner, rfl⟩ | isClosed⟩ := scene.capture_cases member isCapture
  · cases isCapture
    exact (bounded opened isOpened).1 stop isStop
  · obtain ⟨other, last, isOther, isLast, ordered, inside⟩ := Located.Within.entriesOfAll
      opened.position opened.closed (bounded opened isOpened).2 entry isClosed
    rw [isCapture] at isOther
    cases isOther
    rw [isStop] at isLast
    cases isLast
    exact ⟨ordered, inside⟩

/-- The captures of a scene form a tree. -/
theorem captureTree_of_scene (heap : view.Holds scene.entries) (stack : view.Binds scene.bindings)
    (bounded : scene.Bounded size) : view.CaptureTree size scene.root.position where
  recorded := by
    refine ⟨scene.context, 1, ?_, heap.entry?_eq_some_iff.mpr ⟨?_, rfl⟩⟩
    · rw [stack.bindings_eq, scene.named_globalName]
    · exact Multiset.mem_cons_of_mem (Multiset.mem_cons_self _ _)
  top := by
    obtain ⟨inner, member⟩ := scene.mem_entries_root
    exact ⟨_, heap.capture?_eq_some_iff.mpr ⟨_, member, rfl, rfl⟩, rfl⟩
  parent place record present isInner := by
    obtain same | ⟨outer, -, lists⟩ := (heap.reachable present).cases_tail
    · exact absurd same isInner
    · obtain ⟨other, presentToo, isParent⟩ := heap.parent_of_lists lists
      rw [present] at presentToo
      cases presentToo
      exact ⟨outer, isParent, lists⟩
  listed place record present outer around isAround := heap.listed present isAround
  children outer inner lists := by
    obtain ⟨record, present, -⟩ := heap.parent_of_lists lists
    exact ⟨record, present⟩
  reachable place record present := heap.reachable present
  path := by
    obtain ⟨inner, split⟩ := scene.head_spine
    refine ⟨inner, ?_, ?_⟩
    · rw [stack.bindings_eq, scene.named_openName, split]
    · rw [← split]
      refine scene.isChain_spine.imp fun outer inner lists => ?_
      obtain ⟨entry, member, rfl, isLast⟩ := lists
      cases isCapture : entry.payload with
      | capture record =>
        unfold Entry.children at isLast
        rw [isCapture] at isLast
        exact ⟨record, heap.capture?_eq_some_iff.mpr ⟨entry, member, rfl, isCapture⟩, isLast⟩
      | object fields =>
        rw [Entry.children_of_none (by rw [isCapture]; rfl)] at isLast
        cases isLast
      | list items =>
        rw [Entry.children_of_none (by rw [isCapture]; rfl)] at isLast
        cases isLast
  closed place record stop present isStop := heap.closed bounded present isStop

/-- As long as no open capture has been given an end, the open ones are those that are bound. -/
theorem openAreBound_of_scene (heap : view.Holds scene.entries) (stack : view.Binds scene.bindings)
    (isOpen : scene.Open size) : view.OpenAreBound := by
  intro place record present
  obtain ⟨entry, member, rfl, isCapture⟩ := heap.capture?_eq_some_iff.mp present
  rw [stack.bindings_eq, scene.named_openName]
  constructor
  · intro noStop
    obtain ⟨opened, isOpened, ⟨parent, inner, rfl⟩ | isClosed⟩ :=
      scene.capture_cases member isCapture
    · refine List.mem_map_of_mem (List.mem_reverse.mpr ?_)
      exact List.mem_map_of_mem isOpened
    · obtain ⟨other, stop, isOther, isStop, -⟩ := Located.Within.entriesOfAll opened.position
        opened.closed (isOpen opened isOpened).2 entry isClosed
      rw [isCapture] at isOther
      cases isOther
      rw [noStop] at isStop
      cases isStop
  · intro bound
    obtain ⟨_, onSpine, same⟩ := List.mem_map.mp bound
    cases same
    obtain ⟨opened, isOpened, here⟩ := List.mem_map.mp (List.mem_reverse.mp onSpine)
    obtain ⟨parent, inner, present⟩ := scene.mem_entries_of_opened isOpened
    cases heap.unique present member here
    cases isCapture
    exact (isOpen opened isOpened).1

/-- The captures that are seen, in the order of the scene. -/
theorem Holds.mem_order_iff (heap : view.Holds scene.entries) :
    place ∈ scene.order ↔ ∃ record, view.capture? place = some record := by
  rw [← Multiset.mem_coe, ← scene.places_entries, Multiset.mem_bind]
  simp only [Entry.mem_places, heap.capture?_eq_some_iff]
  constructor
  · rintro ⟨entry, member, rfl, record, isCapture⟩
    exact ⟨record, entry, member, rfl, isCapture⟩
  · rintro ⟨record, entry, member, rfl, isCapture⟩
    exact ⟨entry, member, rfl, record, isCapture⟩

theorem Holds.nodup_order (heap : view.Holds scene.entries) : scene.order.Nodup := by
  have fewer (entries : Multiset Entry) :
      entries.bind Entry.places ≤ entries.map Entry.position := by
    induction entries using Multiset.induction with
    | empty => exact le_refl _
    | cons entry rest inductionHypothesis =>
      rw [Multiset.cons_bind, Multiset.map_cons, ← Multiset.singleton_add]
      refine add_le_add ?_ inductionHypothesis
      unfold Entry.places
      cases entry.payload with
      | capture record => exact le_refl _
      | object fields => exact Multiset.zero_le _
      | list items => exact Multiset.zero_le _
  have distinct := Multiset.nodup_of_le (fewer scene.entries) heap.distinct
  rwa [scene.places_entries, Multiset.coe_nodup] at distinct

end Snapshot

end Rewind
