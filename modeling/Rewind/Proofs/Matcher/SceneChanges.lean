/-
This file says what the steps of nodes do to the scene of a store: frames come and go, captures are
opened and closed, and the bounds of the root match are set. Where a scene is as a node expects it,
the operations of the node succeed, and the store shows the changed scene.
-/

import Mathlib
import Rewind.Proofs.Matcher.Scene

namespace Rewind

/-- A store holds exactly what a run keeps in it. -/
abbrev Store.Shows (scene : Scene) (store : Store) : Prop :=
  store.Stands scene.entries scene.bindings

namespace Store

variable {scene : Scene} {store : Store}

/-! ### Frames -/

theorem references_of_plain {items : List Value}
    (plain : ∀ item ∈ items, item.reference? = none) : (Payload.list items).references = [] :=
  List.filterMap_eq_nil_iff.mpr plain

theorem Shows.openFrame (shows : store.Shows scene) {items : List Value}
    (plain : ∀ item ∈ items, item.reference? = none) (name : String) (frame : Nat → Frame)
    (binds : ∀ position, (frame position).binding = (name, .ref position))
    (holds : ∀ position, (frame position).entries = {⟨position, .list items, 1⟩}) :
    ∃ position allocated after, Store.alloc (.list items) store = .ok position allocated ∧
      Store.push name (.ref position) allocated = .ok () after ∧
      after.Shows (scene.push (frame position)) ∧ store.Moves 1 after := by
  have leaf := references_of_plain plain
  obtain ⟨position, allocated, allocating, stood, moves⟩ := shows.alloc (.list items)
    (by rw [leaf]; exact fun _ member => nomatch member)
  rw [leaf, Chain.map_bump_nil] at stood
  obtain ⟨after, pushing, stoodAfter, movesAfter⟩ := stood.pushRef name
  refine ⟨position, allocated, after, allocating, pushing, ?_, moves.trans movesAfter⟩
  unfold Store.Shows
  rw [Scene.entries_push, Scene.bindings_push, holds, binds, Multiset.singleton_add]
  exact stoodAfter

theorem Shows.updateFrame {frame changed : Frame} (shows : store.Shows (scene.push frame))
    {position index : Nat} {items : List Value} {value : Value}
    (holds : frame.entries = {⟨position, .list items, 1⟩})
    (holdsChanged : changed.entries = {⟨position, .list (items.set index value), 1⟩})
    (same : changed.binding = frame.binding) (inside : index < items.length)
    (plain : ∀ item ∈ items, item.reference? = none) (plainValue : value.reference? = none) :
    ∃ after, Store.update position (Matcher.setItem index value) store = .ok true after ∧
      after.Shows (scene.push changed) ∧ store.Moves 0 after := by
  unfold Store.Shows at shows
  rw [Scene.entries_push, holds, Multiset.singleton_add] at shows
  have leaf := references_of_plain plain
  have leafAfter : (Payload.list (items.set index value)).references = [] := by
    refine references_of_plain fun item member => ?_
    obtain before | here := List.mem_or_eq_of_mem_set member
    · exact plain item before
    · rw [here]
      exact plainValue
  obtain ⟨after, updating, stood, moves⟩ := shows.update
    (Matcher.setItem index value) []
    (fun other => by
      change (Payload.list (items.set index value)).references.count other =
        (Payload.list items).references.count other + 0
      rw [leaf, leafAfter, Nat.add_zero])
    (by
      change ∀ other ∈ (Payload.list (items.set index value)).references, _
      rw [leafAfter]
      exact fun _ member => nomatch member)
    (fun other _ member => by
      change other.position ∈ (Payload.list items).references at member
      rw [leaf] at member
      cases member)
  refine ⟨after, ?_, ?_, moves⟩
  · rw [updating]
    change EStateM.Result.ok (decide (index < items.length)) after = _
    rw [decide_eq_true inside]
  · rw [Chain.map_bump_nil] at stood
    unfold Store.Shows
    rw [Scene.entries_push, Scene.bindings_push, holdsChanged, same, ← Scene.bindings_push,
      Multiset.singleton_add]
    exact stood

theorem Shows.closeFrame {frame : Frame} (shows : store.Shows (scene.push frame))
    {position : Nat} {items : List Value} {name : String}
    (holds : frame.entries = {⟨position, .list items, 1⟩})
    (binds : frame.binding = (name, .ref position))
    (plain : ∀ item ∈ items, item.reference? = none) :
    ∃ after, Store.remove name store = .ok () after ∧ after.Shows scene ∧ store.Moves 0 after := by
  unfold Store.Shows at shows
  rw [Scene.entries_push, Scene.bindings_push, holds, binds, Multiset.singleton_add] at shows
  exact shows.removeLast rfl (references_of_plain plain)

/-- The frame of an atomic group is a binding only. -/
theorem Shows.openAtomic (shows : store.Shows scene) (taken : Checkpoint) :
    ∃ after, Store.push Matcher.atomicName (.checkpoint taken) store = .ok () after ∧
      after.Shows (scene.push (.atomic taken)) ∧ store.Moves 0 after := by
  obtain ⟨after, pushing, stood, moves⟩ := shows.push Matcher.atomicName
    (.checkpoint taken) rfl
  refine ⟨after, pushing, ?_, moves⟩
  unfold Store.Shows
  rw [Scene.entries_push, Scene.bindings_push]
  change after.Stands (0 + scene.entries) _
  rw [zero_add]
  exact stood

theorem Shows.closeAtomic {taken : Checkpoint} (shows : store.Shows (scene.push (.atomic taken))) :
    ∃ after, Store.remove Matcher.atomicName store = .ok () after ∧ after.Shows scene ∧
      store.Moves 0 after := by
  unfold Store.Shows at shows
  rw [Scene.entries_push, Scene.bindings_push] at shows
  change store.Stands (0 + scene.entries) _ at shows
  rw [zero_add] at shows
  exact shows.remove rfl

/-! ### Captures -/

/-- A capture opened inside of the innermost one is stored, listed there and bound. -/
theorem Shows.openCapture (shows : store.Shows scene) (name : String) (start : Nat) :
    ∃ position allocated listed after,
      Store.alloc (.capture { name := name, parent := some scene.inner.position, start := start })
        store = .ok position allocated ∧
      Store.update scene.inner.position (Matcher.editCapture fun record =>
        { record with children := record.children ++ [position] }) allocated = .ok true listed ∧
      Store.push Matcher.openName (.ref position) listed = .ok () after ∧
      after.Shows (scene.nest { position := position, name := name, start := start }) ∧
      store.Moves 1 after := by
  obtain ⟨position, allocated, allocating, stood, moves⟩ := shows.alloc
    (.capture { name := name, parent := some scene.inner.position, start := start })
    (fun other member => by
      cases List.mem_singleton.mp member
      unfold Scene.entries
      rw [Multiset.map_cons]
      exact Multiset.mem_cons_self _ _)
  -- The new capture refers to the one around it.
  have counted : scene.entries.map (Entry.bump [scene.inner.position]) =
      { scene.innerEntry with count := scene.innerEntry.count + 1 } ::ₘ scene.others :=
    Chain.map_bump_one rfl shows.chain.heap.distinct
  change allocated.Stands (_ ::ₘ scene.entries.map (Entry.bump [scene.inner.position])) _ at stood
  have distinct := stood.chain.heap.distinct
  rw [Multiset.map_cons, Chain.map_position_bump, Multiset.nodup_cons] at distinct
  rw [counted, Multiset.cons_swap] at stood
  obtain ⟨listed, listing, stoodListed, movesListed⟩ := stood.update
    (Matcher.editCapture fun record =>
      { record with children := record.children ++ [position] }) [position]
    (fun other => by
      change ((Scene.around scene.outer).toList ++
        ((scene.inner.closed.map Located.position ++ []) ++ [position])).count other =
        ((Scene.around scene.outer).toList ++
          (scene.inner.closed.map Located.position ++ [])).count other + _
      rw [← List.append_assoc, List.count_append])
    (fun other member => by
      change other ∈ (Scene.around scene.outer).toList ++
        ((scene.inner.closed.map Located.position ++ []) ++ [position]) at member
      rw [← List.append_assoc] at member
      rw [Multiset.cons_swap, Multiset.map_cons, Multiset.mem_cons]
      obtain old | new := List.mem_append.mp member
      · right
        have present := scene.references_inner other old
        unfold Scene.entries at present
        rwa [Multiset.map_cons] at present ⊢
      · exact .inl (List.mem_singleton.mp new))
    (fun other member refers => by
      have old := scene.references_inner other.position refers
      obtain same | further := Multiset.mem_cons.mp member
      · rw [same]
        exact Nat.succ_pos _
      · obtain new | known := Multiset.mem_cons.mp further
        · rw [new] at old
          exact absurd old distinct.1
        · exact scene.positive other (Multiset.mem_cons_of_mem known))
  have distinctListed := stoodListed.chain.heap.distinct
  rw [Chain.map_position_bump, Multiset.cons_swap] at distinctListed
  rw [Multiset.cons_swap, Chain.map_bump_one rfl distinctListed] at stoodListed
  obtain ⟨after, pushing, stoodAfter, movesAfter⟩ := stoodListed.pushRef Matcher.openName
  refine ⟨position, allocated, listed, after, allocating, listing, pushing, ?_,
    (moves.trans movesListed).trans movesAfter⟩
  have parent : scene.inner.entry (Scene.around scene.outer) (some position) =
      { scene.innerEntry with
        payload := (Matcher.editCapture (fun record =>
          { record with children := record.children ++ [position] }) scene.innerEntry.payload).2
        count := scene.innerEntry.count + 1 } := by
    unfold Scene.innerEntry Opened.entry Matcher.editCapture
    simp only [Option.toList_none, Option.toList_some, List.append_nil, List.length_nil,
      List.length_singleton, Nat.add_zero]
  unfold Store.Shows Scene.entries
  rw [Scene.others_nest _ _ rfl, Scene.bindings_nest _ _ rfl, Located.entriesOfAll, zero_add,
    parent]
  exact stoodAfter

/-- A capture is changed without changing what it refers to. -/
theorem Stands.editCapture {rest : Multiset Entry} {bindings : Bindings} {entry : Entry}
    {record : Capture} (stands : store.Stands (entry ::ₘ rest) bindings)
    (isCapture : entry.payload = .capture record) (edit : Capture → Capture)
    (same : (Payload.capture (edit record)).references = entry.payload.references)
    (present : ∀ position ∈ entry.payload.references,
      position ∈ (entry ::ₘ rest).map Entry.position)
    (positive : ∀ other ∈ entry ::ₘ rest, 0 < other.count) :
    ∃ after, Store.update entry.position (Matcher.editCapture edit) store = .ok true after ∧
      after.Stands ({ entry with payload := .capture (edit record) } ::ₘ rest) bindings ∧
      store.Moves 0 after := by
  have edited : Matcher.editCapture edit entry.payload = (true, .capture (edit record)) := by
    rw [isCapture]
    rfl
  obtain ⟨after, updating, stood, moves⟩ := stands.update (Matcher.editCapture edit) []
    (fun position => by rw [edited, same, List.count_nil, Nat.add_zero])
    (fun position member => by
      rw [edited, same] at member
      exact present position member)
    (fun other member _ => positive other member)
  rw [edited, Chain.map_bump_nil] at stood
  rw [edited] at updating
  exact ⟨after, updating, stood, moves⟩

theorem Shows.closeCapture {opened : Opened} (shows : store.Shows (scene.nest opened))
    (fresh : opened.frames = []) (stop : Nat) :
    ∃ stopped after,
      Store.update opened.position (Matcher.editCapture fun record =>
        { record with stop := some stop }) store = .ok true stopped ∧
      Store.remove Matcher.openName stopped = .ok () after ∧
      after.Shows (scene.graft
        [.mk opened.position opened.name opened.start stop opened.closed]) ∧
      store.Moves 0 after := by
  obtain ⟨stopped, stopping, stood, moves⟩ := Stands.editCapture shows rfl
    (fun record => { record with stop := some stop }) rfl
    (scene.nest opened).references_inner (scene.nest opened).positive
  rw [Scene.bindings_nest scene opened fresh] at stood
  have counted : 2 + opened.closed.length + 0 = opened.closed.length + 2 := Nat.add_comm 2 _
  obtain ⟨after, removing, stoodAfter, movesAfter⟩ := stood.removeRef counted
  refine ⟨stopped, after, stopping, removing, ?_, moves.trans movesAfter⟩
  unfold Store.Shows
  have children : opened.closed.map Located.position =
      opened.closed.map Located.position ++ (none : Option Nat).toList := (List.append_nil _).symm
  rw [Scene.entries_graft, Located.entries, Multiset.cons_add, Multiset.cons_swap,
    Nat.add_comm 1 opened.closed.length, children]
  rw [Scene.others_nest scene opened fresh] at stoodAfter
  exact stoodAfter

/-- The bounds of the root match are set while no capture is open inside of it. -/
theorem Shows.setBounds (shows : store.Shows scene) (alone : scene.outer = [])
    (start : Option Nat) (stop : Option Nat) :
    ∃ after,
      Store.update scene.inner.position (Matcher.editCapture fun record =>
        { record with start := start.getD record.start, stop := stop }) store = .ok true after ∧
      after.Shows { scene with
        inner := { scene.inner with start := start.getD scene.inner.start, stop := stop } } ∧
      store.Moves 0 after := by
  obtain ⟨after, updating, stood, moves⟩ := Stands.editCapture shows rfl
    (fun record => { record with start := start.getD record.start, stop := stop }) rfl
    scene.references_inner scene.positive
  refine ⟨after, updating, ?_, moves⟩
  obtain ⟨context, inner, outer⟩ := scene
  cases alone
  exact stood

end Store

end Rewind
