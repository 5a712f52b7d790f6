/-
This file proves that a run keeps to the discipline of activations. While a node is in progress,
every step either enters a node inside of it, or finishes one, or falls back on a choice left by
one, and the floors, scenes and cursors are those that belong there. So it goes on until the node
itself finishes or the run falls back on what was there before the node was entered.
-/

import Mathlib
import Rewind.Proofs.Matcher.Activation

namespace Rewind

namespace World

/-- How the step of a node goes on while a node is in progress. The captures of the scene before the
step are given in their order. If nothing is asked of the collector, what is seen of the store is
what will be seen after the tick. -/
inductive Continues (world : World) (activation : Activation) (order : List Nat) (ticks : Nat) :
    EStateM.Result Abort Matcher Unit → Prop
  | forward {reached : Matcher} {floor : Floor} {scene : Scene}
    {control : Option (NodeId × Signal)} {cursor : Nat}
    (acts : reached.Acts world ticks floor scene control cursor)
    (amid : ∀ view, (reached.store.sweepRequested = false → view = reached.store.chain.snapshot) →
      world.Amid activation floor scene view control cursor)
    (piles : world.Piles activation floor order)
    (opened : scene.order = order ∨ scene.order = order ++ [scene.inner.position]) :
    Continues world activation order ticks (.ok () reached)
  | backward {reached : Matcher} {floor : Floor} {scene : Scene}
    {control : Option (NodeId × Signal)} {cursor : Nat}
    (acts : reached.Acts world ticks floor scene control cursor)
    (quiet : reached.store.sweepRequested = false)
    (piles : world.Piles activation floor order) (same : scene.order = order)
    (isOpen : activation.scene.Open world.text.size → scene.Open world.text.size) :
    Continues world activation order ticks (.ok () reached.backtrack)
  | broken {error : Abort} {reached : Matcher} :
    Continues world activation order ticks (.error error reached)

variable {world : World} {activation self inner : Activation} {matcher : Matcher} {floor : Floor}
  {scene changed : Scene} {cursor ticks : Nat} {control : Option (NodeId × Signal)} {node : Node}
  {order : List Nat}

/-! ### Moves -/

theorem mem_doneLinks {child : NodeId} {children : List NodeId} (member : child ∈ children) :
    (child, Signal.childDone) ∈ doneLinks children := List.mem_map_of_mem member

theorem mem_sequenceLinks {child : NodeId} {children : List NodeId} {index : Nat}
    (here : children[index]? = some child) :
    (child, Signal.itemDone index) ∈ sequenceLinks children :=
  List.mem_map.mpr ⟨(child, index), List.mem_zipIdx_iff_getElem?.mpr here, rfl⟩

/-- A child is entered. -/
theorem continues_enter {child : NodeId}
    (acts : matcher.Acts world ticks floor scene (some (child, .enter)) cursor)
    (inside : world.Inside activation self) (found : world.program.node? self.node = some node)
    (linked : ∃ signal, (child, signal) ∈ node.links)
    (shape : ∀ view, node.Enters world.text.size self ⟨child, floor, scene, view, cursor⟩)
    (precedes : self.Precedes floor cursor) (piles : world.Piles activation floor order)
    (opened : scene.order = order ∨ scene.order = order ++ [scene.inner.position]) :
    world.Continues activation order ticks (.ok () matcher) := by
  have entered (view : Snapshot) : world.Inside activation ⟨child, floor, scene, view, cursor⟩ :=
    inside.child ⟨⟨node, found, linked, shape view⟩, precedes⟩
  exact .forward acts (fun view _ => .entering (entered view)) piles opened

/-- A node finishes. -/
theorem continues_finish
    (acts : matcher.Acts world ticks floor scene (world.program.exit? self.node) cursor)
    (inside : world.Inside activation self) (found : world.program.node? self.node = some node)
    (shape : ∀ view, (matcher.store.sweepRequested = false → view = matcher.store.chain.snapshot) →
      node.Finishes world.text.size self floor scene view cursor)
    (precedes : self.Precedes floor cursor) (piles : world.Piles activation floor order)
    (same : scene.order = order) : world.Continues activation order ticks (.ok () matcher) :=
  .forward acts
    (fun view seen => .finishing inside ⟨⟨node, found, shape view seen⟩, precedes⟩) piles
    (.inl same)

/-- A choice is left. -/
theorem acts_choice {signal : Signal}
    (acts : matcher.Acts world ticks floor scene control cursor)
    (inside : world.Inside activation self) (found : world.program.node? self.node = some node)
    (shape : ∀ view, node.Waits world.text.size self floor scene view signal cursor)
    (precedes : self.Precedes floor cursor) (piles : world.Piles activation floor order)
    (same : scene.order = order) :
    ∃ higher, (matcher.leaveChoice self.node signal).Acts world ticks higher scene control cursor ∧
      self.Precedes higher cursor ∧ world.Piles activation higher order := by
  subst same
  obtain ⟨saved, saves, actsHigher⟩ := acts.leaveChoice self.node signal
  exact ⟨_, actsHigher, ⟨precedes.older.trans (List.suffix_cons _ _), precedes.cursor⟩,
    piles.save saves inside ⟨⟨node, found, shape _⟩, rfl, precedes, acts.cursor_le⟩
      (List.prefix_refl _)⟩

/-! ### Nodes that consume text -/

/-- Outside of the text there is nothing to move to. -/
theorem acts_moveTo (acts : matcher.Acts world ticks floor scene control cursor) (target : Nat) :
    (matcher.moveTo target).Acts world ticks floor scene control (min target world.text.size) := by
  refine ⟨acts.program, acts.characters, ?_, acts.control, acts.forward, acts.counted, acts.poised⟩
  change min target matcher.subject.characters.size = _
  rw [acts.characters]

theorem continues_finishIf (passed : Bool) {target : Nat} (ahead : self.cursor ≤ target)
    (inside : world.Inside activation self) (found : world.program.node? self.node = some node)
    (shape : ∀ view cursor, node.Finishes world.text.size self self.floor self.scene view cursor)
    (rests : matcher.Rests world self.floor self.scene control self.cursor)
    (piles : world.Piles activation self.floor self.scene.order) :
    world.Continues activation self.scene.order matcher.ticks
      (Matcher.finishIf passed self.node target matcher) := by
  cases passed with
  | true =>
    have moved := acts_moveTo rests.acts target
    exact continues_finish (moved.finish self.node) inside found (fun view _ => shape view _)
      ⟨List.suffix_refl _, Nat.le_min.mpr ⟨ahead, rests.cursor_le⟩⟩ piles rfl
  | false => exact .backward rests.acts rests.quiet piles rfl inside.isOpen

theorem continues_text {characters : List Char}
    (found : world.program.node? self.node = some (.text characters))
    (inside : world.Inside activation self)
    (rests : matcher.Rests world self.floor self.scene control self.cursor)
    (piles : world.Piles activation self.floor self.scene.order) :
    world.Continues activation self.scene.order matcher.ticks
      (Matcher.stepText self.node characters matcher) := by
  refine continues_finishIf _ ?_ inside found (fun _ _ => Scene.Grows.refl _ _) rests piles
  rw [rests.cursor]
  exact Nat.le_add_right _ _

theorem continues_char {accepts : Char → Bool}
    (found : world.program.node? self.node = some node)
    (shape : ∀ view cursor, node.Finishes world.text.size self self.floor self.scene view cursor)
    (inside : world.Inside activation self)
    (rests : matcher.Rests world self.floor self.scene control self.cursor)
    (piles : world.Piles activation self.floor self.scene.order) :
    world.Continues activation self.scene.order matcher.ticks
      (Matcher.stepChar self.node accepts matcher) := by
  refine continues_finishIf _ ?_ inside found shape rests piles
  rw [rests.cursor]
  exact Nat.le_add_right _ _

theorem continues_anchor {place : Anchor}
    (found : world.program.node? self.node = some (.anchor place))
    (inside : world.Inside activation self)
    (rests : matcher.Rests world self.floor self.scene control self.cursor)
    (piles : world.Piles activation self.floor self.scene.order) :
    world.Continues activation self.scene.order matcher.ticks
      (Matcher.stepAnchor self.node place matcher) := by
  have here : self.cursor ≤ matcher.subject.cursor := Nat.le_of_eq rests.cursor.symm
  exact continues_finishIf _ here inside found (fun _ _ => Scene.Grows.refl _ _) rests piles

/-! ### Sequences and alternations -/

/-- A sequence runs its children one after the other. -/
theorem continues_sequence {children : List NodeId}
    (found : world.program.node? self.node = some (.sequence children))
    (inside : world.Inside activation self) (grows : self.scene.Grows world.text.size scene)
    (precedes : self.Precedes floor cursor)
    (rests : matcher.Rests world floor scene control cursor)
    (piles : world.Piles activation floor scene.order) (signal : Signal) :
    world.Continues activation scene.order matcher.ticks
      (Matcher.stepSequence self.node children signal matcher) := by
  cases here : children[signal]? with
  | some child =>
    rw [stepSequence_item here]
    exact continues_enter (rests.acts.enter child) inside found ⟨_, mem_sequenceLinks here⟩
      (fun _ => grows) precedes piles (.inl rfl)
  | none =>
    rw [stepSequence_behind here]
    exact continues_finish (rests.acts.finish self.node) inside found
      (fun _ _ => grows) precedes piles rfl

/-- An alternation tries its branches with the scene that it was entered with. -/
theorem continues_tryBranch {children : List NodeId}
    (found : world.program.node? self.node = some (.alternation children))
    (inside : world.Inside activation self) (precedes : self.Precedes floor cursor)
    (rests : matcher.Rests world floor self.scene control cursor)
    (piles : world.Piles activation floor self.scene.order) (branch : Nat) :
    world.Continues activation self.scene.order matcher.ticks
      (Matcher.tryBranch self.node children branch matcher) := by
  cases here : children[branch]? with
  | none =>
    have tried : Matcher.tryBranch self.node children branch matcher =
        .ok () matcher.backtrack := by
      unfold Matcher.tryBranch
      rw [here]
      rfl
    rw [tried]
    exact .backward rests.acts rests.quiet piles rfl inside.isOpen
  | some child =>
    have tried : Matcher.tryBranch self.node children branch matcher = .ok ()
        ((if branch + 1 < children.length then
          matcher.leaveChoice self.node (Signal.tryBranch (branch + 1)) else matcher).enter
            child) := by
      unfold Matcher.tryBranch
      rw [here]
      rfl
    have linked : (child, Signal.childDone) ∈ (Node.alternation children).links :=
      mem_doneLinks (List.mem_of_getElem? here)
    rw [tried]
    split
    · obtain ⟨higher, acts, precedesHigher, pilesHigher⟩ := acts_choice rests.acts inside found
        (fun _ => ⟨⟨branch + 1, rfl⟩, rfl⟩) precedes piles rfl
      exact continues_enter (acts.enter child) inside found ⟨_, linked⟩ (fun _ => rfl)
        precedesHigher pilesHigher (.inl rfl)
    · exact continues_enter (rests.acts.enter child) inside found ⟨_, linked⟩ (fun _ => rfl)
        precedes piles (.inl rfl)

/-! ### Repetitions -/

section

variable {child min place count start : Nat} {max : Option Nat} {lazily : Bool}

theorem continues_iterate
    (found : world.program.node? self.node = some (.repetition child min max lazily))
    (inside : world.Inside activation self) (grows : self.scene.Grows world.text.size changed)
    (fits : count < 0x100000000) (precedes : self.Precedes floor cursor)
    (acts : matcher.Acts world ticks floor (changed.push (.repetition place count start)) control
      cursor) (piles : world.Piles activation floor changed.order) :
    world.Continues activation changed.order ticks (Matcher.iterate place child matcher) := by
  obtain ⟨after, iterates, acting⟩ := acts_iterate child acts
  rw [iterates]
  exact continues_enter acting inside found ⟨_, mem_doneLinks (List.mem_singleton_self child)⟩
    (fun _ => ⟨changed, place, count, grows, fits, rfl⟩) precedes piles (.inl rfl)

theorem continues_leaveRepetition
    (found : world.program.node? self.node = some (.repetition child min max lazily))
    (inside : world.Inside activation self) (grows : self.scene.Grows world.text.size changed)
    (precedes : self.Precedes floor cursor)
    (acts : matcher.Acts world ticks floor (changed.push (.repetition place count start)) control
      cursor) (piles : world.Piles activation floor changed.order) :
    world.Continues activation changed.order ticks
      (Matcher.leaveRepetition self.node matcher) := by
  obtain ⟨after, leaving, acting⟩ := acts_leaveRepetition acts
  rw [leaving]
  exact continues_finish acting inside found (fun _ _ => grows) precedes piles rfl

theorem continues_decideRepetition
    (found : world.program.node? self.node = some (.repetition child min max lazily))
    (inside : world.Inside activation self) (grows : self.scene.Grows world.text.size changed)
    (fits : count < 0x100000000) (precedes : self.Precedes floor cursor)
    (acts : matcher.Acts world ticks floor (changed.push (.repetition place count start)) control
      cursor) (piles : world.Piles activation floor changed.order) :
    world.Continues activation changed.order ticks
      (Matcher.decideRepetition self.node child min max lazily place count matcher) := by
  unfold Matcher.decideRepetition
  split
  · exact continues_iterate found inside grows fits precedes acts piles
  split
  · exact continues_leaveRepetition found inside grows precedes acts piles
  split
  · obtain ⟨higher, actsHigher, precedesHigher, pilesHigher⟩ := acts_choice acts inside found
      (fun _ => ⟨.inr rfl, changed, place, count, start, grows, fits, rfl⟩) precedes piles rfl
    exact continues_leaveRepetition found inside grows precedesHigher actsHigher pilesHigher
  · obtain ⟨higher, actsHigher, precedesHigher, pilesHigher⟩ := acts_choice acts inside found
      (fun _ => ⟨.inl rfl, changed, place, count, start, grows, fits, rfl⟩) precedes piles rfl
    exact continues_iterate found inside grows fits precedesHigher actsHigher pilesHigher

theorem continues_enterRepetition
    (found : world.program.node? self.node = some (.repetition child min max lazily))
    (inside : world.Inside activation self)
    (rests : matcher.Rests world self.floor self.scene control self.cursor)
    (piles : world.Piles activation self.floor self.scene.order) :
    world.Continues activation self.scene.order matcher.ticks
      (Matcher.stepRepetition self.node child min max lazily 0 matcher) := by
  obtain ⟨place, acting, acts, stepped⟩ := stepRepetition_enter rests
  rw [stepped]
  exact continues_decideRepetition found inside (.refl _ _) (by decide) (.refl self) acts piles

theorem continues_repetitionDone
    (found : world.program.node? self.node = some (.repetition child min max lazily))
    (inside : world.Inside activation self) (grows : self.scene.Grows world.text.size changed)
    (fits : count < 0x100000000) (precedes : self.Precedes floor cursor)
    (rests : matcher.Rests world floor (changed.push (.repetition place count start)) control
      cursor) (piles : world.Piles activation floor changed.order) :
    world.Continues activation changed.order matcher.ticks
      (Matcher.stepRepetition self.node child min max lazily 1 matcher) := by
  by_cases fitsNext : count + 1 < 0x100000000
  · obtain ⟨counted, acts, stepped⟩ := stepRepetition_done rests.acts fitsNext
    rw [stepped]
    split
    · exact continues_leaveRepetition found inside grows precedes acts piles
    · exact continues_decideRepetition found inside grows fitsNext precedes acts piles
  · obtain ⟨reached, failed⟩ := stepRepetition_overflow rests.acts fits fitsNext
    rw [failed]
    exact .broken

theorem continues_goOn
    (found : world.program.node? self.node = some (.repetition child min max lazily))
    (inside : world.Inside activation self) (grows : self.scene.Grows world.text.size changed)
    (fits : count < 0x100000000) (precedes : self.Precedes floor cursor)
    (rests : matcher.Rests world floor (changed.push (.repetition place count start)) control
      cursor) (piles : world.Piles activation floor changed.order) :
    world.Continues activation changed.order matcher.ticks
      (Matcher.stepRepetition self.node child min max lazily 3 matcher) := by
  obtain ⟨read, reading, acts⟩ := acts_repetitionFrame rests.acts fits self.node
  rw [Matcher.stepRepetition, Action.bind_of_ok reading]
  exact continues_iterate found inside grows fits precedes acts piles

end

/-! ### Atomic groups and lookaheads -/

section

variable {child : NodeId} {negative : Bool} {saved : Generation} {successor place : Nat}

theorem continues_enterAtomic (found : world.program.node? self.node = some (.atomic child))
    (inside : world.Inside activation self) (viewed : matcher.store.chain.snapshot = self.view)
    (rests : matcher.Rests world self.floor self.scene control self.cursor)
    (piles : world.Piles activation self.floor self.scene.order) :
    world.Continues activation self.scene.order matcher.ticks
      (Matcher.stepAtomic self.node child 0 matcher) := by
  obtain ⟨saved, successor, after, saves, seen, stepped, acts⟩ := stepAtomic_enter rests
  rw [stepped]
  have waits : world.Waits self self.floor self.scene (saved.over self.floor.older)
      ⟨self.node, .childFailed, self.cursor⟩ :=
    ⟨⟨_, found, rfl, rfl, rfl, seen.trans viewed, rfl⟩, rfl, .refl self, rests.cursor_le⟩
  exact continues_enter acts inside found ⟨_, mem_doneLinks (List.mem_singleton_self child)⟩
    (fun _ => ⟨saved, successor, saves, rfl, rfl⟩) ⟨List.suffix_cons _ _, Nat.le_refl _⟩
    (piles.save saves inside waits (List.prefix_refl _)) (.inl rfl)

theorem continues_atomicDone (found : world.program.node? self.node = some (.atomic child))
    (inside : world.Inside activation self) (grows : self.scene.Grows world.text.size changed)
    (saves : self.floor.Saves self.scene saved) (above : saved :: self.floor.older <:+ floor.older)
    (later : self.cursor ≤ cursor)
    (rests : matcher.Rests world floor
      (changed.push (.atomic ⟨saved.id, self.floor.older.length, successor⟩)) control cursor)
    (piles : world.Piles activation floor changed.order) :
    world.Continues activation changed.order matcher.ticks
      (Matcher.stepAtomic self.node child 1 matcher) := by
  obtain ⟨after, stepped, acts⟩ := stepAtomic_done saves above rests
  rw [stepped]
  exact continues_finish acts inside found (fun _ _ => ⟨rfl, grows⟩) ⟨List.suffix_refl _, later⟩
    (piles.of_saved saves above inside.precedes.older) rfl

theorem continues_enterLookahead
    (found : world.program.node? self.node = some (.lookahead child negative))
    (inside : world.Inside activation self) (viewed : matcher.store.chain.snapshot = self.view)
    (rests : matcher.Rests world self.floor self.scene control self.cursor)
    (piles : world.Piles activation self.floor self.scene.order) :
    world.Continues activation self.scene.order matcher.ticks
      (Matcher.stepLookahead self.node child negative 0 matcher) := by
  obtain ⟨saved, successor, place, after, saves, seen, stepped, acts⟩ :=
    stepLookahead_enter rests
  rw [stepped]
  have waits : world.Waits self self.floor self.scene (saved.over self.floor.older)
      ⟨self.node, .childFailed, self.cursor⟩ :=
    ⟨⟨_, found, rfl, rfl, rfl, seen.trans viewed, rfl⟩, rfl, .refl self, rests.cursor_le⟩
  exact continues_enter acts inside found ⟨_, mem_doneLinks (List.mem_singleton_self child)⟩
    (fun _ => ⟨saved, successor, place, saves, rfl, rfl⟩) ⟨List.suffix_cons _ _, Nat.le_refl _⟩
    (piles.save saves inside waits (List.prefix_refl _)) (.inl rfl)

/-- A negative lookahead whose child has matched gives up, on the floor it was entered on. -/
theorem continues_lookaheadDone
    (found : world.program.node? self.node = some (.lookahead child negative))
    (inside : world.Inside activation self) (grows : self.scene.Grows world.text.size changed)
    (saves : self.floor.Saves self.scene saved) (above : saved :: self.floor.older <:+ floor.older)
    (later : self.cursor ≤ cursor)
    (rests : matcher.Rests world floor (changed.push
      (.lookahead place ⟨saved.id, self.floor.older.length, successor⟩ self.cursor)) control cursor)
    (piles : world.Piles activation floor changed.order) :
    world.Continues activation changed.order matcher.ticks
      (Matcher.stepLookahead self.node child negative 1 matcher) := by
  obtain ⟨after, stepped, acts, quiet⟩ := stepLookahead_done saves above rests
  have pilesBelow := piles.of_saved saves above inside.precedes.older
  rw [stepped]
  cases negative with
  | true =>
    exact .backward acts quiet pilesBelow rfl fun isOpen => (inside.isOpen isOpen).grows grows
  | false =>
    have bounded : self.cursor ≤ world.text.size := later.trans rests.cursor_le
    exact continues_finish ((acts.moveTo bounded).finish self.node) inside found
      (fun _ _ => ⟨rfl, rfl, grows, fun impossible => Bool.noConfusion impossible⟩) (.refl self)
      pilesBelow rfl

/-- If its child has not matched, a negative lookahead passes. -/
theorem continues_lookaheadFailed
    (found : world.program.node? self.node = some (.lookahead child negative))
    (inside : world.Inside activation self) (viewed : matcher.store.chain.snapshot = self.view)
    (rests : matcher.Rests world self.floor self.scene control self.cursor)
    (piles : world.Piles activation self.floor self.scene.order) :
    world.Continues activation self.scene.order matcher.ticks
      (Matcher.stepLookahead self.node child negative 2 matcher) := by
  cases negative with
  | true =>
    refine continues_finish (rests.acts.finish self.node) inside found
      (fun view seen => ⟨rfl, rfl, .refl _ _, fun _ => ?_⟩) (.refl self) piles rfl
    change (matcher.finish self.node).store.sweepRequested = false →
      view = (matcher.finish self.node).store.chain.snapshot at seen
    rw [Matcher.store_finish] at seen
    exact (seen rests.quiet).trans viewed
  | false => exact .backward rests.acts rests.quiet piles rfl inside.isOpen

end

/-! ### Captures -/

section

variable {name : String} {child place : Nat}

theorem continues_enterCapture
    (found : world.program.node? self.node = some (.capture name child))
    (inside : world.Inside activation self)
    (rests : matcher.Rests world self.floor self.scene control self.cursor)
    (piles : world.Piles activation self.floor self.scene.order) :
    world.Continues activation self.scene.order matcher.ticks
      (Matcher.stepCapture self.node name child 0 matcher) := by
  obtain ⟨place, after, stepped, acts⟩ := stepCapture_enter rests
  rw [stepped]
  exact continues_enter acts inside found ⟨_, mem_doneLinks (List.mem_singleton_self child)⟩
    (fun _ => ⟨place, rfl⟩) (.refl self) piles (.inr (Scene.order_nest _ _))

theorem continues_captureDone
    (found : world.program.node? self.node = some (.capture name child))
    (inside : world.Inside activation self)
    (grows : (self.scene.nest { position := place, name := name, start := self.cursor }).Grows
      world.text.size scene)
    (precedes : self.Precedes floor cursor)
    (rests : matcher.Rests world floor scene control cursor)
    (piles : world.Piles activation floor scene.order) :
    world.Continues activation scene.order matcher.ticks
      (Matcher.stepCapture self.node name child 1 matcher) := by
  obtain ⟨trees, within, rfl⟩ := grows.of_nest
  obtain ⟨after, stepped, acts⟩ := stepCapture_done rests rfl
  rw [stepped]
  refine continues_finish acts inside found (fun _ _ => ⟨_, fun tree member => ?_, rfl⟩) precedes
    piles (Scene.order_close self.scene _ cursor)
  cases List.mem_singleton.mp member
  exact .mk precedes.cursor rests.cursor_le within

end

/-! ### The root -/

section

variable {child context place : Nat} {search : Bool}

theorem continues_attempt (retry : Bool)
    (found : world.program.node? self.node = some (.root child search))
    (inside : world.Inside activation self)
    (entered : self.scene = .ofRoot context place self.cursor none [])
    (precedes : self.Precedes floor cursor) {start : Nat} {stop : Option Nat}
    (acts : matcher.Acts world ticks floor (.ofRoot context place start stop []) control cursor)
    (piles : world.Piles activation floor [place]) :
    world.Continues activation [place] ticks (Matcher.attempt self.node child retry matcher) := by
  obtain ⟨after, bounding, bounded⟩ := acts_setBounds acts self.node (some cursor) none
  have linked : (child, Signal.childDone) ∈ (Node.root child search).links :=
    mem_doneLinks (List.mem_singleton_self child)
  have attempted : Matcher.attempt self.node child retry matcher = .ok ()
      ((if retry then after.leaveChoice self.node .retry else after).enter child) := by
    unfold Matcher.attempt
    rw [Action.bind_of_ok (rfl : (get : MatcherM Matcher) matcher = .ok matcher matcher),
      acts.cursor, Action.bind_of_ok bounding]
    rfl
  rw [attempted]
  cases retry with
  | true =>
    obtain ⟨higher, actsHigher, precedesHigher, pilesHigher⟩ := acts_choice bounded inside found
      (fun _ => ⟨rfl, context, place, entered, rfl⟩) precedes piles rfl
    exact continues_enter (actsHigher.enter child) inside found ⟨_, linked⟩
      (fun _ => ⟨context, place, entered, rfl⟩) precedesHigher pilesHigher (.inl rfl)
  | false =>
    exact continues_enter (bounded.enter child) inside found ⟨_, linked⟩
      (fun _ => ⟨context, place, entered, rfl⟩) precedes piles (.inl rfl)

theorem continues_rootDone
    (found : world.program.node? self.node = some (.root child search))
    (inside : world.Inside activation self)
    (entered : self.scene = .ofRoot context place self.cursor none []) {start : Nat}
    (grows : (Scene.ofRoot context place start none []).Grows world.text.size scene)
    (later : start ≤ cursor) (precedes : self.Precedes floor cursor)
    (rests : matcher.Rests world floor scene control cursor)
    (piles : world.Piles activation floor scene.order) :
    world.Continues activation scene.order matcher.ticks
      (Matcher.stepRoot self.node child search 1 matcher) := by
  obtain ⟨trees, within, rfl⟩ := grows
  obtain ⟨after, bounding, acts⟩ := acts_setBounds rests.acts self.node none (some cursor)
  rw [Matcher.stepRoot,
    Action.bind_of_ok (rfl : (get : MatcherM Matcher) matcher = .ok matcher matcher), rests.cursor,
    Action.bind_of_ok bounding]
  exact continues_finish (acts.finish self.node) inside found
    (fun _ _ => ⟨context, place, start, _, entered, rfl, later, within⟩) precedes piles rfl

theorem continues_retry
    (found : world.program.node? self.node = some (.root child search))
    (inside : world.Inside activation self)
    (entered : self.scene = .ofRoot context place self.cursor none [])
    (precedes : self.Precedes floor cursor) {start : Nat}
    (rests : matcher.Rests world floor (.ofRoot context place start none []) control cursor)
    (piles : world.Piles activation floor [place]) :
    world.Continues activation [place] matcher.ticks
      (Matcher.stepRoot self.node child search 2 matcher) := by
  rw [Matcher.stepRoot,
    Action.bind_of_ok (rfl : (get : MatcherM Matcher) matcher = .ok matcher matcher),
    isAtEnd_eq rests.acts]
  by_cases atEnd : world.text.size ≤ cursor
  · rw [decide_eq_true atEnd]
    exact .backward rests.acts rests.quiet piles rfl fun _ => Scene.open_ofRoot _ _ _ _
  · rw [decide_eq_false atEnd]
    have moved := rests.acts.moveTo (Nat.lt_of_not_le atEnd)
    rw [← rests.cursor] at moved
    exact continues_attempt true found inside entered
      ⟨precedes.older, rests.cursor ▸ Nat.le_succ_of_le precedes.cursor⟩ moved piles

end

/-! ### All nodes -/

theorem continues_entering (wired : world.program.Wired) (rooted : world.Rooted activation)
    (found : world.program.node? self.node = some node) (inside : world.Inside activation self)
    (viewed : matcher.store.chain.snapshot = self.view)
    (rests : matcher.Rests world self.floor self.scene control self.cursor)
    (piles : world.Piles activation self.floor self.scene.order) :
    world.Continues activation self.scene.order matcher.ticks
      (Matcher.stepNode self.node node .enter matcher) := by
  cases node with
  | root child search =>
    obtain ⟨context, place, entered⟩ := rooted.inside inside wired _ found rfl
    have acts := rests.acts
    rw [entered] at acts piles ⊢
    exact continues_attempt search found inside entered (.refl self) acts piles
  | text characters => exact continues_text found inside rests piles
  | any => exact continues_char found (fun _ _ => .refl _ _) inside rests piles
  | charClass set => exact continues_char found (fun _ _ => .refl _ _) inside rests piles
  | anchor place => exact continues_anchor found inside rests piles
  | sequence children =>
    exact continues_sequence found inside (.refl _ _) (.refl self) rests piles .enter
  | alternation children => exact continues_tryBranch found inside (.refl self) rests piles 0
  | repetition child min max lazily => exact continues_enterRepetition found inside rests piles
  | atomic child => exact continues_enterAtomic found inside viewed rests piles
  | lookahead child negative => exact continues_enterLookahead found inside viewed rests piles
  | capture name child => exact continues_enterCapture found inside rests piles

theorem signal_of_doneLinks {child : NodeId} {signal : Signal} {children : List NodeId}
    (member : (child, signal) ∈ doneLinks children) : signal = .childDone := by
  obtain ⟨_, -, same⟩ := List.mem_map.mp member
  exact (congrArg Prod.snd same).symm

/-- A node gets to know that the child which it has entered has finished. -/
theorem continues_finishing (wired : world.program.Wired)
    (found : world.program.node? self.node = some node) (inside : world.Inside activation self)
    (enters : world.Enters self inner) {view : Snapshot}
    (finishes : world.Finishes inner floor scene view cursor) {signal : Signal}
    (linked : (inner.node, signal) ∈ node.links)
    (rests : matcher.Rests world floor scene control cursor)
    (piles : world.Piles activation floor scene.order) :
    world.Continues activation scene.order matcher.ticks
      (Matcher.stepNode self.node node signal matcher) := by
  have grows := enters.grows wired finishes
  have precedes : self.Precedes floor cursor :=
    ⟨enters.precedes.older.trans finishes.precedes.older,
      enters.precedes.cursor.trans finishes.precedes.cursor⟩
  obtain ⟨same, foundSame, -, shape⟩ := enters.shape
  rw [found] at foundSame
  cases foundSame
  cases node with
  | root child search =>
    obtain ⟨context, place, entered, scene⟩ := shape
    cases signal_of_doneLinks linked
    rw [scene] at grows
    exact continues_rootDone found inside entered grows finishes.precedes.cursor
      precedes rests piles
  | sequence children =>
    exact continues_sequence found inside (Scene.Grows.trans shape grows) precedes
      rests piles signal
  | alternation children =>
    cases signal_of_doneLinks linked
    rw [show inner.scene = self.scene from shape] at grows
    exact continues_finish (rests.acts.finish self.node) inside found
      (fun _ _ => grows) precedes piles rfl
  | repetition child min max lazily =>
    obtain ⟨changed, place, count, grown, fits, scene⟩ := shape
    cases signal_of_doneLinks linked
    rw [scene] at grows
    obtain ⟨after, more, rfl⟩ := grows.of_push
    rw [Scene.order_push] at piles ⊢
    exact continues_repetitionDone found inside (grown.trans more) fits precedes rests piles
  | atomic child =>
    obtain ⟨saved, successor, saves, older, scene⟩ := shape
    cases signal_of_doneLinks linked
    rw [scene] at grows
    obtain ⟨after, more, rfl⟩ := grows.of_push
    rw [Scene.order_push] at piles ⊢
    exact continues_atomicDone found inside more saves (older ▸ finishes.precedes.older)
      precedes.cursor rests piles
  | lookahead child negative =>
    obtain ⟨saved, successor, place, saves, older, scene⟩ := shape
    cases signal_of_doneLinks linked
    rw [scene] at grows
    obtain ⟨after, more, rfl⟩ := grows.of_push
    rw [Scene.order_push] at piles ⊢
    exact continues_lookaheadDone found inside more saves (older ▸ finishes.precedes.older)
      precedes.cursor rests piles
  | capture name child =>
    obtain ⟨place, scene⟩ := shape
    cases signal_of_doneLinks linked
    rw [scene] at grows
    exact continues_captureDone found inside grows precedes rests piles
  | text characters => exact shape.elim
  | any => exact shape.elim
  | charClass set => exact shape.elim
  | anchor place => exact shape.elim

/-- A run comes back to a choice that a node has left. -/
theorem continues_resuming (found : world.program.node? self.node = some node)
    (inside : world.Inside activation self) {point : ResumePoint}
    (waits : world.Waits self floor scene matcher.store.chain.snapshot point)
    (rests : matcher.Rests world floor scene control point.cursor)
    (piles : world.Piles activation floor scene.order) :
    world.Continues activation scene.order matcher.ticks
      (Matcher.stepNode self.node node point.signal matcher) := by
  have precedes := waits.precedes
  obtain ⟨same, foundSame, shape⟩ := waits.shape
  rw [found] at foundSame
  cases foundSame
  obtain ⟨pointNode, signal, cursor⟩ := point
  cases node with
  | root child search =>
    obtain ⟨rfl, context, place, entered, rfl⟩ := shape
    exact continues_retry found inside entered precedes rests piles
  | alternation children =>
    obtain ⟨⟨branch, rfl⟩, rfl⟩ := shape
    exact continues_tryBranch found inside precedes rests piles branch
  | repetition child min max lazily =>
    obtain ⟨choice, changed, place, count, start, grows, fits, rfl⟩ := shape
    rw [Scene.order_push] at piles ⊢
    obtain rfl | rfl := choice
    · exact continues_leaveRepetition found inside grows precedes rests.acts piles
    · exact continues_goOn found inside grows fits precedes rests piles
  | atomic child =>
    obtain ⟨rfl, rfl, rfl, -, rfl⟩ := shape
    exact .backward rests.acts rests.quiet piles rfl inside.isOpen
  | lookahead child negative =>
    obtain ⟨rfl, rfl, rfl, viewed, rfl⟩ := shape
    exact continues_lookaheadFailed found inside viewed rests piles
  | text characters => exact shape.elim
  | any => exact shape.elim
  | charClass set => exact shape.elim
  | anchor place => exact shape.elim
  | sequence children => exact shape.elim
  | capture name child => exact shape.elim

/-- A step while a node is in progress that is not about to return to its parent. -/
theorem continues_stepNode (wired : world.program.Wired) (rooted : world.Rooted activation)
    (amid : world.Amid activation floor scene matcher.store.chain.snapshot control cursor)
    {id : NodeId} {signal : Signal} (atNode : control = some (id, signal))
    (goesOn : control ≠ world.program.exit? activation.node)
    (found : world.program.node? id = some node)
    (rests : matcher.Rests world floor scene control cursor)
    (piles : world.Piles activation floor scene.order) :
    world.Continues activation scene.order matcher.ticks
      (Matcher.stepNode id node signal matcher) := by
  generalize seen : matcher.store.chain.snapshot = view at amid
  cases amid with
  | entering inside =>
    cases atNode
    exact continues_entering wired rooted found inside seen rests piles
  | finishing inside finishes =>
    obtain rfl | ⟨outer, around, enters⟩ := inside.cases_parent
    · exact absurd rfl goesOn
    · obtain ⟨same, signal, foundSame, member, -, linked⟩ := enters.exit wired
      rw [linked] at atNode
      cases atNode
      rw [found] at foundSame
      cases foundSame
      exact continues_finishing wired found around enters finishes member rests piles
  | @resuming inner floor scene view point inside waits =>
    cases atNode
    subst seen
    rw [waits.node] at found ⊢
    exact continues_resuming found inside waits rests piles

/-! ### Runs -/

/-- A run between two ticks while a node is in progress. -/
inductive Pursues (world : World) (activation : Activation) (scene : Scene) (matcher : Matcher) :
    Prop
  /-- An outermost node is about to be entered, and the collector has not looked yet. -/
  | starting (same : activation.scene = scene)
    (isRoot : ∃ child search, world.program.node? activation.node = some (.root child search))
    (acts : matcher.Acts world matcher.ticks activation.floor scene
      (some (activation.node, .enter)) activation.cursor) : Pursues world activation scene matcher
  | forward {floor : Floor} {control : Option (NodeId × Signal)} {cursor : Nat}
    (rests : matcher.Rests world floor scene control cursor)
    (amid : world.Amid activation floor scene matcher.store.chain.snapshot control cursor)
    (piles : world.Piles activation floor scene.order) : Pursues world activation scene matcher
  | backward {floor : Floor} (fails : matcher.Fails world floor)
    (shows : matcher.store.Shows scene) (piles : world.Piles activation floor scene.order)
    (isOpen : activation.scene.Open world.text.size → scene.Open world.text.size) :
    Pursues world activation scene matcher

variable {after : Matcher}

theorem Pursues.alike (pursues : world.Pursues activation scene matcher)
    (alike : matcher.Alike after) : world.Pursues activation scene after := by
  cases pursues with
  | starting same isRoot acts => exact .starting same isRoot (acts.alike alike)
  | forward rests amid piles => exact .forward (rests.alike alike) (alike.chain ▸ amid) piles
  | backward fails shows piles isOpen =>
    refine .backward (fails.alike alike) ⟨?_, alike.sweeping.trans shows.idle⟩ piles isOpen
    exact alike.chain ▸ shows.chain

theorem Pursues.shows (pursues : world.Pursues activation scene matcher) :
    matcher.store.Shows scene := by
  cases pursues with
  | starting _ _ acts => exact acts.poised.shows
  | forward rests => exact rests.poised.shows
  | backward fails shows => exact shows

/-- What has been saved lies in piles on the floor of the node. -/
theorem Pursues.piles (pursues : world.Pursues activation scene matcher) :
    ∃ floor : Floor, matcher.store.chain.older = floor.older ∧
      world.Piles activation floor scene.order := by
  cases pursues with
  | starting _ _ acts => exact ⟨_, acts.poised.older, .base _⟩
  | forward rests _ piles => exact ⟨_, rests.poised.older, piles⟩
  | backward fails _ piles => exact ⟨_, fails.older, piles⟩

/-- The floor of the node is still there. -/
theorem Pursues.older (pursues : world.Pursues activation scene matcher) :
    activation.floor.older <:+ matcher.store.chain.older := by
  obtain ⟨floor, isFloor, piles⟩ := pursues.piles
  exact isFloor ▸ piles.older

/-- A step leads to a tick. A capture is added to the scene at most. -/
theorem Continues.tick {id : NodeId} {signal : Signal}
    (continues : world.Continues activation scene.order matcher.ticks
      (Matcher.stepNode id node signal matcher))
    (found : world.program.node? id = some node)
    (begins : matcher.Acts world matcher.ticks floor scene (some (id, signal)) cursor)
    {goesOn : Bool} (ticked : Matcher.tick matcher = .ok goesOn after) :
    ∃ next, world.Pursues activation next after ∧
      (next.order = scene.order ∨ next.order = scene.order ++ [next.inner.position]) := by
  cases ran : Matcher.stepNode id node signal matcher with
  | ok result reached =>
    rw [ran] at continues
    cases continues with
    | @forward reached floor' next control' cursor' acts amid piles opened =>
      obtain ⟨other, same, rests, unchanged⟩ | ⟨error, other, failed, -⟩ :=
        Matcher.tick_of_acts_quiet begins found ran acts
      · rw [ticked] at same
        cases same
        refine ⟨next, .forward rests (amid _ fun quiet => ?_) (piles.mono ?_), opened⟩
        · rw [unchanged quiet]
        · obtain same | more := opened
          · exact same ▸ List.prefix_refl _
          · exact more ▸ List.prefix_append _ _
      · rw [ticked] at failed
        cases failed
    | @backward reached floor' next control' cursor' acts quiet piles same isOpen =>
      obtain ⟨other, sameTick, fails, shows⟩ :=
        Matcher.tick_of_backtrack_shows begins found ran acts quiet
      rw [ticked] at sameTick
      cases sameTick
      exact ⟨next, .backward fails shows (same ▸ piles) isOpen, .inl same⟩
  | error error reached =>
    rw [Matcher.tick_of_step begins.forward begins.control (begins.program ▸ found),
      Action.bind_of_error ran] at ticked
    cases ticked

/-- A run stays in the activation of a node until the node finishes, or until what was there before
the node was entered is fallen back on. -/
theorem Pursues.tick (pursues : world.Pursues activation scene matcher)
    (wired : world.program.Wired) (rooted : world.Rooted activation) {goesOn : Bool}
    (unfinished : matcher.direction = .forward →
      matcher.control ≠ world.program.exit? activation.node)
    (ticked : Matcher.tick matcher = .ok goesOn after)
    (above : matcher.direction = .backward →
      activation.floor.older.length ≤ after.store.chain.older.length) :
    ∃ next, world.Pursues activation next after ∧
      (matcher.direction = .forward →
        next.order = scene.order ∨ next.order = scene.order ++ [next.inner.position]) ∧
      (matcher.direction = .backward → next.order <+: scene.order) := by
  cases pursues with
  | starting same isRoot acts =>
    obtain ⟨child, search, found⟩ := isRoot
    obtain ⟨context, place, entered⟩ := rooted _ found rfl
    have continues : world.Continues activation scene.order matcher.ticks
        (Matcher.stepNode activation.node (.root child search) .enter matcher) := by
      rw [← same, entered] at acts ⊢
      exact continues_attempt search found .self entered (.refl activation) acts (.base _)
    obtain ⟨next, pursues, opened⟩ := continues.tick found acts ticked
    refine ⟨next, pursues, fun _ => opened, fun backward => ?_⟩
    rw [acts.forward] at backward
    cases backward
  | @forward floor control cursor rests amid piles =>
    obtain ⟨id, signal, node, atNode, found⟩ := Matcher.node_of_tick rests.forward ticked
    have unfinished := unfinished rests.forward
    rw [rests.control] at atNode unfinished
    rw [rests.program] at found
    have continues := continues_stepNode wired rooted amid atNode unfinished found rests piles
    rw [atNode] at rests
    obtain ⟨next, pursues, opened⟩ := continues.tick found rests.acts ticked
    refine ⟨next, pursues, fun _ => opened, fun backward => ?_⟩
    rw [rests.forward] at backward
    cases backward
  | @backward floor fails shows piles isOpen =>
    have notForward : matcher.direction = .forward → False := fun forward => by
      rw [fails.backward] at forward
      cases forward
    obtain alike | ⟨tail, older⟩ := Matcher.older_of_tick fails.backward ticked
    · exact ⟨scene, .alike (.backward fails shows piles isOpen) alike,
        fun forward => (notForward forward).elim, fun _ => List.prefix_refl _⟩
    · cases piles with
      | base order =>
        -- The run falls back below the floor that the node was entered on.
        have shorter := congrArg List.length (fails.older.symm.trans older)
        have longer := above fails.backward
        rw [List.length_cons] at shorter
        omega
      | save below saves inside waits grown =>
        obtain ⟨other, same, rests⟩ := Matcher.tick_of_fails fails saves waits.inside
        rw [ticked] at same
        cases same
        have seen : after.store.chain.snapshot = _ :=
          congrArg Chain.snapshot (Matcher.chain_of_tick fails.backward ticked)
        rw [Chain.discardTail, fails.older] at seen
        exact ⟨_, .forward rests (seen ▸ .resuming inside waits) below,
          fun forward => (notForward forward).elim, fun _ => grown⟩

end World

end Rewind
