/-
This file says where a run stands while a node is in progress. A node is entered on a floor, with a
scene and at a cursor, and until it finishes it only enters its children, one after the other, each
on a floor that is not lower and at a cursor that is not before its own. So the nodes in progress
are nested, and for each kind of node it is known what it has added to the scene when it enters a
child, when it finishes, and when it leaves a choice behind. What a run falls back on above the
floor of a node are the choices left by the nodes inside of it.
-/

import Mathlib
import Rewind.Proofs.Matcher.Root
import Rewind.Proofs.Program.Wiring

namespace Rewind

/-! ### What is added to a scene -/

/-- A closed capture does not stop before it starts, nor outside of the text, and neither do those
inside of it. -/
inductive Located.Within (size : Nat) : Located → Prop
  | mk {position : Nat} {name : String} {start stop : Nat} {children : List Located}
    (ordered : start ≤ stop) (inside : stop ≤ size)
    (contained : ∀ child ∈ children, Located.Within size child) :
    Located.Within size (.mk position name start stop children)

namespace Scene

/-- Captures have been closed in the innermost open one, and nothing else has changed. -/
def Grows (size : Nat) (before after : Scene) : Prop :=
  ∃ trees : List Located, (∀ tree ∈ trees, tree.Within size) ∧ after = before.graft trees

variable {size : Nat} {before between after : Scene}

theorem Grows.refl (size : Nat) (scene : Scene) : scene.Grows size scene :=
  ⟨[], fun _ member => absurd member List.not_mem_nil, (graft_nil scene).symm⟩

theorem Grows.trans (first : before.Grows size between) (second : between.Grows size after) :
    before.Grows size after := by
  obtain ⟨trees, within, rfl⟩ := first
  obtain ⟨others, withinOthers, rfl⟩ := second
  exact ⟨trees ++ others, List.forall_mem_append.mpr ⟨within, withinOthers⟩, graft_graft _ _ _⟩

theorem Grows.bindings (grows : before.Grows size after) : after.bindings = before.bindings := by
  obtain ⟨trees, -, rfl⟩ := grows
  rfl

/-- A frame stays on top. -/
theorem Grows.of_push {frame : Frame} (grows : (before.push frame).Grows size after) :
    ∃ changed, before.Grows size changed ∧ after = changed.push frame := by
  obtain ⟨trees, within, rfl⟩ := grows
  exact ⟨before.graft trees, ⟨trees, within, rfl⟩, graft_push before frame trees⟩

/-- A capture that was opened stays open. -/
theorem Grows.of_nest {opened : Opened} (grows : (before.nest opened).Grows size after) :
    ∃ trees : List Located, (∀ tree ∈ trees, tree.Within size) ∧
      after = before.nest { opened with closed := opened.closed ++ trees } := by
  obtain ⟨trees, within, rfl⟩ := grows
  exact ⟨trees, within, rfl⟩

/-- No capture that is open has been given an end, and all that are closed lie in the text. -/
def Open (size : Nat) (scene : Scene) : Prop :=
  ∀ opened ∈ scene.inner :: scene.outer, opened.stop = none ∧
    ∀ tree ∈ opened.closed, tree.Within size

theorem Open.grows (isOpen : before.Open size) (grows : before.Grows size after) :
    after.Open size := by
  obtain ⟨trees, within, rfl⟩ := grows
  intro opened member
  obtain rfl | isOuter := List.mem_cons.mp member
  · obtain ⟨noStop, closed⟩ := isOpen before.inner List.mem_cons_self
    exact ⟨noStop, List.forall_mem_append.mpr ⟨closed, within⟩⟩
  · exact isOpen opened (List.mem_cons_of_mem _ isOuter)

theorem Open.push (isOpen : before.Open size) (frame : Frame) : (before.push frame).Open size := by
  intro opened member
  obtain rfl | isOuter := List.mem_cons.mp member
  · exact isOpen before.inner List.mem_cons_self
  · exact isOpen opened (List.mem_cons_of_mem _ isOuter)

theorem Open.nest (isOpen : before.Open size) (place : Nat) (name : String) (start : Nat) :
    (before.nest { position := place, name := name, start := start }).Open size := by
  intro opened member
  obtain rfl | isOuter := List.mem_cons.mp member
  · exact ⟨rfl, fun _ isTree => absurd isTree List.not_mem_nil⟩
  · exact isOpen opened isOuter

theorem open_ofRoot (size context place start : Nat) :
    (ofRoot context place start none []).Open size := by
  intro opened member
  cases List.mem_singleton.mp member
  exact ⟨rfl, fun _ isTree => absurd isTree List.not_mem_nil⟩

end Scene

/-! ### The order of captures -/

mutual

/-- Where a closed capture and those inside of it are stored, outer ones first. -/
def Located.order : Located → List Nat
  | .mk place _ _ _ children => place :: Located.orderOfAll children

/-- Where some closed captures and those inside of them are stored. -/
def Located.orderOfAll : List Located → List Nat
  | [] => []
  | tree :: trees => tree.order ++ Located.orderOfAll trees

end

theorem Located.orderOfAll_append (first second : List Located) :
    orderOfAll (first ++ second) = orderOfAll first ++ orderOfAll second := by
  induction first with
  | nil => rfl
  | cons tree first inductionHypothesis =>
    rw [List.cons_append, orderOfAll, orderOfAll, inductionHypothesis, List.append_assoc]

/-- Where an open capture and those closed inside of it are stored. -/
def Opened.order (opened : Opened) : List Nat :=
  opened.position :: Located.orderOfAll opened.closed

/-- Where all captures of a scene are stored, in the order in which they were opened. -/
def Scene.order (scene : Scene) : List Nat :=
  scene.outer.reverse.flatMap Opened.order ++ scene.inner.order

namespace Scene

@[simp] theorem order_push (scene : Scene) (frame : Frame) :
    (scene.push frame).order = scene.order := rfl

@[simp] theorem order_ofRoot (context place start : Nat) (stop : Option Nat)
    (closed : List Located) :
    (ofRoot context place start stop closed).order = place :: Located.orderOfAll closed := rfl

theorem order_nest (scene : Scene) (opened : Opened) :
    (scene.nest opened).order = scene.order ++ opened.order := by
  unfold order nest
  rw [List.reverse_cons, List.flatMap_append, List.flatMap_singleton]

/-- Closing a capture does not change the order. -/
theorem order_close (scene : Scene) (opened : Opened) (stop : Nat) :
    (scene.graft [.mk opened.position opened.name opened.start stop opened.closed]).order =
      (scene.nest opened).order := by
  rw [order_nest]
  unfold order graft Opened.order
  rw [Located.orderOfAll_append, Located.orderOfAll, Located.orderOfAll, Located.order,
    List.append_nil, ← List.cons_append, List.append_assoc]

end Scene

/-! ### Nodes in progress -/

/-- A node in progress: what it was entered with. -/
structure Activation where
  node : NodeId
  floor : Floor
  scene : Scene
  /-- All that was seen of the store. -/
  view : Snapshot
  cursor : Nat

/-- The floor is not lower than the one of a node in progress, and the cursor not before its own. -/
structure Activation.Precedes (activation : Activation) (floor : Floor) (cursor : Nat) : Prop where
  older : activation.floor.older <:+ floor.older
  cursor : activation.cursor ≤ cursor

theorem Activation.Precedes.refl (activation : Activation) :
    activation.Precedes activation.floor activation.cursor := ⟨List.suffix_refl _, Nat.le_refl _⟩

/-- What a node has added to the scene when it enters a child. -/
def Node.Enters (size : Nat) (outer inner : Activation) : Node → Prop
  | .root _ _ => ∃ context place,
      outer.scene = .ofRoot context place outer.cursor none [] ∧
      inner.scene = .ofRoot context place inner.cursor none []
  | .sequence _ => outer.scene.Grows size inner.scene
  | .alternation _ => inner.scene = outer.scene
  | .repetition _ _ _ _ => ∃ changed place count, outer.scene.Grows size changed ∧
      count < 0x100000000 ∧ inner.scene = changed.push (.repetition place count inner.cursor)
  | .atomic _ => ∃ saved successor, outer.floor.Saves outer.scene saved ∧
      inner.floor.older = saved :: outer.floor.older ∧
      inner.scene = outer.scene.push (.atomic ⟨saved.id, outer.floor.older.length, successor⟩)
  | .lookahead _ _ => ∃ saved successor place, outer.floor.Saves outer.scene saved ∧
      inner.floor.older = saved :: outer.floor.older ∧
      inner.scene = outer.scene.push
        (.lookahead place ⟨saved.id, outer.floor.older.length, successor⟩ outer.cursor)
  | .capture name _ => ∃ place,
      inner.scene = outer.scene.nest { position := place, name := name, start := outer.cursor }
  | .text _ | .any | .charClass _ | .anchor _ => False

/-- What a node has added to the scene when it finishes. What was saved inside of an atomic group or
of a lookahead is gone then, and a negative lookahead leaves the store just as it was. -/
def Node.Finishes (size : Nat) (activation : Activation) (floor : Floor) (scene : Scene)
    (view : Snapshot) (cursor : Nat) : Node → Prop
  | .root _ _ => ∃ context place start closed,
      activation.scene = .ofRoot context place activation.cursor none [] ∧
      scene = .ofRoot context place start (some cursor) closed ∧ start ≤ cursor ∧
      ∀ tree ∈ closed, tree.Within size
  | .atomic _ => floor = activation.floor ∧ activation.scene.Grows size scene
  | .lookahead _ negative => floor = activation.floor ∧ cursor = activation.cursor ∧
      activation.scene.Grows size scene ∧ (negative = true → view = activation.view)
  | _ => activation.scene.Grows size scene

/-- What a node finds when a run comes back to a choice that it has left. -/
def Node.Waits (size : Nat) (activation : Activation) (floor : Floor) (scene : Scene)
    (view : Snapshot) (signal : Signal) (cursor : Nat) : Node → Prop
  | .root _ _ => signal = .retry ∧ ∃ context place,
      activation.scene = .ofRoot context place activation.cursor none [] ∧
      scene = .ofRoot context place cursor none []
  | .alternation _ => (∃ branch, signal = .tryBranch branch) ∧ scene = activation.scene
  | .repetition _ _ _ _ => (signal = .leave ∨ signal = .goOn) ∧ ∃ changed place count start,
      activation.scene.Grows size changed ∧ count < 0x100000000 ∧
      scene = changed.push (.repetition place count start)
  | .atomic _ | .lookahead _ _ => signal = .childFailed ∧ floor = activation.floor ∧
      scene = activation.scene ∧ view = activation.view ∧ cursor = activation.cursor
  | _ => False

namespace World

/-- A node in progress has entered one of its children. -/
structure Enters (world : World) (outer inner : Activation) : Prop where
  shape : ∃ node, world.program.node? outer.node = some node ∧
    (∃ signal, (inner.node, signal) ∈ node.links) ∧ node.Enters world.text.size outer inner
  precedes : outer.Precedes inner.floor inner.cursor

/-- A node in progress is about to return to its parent. -/
structure Finishes (world : World) (activation : Activation) (floor : Floor) (scene : Scene)
    (view : Snapshot) (cursor : Nat) : Prop where
  shape : ∃ node, world.program.node? activation.node = some node ∧
    node.Finishes world.text.size activation floor scene view cursor
  precedes : activation.Precedes floor cursor

/-- A node in progress has left a choice. -/
structure Waits (world : World) (activation : Activation) (floor : Floor) (scene : Scene)
    (view : Snapshot) (point : ResumePoint) : Prop where
  shape : ∃ node, world.program.node? activation.node = some node ∧
    node.Waits world.text.size activation floor scene view point.signal point.cursor
  node : point.node = activation.node
  precedes : activation.Precedes floor point.cursor
  inside : point.cursor ≤ world.text.size

/-- A node in progress is the one looked at, or inside of it. -/
inductive Inside (world : World) (activation : Activation) : Activation → Prop
  | self : Inside world activation activation
  | child {outer inner : Activation} (around : Inside world activation outer)
    (enters : world.Enters outer inner) : Inside world activation inner

/-- Where a run may be between two ticks while a node is in progress. -/
inductive Amid (world : World) (activation : Activation) :
    Floor → Scene → Snapshot → Option (NodeId × Signal) → Nat → Prop
  | entering {inner : Activation} (inside : world.Inside activation inner) :
    Amid world activation inner.floor inner.scene inner.view
      (some (inner.node, .enter)) inner.cursor
  | finishing {inner : Activation} {floor : Floor} {scene : Scene} {view : Snapshot} {cursor : Nat}
    (inside : world.Inside activation inner)
    (finishes : world.Finishes inner floor scene view cursor) :
    Amid world activation floor scene view (world.program.exit? inner.node) cursor
  | resuming {inner : Activation} {floor : Floor} {scene : Scene} {view : Snapshot}
    {point : ResumePoint} (inside : world.Inside activation inner)
    (waits : world.Waits inner floor scene view point) :
    Amid world activation floor scene view (some (point.node, point.signal)) point.cursor

/-- What has been saved above the floor of a node in progress: choices left inside of it. Captures
were only added since. -/
inductive Piles (world : World) (activation : Activation) : Floor → List Nat → Prop
  | base (order : List Nat) : Piles world activation activation.floor order
  | save {inner : Activation} {floor : Floor} {scene : Scene} {saved : Generation}
    {point : ResumePoint} {order : List Nat} (below : Piles world activation floor scene.order)
    (saves : floor.Saves scene saved) (inside : world.Inside activation inner)
    (waits : world.Waits inner floor scene (saved.over floor.older) point)
    (grown : scene.order <+: order) :
    Piles world activation { older := saved :: floor.older, resume := some point } order

/-- An outermost node in progress was entered with nothing but an open root match. -/
def Rooted (world : World) (activation : Activation) : Prop :=
  ∀ node, world.program.node? activation.node = some node → node.isRoot = true →
    ∃ context place, activation.scene = .ofRoot context place activation.cursor none []

variable {world : World} {activation inner outer : Activation} {floor : Floor} {scene : Scene}
  {view : Snapshot}
  {control : Option (NodeId × Signal)} {cursor : Nat} {order : List Nat}

/-! ### Nesting -/

theorem Inside.precedes (inside : world.Inside activation inner) :
    activation.Precedes inner.floor inner.cursor := by
  induction inside with
  | self => exact .refl activation
  | child _ enters inductionHypothesis =>
    exact ⟨inductionHypothesis.older.trans enters.precedes.older,
      inductionHypothesis.cursor.trans enters.precedes.cursor⟩

/-- A child that was entered returns to the node that has entered it. -/
theorem Enters.exit (enters : world.Enters outer inner) (wired : world.program.Wired) :
    ∃ node signal, world.program.node? outer.node = some node ∧ (inner.node, signal) ∈ node.links ∧
      inner.node < outer.node ∧ world.program.exit? inner.node = some (outer.node, signal) := by
  obtain ⟨node, found, ⟨signal, member⟩, -⟩ := enters.shape
  obtain ⟨below, linked⟩ := wired.linked outer.node node found (inner.node, signal) member
  refine ⟨node, signal, found, member, below, ?_⟩
  unfold Program.exit?
  rw [linked]
  rfl

theorem Inside.node_le (inside : world.Inside activation inner) (wired : world.program.Wired) :
    inner.node ≤ activation.node := by
  induction inside with
  | self => exact Nat.le_refl _
  | child _ enters inductionHypothesis =>
    obtain ⟨-, -, -, -, below, -⟩ := enters.exit wired
    exact (Nat.le_of_lt below).trans inductionHypothesis

/-- A node inside of another one is the same or was entered by one that is. -/
theorem Inside.cases_parent (inside : world.Inside activation inner) :
    inner = activation ∨ ∃ outer, world.Inside activation outer ∧ world.Enters outer inner := by
  cases inside with
  | self => exact .inl rfl
  | child around enters => exact .inr ⟨_, around, enters⟩

theorem Enters.isOpen (enters : world.Enters outer inner)
    (isOpen : outer.scene.Open world.text.size) : inner.scene.Open world.text.size := by
  obtain ⟨node, -, -, shape⟩ := enters.shape
  cases node with
  | root child search =>
    obtain ⟨context, place, -, scene⟩ := shape
    rw [scene]
    exact Scene.open_ofRoot _ _ _ _
  | sequence children => exact isOpen.grows shape
  | alternation children =>
    rw [show inner.scene = outer.scene from shape]
    exact isOpen
  | repetition child min max lazily =>
    obtain ⟨changed, place, count, grows, -, scene⟩ := shape
    rw [scene]
    exact (isOpen.grows grows).push _
  | atomic child =>
    obtain ⟨saved, successor, -, -, scene⟩ := shape
    rw [scene]
    exact isOpen.push _
  | lookahead child negative =>
    obtain ⟨saved, successor, place, -, -, scene⟩ := shape
    rw [scene]
    exact isOpen.push _
  | capture name child =>
    obtain ⟨place, scene⟩ := shape
    rw [scene]
    exact isOpen.nest _ _ _
  | text characters => exact shape.elim
  | any => exact shape.elim
  | charClass set => exact shape.elim
  | anchor place => exact shape.elim

theorem Inside.isOpen (inside : world.Inside activation inner)
    (isOpen : activation.scene.Open world.text.size) : inner.scene.Open world.text.size := by
  induction inside with
  | self => exact isOpen
  | child _ enters inductionHypothesis => exact enters.isOpen inductionHypothesis

theorem Waits.isOpen {point : ResumePoint} (waits : world.Waits inner floor scene view point)
    (isOpen : inner.scene.Open world.text.size) : scene.Open world.text.size := by
  obtain ⟨node, -, shape⟩ := waits.shape
  cases node with
  | root child search =>
    obtain ⟨-, context, place, -, rfl⟩ := shape
    exact Scene.open_ofRoot _ _ _ _
  | alternation children => exact shape.2 ▸ isOpen
  | repetition child min max lazily =>
    obtain ⟨-, changed, place, count, start, grows, -, rfl⟩ := shape
    exact (isOpen.grows grows).push _
  | atomic child => exact shape.2.2.1 ▸ isOpen
  | lookahead child negative => exact shape.2.2.1 ▸ isOpen
  | text characters => exact shape.elim
  | any => exact shape.elim
  | charClass set => exact shape.elim
  | anchor place => exact shape.elim
  | sequence children => exact shape.elim
  | capture name child => exact shape.elim

/-- Finishing a node that is not an outermost one has closed captures at most. -/
theorem Finishes.grows (finishes : world.Finishes activation floor scene view cursor) {node : Node}
    (found : world.program.node? activation.node = some node) (isInner : node.isRoot = false) :
    activation.scene.Grows world.text.size scene := by
  obtain ⟨same, foundSame, shape⟩ := finishes.shape
  rw [found] at foundSame
  cases foundSame
  cases node with
  | root child search => cases isInner
  | atomic child => exact shape.2
  | lookahead child negative => exact shape.2.2.1
  | text characters => exact shape
  | any => exact shape
  | charClass set => exact shape
  | anchor place => exact shape
  | sequence children => exact shape
  | alternation children => exact shape
  | repetition child min max lazily => exact shape
  | capture name child => exact shape

/-- A child that was entered is not an outermost node. -/
theorem Enters.isRoot_eq_false (enters : world.Enters outer inner) (wired : world.program.Wired)
    {node : Node} (found : world.program.node? inner.node = some node) : node.isRoot = false := by
  refine Bool.eq_false_iff.mpr fun isRoot => ?_
  obtain ⟨_, signal, _, _, _, linked⟩ := enters.exit wired
  unfold Program.exit? at linked
  rw [wired.outermost inner.node node found isRoot] at linked
  cases linked

/-- So finishing it has closed captures at most. -/
theorem Enters.grows (enters : world.Enters outer inner) (wired : world.program.Wired)
    (finishes : world.Finishes inner floor scene view cursor) :
    inner.scene.Grows world.text.size scene := by
  obtain ⟨node, found, -⟩ := finishes.shape
  exact finishes.grows found (enters.isRoot_eq_false wired found)

theorem Rooted.inside (rooted : world.Rooted activation) (inside : world.Inside activation inner)
    (wired : world.program.Wired) : world.Rooted inner := by
  intro node found isRoot
  obtain rfl | ⟨outer, -, enters⟩ := inside.cases_parent
  · exact rooted node found isRoot
  · rw [enters.isRoot_eq_false wired found] at isRoot
    cases isRoot

/-! ### Floors -/

theorem Piles.mono (piles : world.Piles activation floor order) {more : List Nat}
    (grown : order <+: more) : world.Piles activation floor more := by
  cases piles with
  | base order => exact .base more
  | save below saves inside waits before =>
    exact .save below saves inside waits (before.trans grown)

theorem Piles.older (piles : world.Piles activation floor order) :
    activation.floor.older <:+ floor.older := by
  induction piles with
  | base order => exact List.suffix_refl _
  | save _ _ _ _ _ inductionHypothesis => exact inductionHypothesis.trans (List.suffix_cons _ _)

/-- Every generation above the floor of a node has saved a scene. -/
theorem Piles.saved (piles : world.Piles activation floor order) {saved : Generation}
    {below : List Generation} (onFloor : saved :: below <:+ floor.older)
    (above : activation.floor.older <:+ below) :
    ∃ inner scene lower point, world.Piles activation lower scene.order ∧ lower.older = below ∧
      lower.Saves scene saved ∧ world.Inside activation inner ∧
      world.Waits inner lower scene (saved.over lower.older) point ∧ scene.order <+: order := by
  induction piles with
  | base order =>
    have shorter := onFloor.length_le
    have longer := above.length_le
    rw [List.length_cons] at shorter
    omega
  | @save inner floor scene top point order lower saves inside waits grown inductionHypothesis =>
    obtain same | deeper := List.suffix_cons_iff.mp onFloor
    · cases same
      exact ⟨inner, scene, floor, point, lower, rfl, saves, inside, waits, grown⟩
    · obtain ⟨inner, changed, lower, point, piles, rest⟩ := inductionHypothesis deeper
      obtain ⟨isOlder, saves, inside, waits, before⟩ := rest
      exact ⟨inner, changed, lower, point, piles, isOlder, saves, inside, waits,
        before.trans grown⟩

/-- What lies below a generation that is still there has not changed. -/
theorem Piles.of_saved (piles : world.Piles activation floor order) {saved : Generation}
    {lower : Floor} {before : Scene} (saves : lower.Saves before saved)
    (onFloor : saved :: lower.older <:+ floor.older)
    (above : activation.floor.older <:+ lower.older) : world.Piles activation lower order := by
  obtain ⟨inner, scene, same, point, piles, isOlder, savesSame, -, -, grown⟩ :=
    piles.saved onFloor above
  have equal : same = lower := by
    obtain ⟨older, resume⟩ := same
    obtain ⟨lowerOlder, lowerResume⟩ := lower
    cases isOlder
    exact congrArg _ (savesSame.resume.symm.trans saves.resume)
  exact equal ▸ piles.mono grown

end World

end Rewind
