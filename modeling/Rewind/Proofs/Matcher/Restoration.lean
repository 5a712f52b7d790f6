/-
This file proves that nodes put back what they have found. When control returns from a node for the
first time, without having fallen back on what was there before the node was entered, the bindings
are what they were, the cursor has not gone back, and the generations from back then still resume
where they did. Atomic groups and lookaheads leave no choice behind; lookaheads also put the cursor
back, and a negative one leaves the store just as it was.
-/

import Mathlib
import Rewind.Proofs.Matcher.Moments
import Rewind.Proofs.Matcher.Stems

namespace Rewind

namespace Matcher

/-- The run goes on forward with a node and a signal, or has finished its root. -/
def HandsTo (target : Option (NodeId × Signal)) (matcher : Matcher) : Prop :=
  matcher.direction = .forward ∧ matcher.control = target

instance (target : Option (NodeId × Signal)) (matcher : Matcher) :
    Decidable (matcher.HandsTo target) := inferInstanceAs (Decidable (_ ∧ _))

/-- How a run goes on from a moment until control is handed to some target, as long as none of the
generations from back then is discarded by going back. -/
inductive Follows (start : Matcher) (target : Option (NodeId × Signal)) : Matcher → Prop
  | here : Follows start target start
  | ticked {before after : Matcher} {goesOn : Bool} (follows : Follows start target before)
    (notYet : ¬ before.HandsTo target) (ticks : tick before = .ok goesOn after)
    (above : before.direction = .backward →
      start.store.chain.length ≤ after.store.chain.length) : Follows start target after
  | interrupted {before after : Matcher} (follows : Follows start target before)
    (alike : before.Alike after) : Follows start target after

end Matcher

/-- What atomic groups and lookaheads undo besides what every node undoes. -/
def Node.Undoes (start finish : Matcher) : Node → Prop
  | .atomic _ => finish.store.chain.length = start.store.chain.length
  | .lookahead _ negative => finish.store.chain.length = start.store.chain.length ∧
      finish.subject.cursor = start.subject.cursor ∧
      (negative = true → finish.store.chain.snapshot = start.store.chain.snapshot)
  | _ => True

/-- What a node has put back when control returns from it. -/
structure Node.Restores (node : Node) (start finish : Matcher) : Prop where
  bindings : finish.store.bindings = start.store.bindings
  cursor : start.subject.cursor ≤ finish.subject.cursor
  /-- The generations below the newest one from back then are unchanged, and that one still has its
  id and resumes where it did. -/
  below : finish.store.Preserves start.store.chain.older.length start.store.chain.older.reverse
    start.store.chain.tail
  undoes : node.Undoes start finish

/-! ### Generations that stay -/

theorem Store.preserves_of_stems {before after : Store}
    (older : before.chain.older <:+ after.chain.older)
    (stems : before.chain.stems <:+ after.chain.stems) :
    after.Preserves before.chain.older.length before.chain.older.reverse before.chain.tail := by
  constructor
  · have below : before.chain.older.reverse <+: after.chain.lineage := by
      rw [Chain.lineage_eq]
      exact (List.reverse_prefix.mpr older).trans (List.prefix_append _ _)
    have taken := List.prefix_iff_eq_take.mp below
    rwa [List.length_reverse, eq_comm] at taken
  · have lineage (chain : Chain) : chain.stems.reverse =
        chain.lineage.map fun generation => (generation.id, generation.resume) :=
      List.map_reverse.symm
    obtain ⟨newer, grown⟩ := List.reverse_prefix.mpr stems
    rw [lineage, lineage] at grown
    have found := congrArg (·[before.chain.older.length]?) grown
    simp only [List.getElem?_map] at found
    rw [List.getElem?_append_left (by simp), List.getElem?_map, Chain.lineage_tail] at found
    obtain ⟨generation, here, same⟩ := Option.map_eq_some_iff.mp found.symm
    obtain ⟨id, resume⟩ := Prod.mk.inj same
    exact ⟨generation, here, id, resume⟩

namespace World

open Matcher

variable {world : World} {activation outermost : Activation}
    {start finish : Matcher} {scene : Scene}
  {id : NodeId} {node : Node}

/-! ### Signals that enter, and signals that return -/

/-- No child returns with the signal that enters a node. -/
theorem signal_ne_enter {child : NodeId} {signal : Signal} (member : (child, signal) ∈ node.links) :
    signal ≠ .enter := by
  have single {children : List NodeId} (member : (child, signal) ∈ doneLinks children) :
      signal ≠ .enter := by
    rw [signal_of_doneLinks member]
    exact Nat.one_ne_zero
  cases node with
  | sequence children =>
    obtain ⟨⟨other, index⟩, -, same⟩ := List.mem_map.mp member
    have isNext : index + 1 = signal := congrArg Prod.snd same
    exact isNext ▸ Nat.succ_ne_zero index
  | root child search => exact single member
  | alternation children => exact single member
  | repetition child min max lazily => exact single member
  | atomic child => exact single member
  | lookahead child negative => exact single member
  | capture name child => exact single member
  | text characters => exact absurd member List.not_mem_nil
  | any => exact absurd member List.not_mem_nil
  | charClass set => exact absurd member List.not_mem_nil
  | anchor place => exact absurd member List.not_mem_nil

/-- No choice resumes with the signal that enters a node. -/
theorem Waits.signal_ne_enter {floor : Floor} {view : Snapshot} {point : ResumePoint}
    (waits : world.Waits activation floor scene view point) : point.signal ≠ .enter := by
  obtain ⟨node, -, shape⟩ := waits.shape
  cases node with
  | root child search => exact shape.1 ▸ two_ne_zero
  | alternation children =>
    obtain ⟨⟨branch, same⟩, -⟩ := shape
    exact same ▸ Nat.succ_ne_zero _
  | repetition child min max lazily =>
    obtain ⟨leave | goOn, -⟩ := shape
    · exact leave ▸ two_ne_zero
    · exact goOn ▸ Nat.succ_ne_zero 2
  | atomic child => exact shape.1 ▸ two_ne_zero
  | lookahead child negative => exact shape.1 ▸ two_ne_zero
  | text characters => exact shape.elim
  | any => exact shape.elim
  | charClass set => exact shape.elim
  | anchor place => exact shape.elim
  | sequence children => exact shape.elim
  | capture name child => exact shape.elim

/-! ### From the beginning of a node to its end -/

/-- A node is about to be entered with what it will be remembered by. -/
structure Begins (world : World) (activation : Activation) (matcher : Matcher) : Prop where
  pursues : world.Pursues activation activation.scene matcher
  rooted : world.Rooted activation
  view : activation.view = matcher.store.chain.snapshot
  older : matcher.store.chain.older = activation.floor.older
  cursor : matcher.subject.cursor = activation.cursor
  /-- Children come before their parents. -/
  upward : ∀ parent signal, world.program.exit? activation.node = some (parent, signal) →
    activation.node < parent

/-- Entering any node while an outermost one is in progress begins an activation. -/
theorem Pursues.begins (pursues : world.Pursues outermost scene start)
    (wired : world.program.Wired) (rooted : world.Rooted outermost)
    (last : world.program.exit? outermost.node = none)
    (view : outermost.view = start.store.chain.snapshot)
    (entered : start.HandsTo (some (id, .enter))) :
    ∃ inner : Activation, world.Begins inner start ∧ inner.node = id := by
  obtain ⟨forward, control⟩ := entered
  cases pursues with
  | starting same isRoot acts =>
    rw [acts.control] at control
    cases control
    refine ⟨outermost, ⟨?_, rooted, view, acts.poised.older, acts.cursor, ?_⟩, rfl⟩
    · exact same ▸ .starting same isRoot acts
    · exact fun parent signal exits => nomatch last.symm.trans exits
  | @forward floor handed cursor rests amid piles =>
    rw [rests.control] at control
    generalize seen : start.store.chain.snapshot = shown at amid
    cases amid with
    | @entering inner inside =>
      cases control
      refine ⟨inner, ⟨?_, rooted.inside inside wired, seen.symm, rests.poised.older, rests.cursor,
        fun parent signal exits => ?_⟩, rfl⟩
      · exact .forward rests (seen ▸ .entering .self) (.base _)
      · obtain rfl | ⟨outer, -, enters⟩ := inside.cases_parent
        · exact nomatch last.symm.trans exits
        · obtain ⟨_, _, _, _, below, linked⟩ := enters.exit wired
          cases linked.symm.trans exits
          exact below
    | finishing inside finishes =>
      obtain rfl | ⟨outer, -, enters⟩ := inside.cases_parent
      · exact nomatch last.symm.trans control
      · obtain ⟨_, _, _, member, _, linked⟩ := enters.exit wired
        cases linked.symm.trans control
        exact absurd rfl (World.signal_ne_enter member)
    | resuming inside waits =>
      exact absurd (congrArg Prod.snd (Option.some.inj control)) waits.signal_ne_enter
  | backward fails =>
    rw [fails.backward] at forward
    cases forward

/-- Until the node returns, the run stays in its activation, and the generations that were there
keep their stems. -/
theorem Begins.follows (begins : world.Begins activation start) (wired : world.program.Wired)
    (follows : start.Follows (world.program.exit? activation.node) finish) :
    (∃ scene, world.Pursues activation scene finish) ∧
      start.store.chain.stems <:+ finish.store.chain.stems := by
  induction follows with
  | here => exact ⟨⟨_, begins.pursues⟩, List.suffix_refl _⟩
  | @ticked before after goesOn _ notYet ticks above inductionHypothesis =>
    obtain ⟨⟨scene, pursues⟩, kept⟩ := inductionHypothesis
    have lengths (chain : Chain) : chain.stems.length = chain.length := List.length_map _
    obtain ⟨next, still, -⟩ := pursues.tick wired begins.rooted
      (fun forward control => notYet ⟨forward, control⟩) ticks
      (fun backward => begins.older ▸ Nat.le_of_succ_le_succ (above backward))
    refine ⟨⟨next, still⟩, ?_⟩
    obtain grown | cut := stems_tick pursues.shows.chain.wiped ticks
    · exact kept.trans grown
    · refine List.suffix_of_suffix_length_le kept cut ?_
      rw [lengths, lengths, Chain.length, Chain.length, begins.older]
      exact Nat.succ_le_succ still.older.length_le
  | interrupted _ alike inductionHypothesis =>
    obtain ⟨⟨scene, pursues⟩, kept⟩ := inductionHypothesis
    exact ⟨⟨scene, pursues.alike alike⟩, alike.chain ▸ kept⟩

/-- While a node is in progress, only the node itself hands control to its parent. -/
theorem Pursues.finishes (pursues : world.Pursues activation scene finish)
    (wired : world.program.Wired)
    (upward : ∀ parent signal, world.program.exit? activation.node = some (parent, signal) →
      activation.node < parent)
    (returned : finish.HandsTo (world.program.exit? activation.node)) :
    ∃ floor cursor, finish.Rests world floor scene (world.program.exit? activation.node) cursor ∧
      world.Finishes activation floor scene finish.store.chain.snapshot cursor := by
  obtain ⟨forward, control⟩ := returned
  have notInside {inner : NodeId} {signal : Signal} (inside : inner ≤ activation.node)
      (exits : world.program.exit? activation.node = some (inner, signal)) : False :=
    absurd (upward inner signal exits) (Nat.not_lt.mpr inside)
  cases pursues with
  | starting same isRoot acts =>
    rw [acts.control] at control
    exact (notInside (Nat.le_refl _) control.symm).elim
  | @forward floor handed cursor rests amid piles =>
    rw [rests.control] at control
    generalize seen : finish.store.chain.snapshot = shown at amid
    cases amid with
    | entering inside => exact (notInside (inside.node_le wired) control.symm).elim
    | @finishing inner floor scene view cursor inside finishes =>
      obtain rfl | ⟨outer, around, enters⟩ := inside.cases_parent
      · exact ⟨floor, cursor, rests, finishes⟩
      · obtain ⟨_, _, _, _, _, linked⟩ := enters.exit wired
        rw [linked] at control
        exact (notInside (around.node_le wired) control.symm).elim
    | @resuming inner floor scene view point inside waits =>
      rw [waits.node] at control
      exact (notInside (inside.node_le wired) control.symm).elim
  | backward fails =>
    rw [fails.backward] at forward
    cases forward

/-- Finishing leaves the bindings as they were. -/
theorem Finishes.bindings {floor : Floor} {view : Snapshot} {cursor : Nat}
    (finishes : world.Finishes activation floor scene view cursor) :
    scene.bindings = activation.scene.bindings := by
  obtain ⟨node, found, shape⟩ := finishes.shape
  cases isRoot : node.isRoot with
  | false => exact (finishes.grows found isRoot).bindings
  | true =>
    cases node with
    | root child search =>
      obtain ⟨context, place, from_, closed, entered, rfl, -⟩ := shape
      rw [entered]
      rfl
    | _ => cases isRoot

theorem Begins.restores (begins : world.Begins activation start) (wired : world.program.Wired)
    (found : world.program.node? activation.node = some node)
    (follows : start.Follows (world.program.exit? activation.node) finish)
    (returned : finish.HandsTo (world.program.exit? activation.node)) :
    node.Restores start finish := by
  obtain ⟨⟨scene, pursues⟩, stems⟩ := begins.follows wired follows
  obtain ⟨floor, cursor, rests, finishes⟩ := pursues.finishes wired begins.upward returned
  have older := finishes.precedes.older
  rw [← begins.older, ← rests.poised.older] at older
  refine ⟨?_, ?_, Store.preserves_of_stems older stems, ?_⟩
  · have before := begins.pursues.shows.chain.stack.bindings_eq
    have after := rests.poised.shows.chain.stack.bindings_eq
    rw [finishes.bindings, ← before] at after
    exact after
  · rw [begins.cursor, rests.cursor]
    exact finishes.precedes.cursor
  · have sameLength (same : floor = activation.floor) :
        finish.store.chain.length = start.store.chain.length := by
      unfold Chain.length
      rw [rests.poised.older, begins.older, same]
    obtain ⟨_, foundSame, shape⟩ := finishes.shape
    rw [found] at foundSame
    cases foundSame
    cases node with
    | atomic child => exact sameLength shape.1
    | lookahead child negative =>
      obtain ⟨same, sameCursor, -, sameView⟩ := shape
      refine ⟨sameLength same, ?_, fun isNegative => ?_⟩
      · rw [rests.cursor, begins.cursor, sameCursor]
      · rw [sameView isNegative, begins.view]
    | _ => trivial

end World

/-- The discipline of nodes. Take any moment of a run of a compiled pattern at which a node is about
to be entered, and follow the run, however it is interrupted, until control is handed to where the
node returns. Unless it has fallen back below the generations from back then, the node has put back
all that it has to. -/
theorem nodes_restore {pattern : Pattern} {search : Bool} {program : Program} {text : List Char}
    (compiled : pattern.compile search = .ok program) {start finish : Matcher} {id : NodeId}
    {node : Node} (found : program.node? id = some node) (between : start.Between program text)
    (entered : start.HandsTo (some (id, .enter)))
    (follows : start.Follows (program.exit? id) finish)
    (returned : finish.HandsTo (program.exit? id)) : node.Restores start finish := by
  have wired := Pattern.wired_compile compiled
  obtain ⟨context, place, scene, pursues⟩ :=
    World.pursues_between compiled between start.store.chain.snapshot
  obtain ⟨inner, begins, rfl⟩ := pursues.begins wired (World.rooted_ofRoot _ _ _ _ _)
    (World.exit_root compiled) rfl entered
  exact begins.restores wired found follows returned

/-- The pattern `(?!b)`. -/
def Pattern.notB : Pattern where
  expr := .group .notAhead (.char 'b' ⟨3, 4⟩) ⟨0, 5⟩
  span := ⟨0, 5⟩

/-- The program of the pattern `(?!b)`. -/
def Program.notB : Program where
  nodes := #[⟨.text ['b'], some ⟨1, .childDone⟩⟩, ⟨.lookahead 0 true, some ⟨2, .childDone⟩⟩,
    ⟨.root 1 false, none⟩]
  root := 2

/-- Where a tick leads. -/
def Matcher.afterTick (matcher : Matcher) : Matcher := Action.reached (Matcher.tick matcher)

theorem Matcher.Follows.afterTick {start before : Matcher} {target : Option (NodeId × Signal)}
    (follows : start.Follows target before)
    (goesOn : Action.answer (Matcher.tick before) = .ok true ∧ ¬ before.HandsTo target ∧
      start.store.chain.length ≤ before.afterTick.store.chain.length) :
    start.Follows target before.afterTick :=
  .ticked follows goesOn.2.1 (Action.eq_ok_of_answer goesOn.1) fun _ => goesOn.2.2

theorem nodes_restore_negative_lookahead :
    let prepared := Action.reached (Matcher.prepare 2 ['a'] (.ofProgram .notB {}))
    let start := prepared.afterTick
    let finish := start.afterTick.afterTick.afterTick.afterTick
    Pattern.notB.compile false = .ok .notB ∧
      Program.notB.node? 1 = some (.lookahead 0 true) ∧ start.Between .notB ['a'] ∧
      start.HandsTo (some (1, .enter)) ∧ start.Follows (Program.notB.exit? 1) finish ∧
      finish.HandsTo (Program.notB.exit? 1) ∧ (Node.lookahead 0 true).Restores start finish := by
  intro prepared start finish
  have compiled : Pattern.notB.compile false = .ok .notB := by decide +kernel
  have ready : Matcher.prepare 2 ['a'] ((Matcher.ofProgram .notB {}).used []) = .ok () prepared :=
    Action.eq_ok_of_answer (by decide +kernel)
  let goesOn (before : Matcher) : Prop := Action.answer (Matcher.tick before) = .ok true ∧
    ¬ before.HandsTo (Program.notB.exit? 1) ∧
      start.store.chain.length ≤ before.afterTick.store.chain.length
  have ticks : Action.answer (Matcher.tick prepared) = .ok true ∧
      start.HandsTo (some (1, .enter)) ∧ goesOn start ∧ goesOn start.afterTick ∧
      goesOn start.afterTick.afterTick ∧ goesOn start.afterTick.afterTick.afterTick ∧
      finish.HandsTo (Program.notB.exit? 1) := by
    unfold goesOn finish start Matcher.afterTick
    rw [Matcher.tick_of_step (by decide +kernel : prepared.direction = .forward)
      (by decide +kernel : prepared.control = some (2, .enter))
      (by decide +kernel : prepared.program.node? 2 = some (.root 1 false))]
    -- The root match holds no reference when its bounds are set.
    simp only [Matcher.stepNode, Matcher.stepRoot, Matcher.attempt, Matcher.setBounds,
      Matcher.updateCapture, Store.update, Store.assign_eq]
    decide +kernel
  obtain ⟨first, entered, enters, fails, fallsBack, finishes, returned⟩ := ticks
  have between : start.Between .notB ['a'] :=
    .ticked (.prepared ready) (Action.eq_ok_of_answer first)
  have follows : start.Follows (Program.notB.exit? 1) finish :=
    (((Matcher.Follows.here.afterTick enters).afterTick fails).afterTick fallsBack).afterTick
      finishes
  exact ⟨compiled, rfl, between, entered, follows, returned,
    nodes_restore compiled rfl between entered follows returned⟩

end Rewind
