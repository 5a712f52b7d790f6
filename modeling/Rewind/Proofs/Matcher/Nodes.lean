/-
This file proves, for each kind of node, which ways it answers with, given what its children answer
with. Every proof follows the signals that the node gets: what it does on each of them, and where
that leads.
-/

import Mathlib
import Rewind.Proofs.Matcher.Answers

namespace Rewind

namespace World

/-- The end of a node: the captures made on the way have been added to the scene. -/
def Arrives (world : World) (id : NodeId) (scene : Scene) (floor : Floor) (way : Way)
    (matcher : Matcher) : Prop :=
  ∃ trees : List Located, Located.trees world.text trees = way.captures ∧
    matcher.Rests world floor (scene.graft trees) (world.program.exit? id) way.stop

/-- Wherever a node is entered, it answers with some ways. -/
def Computes (world : World) (id : NodeId) (ways : Ways) : Prop :=
  ∀ floor scene start matcher, matcher.Rests world floor scene (some (id, .enter)) start →
    world.Answers (world.Arrives id scene) floor (ways start) matcher

variable {world : World} {goal : Matcher → Prop} {matcher : Matcher} {floor : Floor}
  {scene : Scene} {cursor ticks : Nat} {id : NodeId} {control : Option (NodeId × Signal)}

/-- Getting to the end of a node without captures. -/
theorem arrives_bare (rests : matcher.Rests world floor scene (world.program.exit? id) cursor) :
    world.Arrives id scene floor (.bare cursor) matcher := by
  refine ⟨[], rfl, ?_⟩
  rw [Scene.graft_nil]
  exact rests

/-- Captures made later are added behind those made before. -/
theorem arrives_graft {trees : List Located} {way next : Way}
    (made : Located.trees world.text trees = way.captures)
    (arrives : world.Arrives id (scene.graft trees) floor next matcher) :
    world.Arrives id scene floor (way.followedBy next) matcher := by
  obtain ⟨later, madeLater, rests⟩ := arrives
  refine ⟨trees ++ later, ?_, ?_⟩
  · rw [Located.trees_append, made, madeLater]
    rfl
  · rw [← Scene.graft_graft]
    exact rests

/-- A step that ends with finishing the node. -/
theorem proceeds_finish (acts : matcher.Acts world ticks floor scene control cursor) :
    world.Proceeds (world.Arrives id scene floor (.bare cursor)) ticks
      (.ok () (matcher.finish id)) :=
  .forward (acts.finish id) fun _ rests => .here (arrives_bare rests)

/-- A step that gives up at once. -/
theorem proceeds_backtrack (rests : matcher.Rests world floor scene control cursor) :
    world.Proceeds (fun reached => reached.Fails world floor) matcher.ticks
      (.ok () matcher.backtrack) :=
  .backward rests.acts rests.quiet fun _ fails => .here fails

/-! ### Nodes that consume text -/

/-- A node that tests the text at the cursor. -/
theorem computes_test {node : Node} (found : world.program.node? id = some node)
    {passes : Nat → Prop} [DecidablePred passes] {target : Nat → Nat}
    (tests : ∀ matcher : Matcher, matcher.subject.characters = world.text →
      Matcher.stepNode id node .enter matcher =
        Matcher.finishIf (decide (passes matcher.subject.cursor)) id
          (target matcher.subject.cursor) matcher)
    (inside : ∀ start ≤ world.text.size, passes start → target start ≤ world.text.size) :
    world.Computes id fun start => if passes start then [.bare (target start)] else [] := by
  intro floor scene start matcher rests
  by_cases passed : passes start
  · simp only [if_pos passed]
    refine .single (.of_step rests found fun other rests => ?_)
    rw [tests other rests.characters, rests.cursor, decide_eq_true passed]
    exact proceeds_finish (rests.acts.moveTo (inside start rests.cursor_le passed))
  · simp only [if_neg passed]
    refine Leads.of_step rests found fun other rests => ?_
    rw [tests other rests.characters, rests.cursor, decide_eq_false passed]
    exact proceeds_backtrack rests

theorem computes_character {node : Node} {accepts : Char → Bool}
    (found : world.program.node? id = some node)
    (steps : Matcher.stepNode id node .enter = Matcher.stepChar id accepts) :
    world.Computes id (Ways.character world.text accepts) := by
  refine computes_test found (fun matcher characters => ?_) fun start _ passed => ?_
  · rw [steps, ← characters, Bool.decide_eq_true]
    rfl
  · cases here : world.text[start]? with
    | none =>
      rw [here] at passed
      cases passed
    | some character => exact (Array.getElem?_eq_some_iff.mp here).1

theorem computes_anchor {place : Anchor} (found : world.program.node? id = some (.anchor place)) :
    world.Computes id (Ways.anchor world.text place) := by
  cases place with
  | start => exact computes_test found (fun _ _ => rfl) fun _ inside _ => inside
  | stop =>
    refine computes_test found (fun matcher characters => ?_) fun _ inside _ => inside
    rw [← characters]
    rfl

/-- A run of literal characters. -/
theorem computes_text {characters : List Char}
    (found : world.program.node? id = some (.text characters)) :
    world.Computes id (Ways.literal world.text characters) := by
  refine computes_test found (fun matcher same => ?_) fun start bounded passed => ?_
  · rw [← same, ← beq_eq_decide]
    rfl
  · have length := congrArg List.length passed
    rw [Array.length_toList, Array.size_extract] at length
    omega

/-! ### Sequences -/

theorem stepSequence_item {children : List NodeId} {signal : Signal}
    (here : children[signal]? = some child) :
    Matcher.stepSequence id children signal matcher = .ok () (matcher.enter child) := by
  unfold Matcher.stepSequence
  rw [here]
  rfl

theorem stepSequence_behind {children : List NodeId} {signal : Signal}
    (behind : children[signal]? = none) :
    Matcher.stepSequence id children signal matcher = .ok () (matcher.finish id) := by
  unfold Matcher.stepSequence
  rw [behind]
  rfl

/-- The children of a sequence from one of them on. -/
theorem answers_items (done : List NodeId) {children : List NodeId} {parts : List Ways}
    (found : world.program.node? id = some (.sequence (done ++ children)))
    (computes : List.Forall₂ world.Computes children parts)
    (linked : ∀ index child, (done ++ children)[index]? = some child →
      world.program.exit? child = some (id, .itemDone index))
    (rests : matcher.Rests world floor scene (some (id, done.length)) cursor) :
    world.Answers (world.Arrives id scene) floor (Ways.inOrder parts cursor) matcher := by
  induction computes generalizing done matcher floor scene cursor with
  | nil =>
    refine .single (.of_step rests found fun other rests => ?_)
    have behind : (done ++ [])[done.length]? = none := by
      rw [List.append_nil]
      exact List.getElem?_length done
    rw [Matcher.stepNode, stepSequence_behind behind]
    exact proceeds_finish rests.acts
  | @cons child first children parts computed _ inductionHypothesis =>
    have here : (done ++ child :: children)[done.length]? = some child := by
      rw [List.getElem?_append_right (Nat.le_refl _), Nat.sub_self]
      rfl
    have entering : world.Leads
        (fun reached => reached.Rests world floor scene (some (child, .enter)) cursor) matcher := by
      refine .of_step rests found fun other rests => ?_
      rw [Matcher.stepNode, stepSequence_item here]
      exact .forward (rests.acts.enter child) fun _ rests => .here rests
    refine .of_leads entering fun reached rests => ?_
    refine (computed floor scene cursor reached rests).bind fun way _ higher reached _ arrives => ?_
    obtain ⟨trees, made, rests⟩ := arrives
    rw [linked _ _ here] at rests
    have next : (done ++ [child]).length = Signal.itemDone done.length := List.length_append
    rw [← next] at rests
    rw [List.append_cons done child children] at found linked
    exact (inductionHypothesis (done ++ [child]) found linked rests).map
      fun _ _ _ _ _ arrives => .here (arrives_graft made arrives)

theorem computes_sequence {children : List NodeId} {parts : List Ways}
    (found : world.program.node? id = some (.sequence children))
    (computes : List.Forall₂ world.Computes children parts)
    (linked : ∀ index child, children[index]? = some child →
      world.program.exit? child = some (id, .itemDone index)) :
    world.Computes id (Ways.inOrder parts) :=
  fun _ _ _ _ rests => answers_items [] found computes linked rests

/-! ### Alternations -/

/-- Finishing a node when its child has finished. -/
theorem Answers.pass {child : NodeId} {node : Node} {ways : List Way}
    (answers : world.Answers (world.Arrives child scene) floor ways matcher)
    (found : world.program.node? id = some node) {signal : Signal}
    (linked : world.program.exit? child = some (id, signal))
    (passes : ∀ other, Matcher.stepNode id node signal other = .ok () (other.finish id)) :
    world.Answers (world.Arrives id scene) floor ways matcher := by
  refine answers.change fun way _ higher reached _ arrives => ?_
  obtain ⟨trees, made, rests⟩ := arrives
  rw [linked] at rests
  refine .of_step rests found fun other rests => ?_
  rw [passes]
  exact .forward (rests.acts.finish id) fun _ rests => .here ⟨trees, made, rests⟩

/-- The last branch is entered with no way back to the alternation. -/
theorem Leads.ofLastBranch {done : List NodeId} {child : NodeId} {signal : Signal}
    (found : world.program.node? id = some (.alternation (done ++ [child])))
    (tries : Matcher.stepAlternation id (done ++ [child]) signal =
      Matcher.tryBranch id (done ++ [child]) done.length)
    (rests : matcher.Rests world floor scene (some (id, signal)) cursor) :
    world.Leads (fun reached => reached.Rests world floor scene (some (child, .enter)) cursor)
      matcher := by
  have last : ¬ done.length + 1 < (done ++ [child]).length := by
    rw [List.length_append, List.length_singleton]
    exact Nat.lt_irrefl _
  refine .of_step rests found fun other rests => ?_
  rw [Matcher.stepNode, tries, Matcher.tryBranch, List.getElem?_concat_length]
  simp only [if_neg last]
  exact .forward (rests.acts.enter child) fun _ rests => .here rests

/-- A branch that others come after is entered with a way back to the next one. -/
theorem Leads.ofBranch {done later : List NodeId} {child next : NodeId} {signal : Signal}
    (found : world.program.node? id = some (.alternation (done ++ child :: next :: later)))
    (tries : Matcher.stepAlternation id (done ++ child :: next :: later) signal =
      Matcher.tryBranch id (done ++ child :: next :: later) done.length)
    (rests : matcher.Rests world floor scene (some (id, signal)) cursor) :
    world.Leads (fun reached => ∃ saved, floor.Saves scene saved ∧
      reached.Rests world
        { older := saved :: floor.older
          resume := some ⟨id, .tryBranch (done.length + 1), cursor⟩ } scene
        (some (child, .enter)) cursor) matcher := by
  have here : (done ++ child :: next :: later)[done.length]? = some child := by
    rw [List.getElem?_append_right (Nat.le_refl _), Nat.sub_self]
    rfl
  have more : done.length + 1 < (done ++ child :: next :: later).length := by
    rw [List.length_append, List.length_cons, List.length_cons]
    omega
  refine .of_step rests found fun other rests => ?_
  rw [Matcher.stepNode, tries, Matcher.tryBranch, here]
  simp only [if_pos more]
  obtain ⟨saved, saves, acts⟩ := rests.acts.leaveChoice id (.tryBranch (done.length + 1))
  exact .forward (acts.enter child) fun _ rests => .here ⟨saved, saves, rests⟩

/-- The branches of an alternation from one of them on. -/
theorem answers_branches (done : List NodeId) {children : List NodeId} {parts : List Ways}
    {signal : Signal} (found : world.program.node? id = some (.alternation (done ++ children)))
    (computes : List.Forall₂ world.Computes children parts)
    (linked : ∀ child ∈ done ++ children, world.program.exit? child = some (id, .childDone))
    (tries : Matcher.stepAlternation id (done ++ children) signal =
      Matcher.tryBranch id (done ++ children) done.length)
    (rests : matcher.Rests world floor scene (some (id, signal)) cursor) :
    world.Answers (world.Arrives id scene) floor (Ways.oneOf parts cursor) matcher := by
  induction computes generalizing done signal matcher with
  | nil =>
    refine Leads.of_step rests found fun other rests => ?_
    have behind : (done ++ [])[done.length]? = none := by
      rw [List.append_nil]
      exact List.getElem?_length done
    rw [Matcher.stepNode, tries, Matcher.tryBranch, behind]
    exact proceeds_backtrack rests
  | @cons child first children parts computed others inductionHypothesis =>
    have passing : ∀ {higher reached},
        reached.Rests world higher scene (some (child, .enter)) cursor →
        world.Answers (world.Arrives id scene) higher (first cursor) reached := fun rests =>
      (computed _ _ _ _ rests).pass found
        (linked child (List.mem_append_right _ List.mem_cons_self)) fun _ => rfl
    cases others with
    | nil =>
      simp only [Ways.oneOf, List.append_nil]
      exact .of_leads (.ofLastBranch found tries rests) fun _ => passing
    | @cons next second children parts computedNext others =>
      refine .of_leads (.ofBranch found tries rests) ?_
      rintro reached ⟨saved, saves, restsHigher⟩
      refine .append (List.suffix_cons saved floor.older) (passing restsHigher)
        fun failed fails => ?_
      have retrying : world.Leads (fun after => after.Rests world floor scene
          (some (id, .tryBranch (done.length + 1))) cursor) failed :=
        .of_fails fails saves rests.cursor_le fun _ rests => .here rests
      refine .of_leads retrying fun after rests => ?_
      have size : (done ++ [child]).length = done.length + 1 := List.length_append
      rw [List.append_cons done child (next :: children)] at found linked
      refine inductionHypothesis (done ++ [child]) found linked ?_ rests
      rw [size]
      rfl

theorem computes_alternation {children : List NodeId} {parts : List Ways}
    (found : world.program.node? id = some (.alternation children))
    (computes : List.Forall₂ world.Computes children parts)
    (linked : ∀ child ∈ children, world.program.exit? child = some (id, .childDone)) :
    world.Computes id (Ways.oneOf parts) :=
  fun _ _ _ _ rests => answers_branches [] found computes linked rfl rests

/-! ### Atomic groups -/

theorem onStore_of_ok {α : Type} {action : StoreM α} {value : α} {store : Store}
    (ran : action matcher.store = .ok value store) :
    Matcher.onStore action matcher = .ok value { matcher with store := store } := by
  unfold Matcher.onStore Action.onPart
  rw [ran]

theorem modifyGet_freeze {signal : Signal} {taken : Checkpoint} {after : Matcher}
    (freezing : matcher.freeze id signal = (taken, after)) :
    (modifyGet fun matcher => matcher.freeze id signal : MatcherM Checkpoint) matcher =
      .ok taken after := by
  have same : (modifyGet fun matcher => matcher.freeze id signal : MatcherM Checkpoint) matcher =
      .ok (matcher.freeze id signal).1 (matcher.freeze id signal).2 := rfl
  rw [same, freezing]

/-- What an operation of the store does to a run in the middle of a tick. -/
theorem acts_moves {α : Type} {action : StoreM α} {value : α} {store : Store} {changed : Scene}
    (acts : matcher.Acts world ticks floor scene control cursor)
    (ran : action matcher.store = .ok value store) (shows : store.Shows changed)
    (moves : matcher.store.Moves 0 store) :
    ∃ after, Matcher.onStore action matcher = .ok value after ∧
      after.Acts world ticks floor changed control cursor ∧
      (matcher.store.sweepRequested = false → after.store.sweepRequested = false) :=
  ⟨_, onStore_of_ok ran, acts.withStore (acts.poised.moves shows moves), moves.quiet rfl⟩

/-- Merging what was done since a scene was saved returns to the floor of that time. -/
theorem acts_collapse {higher : Floor} {saved : Generation} {before : Scene} {successor : Nat}
    (acts : matcher.Acts world ticks higher scene control cursor)
    (saves : floor.Saves before saved) (above : saved :: floor.older <:+ higher.older) :
    ∃ after, Matcher.onStore (Store.collapse
        { id := saved.id, depth := floor.older.length, successor := successor }) matcher =
        .ok () after ∧
      after.Acts world ticks floor scene control cursor ∧
      after.store.sweepRequested = matcher.store.sweepRequested := by
  obtain ⟨store, collapsing, poised, requested⟩ := acts.poised.collapse above successor
  rw [saves.resume] at poised
  exact ⟨_, onStore_of_ok collapsing, acts.withStore poised, requested⟩

/-- The child of an atomic group is entered after saving the scene. -/
theorem stepAtomic_enter {child : NodeId}
    (rests : matcher.Rests world floor scene control cursor) :
    ∃ saved successor after, floor.Saves scene saved ∧
      saved.over floor.older = matcher.store.chain.snapshot ∧
      Matcher.stepAtomic id child 0 matcher = .ok () after ∧
      after.Acts world matcher.ticks
        { older := saved :: floor.older, resume := some ⟨id, .childFailed, cursor⟩ }
        (scene.push (.atomic ⟨saved.id, floor.older.length, successor⟩))
        (some (child, .enter)) cursor := by
  obtain ⟨saved, successor, frozen, freezing, saves, seen, poised⟩ :=
    Matcher.freeze_of_poised rests.acts.poised rests.cursor id .childFailed
  obtain ⟨store, pushing, shows, moves⟩ :=
    poised.shows.openAtomic ⟨saved.id, floor.older.length, successor⟩
  obtain ⟨after, ran, acting, -⟩ := acts_moves (rests.acts.withStore poised) pushing shows moves
  refine ⟨saved, successor, _, saves, seen, ?_, acting.enter child⟩
  rw [Matcher.stepAtomic, Action.bind_of_ok (modifyGet_freeze freezing), Action.bind_of_ok ran]
  rfl

/-- When the child has matched, what it left behind is merged. -/
theorem stepAtomic_done {child : NodeId} {higher : Floor} {before : Scene} {saved : Generation}
    {successor : Nat} (saves : floor.Saves before saved)
    (above : saved :: floor.older <:+ higher.older)
    (rests : matcher.Rests world higher
      (scene.push (.atomic ⟨saved.id, floor.older.length, successor⟩)) control cursor) :
    ∃ after, Matcher.stepAtomic id child 1 matcher = .ok () after ∧
      after.Acts world matcher.ticks floor scene (world.program.exit? id) cursor := by
  have looked : matcher.store.lookup Matcher.atomicName =
      .ok (.checkpoint ⟨saved.id, floor.older.length, successor⟩) :=
    rests.poised.shows.lookup (Scene.lookup_frame _ (.atomic _))
  obtain ⟨store, removing, shows, moves⟩ := rests.poised.shows.closeAtomic
  obtain ⟨removed, ran, acts, -⟩ := acts_moves rests.acts removing shows moves
  obtain ⟨collapsed, collapsing, acting, -⟩ := acts_collapse acts saves above
  refine ⟨_, ?_, acting.finish id⟩
  rw [Matcher.stepAtomic,
    Action.bind_of_ok (rfl : (get : MatcherM Matcher) matcher = .ok matcher matcher), looked,
    Action.bind_of_ok (rfl : (Matcher.ofStore (.ok _) : MatcherM Value) matcher = .ok _ matcher)]
  simp only
  rw [Action.bind_of_ok ran, Action.bind_of_ok collapsing]
  rfl

/-- An atomic group keeps the first way of its child. -/
theorem computes_atomic {child : NodeId} {ways : Ways}
    (found : world.program.node? id = some (.atomic child))
    (computed : world.Computes child ways)
    (linked : world.program.exit? child = some (id, .childDone)) :
    world.Computes id fun start => (ways start).take 1 := by
  intro floor scene start matcher rests
  have entering : world.Leads (fun reached => ∃ saved successor, floor.Saves scene saved ∧
      reached.Rests world
        { older := saved :: floor.older, resume := some ⟨id, .childFailed, start⟩ }
        (scene.push (.atomic ⟨saved.id, floor.older.length, successor⟩))
        (some (child, .enter)) start) matcher := by
    refine .of_step rests found fun other rests => ?_
    obtain ⟨saved, successor, after, saves, -, stepped, acts⟩ := stepAtomic_enter rests
    change world.Proceeds _ _ (Matcher.stepAtomic id child 0 other)
    rw [stepped]
    exact .forward acts fun _ rests => .here ⟨saved, successor, saves, rests⟩
  refine .of_leads entering ?_
  rintro reached ⟨saved, successor, saves, restsHigher⟩
  have answers := computed _ _ _ _ restsHigher
  cases listed : ways start with
  | nil =>
    rw [listed] at answers
    simp only [listed, List.take_nil]
    refine Leads.trans answers fun failed fails => ?_
    refine .of_fails fails saves rests.cursor_le fun after rests => ?_
    exact .of_step rests found fun other rests => proceeds_backtrack rests
  | cons way others =>
    rw [listed] at answers
    simp only [listed, List.take_succ_cons, List.take_zero]
    refine .single (Leads.trans answers ?_)
    rintro arrived ⟨higher, above, ⟨trees, made, rests⟩, -⟩
    rw [linked, Scene.graft_push] at rests
    refine .of_step rests found fun other rests => ?_
    obtain ⟨after, stepped, acts⟩ := stepAtomic_done saves above rests
    change world.Proceeds _ _ (Matcher.stepAtomic id child 1 other)
    rw [stepped]
    exact .forward acts fun _ rests => .here ⟨trees, made, rests⟩

/-! ### Frames -/

/-- Reading a frame copies it at most, and changes nothing. -/
theorem acts_readFrame {frame : Frame} {place : Nat} {items : List Value} {name : String}
    (acts : matcher.Acts world ticks floor (scene.push frame) control cursor)
    (holds : frame.entries = {⟨place, .list items, 1⟩})
    (binds : frame.binding = (name, .ref place)) (blamed : NodeId) :
    ∃ after, Matcher.readFrame blamed name matcher = .ok (place, items) after ∧
      after.Acts world ticks floor (scene.push frame) control cursor ∧
      (matcher.store.sweepRequested = false → after.store.sweepRequested = false) := by
  have bound := Scene.lookup_frame scene frame
  rw [binds] at bound
  have looked : matcher.store.lookup name = .ok (.ref place) := acts.poised.shows.lookup bound
  have member : (⟨place, .list items, 1⟩ : Entry) ∈ (scene.push frame).entries := by
    rw [Scene.entries_push, holds]
    exact Multiset.mem_add.mpr (.inl (Multiset.mem_singleton_self _))
  obtain ⟨store, reading, stands, moves⟩ := acts.poised.shows.deref member
  obtain ⟨after, ran, acting, quiet⟩ := acts_moves acts reading stands moves
  refine ⟨after, ?_, acting, quiet⟩
  unfold Matcher.readFrame
  rw [Action.bind_of_ok (rfl : (get : MatcherM Matcher) matcher = .ok matcher matcher), looked,
    Action.bind_of_ok (rfl : (Matcher.ofStore (.ok _) : MatcherM Value) matcher = .ok _ matcher)]
  simp only [Value.reference?]
  rw [Action.bind_of_ok ran]
  rfl

/-- Storing a frame and binding it. -/
theorem acts_openFrame (matcher : Matcher) (items : List Value) {limit : Nat}
    (poised : matcher.store.Poised floor scene limit)
    (plain : ∀ item ∈ items, item.reference? = none) (name : String) (frame : Nat → Frame)
    (binds : ∀ position, (frame position).binding = (name, .ref position))
    (holds : ∀ position, (frame position).entries = {⟨position, .list items, 1⟩}) :
    ∃ place allocated store,
      Matcher.onStore (Store.alloc (.list items)) matcher =
        .ok place { matcher with store := allocated } ∧
      Matcher.onStore (Store.push name (.ref place)) { matcher with store := allocated } =
        .ok () { matcher with store := store } ∧
      store.Poised floor (scene.push (frame place)) (limit + 1) := by
  obtain ⟨place, allocated, store, allocating, pushing, shows, moves⟩ :=
    poised.shows.openFrame plain name frame binds holds
  exact ⟨place, allocated, store, onStore_of_ok allocating, onStore_of_ok pushing,
    poised.moves shows moves⟩

/-! ### Lookaheads -/

/-- The child of a lookahead is entered after saving the scene. -/
theorem stepLookahead_enter {child : NodeId} {negative : Bool}
    (rests : matcher.Rests world floor scene control cursor) :
    ∃ saved successor place after, floor.Saves scene saved ∧
      saved.over floor.older = matcher.store.chain.snapshot ∧
      Matcher.stepLookahead id child negative 0 matcher = .ok () after ∧
      after.Acts world matcher.ticks
        { older := saved :: floor.older, resume := some ⟨id, .childFailed, cursor⟩ }
        (scene.push (.lookahead place ⟨saved.id, floor.older.length, successor⟩ cursor))
        (some (child, .enter)) cursor := by
  obtain ⟨saved, successor, frozen, freezing, saves, seen, poised⟩ :=
    Matcher.freeze_of_poised rests.poised rests.cursor id .childFailed
  obtain ⟨place, allocated, store, allocating, pushing, poised⟩ :=
    acts_openFrame { matcher with store := frozen }
      [.checkpoint ⟨saved.id, floor.older.length, successor⟩, .cursor cursor] poised
      (by simp [Value.reference?]) Matcher.lookaheadName
      (fun place => .lookahead place ⟨saved.id, floor.older.length, successor⟩ cursor)
      (fun _ => rfl) (fun _ => rfl)
  refine ⟨saved, successor, place, _, saves, seen, ?_, (rests.acts.withStore poised).enter child⟩
  rw [Matcher.stepLookahead,
    Action.bind_of_ok (rfl : (get : MatcherM Matcher) matcher = .ok matcher matcher), rests.cursor,
    Action.bind_of_ok (modifyGet_freeze freezing), Action.bind_of_ok allocating,
    Action.bind_of_ok pushing]
  rfl

theorem leads_lookahead {child : NodeId} {negative : Bool}
    (found : world.program.node? id = some (.lookahead child negative))
    (rests : matcher.Rests world floor scene (some (id, .enter)) cursor) :
    world.Leads (fun reached => ∃ saved successor place, floor.Saves scene saved ∧
      reached.Rests world
        { older := saved :: floor.older, resume := some ⟨id, .childFailed, cursor⟩ }
        (scene.push (.lookahead place ⟨saved.id, floor.older.length, successor⟩ cursor))
        (some (child, .enter)) cursor) matcher := by
  refine .of_step rests found fun other rests => ?_
  obtain ⟨saved, successor, place, after, saves, -, stepped, acts⟩ := stepLookahead_enter rests
  change world.Proceeds _ _ (Matcher.stepLookahead id child negative 0 other)
  rw [stepped]
  exact .forward acts fun _ rests => .here ⟨saved, successor, place, saves, rests⟩

/-- When the child has matched, what it left behind is merged. -/
theorem stepLookahead_done {child : NodeId} {negative : Bool} {higher : Floor} {before : Scene}
    {saved : Generation} {successor place start : Nat} (saves : floor.Saves before saved)
    (above : saved :: floor.older <:+ higher.older)
    (rests : matcher.Rests world higher
      (scene.push (.lookahead place ⟨saved.id, floor.older.length, successor⟩ start))
      control cursor) :
    ∃ after : Matcher, Matcher.stepLookahead id child negative 1 matcher =
        .ok () (if negative then after.backtrack else (after.moveTo start).finish id) ∧
      after.Acts world matcher.ticks floor scene control cursor ∧
      after.store.sweepRequested = false := by
  obtain ⟨read, reading, acts, quietRead⟩ := acts_readFrame rests.acts rfl rfl id
  obtain ⟨store, removing, shows, moves⟩ :=
    acts.poised.shows.closeFrame rfl rfl (by simp [Value.reference?])
  obtain ⟨removed, ran, actsRemoved, quietRemoved⟩ := acts_moves acts removing shows moves
  obtain ⟨after, collapsing, actsAfter, requested⟩ := acts_collapse actsRemoved saves above
  refine ⟨after, ?_, actsAfter, requested.trans (quietRemoved (quietRead rests.quiet))⟩
  rw [Matcher.stepLookahead, Action.bind_of_ok reading]
  simp only
  rw [Action.bind_of_ok ran, Action.bind_of_ok collapsing]
  rfl

/-- A lookahead keeps the captures of the first way, and the cursor stays. -/
theorem computes_ahead {child : NodeId} {ways : Ways}
    (found : world.program.node? id = some (.lookahead child false))
    (computed : world.Computes child ways)
    (linked : world.program.exit? child = some (id, .childDone)) :
    world.Computes id fun start =>
      ((ways start).take 1).map fun way => { way with stop := start } := by
  intro floor scene start matcher rests
  refine .of_leads (leads_lookahead found rests) ?_
  rintro reached ⟨saved, successor, place, saves, restsHigher⟩
  have answers := computed _ _ _ _ restsHigher
  cases listed : ways start with
  | nil =>
    rw [listed] at answers
    simp only [listed, List.take_nil, List.map_nil]
    refine Leads.trans answers fun failed fails => ?_
    refine .of_fails fails saves rests.cursor_le fun after rests => ?_
    exact .of_step rests found fun other rests => proceeds_backtrack rests
  | cons way others =>
    rw [listed] at answers
    simp only [listed, List.take_succ_cons, List.take_zero, List.map_cons, List.map_nil]
    refine .single (Leads.trans answers ?_)
    rintro arrived ⟨higher, above, ⟨trees, made, restsDone⟩, -⟩
    rw [linked, Scene.graft_push] at restsDone
    refine .of_step restsDone found fun other restsDone => ?_
    obtain ⟨after, stepped, acts, -⟩ := stepLookahead_done saves above restsDone
    change world.Proceeds _ _ (Matcher.stepLookahead id child false 1 other)
    rw [stepped]
    exact .forward ((acts.moveTo rests.cursor_le).finish id) fun _ rests =>
      .here ⟨trees, made, rests⟩

/-- A negative lookahead fails if its child matches, and passes without captures if it does not. -/
theorem computes_notAhead {child : NodeId} {ways : Ways}
    (found : world.program.node? id = some (.lookahead child true))
    (computed : world.Computes child ways)
    (linked : world.program.exit? child = some (id, .childDone)) :
    world.Computes id fun start => if (ways start).isEmpty then [.bare start] else [] := by
  intro floor scene start matcher rests
  refine .of_leads (leads_lookahead found rests) ?_
  rintro reached ⟨saved, successor, place, saves, restsHigher⟩
  have answers := computed _ _ _ _ restsHigher
  cases listed : ways start with
  | nil =>
    rw [listed] at answers
    simp only [listed, List.isEmpty_nil, if_true]
    refine .single (Leads.trans answers fun failed fails => ?_)
    refine .of_fails fails saves rests.cursor_le fun after rests => ?_
    exact .of_step rests found fun other rests => proceeds_finish rests.acts
  | cons way others =>
    rw [listed] at answers
    simp only [listed, List.isEmpty_cons, Bool.false_eq_true, if_false]
    refine Leads.trans answers ?_
    rintro arrived ⟨higher, above, ⟨trees, made, restsDone⟩, -⟩
    rw [linked, Scene.graft_push] at restsDone
    refine .of_step restsDone found fun other restsDone => ?_
    obtain ⟨after, stepped, acts, quiet⟩ := stepLookahead_done saves above restsDone
    change world.Proceeds _ _ (Matcher.stepLookahead id child true 1 other)
    rw [stepped]
    exact .backward acts quiet fun _ fails => .here fails

/-! ### Captures -/

theorem openCapture_eq (shows : matcher.store.Shows scene) (id : NodeId) :
    Matcher.openCapture id matcher = .ok scene.inner.position matcher := by
  have looked : matcher.store.lookup Matcher.openName = .ok (.ref scene.inner.position) :=
    shows.lookup scene.lookup_openName
  unfold Matcher.openCapture
  rw [Action.bind_of_ok (rfl : (get : MatcherM Matcher) matcher = .ok matcher matcher), looked]
  rfl

theorem updateCapture_of_ok {place : Nat} {edit : Capture → Capture} {store : Store}
    (ran : Store.update place (Matcher.editCapture edit) matcher.store = .ok true store)
    (id : NodeId) (confusion : Confusion) :
    Matcher.updateCapture id place confusion edit matcher =
      .ok () { matcher with store := store } := by
  unfold Matcher.updateCapture
  rw [Action.bind_of_ok (onStore_of_ok ran)]
  rfl

theorem stepCapture_enter {name : String} {child : NodeId}
    (rests : matcher.Rests world floor scene control cursor) :
    ∃ place after, Matcher.stepCapture id name child 0 matcher = .ok () after ∧
      after.Acts world matcher.ticks floor
        (scene.nest { position := place, name := name, start := cursor })
        (some (child, .enter)) cursor := by
  obtain ⟨place, allocated, listed, store, allocating, listing, pushing, shows, moves⟩ :=
    rests.poised.shows.openCapture name cursor
  have poised := rests.poised.moves shows moves
  -- The stores are named here; to find them, unification would have to run the update.
  have updated (confusion : Confusion) : Matcher.updateCapture id scene.inner.position confusion _
      { matcher with store := allocated } = .ok () { matcher with store := listed } :=
    updateCapture_of_ok listing id confusion
  refine ⟨place, _, ?_, (rests.acts.withStore poised).enter child⟩
  rw [Matcher.stepCapture, Action.bind_of_ok (openCapture_eq rests.poised.shows id),
    Action.bind_of_ok (rfl : (get : MatcherM Matcher) matcher = .ok matcher matcher), rests.cursor,
    Action.bind_of_ok (onStore_of_ok allocating), Action.bind_of_ok (updated _),
    Action.bind_of_ok (onStore_of_ok pushing)]
  rfl

theorem stepCapture_done {name : String} {child : NodeId} {opened : Opened}
    (rests : matcher.Rests world floor (scene.nest opened) control cursor)
    (fresh : opened.frames = []) :
    ∃ after, Matcher.stepCapture id name child 1 matcher = .ok () after ∧
      after.Acts world matcher.ticks floor
        (scene.graft [.mk opened.position opened.name opened.start cursor opened.closed])
        (world.program.exit? id) cursor := by
  obtain ⟨stopped, store, stopping, removing, shows, moves⟩ :=
    rests.poised.shows.closeCapture fresh cursor
  have poised := rests.acts.poised.moves shows moves
  have innermost : Matcher.openCapture id matcher = .ok opened.position matcher :=
    openCapture_eq rests.poised.shows id
  refine ⟨_, ?_, (rests.acts.withStore poised).finish id⟩
  rw [Matcher.stepCapture, Action.bind_of_ok innermost,
    Action.bind_of_ok (rfl : (get : MatcherM Matcher) matcher = .ok matcher matcher), rests.cursor,
    Action.bind_of_ok (updateCapture_of_ok stopping id _),
    Action.bind_of_ok (onStore_of_ok removing)]
  rfl

/-- A capture records what its child matched, with the captures inside. -/
theorem computes_capture {name : String} {child : NodeId} {ways : Ways}
    (found : world.program.node? id = some (.capture name child))
    (computed : world.Computes child ways)
    (linked : world.program.exit? child = some (id, .childDone)) :
    world.Computes id fun start => (ways start).map fun way =>
      { stop := way.stop, captures := [Ways.captured world.text name start way] } := by
  intro floor scene start matcher rests
  have entering : world.Leads (fun reached => ∃ place, reached.Rests world floor
      (scene.nest { position := place, name := name, start := start })
      (some (child, .enter)) start) matcher := by
    refine .of_step rests found fun other rests => ?_
    obtain ⟨place, after, stepped, acts⟩ := stepCapture_enter rests
    change world.Proceeds _ _ (Matcher.stepCapture id name child 0 other)
    rw [stepped]
    exact .forward acts fun _ rests => .here ⟨place, rests⟩
  refine .of_leads entering ?_
  rintro reached ⟨place, rests⟩
  refine (computed _ _ _ _ rests).map fun way _ higher arrived _ arrives => ?_
  obtain ⟨trees, made, rests⟩ := arrives
  rw [linked, Scene.graft_nest] at rests
  refine .of_step rests found fun other rests => ?_
  obtain ⟨after, stepped, acts⟩ := stepCapture_done rests rfl
  change world.Proceeds _ _ (Matcher.stepCapture id name child 1 other)
  rw [stepped]
  refine .forward acts fun _ rests => .here ⟨_, ?_, rests⟩
  change [Located.tree world.text (.mk place name start way.stop trees)] = _
  rw [Located.tree, made]
  rfl

end World

end Rewind
