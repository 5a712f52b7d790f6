/-
This file says what runs lead to. Between two ticks a run either rests at a node, with a scene on a
floor, or it has failed and the floor is all that is left. A tick from a node follows from the step
of the node alone; a tick after a failure brings back the scene that the floor has saved. Whatever
holds does not depend on the pauses in between.
-/

import Mathlib
import Rewind.Proofs.Matcher.Floor

namespace Rewind

/-- What does not change during a run: the program, the text, and whether a repetition may have to
be iterated more often than can be counted. -/
structure World where
  program : Program
  text : Array Char
  loose : Prop

/-- The ways a run may break off: a repetition was iterated too often, or the heap has grown beyond
all bounds, which takes as many ticks. -/
inductive World.Excuses (world : World) (ticks : Nat) : Abort → Prop
  | iterations (loose : world.loose) : Excuses world ticks (.defect .iterationOverflow)
  | threshold (many : 0x10000000000000000 ≤ ticks + 4) :
    Excuses world ticks (.defect .thresholdOverflow)

/-- Where control goes when a node finishes. -/
def Program.exit? (program : Program) (id : NodeId) : Option (NodeId × Signal) :=
  (program.link? id).map fun link => (link.parent, link.signal)

namespace Matcher

/-- The node to run next with its signal. -/
def control (matcher : Matcher) : Option (NodeId × Signal) :=
  matcher.node.map fun node => (node, matcher.signal)

/-- In the middle of a forward tick. -/
structure Acts (world : World) (ticks : Nat) (floor : Floor) (scene : Scene)
    (control : Option (NodeId × Signal)) (cursor : Nat) (matcher : Matcher) : Prop where
  program : matcher.program = world.program
  characters : matcher.subject.characters = world.text
  cursor : matcher.subject.cursor = cursor
  control : matcher.control = control
  forward : matcher.direction = .forward
  counted : matcher.ticks = ticks
  poised : matcher.store.Poised floor scene (ticks + 3)

/-- Between two ticks, going forward. -/
structure Rests (world : World) (floor : Floor) (scene : Scene)
    (control : Option (NodeId × Signal)) (cursor : Nat) (matcher : Matcher) : Prop where
  program : matcher.program = world.program
  characters : matcher.subject.characters = world.text
  cursor : matcher.subject.cursor = cursor
  control : matcher.control = control
  forward : matcher.direction = .forward
  poised : matcher.store.Poised floor scene (matcher.ticks + 2)
  quiet : matcher.store.sweepRequested = false

/-- Between two ticks, about to fall back on a floor. -/
structure Fails (world : World) (floor : Floor) (matcher : Matcher) : Prop where
  program : matcher.program = world.program
  characters : matcher.subject.characters = world.text
  backward : matcher.direction = .backward
  older : matcher.store.chain.older = floor.older
  resume : matcher.store.chain.tail.resume = floor.resume
  wiped : matcher.store.chain.pools.Wiped
  idle : matcher.store.sweeping = false
  quiet : matcher.store.sweepRequested = false
  bounded : ∀ generation ∈ floor.older, generation.counters.heapSize ≤ matcher.ticks + 2

/-- A pause changes nothing but notes and the status. -/
structure Alike (before after : Matcher) : Prop where
  program : after.program = before.program
  subject : after.subject = before.subject
  node : after.node = before.node
  signal : after.signal = before.signal
  direction : after.direction = before.direction
  ticks : after.ticks = before.ticks
  chain : after.store.chain = before.store.chain
  sweeping : after.store.sweeping = before.store.sweeping
  requested : after.store.sweepRequested = before.store.sweepRequested

variable {world : World} {floor : Floor} {scene : Scene} {control : Option (NodeId × Signal)}
  {cursor : Nat} {matcher other : Matcher}

theorem Alike.refl (matcher : Matcher) : matcher.Alike matcher :=
  ⟨rfl, rfl, rfl, rfl, rfl, rfl, rfl, rfl, rfl⟩

theorem Alike.trans {third : Matcher} (left : matcher.Alike other) (right : other.Alike third) :
    matcher.Alike third :=
  ⟨right.program.trans left.program, right.subject.trans left.subject,
    right.node.trans left.node, right.signal.trans left.signal,
    right.direction.trans left.direction, right.ticks.trans left.ticks,
    right.chain.trans left.chain, right.sweeping.trans left.sweeping,
    right.requested.trans left.requested⟩

theorem Alike.control_eq (alike : matcher.Alike other) : other.control = matcher.control := by
  unfold Matcher.control
  rw [alike.node, alike.signal]

theorem Acts.alike (acts : matcher.Acts world matcher.ticks floor scene control cursor)
    (alike : matcher.Alike other) : other.Acts world other.ticks floor scene control cursor where
  program := alike.program.trans acts.program
  characters := (congrArg Subject.characters alike.subject).trans acts.characters
  cursor := (congrArg Subject.cursor alike.subject).trans acts.cursor
  control := alike.control_eq.trans acts.control
  forward := alike.direction.trans acts.forward
  counted := rfl
  poised := by
    rw [alike.ticks]
    exact acts.poised.alike alike.chain alike.sweeping alike.requested

theorem Rests.alike (rests : matcher.Rests world floor scene control cursor)
    (alike : matcher.Alike other) : other.Rests world floor scene control cursor where
  program := alike.program.trans rests.program
  characters := (congrArg Subject.characters alike.subject).trans rests.characters
  cursor := (congrArg Subject.cursor alike.subject).trans rests.cursor
  control := alike.control_eq.trans rests.control
  forward := alike.direction.trans rests.forward
  poised := by
    rw [alike.ticks]
    exact rests.poised.alike alike.chain alike.sweeping alike.requested
  quiet := alike.requested.trans rests.quiet

theorem Fails.alike (fails : matcher.Fails world floor) (alike : matcher.Alike other) :
    other.Fails world floor := by
  obtain ⟨program, subject, -, -, direction, ticks, chain, sweeping, requested⟩ := alike
  refine ⟨program.trans fails.program, ?_, direction.trans fails.backward, ?_, ?_, ?_,
    sweeping.trans fails.idle, requested.trans fails.quiet, ?_⟩
  · rw [subject]
    exact fails.characters
  · rw [chain]
    exact fails.older
  · rw [chain]
    exact fails.resume
  · rw [chain]
    exact fails.wiped
  · rw [ticks]
    exact fails.bounded

/-! ### Moves -/

theorem Rests.acts (rests : matcher.Rests world floor scene control cursor) :
    matcher.Acts world matcher.ticks floor scene control cursor :=
  ⟨rests.program, rests.characters, rests.cursor, rests.control, rests.forward, rfl,
    rests.poised.mono (Nat.le_succ _)⟩

variable {ticks : Nat}

/-- A change of the store. -/
theorem Acts.withStore (acts : matcher.Acts world ticks floor scene control cursor) {store : Store}
    {floor' : Floor} {scene' : Scene} (poised : store.Poised floor' scene' (ticks + 3)) :
    { matcher with store := store }.Acts world ticks floor' scene' control cursor :=
  ⟨acts.program, acts.characters, acts.cursor, acts.control, acts.forward, acts.counted, poised⟩

theorem Acts.enter (acts : matcher.Acts world ticks floor scene control cursor) (id : NodeId) :
    (matcher.enter id).Acts world ticks floor scene (some (id, .enter)) cursor :=
  ⟨acts.program, acts.characters, acts.cursor, rfl, acts.forward, acts.counted, acts.poised⟩

theorem Acts.finish (acts : matcher.Acts world ticks floor scene control cursor) (id : NodeId) :
    (matcher.finish id).Acts world ticks floor scene (world.program.exit? id) cursor := by
  unfold Matcher.finish Program.exit?
  rw [← acts.program]
  cases matcher.program.link? id with
  | none =>
    exact ⟨acts.program, acts.characters, acts.cursor, rfl, acts.forward, acts.counted, acts.poised⟩
  | some link =>
    exact ⟨acts.program, acts.characters, acts.cursor, rfl, acts.forward, acts.counted, acts.poised⟩

theorem store_finish (matcher : Matcher) (node : NodeId) :
    (matcher.finish node).store = matcher.store := by
  unfold Matcher.finish
  split <;> rfl

theorem Acts.moveTo (acts : matcher.Acts world ticks floor scene control cursor) {target : Nat}
    (inside : target ≤ world.text.size) :
    (matcher.moveTo target).Acts world ticks floor scene control target := by
  refine ⟨acts.program, acts.characters, ?_, acts.control, acts.forward, acts.counted, acts.poised⟩
  change min target matcher.subject.characters.size = target
  rw [acts.characters]
  exact Nat.min_eq_left inside

/-- Freezing saves the scene for when the run comes back. -/
theorem freeze_of_poised {limit : Nat} (poised : matcher.store.Poised floor scene limit)
    (place : matcher.subject.cursor = cursor) (id : NodeId) (signal : Signal) :
    ∃ saved successor store, matcher.freeze id signal =
        ({ id := saved.id, depth := floor.older.length, successor := successor },
          { matcher with store := store }) ∧
      floor.Saves scene saved ∧ saved.over floor.older = matcher.store.chain.snapshot ∧
      store.Poised
        { older := saved :: floor.older
          resume := some { node := id, signal := signal, cursor := cursor } } scene limit := by
  obtain ⟨saved, store, freezing, saves, seen, poised, -⟩ := poised.freeze
    { node := id, signal := signal, cursor := cursor }
  refine ⟨saved, matcher.store.nextId, store, ?_, saves, seen, poised⟩
  unfold Matcher.freeze
  rw [place]
  simp only [freezing]

theorem Acts.leaveChoice (acts : matcher.Acts world ticks floor scene control cursor) (id : NodeId)
    (signal : Signal) :
    ∃ saved, floor.Saves scene saved ∧
      (matcher.leaveChoice id signal).Acts world ticks
        { older := saved :: floor.older
          resume := some { node := id, signal := signal, cursor := cursor } } scene
            control cursor := by
  obtain ⟨saved, successor, store, freezing, saves, -, poised⟩ :=
    freeze_of_poised acts.poised acts.cursor id signal
  refine ⟨saved, saves, ?_⟩
  unfold Matcher.leaveChoice
  rw [freezing]
  exact acts.withStore poised

theorem Acts.cursor_le (acts : matcher.Acts world ticks floor scene control cursor) :
    cursor ≤ world.text.size := by
  rw [← acts.cursor, ← acts.characters]
  exact matcher.subject.cursor_le

theorem Rests.cursor_le (rests : matcher.Rests world floor scene control cursor) :
    cursor ≤ world.text.size := rests.acts.cursor_le

/-! ### Ticks -/

theorem countTick_alike (matcher : Matcher) :
    { matcher with ticks := matcher.ticks + 1 }.Alike matcher.countTick := by
  simp only [countTick]
  split
  · exact ⟨rfl, rfl, rfl, rfl, rfl, rfl, rfl, rfl, rfl⟩
  · exact .refl _

theorem tick_of_step (forward : matcher.direction = .forward)
    {id : NodeId} {signal : Signal} {node : Node}
    (control : matcher.control = some (id, signal)) (found : matcher.program.node? id = some node) :
    tick matcher = (do
      stepNode id node signal
      (do
        let stepped ← get
        if stepped.direction = .forward then
          let (_, collector) ← onStore stepped.collector.poll
          modify fun matcher => { matcher with collector := collector })
      modify countTick
      return true : MatcherM Bool) matcher := by
  obtain ⟨isNode, isSignal⟩ : matcher.node = some id ∧ matcher.signal = signal := by
    unfold Matcher.control at control
    obtain ⟨_, isNode, same⟩ := Option.map_eq_some_iff.mp control
    cases same
    exact ⟨isNode, rfl⟩
  unfold tick
  rw [Action.bind_of_ok (rfl : (get : MatcherM Matcher) matcher = .ok matcher matcher)]
  simp only [forward]
  unfold stepForward
  rw [bind_assoc, Action.bind_of_ok (rfl : (get : MatcherM Matcher) matcher = .ok matcher matcher)]
  simp only [isNode, isSignal, found]
  rw [bind_assoc]

/-- A tick forward is one of a node. -/
theorem node_of_tick (forward : matcher.direction = .forward) {goesOn : Bool}
    (ticked : tick matcher = .ok goesOn other) :
    ∃ id signal node, matcher.control = some (id, signal) ∧
      matcher.program.node? id = some node := by
  unfold tick at ticked
  rw [Action.bind_of_ok (rfl : (get : MatcherM Matcher) matcher = .ok matcher matcher)] at ticked
  simp only [forward] at ticked
  obtain ⟨_, _, stepping, -⟩ := Action.bind_eq_ok_iff.mp ticked
  unfold stepForward at stepping
  rw [Action.bind_of_ok (rfl : (get : MatcherM Matcher) matcher = .ok matcher matcher)] at stepping
  cases isNode : matcher.node with
  | none =>
    simp only [isNode] at stepping
    cases stepping
  | some id =>
    cases found : matcher.program.node? id with
    | none =>
      simp only [isNode, found] at stepping
      cases stepping
    | some node =>
      refine ⟨id, matcher.signal, node, ?_, found⟩
      unfold Matcher.control
      rw [isNode]
      rfl

/-- A tick that goes on forward. If nothing is asked of the collector, it does nothing. -/
theorem tick_of_acts_quiet {id : NodeId} {signal : Signal} {node : Node} {reached : Matcher}
    (begins : matcher.Acts world matcher.ticks floor scene (some (id, signal)) cursor)
    (found : world.program.node? id = some node)
    (ran : stepNode id node signal matcher = .ok () reached) {floor' : Floor} {scene' : Scene}
    {control' : Option (NodeId × Signal)} {cursor' : Nat}
    (acts : reached.Acts world matcher.ticks floor' scene' control' cursor') :
    (∃ after, tick matcher = .ok true after ∧
        after.Rests world floor' scene' control' cursor' ∧
        (reached.store.sweepRequested = false → after.store.chain = reached.store.chain)) ∨
      ∃ error after, tick matcher = .error error after ∧ world.Excuses after.ticks error := by
  rw [tick_of_step begins.forward begins.control (begins.program ▸ found), Action.bind_of_ok ran,
    bind_assoc, Action.bind_of_ok (rfl : (get : MatcherM Matcher) reached = .ok reached reached)]
  simp only [acts.forward, if_true, bind_assoc]
  obtain ⟨⟨report, collector⟩, store, polling, poised, quiet⟩ | ⟨store, failed, tooLarge⟩ :=
    acts.poised.poll reached.collector
  · left
    have polled : onStore reached.collector.poll reached =
        .ok (report, collector) { reached with store := store } := by
      unfold onStore Action.onPart
      rw [polling]
    have alike := countTick_alike { reached with store := store, collector := collector }
    have unchanged : reached.store.sweepRequested = false →
        store.chain = reached.store.chain := by
      intro unasked
      obtain ⟨-, same⟩ | ⟨asked, -⟩ := reached.collector.poll_cases reached.store
      · rw [polling] at same
        cases same
        rfl
      · rw [unasked] at asked
        cases asked
    rw [Action.bind_of_ok polled]
    refine ⟨_, rfl, Rests.alike ?_ alike, fun unasked => alike.chain.trans (unchanged unasked)⟩
    refine ⟨acts.program, acts.characters, acts.cursor, acts.control, acts.forward, ?_, quiet⟩
    change store.Poised floor' scene' (reached.ticks + 3)
    rw [acts.counted]
    exact poised
  · right
    have polled : onStore reached.collector.poll reached =
        .error (.defect .thresholdOverflow) { reached with store := store } := by
      unfold onStore Action.onPart
      rw [failed]
      rfl
    rw [Action.bind_of_error polled]
    refine ⟨_, _, rfl, .threshold ?_⟩
    change _ ≤ reached.ticks + 4
    rw [acts.counted]
    exact tooLarge

theorem tick_of_acts {id : NodeId} {signal : Signal} {node : Node} {reached : Matcher}
    (begins : matcher.Acts world matcher.ticks floor scene (some (id, signal)) cursor)
    (found : world.program.node? id = some node)
    (ran : stepNode id node signal matcher = .ok () reached) {floor' : Floor} {scene' : Scene}
    {control' : Option (NodeId × Signal)} {cursor' : Nat}
    (acts : reached.Acts world matcher.ticks floor' scene' control' cursor') :
    (∃ after, tick matcher = .ok true after ∧
        after.Rests world floor' scene' control' cursor') ∨
      ∃ error after, tick matcher = .error error after ∧ world.Excuses after.ticks error := by
  refine (tick_of_acts_quiet begins found ran acts).imp_left ?_
  rintro ⟨after, ticked, rests, -⟩
  exact ⟨after, ticked, rests⟩

/-- A tick that gives up. What the store shows then will be forgotten. -/
theorem tick_of_backtrack_shows {id : NodeId} {signal : Signal} {node : Node} {reached : Matcher}
    (begins : matcher.Acts world matcher.ticks floor scene (some (id, signal)) cursor)
    (found : world.program.node? id = some node)
    (ran : stepNode id node signal matcher = .ok () reached.backtrack) {floor' : Floor}
    {scene' : Scene} {control' : Option (NodeId × Signal)} {cursor' : Nat}
    (acts : reached.Acts world matcher.ticks floor' scene' control' cursor')
    (quiet : reached.store.sweepRequested = false) :
    ∃ after, tick matcher = .ok true after ∧ after.Fails world floor' ∧
      after.store.Shows scene' := by
  have alike := countTick_alike reached.backtrack
  rw [tick_of_step begins.forward begins.control (begins.program ▸ found), Action.bind_of_ok ran,
    bind_assoc, Action.bind_of_ok
      (rfl : (get : MatcherM Matcher) reached.backtrack = .ok reached.backtrack reached.backtrack)]
  refine ⟨_, rfl, Fails.alike ?_ alike,
    (acts.poised.alike alike.chain alike.sweeping alike.requested).shows⟩
  refine ⟨acts.program, acts.characters, rfl, acts.poised.older, acts.poised.resume,
    acts.poised.shows.chain.wiped, acts.poised.shows.idle, quiet, fun generation member => ?_⟩
  rw [← acts.poised.older] at member
  have bounded := acts.poised.bounded generation (List.mem_cons_of_mem _ member)
  change _ ≤ reached.ticks + 3
  rw [acts.counted]
  exact bounded

theorem tick_of_backtrack {id : NodeId} {signal : Signal} {node : Node} {reached : Matcher}
    (begins : matcher.Acts world matcher.ticks floor scene (some (id, signal)) cursor)
    (found : world.program.node? id = some node)
    (ran : stepNode id node signal matcher = .ok () reached.backtrack) {floor' : Floor}
    {scene' : Scene} {control' : Option (NodeId × Signal)} {cursor' : Nat}
    (acts : reached.Acts world matcher.ticks floor' scene' control' cursor')
    (quiet : reached.store.sweepRequested = false) :
    ∃ after, tick matcher = .ok true after ∧ after.Fails world floor' := by
  obtain ⟨after, ticked, fails, -⟩ := tick_of_backtrack_shows begins found ran acts quiet
  exact ⟨after, ticked, fails⟩

/-- A tick after a failure goes on where the floor says. -/
theorem tick_of_fails {saved : Generation} {point : ResumePoint}
    (fails : matcher.Fails world { older := saved :: floor.older, resume := some point })
    (saves : floor.Saves scene saved) (inside : point.cursor ≤ world.text.size) :
    ∃ after, tick matcher = .ok true after ∧
      after.Rests world floor scene (some (point.node, point.signal)) point.cursor := by
  obtain ⟨store, rolled, poised, quiet⟩ := Store.rollback_of_saves saves fails.older fails.wiped
    fails.idle fails.quiet fails.bounded
  rw [fails.resume] at rolled
  have stepped : stepBackward matcher =
      .ok true ({ matcher with store := store }.resumeAt point) := by
    unfold stepBackward
    rw [Action.bind_of_ok (rfl : (get : MatcherM Matcher) matcher = .ok matcher matcher), rolled]
    rfl
  unfold tick
  rw [Action.bind_of_ok (rfl : (get : MatcherM Matcher) matcher = .ok matcher matcher)]
  simp only [fails.backward]
  rw [Action.bind_of_ok stepped]
  refine ⟨_, rfl, Rests.alike ?_ (countTick_alike _)⟩
  refine ⟨fails.program, fails.characters, ?_, rfl, rfl, poised.mono (Nat.le_succ _), quiet⟩
  change min point.cursor matcher.subject.characters.size = point.cursor
  rw [fails.characters]
  exact Nat.min_eq_left inside

/-- Without a generation to fall back on the run is over. -/
theorem tick_of_alone (backward : matcher.direction = .backward)
    (alone : matcher.store.chain.older = []) :
    ∃ after, tick matcher = .ok false after ∧ matcher.Alike after := by
  have rolled : matcher.store.rollback = (none, matcher.store.note .exhausted) := by
    unfold Store.rollback
    rw [alone]
  obtain ⟨after, stepped, alike⟩ : ∃ after, stepBackward matcher = .ok false after ∧
      matcher.Alike after := by
    refine ⟨{ matcher with store := matcher.store.note .exhausted }, ?_,
      ⟨rfl, rfl, rfl, rfl, rfl, rfl, rfl, rfl, rfl⟩⟩
    unfold stepBackward
    rw [Action.bind_of_ok (rfl : (get : MatcherM Matcher) matcher = .ok matcher matcher), rolled]
    rfl
  refine ⟨after, ?_, alike⟩
  unfold tick
  rw [Action.bind_of_ok (rfl : (get : MatcherM Matcher) matcher = .ok matcher matcher)]
  simp only [backward]
  rw [Action.bind_of_ok stepped]
  rfl

theorem tick_of_exhausted (fails : matcher.Fails world floor) (alone : floor.older = []) :
    ∃ after, tick matcher = .ok false after := by
  obtain ⟨after, ticked, -⟩ := tick_of_alone fails.backward (fails.older.trans alone)
  exact ⟨after, ticked⟩

/-- Going back discards the newest generation, as long as there is another one. -/
theorem chain_of_tick (backward : matcher.direction = .backward) {goesOn : Bool}
    (ticked : tick matcher = .ok goesOn other) :
    other.store.chain = matcher.store.chain.discardTail := by
  unfold tick at ticked
  rw [Action.bind_of_ok (rfl : (get : MatcherM Matcher) matcher = .ok matcher matcher)] at ticked
  simp only [backward] at ticked
  obtain ⟨rolledBack, reached, stepping, counting⟩ := Action.bind_eq_ok_iff.mp ticked
  have kept : reached.store.chain = matcher.store.rollback.2.chain := by
    unfold stepBackward at stepping
    rw [Action.bind_of_ok (rfl : (get : MatcherM Matcher) matcher = .ok matcher matcher)]
      at stepping
    cases resume : matcher.store.rollback.1 with
    | none =>
      simp only [resume] at stepping
      cases stepping
      rfl
    | some point =>
      simp only [resume] at stepping
      cases stepping
      rfl
  rw [← matcher.store.rollback_chain, ← kept]
  cases rolledBack with
  | false =>
    cases counting
    rfl
  | true =>
    cases counting
    exact (countTick_alike reached).chain

/-- Without another generation nothing changes. -/
theorem older_of_tick (backward : matcher.direction = .backward) {goesOn : Bool}
    (ticked : tick matcher = .ok goesOn other) :
    matcher.Alike other ∨
      ∃ tail, matcher.store.chain.older = tail :: other.store.chain.older := by
  cases lower : matcher.store.chain.older with
  | nil =>
    obtain ⟨after, exhausted, alike⟩ := tick_of_alone backward lower
    rw [exhausted] at ticked
    cases ticked
    exact .inl alike
  | cons tail older =>
    refine .inr ⟨tail, ?_⟩
    rw [chain_of_tick backward ticked, Chain.discardTail, lower]

end Matcher

end Rewind
