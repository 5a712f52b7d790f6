/-
This file follows the outermost node of a program. It marks where the match starts, runs the
pattern, and marks where the match stops; when searching it leaves the choice to try one position
further on. So the run comes to the first match, or, without one, falls back on nothing.
-/

import Mathlib
import Rewind.Proofs.Program.Lowering

namespace Rewind

/-- The scene of a run outside of all named groups. -/
def Scene.ofRoot (context place start : Nat) (stop : Option Nat) (closed : List Located) : Scene :=
  { context := context
    inner :=
      { position := place
        name := Matcher.rootName
        start := start
        stop := stop
        closed := closed } }

namespace World

/-- How a run ends: with a match tree in the store, or with nothing to fall back on. -/
def Concludes (world : World) : Option MatchTree → Matcher → Prop
  | some tree, matcher => ∃ floor context place start stop closed,
      matcher.Rests world floor (.ofRoot context place start (some stop) closed) none stop ∧
        Located.trees world.text closed = tree.children ∧
        tree = Ways.captured world.text Matcher.rootName start
          { stop := stop, captures := tree.children }
  | none, matcher => matcher.Fails world { older := [], resume := none }

variable {world : World} {goal : Matcher → Prop} {matcher : Matcher} {floor : Floor}
  {scene : Scene} {cursor ticks : Nat} {id child : NodeId} {control : Option (NodeId × Signal)}

theorem rootMatch_eq (shows : matcher.store.Shows scene) (blamed : NodeId) :
    matcher.rootMatch blamed = .ok scene.root.position := by
  have looked : matcher.store.lookup Matcher.globalName = .ok (.ref scene.context) :=
    shows.lookup scene.lookup_globalName
  have member : scene.contextEntry ∈ scene.entries :=
    Multiset.mem_cons_of_mem (Multiset.mem_cons_self _ _)
  have peeked : matcher.store.peek scene.context =
      .ok (.object [(Matcher.rootName, .ref scene.root.position)]) := shows.peek member
  unfold Matcher.rootMatch
  simp only [bind, Except.bind, Except.mapError, looked, Value.reference?, peeked]
  rfl

theorem acts_setBounds {context place start : Nat} {stop : Option Nat} {closed : List Located}
    (acts : matcher.Acts world ticks floor (.ofRoot context place start stop closed) control cursor)
    (id : NodeId) (start' stop' : Option Nat) :
    ∃ after, Matcher.setBounds id start' stop' matcher = .ok () after ∧
      after.Acts world ticks floor (.ofRoot context place (start'.getD start) stop' closed) control
        cursor := by
  obtain ⟨store, updating, shows, moves⟩ := acts.poised.shows.setBounds rfl start' stop'
  refine ⟨{ matcher with store := store }, ?_, acts.withStore (acts.poised.moves shows moves)⟩
  unfold Matcher.setBounds
  rw [Action.bind_of_ok (rfl : (get : MatcherM Matcher) matcher = .ok matcher matcher),
    rootMatch_eq acts.poised.shows id]
  exact updateCapture_of_ok updating id _

/-! ### One attempt -/

/-- A run whose next step tries the pattern at a cursor. -/
def Attempts (world : World) (id child : NodeId) (search retry : Bool) (floor : Floor)
    (cursor : Nat) (matcher : Matcher) : Prop :=
  ∃ signal before place, matcher.Acts world matcher.ticks floor before (some (id, signal)) place ∧
    ∀ other, other.Acts world other.ticks floor before (some (id, signal)) place →
      ∃ context place start stop control acting,
        acting.Acts world other.ticks floor (.ofRoot context place start stop []) control cursor ∧
        Matcher.stepRoot id child search signal other = Matcher.attempt id child retry acting

variable {search : Bool} {ways : Ways}

/-- The step of an attempt. -/
theorem Attempts.leads {retry : Bool} (found : world.program.node? id = some (.root child search))
    (attempts : world.Attempts id child search retry floor cursor matcher)
    (proceeds : ∀ ticks context place start stop control acting,
      acting.Acts world ticks floor (.ofRoot context place start stop []) control cursor →
        world.Proceeds goal ticks (Matcher.attempt id child retry acting)) :
    world.Leads goal matcher := by
  obtain ⟨signal, before, spot, acts, steps⟩ := attempts
  refine .of_steps (fun other => other.Acts world other.ticks floor before (some (id, signal)) spot)
    acts (fun _ _ acts alike => acts.alike alike) (fun _ acts => acts) found fun other acts => ?_
  obtain ⟨context, place, start, stop, control, acting, actsThere, stepped⟩ := steps other acts
  rw [Matcher.stepNode, stepped]
  exact proceeds _ context place start stop control acting actsThere

/-- When the pattern has matched, the match is closed and the run is over. -/
theorem leads_concludes (found : world.program.node? id = some (.root child search))
    (linked : world.program.exit? child = some (id, .childDone))
    (last : world.program.exit? id = none) {context place start : Nat}
    {stop : Option Nat} {way : Way}
    (arrives : world.Arrives child (.ofRoot context place start stop []) floor way matcher) :
    world.Leads (world.Concludes (some (Ways.captured world.text Matcher.rootName start way)))
      matcher := by
  obtain ⟨trees, made, rests⟩ := arrives
  rw [linked] at rests
  refine .of_step rests found fun other rests => ?_
  obtain ⟨after, bounding, acts⟩ := acts_setBounds rests.acts id none (some way.stop)
  change world.Proceeds _ _ (Matcher.stepRoot id child search 1 other)
  rw [Matcher.stepRoot,
    Action.bind_of_ok (rfl : (get : MatcherM Matcher) other = .ok other other), rests.cursor,
    Action.bind_of_ok bounding]
  refine .forward (acts.finish id) fun _ rests => .here ?_
  rw [last] at rests
  exact ⟨floor, context, place, start, way.stop, trees, rests, made, rfl⟩

/-- An attempt without another one behind it. -/
theorem leads_attempt (found : world.program.node? id = some (.root child search))
    (computed : world.Computes child ways)
    (linked : world.program.exit? child = some (id, .childDone))
    (last : world.program.exit? id = none)
    (attempts : world.Attempts id child search false { older := [], resume := none } cursor
      matcher) :
    world.Leads (world.Concludes
      ((ways cursor).head?.map (Ways.captured world.text Matcher.rootName cursor))) matcher := by
  have entering : world.Leads (fun reached => ∃ context place,
      reached.Rests world { older := [], resume := none }
        (.ofRoot context place cursor none []) (some (child, .enter)) cursor) matcher := by
    refine attempts.leads found fun ticks context place start stop control acting acts => ?_
    obtain ⟨after, bounding, actsAfter⟩ := acts_setBounds acts id (some cursor) none
    rw [Matcher.attempt,
      Action.bind_of_ok (rfl : (get : MatcherM Matcher) acting = .ok acting acting), acts.cursor,
      Action.bind_of_ok bounding]
    exact .forward (actsAfter.enter child) fun _ rests => .here ⟨context, place, rests⟩
  refine entering.trans ?_
  rintro reached ⟨context, place, rests⟩
  have answers := computed _ _ _ _ rests
  cases listed : ways cursor with
  | nil =>
    rw [listed] at answers
    exact answers
  | cons way others =>
    rw [listed] at answers
    refine Leads.trans answers ?_
    rintro arrived ⟨higher, -, arrives, -⟩
    exact leads_concludes found linked last arrives

/-! ### Searching -/

/-- An attempt with the choice to go on behind it. -/
theorem leads_retry (found : world.program.node? id = some (.root child true))
    (attempts : world.Attempts id child true true floor cursor matcher) :
    world.Leads (fun reached => ∃ context place saved,
      floor.Saves (.ofRoot context place cursor none []) saved ∧
      reached.Rests world { older := saved :: floor.older, resume := some ⟨id, .retry, cursor⟩ }
        (.ofRoot context place cursor none []) (some (child, .enter)) cursor) matcher := by
  refine attempts.leads found fun ticks context place start stop control acting acts => ?_
  obtain ⟨after, bounding, actsAfter⟩ := acts_setBounds acts id (some cursor) none
  obtain ⟨saved, saves, actsHigher⟩ := actsAfter.leaveChoice id .retry
  rw [Matcher.attempt,
    Action.bind_of_ok (rfl : (get : MatcherM Matcher) acting = .ok acting acting), acts.cursor,
    Action.bind_of_ok bounding]
  exact .forward (actsHigher.enter child) fun _ rests => .here ⟨context, place, saved, saves, rests⟩

theorem isAtEnd_eq (acts : matcher.Acts world ticks floor scene control cursor) :
    matcher.subject.isAtEnd = decide (world.text.size ≤ cursor) := by
  unfold Subject.isAtEnd
  rw [acts.characters, acts.cursor]

/-- An attempt comes before what follows from its failure. -/
theorem leads_attempts (found : world.program.node? id = some (.root child true))
    (computed : world.Computes child ways)
    (linked : world.program.exit? child = some (id, .childDone))
    (last : world.program.exit? id = none)
    (attempts : world.Attempts id child true true floor cursor matcher) {rest : Option MatchTree}
    (next : ∀ context place after, after.Rests world floor (.ofRoot context place cursor none [])
      (some (id, .retry)) cursor → world.Leads (world.Concludes rest) after) :
    world.Leads (world.Concludes
      (((ways cursor).head?.map (Ways.captured world.text Matcher.rootName cursor)).or rest))
      matcher := by
  refine (leads_retry found attempts).trans ?_
  rintro reached ⟨context, place, saved, saves, rests⟩
  have answers := computed _ _ _ _ rests
  cases listed : ways cursor with
  | nil =>
    rw [listed] at answers
    refine Leads.trans answers fun failed fails => ?_
    exact .of_fails fails saves rests.cursor_le (next context place)
  | cons way others =>
    rw [listed] at answers
    refine Leads.trans answers ?_
    rintro arrived ⟨higher, -, arrives, -⟩
    exact leads_concludes found linked last arrives

theorem findSome?_cons_eq_or {α β : Type} (find : α → Option β) (first : α) (rest : List α) :
    (first :: rest).findSome? find = (find first).or (rest.findSome? find) := by
  rw [List.findSome?_cons]
  cases find first <;> rfl

/-- Searching tries the pattern at one cursor after the other, up to the end of the text. -/
theorem leads_search (found : world.program.node? id = some (.root child true))
    (computed : world.Computes child ways)
    (linked : world.program.exit? child = some (id, .childDone))
    (last : world.program.exit? id = none) (left : Nat) (inside : cursor + left = world.text.size)
    (attempts : world.Attempts id child true true { older := [], resume := none } cursor matcher) :
    world.Leads (world.Concludes ((List.range' cursor (left + 1)).findSome? fun start =>
      (ways start).head?.map (Ways.captured world.text Matcher.rootName start))) matcher := by
  have retries : ∀ other : Matcher, Matcher.stepRoot id child true 2 other =
      if other.subject.isAtEnd then .ok () other.backtrack
      else Matcher.attempt id child true (other.moveTo (other.subject.cursor + 1)) := by
    intro other
    rw [Matcher.stepRoot,
      Action.bind_of_ok (rfl : (get : MatcherM Matcher) other = .ok other other)]
    cases other.subject.isAtEnd <;> rfl
  induction left generalizing cursor matcher with
  | zero =>
    rw [List.range'_succ, findSome?_cons_eq_or, List.range'_zero, List.findSome?_nil]
    refine leads_attempts found computed linked last attempts fun context place after rests => ?_
    refine .of_step rests found fun other rests => ?_
    change world.Proceeds _ _ (Matcher.stepRoot id child true 2 other)
    have atEnd : world.text.size ≤ cursor := Nat.le_of_eq inside.symm
    rw [retries, isAtEnd_eq rests.acts, decide_eq_true atEnd]
    exact proceeds_backtrack rests
  | succ left inductionHypothesis =>
    rw [List.range'_succ, findSome?_cons_eq_or]
    refine leads_attempts found computed linked last attempts fun context place after rests => ?_
    refine inductionHypothesis (by omega) ⟨_, _, _, rests.acts, fun other acts => ?_⟩
    have within : ¬ world.text.size ≤ cursor := by omega
    have bounded : cursor + 1 ≤ world.text.size := by omega
    refine ⟨context, place, cursor, none, _, _, acts.moveTo bounded, ?_⟩
    change Matcher.stepRoot id child true 2 other = _
    rw [retries, isAtEnd_eq acts, decide_eq_false within, acts.cursor]
    rfl

end World

end Rewind
