/-
This file says how a part of a program answers with a list of ways. It first leads to the preferred
way, and whenever what follows fails, to the next one; after the last way it fails itself. Lists of
answers are put together like lists: one list after the other, or a list for each answer.
-/

import Mathlib
import Rewind.Proofs.Matcher.Progress
import Rewind.Proofs.Pattern.Meaning

namespace Rewind

namespace World

/-! ### Leading somewhere -/

/-- However it is interrupted, the run gets to a goal, unless it breaks off with an excuse. -/
inductive Leads (world : World) (goal : Matcher → Prop) : Matcher → Prop
  | here {matcher : Matcher} (reached : goal matcher) : Leads world goal matcher
  | step {matcher : Matcher}
    (ticks : ∀ other, matcher.Alike other → other.isDone = false ∧
      ((∃ after, Matcher.tick other = .ok true after) ∨
        ∃ error after, Matcher.tick other = .error error after ∧
          world.Excuses after.ticks error))
    (next : ∀ other after, matcher.Alike other → Matcher.tick other = .ok true after →
      Leads world goal after) : Leads world goal matcher

/-- How the step of a node goes on. -/
inductive Proceeds (world : World) (goal : Matcher → Prop) (ticks : Nat) :
    EStateM.Result Abort Matcher Unit → Prop
  | forward {reached : Matcher} {floor : Floor} {scene : Scene}
    {control : Option (NodeId × Signal)} {cursor : Nat}
    (acts : reached.Acts world ticks floor scene control cursor)
    (next : ∀ after, after.Rests world floor scene control cursor → world.Leads goal after) :
    Proceeds world goal ticks (.ok () reached)
  | backward {reached : Matcher} {floor : Floor} {scene : Scene}
    {control : Option (NodeId × Signal)} {cursor : Nat}
    (acts : reached.Acts world ticks floor scene control cursor)
    (quiet : reached.store.sweepRequested = false)
    (next : ∀ after, after.Fails world floor → world.Leads goal after) :
    Proceeds world goal ticks (.ok () reached.backtrack)
  | excused {error : Abort} {reached : Matcher} (excuse : world.Excuses reached.ticks error) :
    Proceeds world goal ticks (.error error reached)

variable {world : World} {goal further : Matcher → Prop} {matcher : Matcher} {floor : Floor}
  {scene : Scene} {cursor : Nat}

theorem Leads.trans (leads : world.Leads goal matcher)
    (next : ∀ reached, goal reached → world.Leads further reached) :
    world.Leads further matcher := by
  induction leads with
  | here reached => exact next _ reached
  | step ticks _ inductionHypothesis => exact .step ticks inductionHypothesis

theorem isDone_of_control {id : NodeId} {signal : Signal}
    (control : matcher.control = some (id, signal)) : matcher.isDone = false := by
  unfold Matcher.control at control
  obtain ⟨_, isNode, -⟩ := Option.map_eq_some_iff.mp control
  unfold Matcher.isDone
  rw [isNode, decide_eq_false_iff_not]
  exact fun done => nomatch done.2

/-- From a node the run leads wherever its step leads. That the run is at the node may be known
together with more, as long as pauses do not change it. -/
theorem Leads.of_steps {id : NodeId} {signal : Signal} {node : Node} (known : Matcher → Prop)
    (holds : known matcher) (stable : ∀ one other, known one → one.Alike other → known other)
    (begins : ∀ other, known other →
      other.Acts world other.ticks floor scene (some (id, signal)) cursor)
    (found : world.program.node? id = some node)
    (proceeds : ∀ other, known other →
      world.Proceeds goal other.ticks (Matcher.stepNode id node signal other)) :
    world.Leads goal matcher := by
  have ticks : ∀ other, known other →
      (∃ after, Matcher.tick other = .ok true after ∧ world.Leads goal after) ∨
        ∃ error after, Matcher.tick other = .error error after ∧
          world.Excuses after.ticks error := by
    intro other isKnown
    have goesOn := proceeds other isKnown
    cases stepped : Matcher.stepNode id node signal other with
    | ok result reached =>
      rw [stepped] at goesOn
      cases goesOn with
      | forward acts next =>
        obtain ⟨after, ticked, rests⟩ | excused :=
          Matcher.tick_of_acts (begins other isKnown) found stepped acts
        · exact .inl ⟨after, ticked, next after rests⟩
        · exact .inr excused
      | backward acts quiet next =>
        obtain ⟨after, ticked, fails⟩ :=
          Matcher.tick_of_backtrack (begins other isKnown) found stepped acts quiet
        exact .inl ⟨after, ticked, next after fails⟩
    | error error reached =>
      rw [stepped] at goesOn
      cases goesOn with
      | excused excuse =>
        right
        have acts := begins other isKnown
        rw [Matcher.tick_of_step acts.forward acts.control (acts.program ▸ found),
          Action.bind_of_error stepped]
        exact ⟨error, reached, rfl, excuse⟩
  refine .step (fun other alike => ?_) (fun other after alike ticked => ?_)
  · have isKnown := stable matcher other holds alike
    refine ⟨isDone_of_control (begins other isKnown).control, ?_⟩
    refine (ticks other isKnown).imp_left ?_
    rintro ⟨after, ticked, -⟩
    exact ⟨after, ticked⟩
  · obtain ⟨_, same, leads⟩ | ⟨_, _, failed, -⟩ := ticks other (stable matcher other holds alike)
    · rw [ticked] at same
      cases same
      exact leads
    · rw [ticked] at failed
      cases failed

theorem Leads.of_step {id : NodeId} {signal : Signal} {node : Node}
    (rests : matcher.Rests world floor scene (some (id, signal)) cursor)
    (found : world.program.node? id = some node)
    (proceeds : ∀ other, other.Rests world floor scene (some (id, signal)) cursor →
      world.Proceeds goal other.ticks (Matcher.stepNode id node signal other)) :
    world.Leads goal matcher :=
  .of_steps _ rests (fun _ _ rests alike => rests.alike alike) (fun _ rests => rests.acts) found
    proceeds

/-- A failure leads back to what the floor has saved. -/
theorem Leads.of_fails {saved : Generation} {point : ResumePoint}
    (fails : matcher.Fails world { older := saved :: floor.older, resume := some point })
    (saves : floor.Saves scene saved) (inside : point.cursor ≤ world.text.size)
    (next : ∀ after,
      after.Rests world floor scene (some (point.node, point.signal)) point.cursor →
        world.Leads goal after) :
    world.Leads goal matcher := by
  refine .step (fun other alike => ⟨?_, ?_⟩) (fun other after alike ticked => ?_)
  · unfold Matcher.isDone
    rw [(fails.alike alike).backward]
    rfl
  · obtain ⟨after, ticked, -⟩ := Matcher.tick_of_fails (fails.alike alike) saves inside
    exact .inl ⟨after, ticked⟩
  · obtain ⟨reached, same, rests⟩ := Matcher.tick_of_fails (fails.alike alike) saves inside
    rw [ticked] at same
    cases same
    exact next after rests

/-! ### Answering -/

/-- Answers with some ways, the preferred one first. What it is to arrive may depend on the way and
on the floor, which is never below the one at the beginning. -/
def Answers (world : World) (arrives : Floor → Way → Matcher → Prop) (floor : Floor) :
    List Way → Matcher → Prop
  | [], matcher => world.Leads (fun reached => reached.Fails world floor) matcher
  | way :: ways, matcher => world.Leads (fun reached => ∃ higher : Floor,
      floor.older <:+ higher.older ∧ arrives higher way reached ∧
        ∀ failed, failed.Fails world higher → world.Answers arrives floor ways failed) matcher

variable {arrives arrives' : Floor → Way → Matcher → Prop} {ways more : List Way}

/-- Getting somewhere first. -/
theorem Answers.of_leads (leads : world.Leads goal matcher)
    (answers : ∀ reached, goal reached → world.Answers arrives floor ways reached) :
    world.Answers arrives floor ways matcher := by
  cases ways with
  | nil => exact leads.trans answers
  | cons way ways => exact leads.trans answers

/-- One answer, after which there is nothing left. -/
theorem Answers.single {way : Way}
    (leads : world.Leads (fun reached => arrives floor way reached) matcher) :
    world.Answers arrives floor [way] matcher :=
  leads.trans fun _ arrived =>
    .here ⟨floor, List.suffix_refl _, arrived, fun _ fails => .here fails⟩

/-- Answers on a higher floor come before what failing there answers. -/
theorem Answers.append {higher : Floor} (above : floor.older <:+ higher.older)
    (first : world.Answers arrives higher ways matcher)
    (second : ∀ failed, failed.Fails world higher → world.Answers arrives floor more failed) :
    world.Answers arrives floor (ways ++ more) matcher := by
  induction ways generalizing matcher with
  | nil => exact .of_leads first second
  | cons way ways inductionHypothesis =>
    refine Leads.trans first fun reached arrived => .here ?_
    obtain ⟨highest, aboveThat, arrivesThere, rest⟩ := arrived
    exact ⟨highest, above.trans aboveThat, arrivesThere,
      fun failed fails => inductionHypothesis (rest failed fails)⟩

/-- Every answer is answered in turn. -/
theorem Answers.bind {next : Way → List Way} (answers : world.Answers arrives floor ways matcher)
    (each : ∀ way ∈ ways, ∀ higher reached, floor.older <:+ higher.older →
      arrives higher way reached → world.Answers arrives' higher (next way) reached) :
    world.Answers arrives' floor (ways.flatMap next) matcher := by
  induction ways generalizing matcher with
  | nil => exact answers
  | cons way ways inductionHypothesis =>
    rw [List.flatMap_cons]
    refine .of_leads answers fun reached arrived => ?_
    obtain ⟨higher, above, arrivesThere, rest⟩ := arrived
    refine .append above (each way List.mem_cons_self higher reached above arrivesThere) ?_
    exact fun failed fails => inductionHypothesis (rest failed fails)
      fun other member => each other (List.mem_cons_of_mem _ member)

/-- Every answer leads to one other. -/
theorem Answers.map {change : Way → Way} (answers : world.Answers arrives floor ways matcher)
    (each : ∀ way ∈ ways, ∀ higher reached, floor.older <:+ higher.older →
      arrives higher way reached →
        world.Leads (fun after => arrives' higher (change way) after) reached) :
    world.Answers arrives' floor (ways.map change) matcher := by
  rw [List.map_eq_flatMap]
  exact answers.bind fun way member higher reached above arrived =>
    .single (each way member higher reached above arrived)

/-- Every answer leads to the same one elsewhere. -/
theorem Answers.change (answers : world.Answers arrives floor ways matcher)
    (each : ∀ way ∈ ways, ∀ higher reached, floor.older <:+ higher.older →
      arrives higher way reached → world.Leads (arrives' higher way) reached) :
    world.Answers arrives' floor ways matcher := by
  rw [← List.map_id ways]
  exact answers.map each

end World

end Rewind
