/-
This file proves what repetitions answer with. A repetition keeps the number of iterations and the
start of the current one in a frame, decides after each iteration whether to go on, and leaves the
other decision as a choice. The number of iterations stays below the least number plus the cursor,
since an iteration that consumes nothing is the last one as soon as there are enough.
-/

import Mathlib
import Rewind.Proofs.Matcher.Nodes

namespace Rewind

namespace World

variable {world : World} {goal : Matcher → Prop} {matcher : Matcher} {floor : Floor}
  {scene : Scene} {cursor ticks place count start : Nat} {id child : NodeId}
  {control : Option (NodeId × Signal)}

/-! ### The moves of a repetition -/

/-- Setting an item of the frame. -/
theorem acts_updateFrame (changed : Frame) (index : Nat) (value : Value)
    (acts : matcher.Acts world ticks floor (scene.push (.repetition place count start)) control
      cursor)
    (holds : changed.entries =
      {⟨place, .list ([.int count, .cursor start].set index value), 1⟩})
    (binds : changed.binding = (Matcher.repetitionName, .ref place)) (inside : index < 2)
    (plain : value.reference? = none) :
    ∃ after, Matcher.updateFrame place index value matcher = .ok () after ∧
      after.Acts world ticks floor (scene.push changed) control cursor := by
  obtain ⟨store, updating, shows, moves⟩ := acts.poised.shows.updateFrame rfl holds binds inside
    (by simp [Value.reference?]) plain
  obtain ⟨after, ran, acting, -⟩ := acts_moves acts updating shows moves
  refine ⟨after, ?_, acting⟩
  unfold Matcher.updateFrame
  rw [Action.bind_of_ok ran]
  rfl

/-- Another iteration starts at the cursor. -/
theorem acts_iterate (child : NodeId)
    (acts : matcher.Acts world ticks floor (scene.push (.repetition place count start)) control
      cursor) :
    ∃ after, Matcher.iterate place child matcher = .ok () after ∧
      after.Acts world ticks floor (scene.push (.repetition place count cursor))
        (some (child, .enter)) cursor := by
  obtain ⟨after, updating, acting⟩ := acts_updateFrame (.repetition place count cursor) 1
    (.cursor cursor) acts rfl rfl Nat.one_lt_two rfl
  refine ⟨_, ?_, acting.enter child⟩
  unfold Matcher.iterate
  rw [Action.bind_of_ok (rfl : (get : MatcherM Matcher) matcher = .ok matcher matcher), acts.cursor,
    Action.bind_of_ok updating]
  rfl

/-- Stopping removes the frame. -/
theorem acts_leaveRepetition
    (acts : matcher.Acts world ticks floor (scene.push (.repetition place count start)) control
      cursor) :
    ∃ after, Matcher.leaveRepetition id matcher = .ok () after ∧
      after.Acts world ticks floor scene (world.program.exit? id) cursor := by
  obtain ⟨store, removing, shows, moves⟩ :=
    acts.poised.shows.closeFrame rfl rfl (by simp [Value.reference?])
  obtain ⟨after, ran, acting, -⟩ := acts_moves acts removing shows moves
  refine ⟨_, ?_, acting.finish id⟩
  unfold Matcher.leaveRepetition
  rw [Action.bind_of_ok ran]
  rfl

/-- What is read is what was counted. -/
theorem acts_repetitionFrame
    (acts : matcher.Acts world ticks floor (scene.push (.repetition place count start)) control
      cursor) (fits : count < 0x100000000) (id : NodeId) :
    ∃ after, Matcher.repetitionFrame id matcher = .ok (place, count, start) after ∧
      after.Acts world ticks floor (scene.push (.repetition place count start)) control cursor := by
  obtain ⟨after, reading, acting, -⟩ := acts_readFrame acts rfl rfl id
  refine ⟨after, ?_, acting⟩
  have same : ((count : Int) % 0x100000000).toNat = count := by omega
  unfold Matcher.repetitionFrame
  rw [Action.bind_of_ok reading]
  simp only [same]
  rfl

variable {min : Nat} {max : Option Nat} {lazily : Bool} {body : Ways}

/-- The frame of a repetition is opened before it decides for the first time. -/
theorem stepRepetition_enter (rests : matcher.Rests world floor scene control cursor) :
    ∃ place acting, acting.Acts world matcher.ticks floor
        (scene.push (.repetition place 0 cursor)) control cursor ∧
      Matcher.stepRepetition id child min max lazily 0 matcher =
        Matcher.decideRepetition id child min max lazily place 0 acting := by
  obtain ⟨place, allocated, store, allocating, pushing, poised⟩ :=
    acts_openFrame matcher [.int 0, .cursor cursor] rests.poised (by simp [Value.reference?])
      Matcher.repetitionName
      (fun place => .repetition place 0 cursor) (fun _ => rfl) (fun _ => rfl)
  refine ⟨place, _, rests.acts.withStore poised, ?_⟩
  rw [Matcher.stepRepetition,
    Action.bind_of_ok (rfl : (get : MatcherM Matcher) matcher = .ok matcher matcher), rests.cursor,
    Action.bind_of_ok allocating, Action.bind_of_ok pushing]

/-- An iteration is counted. An idle one is the last one, once there are enough. -/
theorem stepRepetition_done
    (acts : matcher.Acts world ticks floor (scene.push (.repetition place count start)) control
      cursor) (fits : count + 1 < 0x100000000) :
    ∃ counted, counted.Acts world ticks floor (scene.push (.repetition place (count + 1) start))
        control cursor ∧
      Matcher.stepRepetition id child min max lazily 1 matcher =
        (if min ≤ count + 1 ∧ cursor = start then Matcher.leaveRepetition id
        else Matcher.decideRepetition id child min max lazily place (count + 1)) counted := by
  obtain ⟨read, reading, acting⟩ := acts_repetitionFrame acts (Nat.lt_of_succ_lt fits) id
  obtain ⟨counted, updating, actsCounted⟩ := acts_updateFrame (.repetition place (count + 1) start)
    0 (.int (count + 1 : Nat)) acting rfl rfl Nat.two_pos rfl
  refine ⟨counted, actsCounted, ?_⟩
  rw [Matcher.stepRepetition, Action.bind_of_ok reading]
  simp only [if_pos fits]
  rw [Action.bind_of_ok updating,
    Action.bind_of_ok (rfl : (get : MatcherM Matcher) counted = .ok counted counted),
    actsCounted.cursor]

theorem stepRepetition_overflow
    (acts : matcher.Acts world ticks floor (scene.push (.repetition place count start)) control
      cursor) (fits : count < 0x100000000) (tooMany : ¬ count + 1 < 0x100000000) :
    ∃ reached, Matcher.stepRepetition id child min max lazily 1 matcher =
      .error (.defect .iterationOverflow) reached := by
  obtain ⟨read, reading, -⟩ := acts_repetitionFrame acts fits id
  refine ⟨read, ?_⟩
  rw [Matcher.stepRepetition, Action.bind_of_ok reading]
  simp only [if_neg tooMany]
  rfl

/-! ### Iterating and deciding -/

/-- The ways of another iteration, and whatever follows it. -/
def iterations (size : Nat) (body : Ways) (min : Nat) (max : Option Nat) (lazily : Bool)
    (count start : Nat) : List Way :=
  (body start).flatMap fun way =>
    if min ≤ count + 1 ∧ way.stop = start then [way]
    else (Ways.repeated size body min max lazily (count + 1) way.stop).map way.followedBy

/-- A run whose next step decides about another iteration. -/
def Decides (world : World) (id child : NodeId) (min : Nat) (max : Option Nat) (lazily : Bool)
    (floor : Floor) (scene : Scene) (count cursor : Nat) (matcher : Matcher) : Prop :=
  ∃ signal before, matcher.Rests world floor before (some (id, signal)) cursor ∧
    ∀ other, other.Rests world floor before (some (id, signal)) cursor →
      ∃ place start control acting,
        acting.Acts world other.ticks floor (scene.push (.repetition place count start)) control
          cursor ∧
        Matcher.stepRepetition id child min max lazily signal other =
          Matcher.decideRepetition id child min max lazily place count acting

/-- After an iteration the repetition stops or decides again. -/
theorem answers_iterations
    (found : world.program.node? id = some (.repetition child min max lazily))
    (computed : world.Computes child body)
    (linked : world.program.exit? child = some (id, .childDone))
    (strict : 0xffffffff ≤ min + world.text.size → world.loose)
    (few : count ≤ min + cursor) (fits : count < 0x100000000)
    (decided : ∀ way ∈ body cursor, ¬ (min ≤ count + 1 ∧ way.stop = cursor) →
      count + 1 < 0x100000000 → ∀ higher changed reached,
        world.Decides id child min max lazily higher changed (count + 1) way.stop reached →
          world.Answers (world.Arrives id changed) higher
            (Ways.repeated world.text.size body min max lazily (count + 1) way.stop) reached)
    (rests : matcher.Rests world floor (scene.push (.repetition place count cursor))
      (some (child, .enter)) cursor) :
    world.Answers (world.Arrives id scene) floor
      (iterations world.text.size body min max lazily count cursor) matcher := by
  have inside := rests.cursor_le
  refine (computed _ _ _ _ rests).bind fun way member higher reached _ arrives => ?_
  obtain ⟨trees, made, rests⟩ := arrives
  rw [linked, Scene.graft_push] at rests
  by_cases fitsNext : count + 1 < 0x100000000
  · by_cases idle : min ≤ count + 1 ∧ way.stop = cursor
    · rw [if_pos idle]
      refine .single (.of_step rests found fun other rests => ?_)
      obtain ⟨counted, acts, stepped⟩ := stepRepetition_done rests.acts fitsNext
      obtain ⟨after, leaving, acting⟩ := acts_leaveRepetition acts
      rw [if_pos idle, leaving] at stepped
      change world.Proceeds _ _ (Matcher.stepRepetition id child min max lazily 1 other)
      rw [stepped]
      exact .forward acting fun _ rests => .here ⟨trees, made, rests⟩
    · rw [if_neg idle]
      refine (decided way member idle fitsNext higher (scene.graft trees) reached
        ⟨_, _, rests, fun other rests => ?_⟩).map
          fun _ _ _ _ _ arrives => .here (arrives_graft made arrives)
      obtain ⟨counted, acts, stepped⟩ := stepRepetition_done rests.acts fitsNext
      rw [if_neg idle] at stepped
      exact ⟨place, cursor, _, counted, acts, stepped⟩
  · -- There are too many iterations to count.
    have overflowing : world.Leads (fun _ => False) reached := by
      refine .of_step rests found fun other rests => ?_
      obtain ⟨after, failed⟩ := stepRepetition_overflow rests.acts fits fitsNext
      change world.Proceeds _ _ (Matcher.stepRepetition id child min max lazily 1 other)
      rw [failed]
      exact .excused (.iterations (strict (by omega)))
    exact .of_leads overflowing fun _ impossible => impossible.elim

/-- A decision is taken in one step. -/
theorem Decides.leads
    (decides : world.Decides id child min max lazily floor scene count cursor matcher)
    (found : world.program.node? id = some (.repetition child min max lazily))
    (proceeds : ∀ ticks place start control acting,
      acting.Acts world ticks floor (scene.push (.repetition place count start)) control cursor →
        world.Proceeds goal ticks
          (Matcher.decideRepetition id child min max lazily place count acting)) :
    world.Leads goal matcher := by
  obtain ⟨signal, before, rests, steps⟩ := decides
  refine .of_step rests found fun other rests => ?_
  obtain ⟨place, start, control, acting, acts, stepped⟩ := steps other rests
  rw [Matcher.stepNode, stepped]
  exact proceeds other.ticks place start control acting acts

/-- As long as there are too few iterations, another one starts. -/
theorem Decides.leads_iterate
    (decides : world.Decides id child min max lazily floor scene count cursor matcher)
    (found : world.program.node? id = some (.repetition child min max lazily))
    (required : count < min) :
    world.Leads (fun reached => ∃ place, reached.Rests world floor
      (scene.push (.repetition place count cursor)) (some (child, .enter)) cursor) matcher := by
  refine decides.leads found fun ticks place start control acting acts => ?_
  obtain ⟨after, iterates, actsAfter⟩ := acts_iterate child acts
  rw [Matcher.decideRepetition, if_pos required, iterates]
  exact .forward actsAfter fun _ rests => .here ⟨place, rests⟩

/-- Once there are as many iterations as possible, the repetition stops. -/
theorem Decides.leads_leave
    (decides : world.Decides id child min max lazily floor scene count cursor matcher)
    (found : world.program.node? id = some (.repetition child min max lazily))
    (optional : ¬ count < min) (enough : (max.any fun max => max ≤ count) = true) :
    world.Leads (fun reached => reached.Rests world floor scene (world.program.exit? id) cursor)
      matcher := by
  refine decides.leads found fun ticks place start control acting acts => ?_
  obtain ⟨after, leaving, actsAfter⟩ := acts_leaveRepetition acts
  rw [Matcher.decideRepetition, if_neg optional, if_pos enough, leaving]
  exact .forward actsAfter fun _ rests => .here rests

/-- A lazy repetition stops, with going on left as a choice. -/
theorem Decides.leads_lazy
    (decides : world.Decides id child min max true floor scene count cursor matcher)
    (found : world.program.node? id = some (.repetition child min max true))
    (optional : ¬ count < min) (more : ¬ (max.any fun max => max ≤ count) = true) :
    world.Leads (fun reached => ∃ saved place start,
      floor.Saves (scene.push (.repetition place count start)) saved ∧
      reached.Rests world { older := saved :: floor.older, resume := some ⟨id, .goOn, cursor⟩ }
        scene (world.program.exit? id) cursor) matcher := by
  refine decides.leads found fun ticks place start control acting acts => ?_
  obtain ⟨saved, saves, actsHigher⟩ := acts.leaveChoice id .goOn
  obtain ⟨after, leaves, actsAfter⟩ := acts_leaveRepetition actsHigher
  rw [Matcher.decideRepetition, if_neg optional, if_neg more, if_pos rfl]
  change world.Proceeds _ _ (Matcher.leaveRepetition id (acting.leaveChoice id .goOn))
  rw [leaves]
  exact .forward actsAfter fun _ rests => .here ⟨saved, place, start, saves, rests⟩

/-- A greedy repetition goes on, with stopping left as a choice. -/
theorem Decides.leads_greedy
    (decides : world.Decides id child min max false floor scene count cursor matcher)
    (found : world.program.node? id = some (.repetition child min max false))
    (optional : ¬ count < min) (more : ¬ (max.any fun max => max ≤ count) = true) :
    world.Leads (fun reached => ∃ saved place start,
      floor.Saves (scene.push (.repetition place count start)) saved ∧
      reached.Rests world { older := saved :: floor.older, resume := some ⟨id, .leave, cursor⟩ }
        (scene.push (.repetition place count cursor)) (some (child, .enter)) cursor) matcher := by
  refine decides.leads found fun ticks place start control acting acts => ?_
  obtain ⟨saved, saves, actsHigher⟩ := acts.leaveChoice id .leave
  obtain ⟨after, iterates, actsAfter⟩ := acts_iterate child actsHigher
  rw [Matcher.decideRepetition, if_neg optional, if_neg more, if_neg Bool.false_ne_true]
  change world.Proceeds _ _ (Matcher.iterate place child (acting.leaveChoice id .leave))
  rw [iterates]
  exact .forward actsAfter fun _ rests => .here ⟨saved, place, start, saves, rests⟩

/-- A choice to go on starts another iteration. -/
theorem leads_goOn (found : world.program.node? id = some (.repetition child min max lazily))
    (fits : count < 0x100000000)
    (rests : matcher.Rests world floor (scene.push (.repetition place count start))
      (some (id, .goOn)) cursor) :
    world.Leads (fun reached => reached.Rests world floor
      (scene.push (.repetition place count cursor)) (some (child, .enter)) cursor) matcher := by
  refine .of_step rests found fun other rests => ?_
  obtain ⟨read, reading, acts⟩ := acts_repetitionFrame rests.acts fits id
  obtain ⟨after, iterates, actsAfter⟩ := acts_iterate child acts
  change world.Proceeds _ _ (Matcher.stepRepetition id child min max lazily 3 other)
  rw [Matcher.stepRepetition, Action.bind_of_ok reading]
  simp only
  rw [iterates]
  exact .forward actsAfter fun _ rests => .here rests

/-- A choice to stop stops the repetition. -/
theorem leads_stop (found : world.program.node? id = some (.repetition child min max lazily))
    (rests : matcher.Rests world floor (scene.push (.repetition place count start))
      (some (id, .leave)) cursor) :
    world.Leads (fun reached => reached.Rests world floor scene (world.program.exit? id) cursor)
      matcher := by
  refine .of_step rests found fun other rests => ?_
  obtain ⟨after, leaves, actsAfter⟩ := acts_leaveRepetition rests.acts
  change world.Proceeds _ _ (Matcher.leaveRepetition id other)
  rw [leaves]
  exact .forward actsAfter fun _ rests => .here rests

/-- Deciding is to iterate or to stop, or one of them with the other left as a choice. -/
theorem answers_decides (found : world.program.node? id = some (.repetition child min max lazily))
    (iterating : ∀ higher place reached, reached.Rests world higher
      (scene.push (.repetition place count cursor)) (some (child, .enter)) cursor →
        world.Answers (world.Arrives id scene) higher
          (iterations world.text.size body min max lazily count cursor) reached)
    (fits : count < 0x100000000) (inside : cursor ≤ world.text.size)
    (decides : world.Decides id child min max lazily floor scene count cursor matcher) :
    world.Answers (world.Arrives id scene) floor
      (if count < min then iterations world.text.size body min max lazily count cursor
      else if max.any fun max => max ≤ count then [.bare cursor]
      else if lazily then
        [.bare cursor] ++ iterations world.text.size body min max lazily count cursor
      else iterations world.text.size body min max lazily count cursor ++ [.bare cursor])
      matcher := by
  by_cases required : count < min
  · rw [if_pos required]
    refine .of_leads (decides.leads_iterate found required) ?_
    rintro reached ⟨place, rests⟩
    exact iterating floor place reached rests
  rw [if_neg required]
  by_cases enough : (max.any fun max => max ≤ count) = true
  · rw [if_pos enough]
    exact .single ((decides.leads_leave found required enough).trans
      fun _ rests => .here (arrives_bare rests))
  rw [if_neg enough]
  cases lazily with
  | true =>
    rw [if_pos rfl]
    refine .of_leads (decides.leads_lazy found required enough) ?_
    rintro reached ⟨saved, place, start, saves, restsHigher⟩
    refine .append (List.suffix_cons saved floor.older)
      (.single (.here (arrives_bare restsHigher))) fun failed fails => ?_
    exact .of_leads (.of_fails fails saves inside fun _ rests => leads_goOn found fits rests)
      (iterating floor place)
  | false =>
    rw [if_neg Bool.false_ne_true]
    refine .of_leads (decides.leads_greedy found required enough) ?_
    rintro reached ⟨saved, place, start, saves, restsHigher⟩
    refine .append (List.suffix_cons saved floor.older) (iterating _ place reached restsHigher)
      fun failed fails => ?_
    exact .single (.of_fails fails saves inside fun _ rests =>
      (leads_stop found rests).trans fun _ rests => .here (arrives_bare rests))

/-- A repetition decides again and again until it comes to an end. -/
theorem answers_repeated (found : world.program.node? id = some (.repetition child min max lazily))
    (computed : world.Computes child body) (inside : Ways.Inside world.text.size body)
    (linked : world.program.exit? child = some (id, .childDone))
    (strict : 0xffffffff ≤ min + world.text.size → world.loose)
    (few : count ≤ min + cursor) (fits : count < 0x100000000)
    (decides : world.Decides id child min max lazily floor scene count cursor matcher) :
    world.Answers (world.Arrives id scene) floor
      (Ways.repeated world.text.size body min max lazily count cursor) matcher := by
  induction measured : (min - count) + (world.text.size - cursor) using Nat.strong_induction_on
    generalizing count cursor floor scene matcher with
  | _ measure inductionHypothesis =>
  have bounded : cursor ≤ world.text.size := by
    obtain ⟨_, _, rests, -⟩ := decides
    exact rests.cursor_le
  rw [Ways.repeated_eq inside min max lazily count cursor bounded]
  refine answers_decides found (fun higher place reached rests => ?_) fits bounded decides
  refine answers_iterations found computed linked strict few fits
    (fun way member notIdle fitsNext floor changed reached decides => ?_) rests
  obtain ⟨after, within⟩ := inside cursor bounded way member
  exact inductionHypothesis _ (by omega) (by omega) fitsNext decides rfl

/-- A repetition starts without iterations. -/
theorem computes_repetition
    (found : world.program.node? id = some (.repetition child min max lazily))
    (computed : world.Computes child body) (inside : Ways.Inside world.text.size body)
    (linked : world.program.exit? child = some (id, .childDone))
    (strict : 0xffffffff ≤ min + world.text.size → world.loose) :
    world.Computes id (Ways.repeated world.text.size body min max lazily 0) := by
  intro floor scene start matcher rests
  refine answers_repeated found computed inside linked strict (Nat.zero_le _)
    (by decide) ⟨.enter, scene, rests, fun other rests => ?_⟩
  obtain ⟨place, acting, acts, stepped⟩ := stepRepetition_enter rests
  exact ⟨place, start, _, acting, acts, stepped⟩

end World

end Rewind
