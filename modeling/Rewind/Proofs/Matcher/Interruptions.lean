/-
This file runs programs in parts. A call takes ticks until the run ends or its budget is used up,
and another call may go on with it. Since where a run leads does not depend on pauses, every call
reports what the run leads to, or pauses on the way there.
-/

import Mathlib
import Rewind.Proofs.Matcher.Extraction

namespace Rewind

namespace Matcher

/-- Goes on with a run as long as it pauses, with one budget after the other. -/
def resumeWith : Outcome → List Budget → MatcherM Outcome
  | .paused, budget :: budgets => do resumeWith (← resume budget) budgets
  | outcome, _ => return outcome

/-- Starts a run with a budget, and goes on with others as long as it pauses. -/
def runWith (entry : NodeId) (text : List Char) (first : Budget) (others : List Budget) :
    MatcherM Outcome := do
  resumeWith (← run entry text first) others

theorem alike_note (matcher : Matcher) (event : Event) : matcher.Alike (matcher.note event) :=
  ⟨rfl, rfl, rfl, rfl, rfl, rfl, rfl, rfl, rfl⟩

theorem alike_withStatus (matcher : Matcher) (status : Status) (outcome : Option Outcome) :
    matcher.Alike { matcher with status := status, outcome := outcome } :=
  ⟨rfl, rfl, rfl, rfl, rfl, rfl, rfl, rfl, rfl⟩

end Matcher

namespace World

variable {world : World} {result : Option MatchTree} {matcher other : Matcher}

theorem Concludes.alike (concludes : world.Concludes result matcher)
    (alike : matcher.Alike other) : world.Concludes result other := by
  cases result with
  | some tree =>
    obtain ⟨floor, context, place, start, stop, closed, rests, made, isTree⟩ := concludes
    exact ⟨floor, context, place, start, stop, closed, rests.alike alike, made, isTree⟩
  | none => exact Matcher.Fails.alike concludes alike

/-- Pauses do not change where a run leads. -/
theorem Leads.alike (leads : world.Leads (world.Concludes result) matcher)
    (alike : matcher.Alike other) : world.Leads (world.Concludes result) other := by
  cases leads with
  | here concludes => exact .here (concludes.alike alike)
  | step ticks next =>
    exact .step (fun third further => ticks third (alike.trans further))
      (fun third after further => next third after (alike.trans further))

/-! ### Driving -/

/-- What is reported of a run that leads to a result. -/
inductive Reports (world : World) (result : Option MatchTree) :
    EStateM.Result Abort Matcher Outcome → Prop
  | matched {tree : MatchTree} {reached : Matcher} (found : result = some tree)
    (concludes : world.Concludes (some tree) reached) :
    Reports world result (.ok .matched reached)
  | noMatch {reached : Matcher} (missing : result = none) :
    Reports world result (.ok .noMatch reached)
  | paused {reached : Matcher} (leads : world.Leads (world.Concludes result) reached) :
    Reports world result (.ok .paused reached)
  | excused {error : Abort} {reached : Matcher} (excuse : world.Excuses reached.ticks error) :
    Reports world result (.error error reached)

/-- A run that has come to its end takes at most one more tick. -/
theorem drive_of_concludes (concludes : world.Concludes result matcher) (allowance : Nat) :
    world.Reports result (Matcher.drive allowance matcher) ∧
      (1 ≤ allowance → ∀ reached, Matcher.drive allowance matcher ≠ .ok .paused reached) := by
  cases result with
  | some tree =>
    have done : matcher.isDone = true := by
      obtain ⟨floor, context, place, start, stop, closed, rests, -⟩ := concludes
      have nowhere : matcher.node = none := Option.map_eq_none_iff.mp rests.control
      unfold Matcher.isDone
      rw [rests.forward, nowhere]
      rfl
    rw [Matcher.drive.eq_def, if_pos done]
    exact ⟨.matched rfl concludes, fun _ _ same => nomatch same⟩
  | none =>
    have fails : matcher.Fails world { older := [], resume := none } := concludes
    have running : ¬ matcher.isDone = true := by
      unfold Matcher.isDone
      rw [fails.backward]
      exact Bool.false_ne_true
    cases allowance with
    | zero =>
      rw [Matcher.drive, if_neg running]
      exact ⟨.paused (.here (concludes.alike (Matcher.alike_note _ _))), fun impossible => by omega⟩
    | succ allowance =>
      obtain ⟨after, ticked⟩ := Matcher.tick_of_exhausted fails rfl
      rw [Matcher.drive, if_neg running]
      simp only [ticked]
      exact ⟨.noMatch rfl, fun _ _ same => nomatch same⟩

/-- Every budget leads to a report, and a large one to the end. -/
theorem drive_reports (leads : world.Leads (world.Concludes result) matcher) :
    ∃ enough, ∀ allowance, world.Reports result (Matcher.drive allowance matcher) ∧
      (enough ≤ allowance → ∀ reached, Matcher.drive allowance matcher ≠ .ok .paused reached) := by
  induction leads with
  | here concludes => exact ⟨1, drive_of_concludes concludes⟩
  | @step matcher ticks next inductionHypothesis =>
    obtain ⟨running, outcome⟩ := ticks matcher (.refl matcher)
    have notDone : ¬ matcher.isDone = true := by
      rw [running]
      exact Bool.false_ne_true
    have pausing : world.Reports result (Matcher.drive 0 matcher) := by
      rw [Matcher.drive, if_neg notDone]
      exact .paused (Leads.alike (.step ticks next) (Matcher.alike_note _ _))
    obtain ⟨after, ticked⟩ | ⟨error, after, failed, excuse⟩ := outcome
    · obtain ⟨enough, reports⟩ := inductionHypothesis matcher after (.refl matcher) ticked
      refine ⟨enough + 1, fun allowance => ?_⟩
      cases allowance with
      | zero => exact ⟨pausing, fun impossible => by omega⟩
      | succ allowance =>
        rw [Matcher.drive, if_neg notDone]
        simp only [ticked]
        exact ⟨(reports allowance).1, fun larger => (reports allowance).2 (by omega)⟩
    · refine ⟨1, fun allowance => ?_⟩
      cases allowance with
      | zero => exact ⟨pausing, fun impossible => by omega⟩
      | succ allowance =>
        rw [Matcher.drive, if_neg notDone]
        simp only [failed]
        exact ⟨.excused excuse, fun _ _ same => nomatch same⟩

/-! ### Calls -/

/-- What a call comes to. -/
inductive Ends (world : World) (result : Option MatchTree) :
    EStateM.Result Abort Matcher Outcome → Prop
  | matched {tree : MatchTree} {reached : Matcher} (found : result = some tree)
    (copied : reached.result = .ok (some tree)) (concludes : world.Concludes (some tree) reached) :
    Ends world result (.ok .matched reached)
  | noMatch {reached : Matcher} (missing : result = none) (nothing : reached.result = .ok none) :
    Ends world result (.ok .noMatch reached)
  | paused {reached : Matcher} (waits : reached.status = .paused)
    (leads : world.Leads (world.Concludes result) reached) :
    Ends world result (.ok .paused reached)
  | excused {error : Abort} {reached : Matcher} (excuse : world.Excuses reached.ticks error) :
    Ends world result (.error error reached)

theorem execute_ends (leads : world.Leads (world.Concludes result) matcher) :
    ∃ enough, ∀ budget : Budget, world.Ends result (Matcher.execute budget matcher) ∧
      (enough ≤ budget.allowance →
        ∀ reached, Matcher.execute budget matcher ≠ .ok .paused reached) := by
  have ready : matcher.Alike { matcher with status := .executing } :=
    matcher.alike_withStatus .executing matcher.outcome
  obtain ⟨enough, reports⟩ := drive_reports (leads.alike ready)
  refine ⟨enough, fun budget => ?_⟩
  obtain ⟨report, ends⟩ := reports budget.allowance
  unfold Matcher.execute
  generalize Matcher.drive budget.allowance { matcher with status := .executing } = driven
    at report ends
  cases report with
  | matched found concludes =>
    have ended := concludes.alike (Matcher.alike_withStatus _ .ended (some .matched))
    exact ⟨.matched found (result_eq ended rfl rfl) ended, fun _ _ same => nomatch same⟩
  | noMatch missing => exact ⟨.noMatch missing rfl, fun _ _ same => nomatch same⟩
  | paused leads =>
    refine ⟨.paused rfl (leads.alike (Matcher.alike_withStatus _ _ _)), fun larger => ?_⟩
    exact absurd rfl (ends larger _)
  | excused excuse =>
    cases excuse with
    | iterations loose => exact ⟨.excused (.iterations loose), fun _ _ same => nomatch same⟩
    | threshold many => exact ⟨.excused (.threshold many), fun _ _ same => nomatch same⟩

theorem resume_ends (waits : matcher.status = .paused)
    (leads : world.Leads (world.Concludes result) matcher) :
    ∃ enough, ∀ budget : Budget, world.Ends result (Matcher.resume budget matcher) ∧
      (enough ≤ budget.allowance →
        ∀ reached, Matcher.resume budget matcher ≠ .ok .paused reached) := by
  have resumes : ∀ budget, Matcher.resume budget matcher = Matcher.execute budget matcher := by
    intro budget
    unfold Matcher.resume
    rw [Action.bind_of_ok (rfl : (get : MatcherM Matcher) matcher = .ok matcher matcher),
      if_pos waits]
  simp only [resumes]
  exact execute_ends leads

/-- However often a run pauses and goes on, it comes to the same. -/
theorem Ends.resumeWith {outcome : Outcome} (ends : world.Ends result (.ok outcome matcher))
    (budgets : List Budget) : world.Ends result (Matcher.resumeWith outcome budgets matcher) := by
  induction budgets generalizing outcome matcher with
  | nil => cases outcome <;> exact ends
  | cons budget budgets inductionHypothesis =>
    cases ends with
    | matched found copied concludes => exact .matched found copied concludes
    | noMatch missing nothing => exact .noMatch missing nothing
    | paused waits leads =>
      obtain ⟨enough, resumes⟩ := resume_ends waits leads
      have next := (resumes budget).1
      rw [Matcher.resumeWith]
      cases resumed : Matcher.resume budget matcher with
      | ok outcome reached =>
        rw [Action.bind_of_ok resumed]
        rw [resumed] at next
        exact inductionHypothesis next
      | error error reached =>
        rw [Action.bind_of_error resumed]
        rw [resumed] at next
        cases next with
        | excused excuse => exact .excused excuse

end World

end Rewind
