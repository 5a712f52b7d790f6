/-
This file shows that every run comes to an end. A call takes ticks until its allowance is used up,
and more allowance never changes how a run ends. Since every run of a compiled pattern leads to a
result, there is a least number of ticks that it needs: with fewer it pauses, and with as many or
more it comes to one and the same end.
-/

import Mathlib
import Rewind.Proofs.Matcher.Correctness

namespace Rewind

namespace Matcher

/-- A run that ends within an allowance ends in the same way within a larger one. -/
theorem drive_of_larger {allowance larger : Nat} (more : allowance ≤ larger) {matcher : Matcher}
    (ends : ∀ reached, drive allowance matcher ≠ .ok .paused reached) :
    drive larger matcher = drive allowance matcher := by
  induction allowance generalizing larger matcher with
  | zero =>
    by_cases done : matcher.isDone = true
    · rw [drive.eq_def, drive.eq_def, if_pos done, if_pos done]
    · rw [drive, if_neg done] at ends
      exact absurd rfl (ends _)
  | succ allowance inductionHypothesis =>
    obtain ⟨rest, rfl⟩ := Nat.exists_eq_add_one_of_ne_zero (Nat.ne_zero_of_lt more)
    by_cases done : matcher.isDone = true
    · rw [drive, drive, if_pos done, if_pos done]
    · rw [drive, if_neg done] at ends
      rw [drive, drive, if_neg done, if_neg done]
      rcases ticked : tick matcher with ⟨goesOn, after⟩ | ⟨abort, after⟩
      · cases goesOn with
        | false => rfl
        | true =>
          simp only [ticked] at ends
          exact inductionHypothesis (Nat.le_of_succ_le_succ more) ends
      · rfl

theorem execute_of_larger {budget larger : Budget} (more : budget.allowance ≤ larger.allowance)
    {matcher : Matcher} (ends : ∀ reached, execute budget matcher ≠ .ok .paused reached) :
    execute larger matcher = execute budget matcher := by
  have driven : ∀ reached, drive budget.allowance { matcher with status := .executing } ≠
      .ok .paused reached := by
    intro reached paused
    unfold execute at ends
    rw [paused] at ends
    exact ends _ rfl
  unfold execute
  rw [drive_of_larger more driven]

/-- What keeps a run from starting comes first. -/
theorem run_eq (entry : NodeId) (text : List Char) (budget : Budget) (matcher : Matcher) :
    run entry text budget matcher =
      (if matcher.status = .paused then throw (.failed .alreadyRunning)
      else if (matcher.program.node? entry).isNone then throw (.failed (.unknownNode entry))
      else prepare entry text >>= fun _ => execute budget : MatcherM Outcome) matcher := rfl

theorem run_of_larger {budget larger : Budget} (more : budget.allowance ≤ larger.allowance)
    {entry : NodeId} {text : List Char} {matcher : Matcher}
    (ends : ∀ reached, run entry text budget matcher ≠ .ok .paused reached) :
    run entry text larger matcher = run entry text budget matcher := by
  rw [run_eq] at ends
  rw [run_eq, run_eq]
  by_cases paused : matcher.status = .paused
  · rw [if_pos paused, if_pos paused]
  · rw [if_neg paused] at ends
    rw [if_neg paused, if_neg paused]
    by_cases unknown : (matcher.program.node? entry).isNone = true
    · rw [if_pos unknown, if_pos unknown]
    · rw [if_neg unknown] at ends
      rw [if_neg unknown, if_neg unknown]
      rcases prepared : prepare entry text matcher with ⟨_, ready⟩ | ⟨abort, reached⟩
      · rw [Action.bind_of_ok prepared] at ends
        rw [Action.bind_of_ok prepared, Action.bind_of_ok prepared]
        exact execute_of_larger more ends
      · rw [Action.bind_of_error prepared, Action.bind_of_error prepared]

/-- A run needs a number of ticks: with fewer it pauses, and with as many or more it comes to one
and the same end. -/
structure Needs (entry : NodeId) (text : List Char) (matcher : Matcher) (ticks : Nat)
    (ended : EStateM.Result Abort Matcher Outcome) : Prop where
  pauses : ∀ budget : Budget, budget.allowance < ticks →
    ∃ reached, run entry text budget matcher = .ok .paused reached
  ends : ∀ budget : Budget, ticks ≤ budget.allowance → run entry text budget matcher = ended

/-- If some number of ticks is enough, there is a number that is needed. -/
theorem needs_of_enough {entry : NodeId} {text : List Char} {matcher : Matcher}
    (enough : ∃ ticks, ∀ reached, run entry text (.ofTicks ticks) matcher ≠ .ok .paused reached) :
    ∃ ticks, Needs entry text matcher ticks (run entry text (.ofTicks ticks) matcher) := by
  classical
  refine ⟨Nat.find enough, fun budget fewer => ?_, fun budget more => ?_⟩
  · by_contra never
    push Not at never
    -- What a call comes to depends only on the number of ticks that its budget allows.
    have same : run entry text (.ofTicks budget.allowance) matcher =
        run entry text budget matcher :=
      run_of_larger (Nat.le_refl budget.allowance) never
    exact Nat.find_min enough fewer (same ▸ never)
  · have larger : (Budget.ofTicks (Nat.find enough)).allowance ≤ budget.allowance := more
    exact run_of_larger larger (Nat.find_spec enough)

end Matcher

/-- Every attempt to match a text ends: whatever repetitions of whatever a pattern is made of, its
run needs some number of ticks, and with as many it comes to a match or to the end of all attempts.
The iterations of its repetitions must be countable in 32 bits; and a run of so many ticks that they
hardly fit into 64 bits may be broken off where the sweep threshold does not fit either. -/
theorem every_attempt_ends (pattern : Pattern) (search : Bool) (settings : Settings)
    (text : List Char) (countable : ∀ min ∈ pattern.expr.mins, min + text.length < 0xffffffff) :
    ∃ program, pattern.compile search = .ok program ∧
      ∃ ticks ended, Matcher.Needs program.root text (.ofProgram program settings) ticks ended ∧
        match ended with
        | .ok outcome _ => outcome = .matched ∨ outcome = .noMatch
        | .error abort reached =>
          abort = .defect .thresholdOverflow ∧ 0x10000000000000000 ≤ reached.ticks + 4 := by
  obtain ⟨program, compiles, runs⟩ := World.run_ends pattern search text
  obtain ⟨enough, ends⟩ := runs (.ofProgram program settings) rfl (fun same => nomatch same)
    (Store.wiped_empty settings.store) rfl
  obtain ⟨ticks, needs⟩ := Matcher.needs_of_enough
    ⟨enough, (ends (.ofTicks enough)).2 (Nat.le_refl enough)⟩
  refine ⟨program, compiles, ticks, _, needs, ?_⟩
  have never : ∀ reached,
      Matcher.run program.root text (.ofTicks ticks) (.ofProgram program settings) ≠
        .ok .paused reached := by
    rw [← needs.ends (.ofTicks (max ticks enough)) (Nat.le_max_left ticks enough)]
    exact (ends (.ofTicks (max ticks enough))).2 (Nat.le_max_right ticks enough)
  have report := (ends (.ofTicks ticks)).1
  generalize Matcher.run program.root text (.ofTicks ticks) (.ofProgram program settings) = ended
    at report never
  cases report with
  | matched found copied => exact .inl rfl
  | noMatch missing nothing => exact .inr rfl
  | paused waits leads => exact absurd rfl (never _)
  | excused excuse =>
    cases excuse with
    | iterations loose =>
      obtain ⟨min, member, large⟩ := loose
      exact absurd (countable min member) (Nat.not_lt.mpr large)
    | threshold many => exact ⟨rfl, many⟩

/-- The pattern `((?=a)*|a*)*`, which could go on forever without consuming anything. -/
def Pattern.idleLoops : Pattern where
  expr :=
    .repetition
      (.group .plain
        (.alternation
          [.repetition (.group .ahead (.char 'a' ⟨4, 5⟩) ⟨1, 6⟩) 0 none false ⟨1, 7⟩,
            .repetition (.char 'a' ⟨8, 9⟩) 0 none false ⟨8, 10⟩] ⟨1, 10⟩)
        ⟨0, 11⟩)
      0 none false ⟨0, 12⟩
  span := ⟨0, 12⟩

theorem every_attempt_ends_idle_loops :
    (∀ min ∈ Pattern.idleLoops.expr.mins, min + ['b', 'a', 'a'].length < 0xffffffff) ∧
      ∃ program, Pattern.idleLoops.compile true = .ok program ∧
        ∃ ticks ended,
          Matcher.Needs program.root ['b', 'a', 'a'] (.ofProgram program {}) ticks ended ∧
          match ended with
          | .ok outcome _ => outcome = .matched ∨ outcome = .noMatch
          | .error abort reached =>
            abort = .defect .thresholdOverflow ∧ 0x10000000000000000 ≤ reached.ticks + 4 := by
  have countable : ∀ min ∈ Pattern.idleLoops.expr.mins,
      min + ['b', 'a', 'a'].length < 0xffffffff := by
    simp [Pattern.idleLoops, Expr.mins, minsOfAll]
  exact ⟨countable, every_attempt_ends Pattern.idleLoops true {} ['b', 'a', 'a'] countable⟩

end Rewind
