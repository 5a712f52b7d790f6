/-
This file gathers what running compiled patterns comes to: the first match, with all its captures,
or that there is none. It takes finitely many ticks, however the run is cut into parts, and no step
fails as long as iterations and cells can be counted.
-/

import Mathlib
import Rewind.Proofs.Matcher.Interruptions
import Rewind.Proofs.Matcher.Start

namespace Rewind

/-- What does not change when a pattern is run on a text. A repetition may have to be iterated too
often if its least number of iterations and the length of the text together are too large to be
counted. -/
def Pattern.world (pattern : Pattern) (program : Program) (text : List Char) : World where
  program := program
  text := text.toArray
  loose := ∃ min ∈ pattern.expr.mins, 0xffffffff ≤ min + text.length

namespace World

/-- A run of a compiled pattern comes to its first match. -/
theorem run_ends (pattern : Pattern) (search : Bool) (text : List Char) :
    ∃ program, pattern.compile search = .ok program ∧
      ∀ matcher : Matcher, matcher.program = program → matcher.status ≠ .paused →
        matcher.store.chain.pools.Wiped → matcher.store.sweeping = false →
          ∃ enough, ∀ budget : Budget,
            (pattern.world program text).Ends (pattern.firstMatch search text)
              (Matcher.run program.root text budget matcher) ∧
            (enough ≤ budget.allowance →
              ∀ reached, Matcher.run program.root text budget matcher ≠ .ok .paused reached) := by
  obtain ⟨program, child, compiles, found, linked, last, computed⟩ := pattern.compile_spec search
  refine ⟨program, compiles, fun matcher same free wiped idle => ?_⟩
  have admits : (pattern.world program text).Admits pattern.expr.mins := by
    intro min member large
    refine ⟨min, member, ?_⟩
    rwa [← List.size_toArray]
  obtain ⟨context, place, prepared, preparing, acts⟩ :=
    prepare_spec (pattern.world program text) same wiped idle program.root text rfl
  have leads := leads_firstMatch pattern found linked last rfl
    (computed (pattern.world program text) rfl admits) acts
  have runs : ∀ budget, Matcher.run program.root text budget matcher =
      Matcher.execute budget prepared := by
    intro budget
    have known : ¬ (matcher.program.node? program.root).isNone = true := by
      rw [same, found]
      exact Bool.false_ne_true
    unfold Matcher.run
    rw [Action.bind_of_ok (rfl : (get : MatcherM Matcher) matcher = .ok matcher matcher),
      if_neg free, if_neg known, Action.bind_of_ok preparing]
  simp only [runs]
  exact execute_ends leads

/-- A run in parts comes to the same. -/
theorem runWith_ends {world : World} {result : Option MatchTree} {entry : NodeId}
    {text : List Char} {first : Budget} {matcher : Matcher}
    (ends : world.Ends result (Matcher.run entry text first matcher)) (others : List Budget) :
    world.Ends result (Matcher.runWith entry text first others matcher) := by
  unfold Matcher.runWith
  cases ran : Matcher.run entry text first matcher with
  | ok outcome reached =>
    rw [Action.bind_of_ok ran]
    rw [ran] at ends
    exact ends.resumeWith others
  | error error reached =>
    rw [Action.bind_of_error ran]
    rw [ran] at ends
    cases ends with
    | excused excuse => exact .excused excuse

end World

/-- Every pattern compiles, and running it finds exactly its first match. The run takes finitely
many ticks, however it is cut into parts; it can only be broken off where a repetition asks for more
iterations than can be counted, or where it has taken so many ticks that the cells of the heap
cannot be counted any more. -/
theorem run_finds_firstMatch (pattern : Pattern) (search : Bool) (settings : Settings)
    (text : List Char) :
    ∃ program, pattern.compile search = .ok program ∧
      (∃ enough, ∀ budget : Budget, enough ≤ budget.allowance → ∀ reached,
        Matcher.run program.root text budget (.ofProgram program settings) ≠
          .ok .paused reached) ∧
      ∀ first others,
        match Matcher.runWith program.root text first others (.ofProgram program settings) with
        | .ok .matched reached =>
          ∃ tree, pattern.firstMatch search text = some tree ∧ reached.result = .ok (some tree)
        | .ok .noMatch reached =>
          pattern.firstMatch search text = none ∧ reached.result = .ok none
        | .ok .paused reached =>
          ∃ enough, ∀ budget : Budget, enough ≤ budget.allowance → ∀ after,
            Matcher.resume budget reached ≠ .ok .paused after
        | .error (.defect .iterationOverflow) _ =>
          ∃ min ∈ pattern.expr.mins, 0xffffffff ≤ min + text.length
        | .error (.defect .thresholdOverflow) reached => 0x10000000000000000 ≤ reached.ticks + 4
        | .error _ _ => False := by
  obtain ⟨program, compiles, runs⟩ := World.run_ends pattern search text
  obtain ⟨enough, ends⟩ := runs (.ofProgram program settings) rfl (fun same => nomatch same)
    (Store.wiped_empty settings.store) rfl
  refine ⟨program, compiles, ⟨enough, fun budget => (ends budget).2⟩, fun first others => ?_⟩
  have report := World.runWith_ends (ends first).1 others
  generalize Matcher.runWith program.root text first others (.ofProgram program settings) = ran
    at report
  cases report with
  | matched found copied => exact ⟨_, found, copied⟩
  | noMatch missing nothing => exact ⟨missing, nothing⟩
  | paused waits leads =>
    obtain ⟨enough, resumes⟩ := World.resume_ends waits leads
    exact ⟨enough, fun budget => (resumes budget).2⟩
  | excused excuse =>
    cases excuse with
    | iterations loose => exact loose
    | threshold many => exact many

/-- Running a compiled pattern never fails, however it is cut into parts, and after a match there is
a match tree, as long as the iterations of its repetitions can be counted in 32 bits. Only after so
many ticks that they hardly fit into 64 bits the sweep threshold may not fit either. -/
theorem run_never_fails (pattern : Pattern) (search : Bool) (settings : Settings) (text : List Char)
    (countable : ∀ min ∈ pattern.expr.mins, min + text.length < 0xffffffff) :
    ∃ program, pattern.compile search = .ok program ∧
      ∀ first others,
        match Matcher.runWith program.root text first others (.ofProgram program settings) with
        | .ok .matched reached => ∃ tree, reached.result = .ok (some tree)
        | .ok _ _ => True
        | .error abort reached =>
          abort = .defect .thresholdOverflow ∧ 0x10000000000000000 ≤ reached.ticks + 4 := by
  obtain ⟨program, compiles, runs⟩ := World.run_ends pattern search text
  obtain ⟨enough, ends⟩ := runs (.ofProgram program settings) rfl (fun same => nomatch same)
    (Store.wiped_empty settings.store) rfl
  refine ⟨program, compiles, fun first others => ?_⟩
  have report := World.runWith_ends (ends first).1 others
  generalize Matcher.runWith program.root text first others (.ofProgram program settings) = ran
    at report
  cases report with
  | matched found copied => exact ⟨_, copied⟩
  | noMatch missing nothing => trivial
  | paused waits leads => trivial
  | excused excuse =>
    cases excuse with
    | iterations loose =>
      obtain ⟨min, member, large⟩ := loose
      exact absurd (countable min member) (Nat.not_lt.mpr large)
    | threshold many => exact ⟨rfl, many⟩

/-- The pattern `(?<x>a){2,}`. -/
def Pattern.lettersInARow : Pattern where
  expr := .repetition (.group (.named "x") (.char 'a' ⟨5, 6⟩) ⟨0, 7⟩) 2 none false ⟨0, 11⟩
  span := ⟨0, 11⟩

theorem run_never_fails_three_letters :
    (∀ min ∈ Pattern.lettersInARow.expr.mins, min + ['a', 'a', 'a'].length < 0xffffffff) ∧
      ∃ program, Pattern.lettersInARow.compile true = .ok program ∧
        ∀ first others,
          match Matcher.runWith program.root ['a', 'a', 'a'] first others
            (.ofProgram program {}) with
          | .ok .matched reached => ∃ tree, reached.result = .ok (some tree)
          | .ok _ _ => True
          | .error abort reached =>
            abort = .defect .thresholdOverflow ∧ 0x10000000000000000 ≤ reached.ticks + 4 := by
  have countable : ∀ min ∈ Pattern.lettersInARow.expr.mins,
      min + ['a', 'a', 'a'].length < 0xffffffff := by
    simp [Pattern.lettersInARow, Expr.mins]
  exact ⟨countable, run_never_fails Pattern.lettersInARow true {} ['a', 'a', 'a'] countable⟩

end Rewind
