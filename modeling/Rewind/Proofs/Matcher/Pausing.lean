/-
This file shows that pausing is invisible. A call that is allowed `n` ticks and pauses leaves
everything in the matcher that another call needs to go on: what it then does within `m` ticks is
what a single call would have done within `n + m`. Only the journal says that there was a pause, and
the outcome recorded last does until there is another one. So it does not matter into how many calls
a run is cut.
-/

import Mathlib
import Rewind.Proofs.Matcher.Interruptions
import Rewind.Proofs.Matcher.Tandem
import Rewind.Proofs.Matcher.Termination
import Rewind.Proofs.Store.Journals

namespace Rewind

/-! ### The same state -/

/-- Two matchers in the same state. What has been noted may differ, and the outcome that was
recorded last. -/
structure Matcher.SameState (left right : Matcher) : Prop where
  program : left.program = right.program
  settings : left.settings = right.settings
  store : left.store.SameContents right.store
  collector : left.collector = right.collector
  subject : left.subject = right.subject
  node : left.node = right.node
  signal : left.signal = right.signal
  direction : left.direction = right.direction
  status : left.status = right.status
  ticks : left.ticks = right.ticks

/-- Two calls come to the same: the same outcome in the same state, also as it is recorded, or the
same abort in the same state. What can be read off as a result is the same in any case. -/
structure Matcher.SameCall (left right : EStateM.Result Abort Matcher Outcome) : Prop where
  answer : Action.answer left = Action.answer right
  state : (Action.reached left).SameState (Action.reached right)
  recorded : ∀ outcome, Action.answer left = .ok outcome →
    (Action.reached left).outcome = (Action.reached right).outcome
  result : (Action.reached left).result = (Action.reached right).result

namespace Matcher

open Rewind.Action

variable {left right : Matcher}

theorem SameState.refl (matcher : Matcher) : matcher.SameState matcher :=
  ⟨rfl, rfl, .refl matcher.store, rfl, rfl, rfl, rfl, rfl, rfl, rfl⟩

/-- The journal is not read by any operation. -/
theorem companion_sameContents : Store.Companion Store.SameContents id where
  note same := same.note
  lookup same name := by
    rw [same.lookup, Value.mapCheckpoint_id, Except.map_id]
    rfl
  peek same position := by
    rw [same.peek, Payload.mapCheckpoint_id, Except.map_id]
    rfl
  deref position := Payload.mapCheckpoint_id ▸ Store.sameContents_deref position
  alloc payload := Payload.mapCheckpoint_id ▸ Store.sameContents_alloc payload
  update position edit _ := Store.sameContents_update position edit
  push name value := Value.mapCheckpoint_id ▸ Store.sameContents_push name value
  remove := Store.sameContents_remove
  collapse := Store.sameContents_collapse
  freeze same := same.freeze
  rollback same := same.rollback

theorem SameState.result (same : left.SameState right) (recorded : left.outcome = right.outcome) :
    left.result = right.result := by
  have paired : left.Paired Store.SameContents Aside.SameStanding right :=
    ⟨same.program, same.settings, same.subject, same.node, same.signal, same.direction, same.ticks,
      same.store, same.status, recorded⟩
  exact paired.result companion_sameContents paired.aside
    (congrArg (fun chain => chain.counters.heapSize) same.store.chain)

theorem result_of_unmatched {matcher : Matcher} (unmatched : matcher.outcome ≠ some .matched) :
    matcher.result = .ok none := by
  unfold Matcher.result
  rw [if_neg fun matched => unmatched matched.2]
  rfl

theorem SameState.trans {third : Matcher} (same : left.SameState right)
    (next : right.SameState third) : left.SameState third :=
  ⟨same.program.trans next.program, same.settings.trans next.settings, same.store.trans next.store,
    same.collector.trans next.collector, same.subject.trans next.subject, same.node.trans next.node,
    same.signal.trans next.signal, same.direction.trans next.direction,
    same.status.trans next.status, same.ticks.trans next.ticks⟩

namespace SameCall

variable {first second third : EStateM.Result Abort Matcher Outcome}

theorem refl (call : EStateM.Result Abort Matcher Outcome) : SameCall call call :=
  ⟨rfl, .refl _, fun _ _ => rfl, rfl⟩

theorem trans (same : SameCall first second) (next : SameCall second third) :
    SameCall first third :=
  ⟨same.answer.trans next.answer, same.state.trans next.state,
    fun outcome answered => (same.recorded outcome answered).trans
      (next.recorded outcome (same.answer ▸ answered)),
    same.result.trans next.result⟩

/-- Either both calls come to an outcome, or both are aborted. -/
theorem cases (same : SameCall first second) :
    (∃ outcome left right, first = .ok outcome left ∧ second = .ok outcome right) ∨
      ∃ abort left right, first = .error abort left ∧ second = .error abort right := by
  have answer := same.answer
  rcases first with ⟨outcome, left⟩ | ⟨abort, left⟩ <;>
    rcases second with ⟨outcome', right⟩ | ⟨abort', right⟩ <;> cases answer
  · exact .inl ⟨outcome, left, right, rfl, rfl⟩
  · exact .inr ⟨abort, left, right, rfl, rfl⟩

end SameCall

/-! ### Driving -/

/-- Two matchers that have seen the same sweeps, and have no match on record. -/
structure Aside.BothUnmatched (left right : Aside) : Prop where
  collector : left.collector = right.collector
  unmatched : left.outcome ≠ some .matched
  unmatched' : right.outcome ≠ some .matched

/-- The two are in the middle of a call. -/
structure Aside.BothRunning (left right : Aside) : Prop extends left.BothUnmatched right where
  executing : left.status = .executing
  executing' : right.status = .executing

/-- Two matchers at the same point of a call. -/
abbrev InStep (left right : Matcher) : Prop :=
  left.Paired Store.SameContents Aside.BothRunning right

/-- The same sweeps are recorded on both sides. -/
theorem coupled_collect_sameContents {aside : Aside → Aside → Prop}
    (same : ∀ {left right}, aside left right → left.collector = right.collector)
    (steady : ∀ {left right} collector, aside left right →
      aside { left with collector := collector } { right with collector := collector }) :
    Coupled Store.SameContents aside collect := by
  refine lockstep_get fun left right paired => ?_
  rw [paired.direction, show left.collector = right.collector from same paired.aside]
  split
  · refine lockstep_bind (tandem_onStore (Store.sameContents_poll right.collector))
      fun (report, collector) other alike => ?_
    cases alike
    exact lockstep_modify fun _ _ paired => { paired with aside := steady collector paired.aside }
  · exact lockstep_pure rfl

theorem coupled_collect_inStep : Coupled Store.SameContents Aside.BothRunning collect :=
  coupled_collect_sameContents (fun running => running.collector)
    fun _ running => { running with collector := rfl }

/-- Ticks leave the status as it is. -/
theorem status_drive (allowance : Nat) (matcher : Matcher) :
    (reached (drive allowance matcher)).status = matcher.status := by
  have collects : Coupled Store.SameContents
      (fun left right => left = right ∧ left.status = matcher.status) collect :=
    coupled_collect_sameContents (fun both => congrArg Aside.collector both.1)
      fun _ both => ⟨both.1 ▸ rfl, both.2⟩
  have concur := coupled_drive companion_sameContents collects allowance matcher matcher
    ⟨rfl, rfl, rfl, rfl, rfl, rfl, rfl, .refl _, rfl, rfl⟩
  generalize drive allowance matcher = result at concur
  cases concur with
  | ok same still => exact still.aside.2
  | error still => exact still.aside.2

/-- Going on after a pause is like going on without one. -/
theorem drive_add {more : Nat} (allowance : Nat) {matcher paused resumed : Matcher}
    (running : InStep matcher matcher) (pauses : drive allowance matcher = .ok .paused paused)
    (goesOn : InStep paused paused → InStep resumed paused) :
    Concur InStep id id (drive more resumed) (drive (allowance + more) matcher) := by
  induction allowance generalizing matcher with
  | zero =>
    by_cases done : matcher.isDone = true
    · rw [drive, if_pos done] at pauses
      cases pauses
    · rw [drive, if_neg done] at pauses
      cases pauses
      have noted := goesOn (running.note companion_sameContents _ _)
      rw [Nat.zero_add]
      exact coupled_drive companion_sameContents coupled_collect_inStep more _ _
        { noted with store := { noted.store with } }
  | succ allowance inductionHypothesis =>
    by_cases done : matcher.isDone = true
    · rw [drive, if_pos done] at pauses
      cases pauses
    · have concur := coupled_tick companion_sameContents coupled_collect_inStep _ _ running
      rw [Nat.succ_add, drive, if_neg done]
      rw [drive, if_neg done] at pauses
      rcases ticked : tick matcher with ⟨going, after⟩ | ⟨abort, after⟩
      · rw [ticked] at concur pauses
        cases concur with
        | ok same still =>
          cases going with
          | false => cases pauses
          | true => exact inductionHypothesis still pauses
      · rw [ticked] at pauses
        cases pauses

/-! ### Calls -/

/-- What a call makes of where its ticks have led. -/
def settle : EStateM.Result Abort Matcher Outcome → EStateM.Result Abort Matcher Outcome
  | .ok .paused reached =>
    .ok .paused { reached with status := .paused, outcome := some .paused }
  | .ok outcome reached =>
    .ok outcome { reached with status := .ended, outcome := some outcome }
  | .error (.failed failure) reached =>
    .error (.failed failure)
      ({ reached with status := .ended }.note (.aborted reached.ticks failure.message))
  | .error (.defect defect) reached => .error (.defect defect) reached

theorem execute_eq (budget : Budget) (matcher : Matcher) :
    execute budget matcher =
      settle (drive budget.allowance { matcher with status := .executing }) := rfl

theorem InStep.sameState (paired : InStep left right) : left.SameState right :=
  ⟨paired.program, paired.settings, paired.store, paired.aside.collector, paired.subject,
    paired.node, paired.signal, paired.direction,
    paired.aside.executing.trans paired.aside.executing'.symm, paired.ticks⟩

theorem sameCall_settle {driven other : EStateM.Result Abort Matcher Outcome}
    (concur : Concur InStep id id driven other) : SameCall (settle driven) (settle other) := by
  cases concur with
  | @ok found _ left right same reached =>
    cases same
    have settled (status : Status) : SameState { left with status := status, outcome := some found }
        { right with status := status, outcome := some found } :=
      { reached.sameState with status := rfl }
    cases found <;>
      exact ⟨rfl, settled _, fun _ _ => rfl, (settled _).result rfl⟩
  | @error abort left right reached =>
    have stopped := reached.sameState
    have unmatched := reached.aside.unmatched
    have unmatched' := reached.aside.unmatched'
    cases abort with
    | failed failure =>
      refine ⟨rfl, { stopped with store := { stopped.store with }, status := rfl },
        fun _ impossible => (nomatch impossible), ?_⟩
      refine (result_of_unmatched ?_).trans (result_of_unmatched ?_).symm
      · exact unmatched
      · exact unmatched'
    | defect defect =>
      exact ⟨rfl, stopped, fun _ impossible => (nomatch impossible),
        (result_of_unmatched unmatched).trans (result_of_unmatched unmatched').symm⟩

/-- Another call from where an earlier one has paused. -/
theorem sameCall_execute (budget : Budget) (same : left.SameState right)
    (unmatched : left.outcome ≠ some .matched) (unmatched' : right.outcome ≠ some .matched) :
    SameCall (execute budget left) (execute budget right) :=
  sameCall_settle (coupled_drive companion_sameContents coupled_collect_inStep
    budget.allowance { left with status := .executing } { right with status := .executing }
    { same with aside := ⟨⟨same.collector, unmatched, unmatched'⟩, rfl, rfl⟩ })

theorem resume_of_paused {matcher : Matcher} (paused : matcher.status = .paused) (budget : Budget) :
    resume budget matcher = execute budget matcher := by
  unfold resume
  rw [bind_of_ok (rfl : (get : MatcherM Matcher) matcher = .ok matcher matcher), if_pos paused]

/-- What a call that pauses leaves behind. -/
theorem execute_paused {budget : Budget} {matcher paused : Matcher}
    (pauses : execute budget matcher = .ok .paused paused) :
    ∃ reached, drive budget.allowance { matcher with status := .executing } = .ok .paused reached ∧
      paused = { reached with status := .paused, outcome := some .paused } := by
  rw [execute_eq] at pauses
  rcases driven : drive budget.allowance { matcher with status := .executing } with
    ⟨_ | _ | _, reached⟩ | ⟨_ | _, reached⟩ <;> rw [driven] at pauses <;> cases pauses
  exact ⟨reached, rfl, rfl⟩

theorem execute_add {allowance more : Nat} {matcher paused : Matcher}
    (unmatched : matcher.outcome ≠ some .matched)
    (pauses : execute (.ofTicks allowance) matcher = .ok .paused paused) :
    SameCall (resume (.ofTicks more) paused) (execute (.ofTicks (allowance + more)) matcher) := by
  obtain ⟨reached, driven, rfl⟩ := execute_paused pauses
  rw [resume_of_paused rfl, execute_eq, execute_eq]
  have running :
      InStep { matcher with status := .executing } { matcher with status := .executing } :=
    ⟨rfl, rfl, rfl, rfl, rfl, rfl, rfl, .refl _, ⟨⟨rfl, unmatched, unmatched⟩, rfl, rfl⟩⟩
  refine sameCall_settle (drive_add allowance running driven fun still => ?_)
  have unmatched' := still.aside.unmatched'
  exact { still with
    aside := ⟨⟨rfl, (fun same => nomatch same), unmatched'⟩, rfl, still.aside.executing'⟩ }

theorem prepare_outcome {entry : NodeId} {text : List Char} {matcher ready : Matcher}
    (prepared : prepare entry text matcher = .ok ⟨⟩ ready) : ready.outcome = none := by
  have concur : Concur (Paired Store.SameContents fun left _ => left.outcome = none) id id
      (prepare entry text matcher) (prepare entry text matcher) :=
    concur_prepare companion_sameContents entry ⟨rfl, rfl, rfl, rfl, rfl, rfl, rfl, .refl _, rfl⟩
  rw [prepared] at concur
  cases concur with
  | ok same reached => exact reached.aside

/-- A call that starts a run and comes to an outcome prepares it and goes on. -/
theorem run_prepared {entry : NodeId} {text : List Char} {budget : Budget} {outcome : Outcome}
    {matcher reached : Matcher} (ran : run entry text budget matcher = .ok outcome reached) :
    ∃ ready, (∀ budget, run entry text budget matcher = execute budget ready) ∧
      ready.outcome = none := by
  by_cases paused : matcher.status = .paused
  · rw [run_eq, if_pos paused] at ran
    cases ran
  · by_cases unknown : (matcher.program.node? entry).isNone = true
    · rw [run_eq, if_neg paused, if_pos unknown] at ran
      cases ran
    · rw [run_eq, if_neg paused, if_neg unknown] at ran
      obtain ⟨⟨⟩, ready, prepared, -⟩ := bind_eq_ok_iff.mp ran
      refine ⟨ready, fun budget => ?_, prepare_outcome prepared⟩
      rw [run_eq, if_neg paused, if_neg unknown, bind_of_ok prepared]

/-- Another call goes on with a run as a single call would have. -/
theorem run_add {entry : NodeId} {text : List Char} {allowance more : Nat}
    {matcher paused : Matcher}
    (pauses : run entry text (.ofTicks allowance) matcher = .ok .paused paused) :
    SameCall (resume (.ofTicks more) paused)
      (run entry text (.ofTicks (allowance + more)) matcher) := by
  obtain ⟨ready, runs, unmatched⟩ := run_prepared pauses
  rw [runs] at pauses ⊢
  exact execute_add (unmatched ▸ fun same => nomatch same) pauses

/-! ### Many calls -/

/-- An outcome is recorded together with what it means for the matcher. -/
theorem execute_recorded {budget : Budget} {matcher reached : Matcher} {outcome : Outcome}
    (executed : execute budget matcher = .ok outcome reached) :
    reached.outcome = some outcome ∧ (outcome = .paused → reached.status = .paused) := by
  rw [execute_eq] at executed
  generalize drive budget.allowance { matcher with status := .executing } = driven at executed
  rcases driven with ⟨_ | _ | _, driven⟩ | ⟨_ | _, driven⟩ <;> cases executed
  · exact ⟨rfl, fun paused => nomatch paused⟩
  · exact ⟨rfl, fun _ => rfl⟩
  · exact ⟨rfl, fun paused => nomatch paused⟩

/-- Matchers in the same state go on in the same way. -/
theorem sameCall_resumeWith (budgets : List Budget) {outcome : Outcome}
    (same : SameCall (.ok outcome left) (.ok outcome right))
    (recorded : left.outcome = some outcome) (waits : outcome = .paused → left.status = .paused) :
    SameCall (resumeWith outcome budgets left) (resumeWith outcome budgets right) := by
  induction budgets generalizing outcome left right with
  | nil => cases outcome <;> exact same
  | cons budget budgets inductionHypothesis =>
    cases outcome with
    | matched => exact same
    | noMatch => exact same
    | paused =>
      have state : left.SameState right := same.state
      have recorded' : right.outcome = some .paused := (same.recorded _ rfl).symm.trans recorded
      have resumes := resume_of_paused (waits rfl) budget
      have resumes' := resume_of_paused (state.status.symm.trans (waits rfl)) budget
      have next := sameCall_execute budget state
        (recorded ▸ fun same => nomatch same) (recorded' ▸ fun same => nomatch same)
      change SameCall ((resume budget >>= fun outcome => resumeWith outcome budgets) left)
        ((resume budget >>= fun outcome => resumeWith outcome budgets) right)
      obtain ⟨outcome, reached, reached', executed, executed'⟩ |
        ⟨abort, reached, reached', failed, failed'⟩ := next.cases
      · rw [executed, executed'] at next
        rw [bind_of_ok (resumes.trans executed), bind_of_ok (resumes'.trans executed')]
        have record := execute_recorded executed
        exact inductionHypothesis next record.1 record.2
      · rw [failed, failed'] at next
        rw [bind_of_error (resumes.trans failed), bind_of_error (resumes'.trans failed')]
        exact next

/-- A run that does not pause is not changed by a larger budget. -/
theorem run_add_of_ends {entry : NodeId} {text : List Char} {allowance : Nat} {matcher : Matcher}
    (ends : ∀ paused, run entry text (.ofTicks allowance) matcher ≠ .ok .paused paused)
    (more : Nat) :
    run entry text (.ofTicks (allowance + more)) matcher =
      run entry text (.ofTicks allowance) matcher := by
  have larger : (Budget.ofTicks allowance).allowance ≤
      (Budget.ofTicks (allowance + more)).allowance :=
    Nat.le_add_right allowance more
  exact run_of_larger larger ends

theorem run_recorded {entry : NodeId} {text : List Char} {budget : Budget} {outcome : Outcome}
    {matcher reached : Matcher} (ran : run entry text budget matcher = .ok outcome reached) :
    reached.outcome = some outcome ∧ (outcome = .paused → reached.status = .paused) := by
  obtain ⟨ready, runs, -⟩ := run_prepared ran
  exact execute_recorded (runs budget ▸ ran)

theorem resumeWith_of_ended {outcome : Outcome} (ended : outcome ≠ .paused)
    (budgets : List Budget) :
    resumeWith outcome budgets = pure outcome := by
  cases outcome with
  | paused => exact absurd rfl ended
  | matched => cases budgets <;> rfl
  | noMatch => cases budgets <;> rfl

/-- Calls that go on with a run come to what a single call would have come to. -/
theorem sameCall_resumeWith_run {entry : NodeId} {text : List Char} {matcher paused : Matcher}
    (parts : List Nat) {allowance : Nat}
    (pauses : run entry text (.ofTicks allowance) matcher = .ok .paused paused) :
    SameCall (resumeWith .paused (parts.map Budget.ofTicks) paused)
      (run entry text (.ofTicks (allowance + parts.sum)) matcher) := by
  induction parts generalizing allowance paused with
  | nil => exact pauses ▸ .refl _
  | cons part parts inductionHypothesis =>
    have next : SameCall (resume (.ofTicks part) paused) _ := run_add pauses
    have resumes := resume_of_paused ((run_recorded pauses).2 rfl) (.ofTicks part)
    rw [List.sum_cons, ← Nat.add_assoc]
    change SameCall
      ((resume (.ofTicks part) >>= fun outcome =>
        resumeWith outcome (parts.map Budget.ofTicks)) paused) _
    obtain ⟨outcome, reached, reached', resumed, ran⟩ |
      ⟨abort, reached, reached', failed, failed'⟩ :=
      next.cases
    · have record := execute_recorded (resumes ▸ resumed)
      rw [resumed, ran] at next
      rw [bind_of_ok resumed]
      refine (sameCall_resumeWith _ next record.1 record.2).trans ?_
      by_cases again : outcome = .paused
      · subst again
        exact inductionHypothesis ran
      · have ends : ∀ paused,
            run entry text (.ofTicks (allowance + part)) matcher ≠ .ok .paused paused := by
          rw [ran]
          exact fun _ same => again (EStateM.Result.ok.inj same).1
        rw [run_add_of_ends ends, ran, resumeWith_of_ended again]
        exact .refl _
    · have ends : ∀ paused,
          run entry text (.ofTicks (allowance + part)) matcher ≠ .ok .paused paused := by
        rw [failed']
        exact fun _ same => nomatch same
      rw [bind_of_error failed, run_add_of_ends ends, failed']
      rw [failed, failed'] at next
      exact next

end Matcher

/-- Pausing is invisible, whatever the program, the text and the state the matcher starts from. A
call that goes on with a paused run comes to what a single call with both budgets comes to: to the
same outcome or abort, in the same state. A run that does not pause does not with more ticks either,
and ends the same. So a run may be cut into any calls: its outcome, its state and its result are
those of the run that is not cut. -/
theorem pausing_is_invisible (matcher : Matcher) (entry : NodeId) (text : List Char)
    (allowance more : Nat) :
    (∀ paused, Matcher.run entry text (.ofTicks allowance) matcher = .ok .paused paused →
      Matcher.SameCall (Matcher.resume (.ofTicks more) paused)
        (Matcher.run entry text (.ofTicks (allowance + more)) matcher)) ∧
    ((∀ paused, Matcher.run entry text (.ofTicks allowance) matcher ≠ .ok .paused paused) →
      Matcher.run entry text (.ofTicks (allowance + more)) matcher =
        Matcher.run entry text (.ofTicks allowance) matcher) ∧
    ∀ parts : List Nat,
      Matcher.SameCall
        (Matcher.runWith entry text (.ofTicks allowance) (parts.map Budget.ofTicks) matcher)
        (Matcher.run entry text (.ofTicks (allowance + parts.sum)) matcher) := by
  refine ⟨fun _ => Matcher.run_add, fun ends => Matcher.run_add_of_ends ends more, fun parts => ?_⟩
  unfold Matcher.runWith
  rcases ran : Matcher.run entry text (.ofTicks allowance) matcher with
    ⟨outcome, reached⟩ | ⟨abort, reached⟩
  · rw [Action.bind_of_ok ran]
    by_cases pauses : outcome = .paused
    · subst pauses
      exact Matcher.sameCall_resumeWith_run parts ran
    · rw [Matcher.resumeWith_of_ended pauses, Matcher.run_add_of_ends, ran]
      · exact .refl _
      · rw [ran]
        exact fun _ same => pauses (EStateM.Result.ok.inj same).1
  · rw [Action.bind_of_error ran, Matcher.run_add_of_ends, ran]
    · exact .refl _
    · rw [ran]
      exact fun _ same => nomatch same

/-- A program that matches either of two letters. -/
def Program.eitherLetter : Program :=
  { nodes := #[{ node := .alternation [1, 2] },
      { node := .text ['a'], link := some { parent := 0, signal := .childDone } },
      { node := .text ['b'], link := some { parent := 0, signal := .childDone } }]
    root := 0 }

/-- A run pauses where the first letter has not matched, on its way back to the choice it has
left. -/
theorem pausing_is_invisible_on_the_way_back :
    let fresh := Matcher.ofProgram .eitherLetter {}
    ∃ paused, Matcher.run 0 ['b'] (.ofTicks 2) fresh = .ok .paused paused ∧
      paused.direction = .backward ∧ paused.store.chain.length = 2 ∧
      Matcher.SameCall (Matcher.resume (.ofTicks 9) paused)
        (Matcher.run 0 ['b'] (.ofTicks (2 + 9)) fresh) := by
  intro fresh
  have pauses : Matcher.run 0 ['b'] (.ofTicks 2) fresh = .ok .paused
      (Action.reached (Matcher.run 0 ['b'] (.ofTicks 2) fresh)) :=
    Action.eq_ok_of_answer (by decide +kernel)
  exact ⟨_, pauses, by decide +kernel, by decide +kernel,
    (pausing_is_invisible fresh 0 ['b'] 2 9).1 _ pauses⟩

end Rewind
