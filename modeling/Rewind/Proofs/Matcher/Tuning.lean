/-
This file proves that the settings of the store never change a match. Two matchers that differ only
in how their stores are tuned do the same in every step of a node and in every rollback. Between
steps their collectors may look at the store at different times; but a run never leaks, so a look
changes nothing that is seen. So the two take every tick in lockstep, and every call reports the
same. Only the threshold of a sweep can break a run off by itself, when it would leave 64 bits.
-/

import Mathlib
import Rewind.Proofs.Matcher.Tandem
import Rewind.Proofs.Store.Tuning

namespace Rewind

/-- Two matchers that differ only in how their stores are tuned. -/
structure Matcher.Aligned (left right : Matcher) : Prop where
  program : left.program = right.program
  settings : left.settings = right.settings
  subject : left.subject = right.subject
  node : left.node = right.node
  signal : left.signal = right.signal
  direction : left.direction = right.direction
  status : left.status = right.status
  outcome : left.outcome = right.outcome
  ticks : left.ticks = right.ticks
  store : left.store.Aligned right.store

namespace Matcher

open Rewind.Action

variable {left right : Matcher} {α β : Type}

theorem Aligned.symm (aligned : left.Aligned right) : right.Aligned left :=
  ⟨aligned.program.symm, aligned.settings.symm, aligned.subject.symm, aligned.node.symm,
    aligned.signal.symm, aligned.direction.symm, aligned.status.symm, aligned.outcome.symm,
    aligned.ticks.symm, aligned.store.symm⟩

theorem Aligned.trans {third : Matcher} (aligned : left.Aligned right)
    (next : right.Aligned third) :
    left.Aligned third :=
  ⟨aligned.program.trans next.program, aligned.settings.trans next.settings,
    aligned.subject.trans next.subject, aligned.node.trans next.node,
    aligned.signal.trans next.signal, aligned.direction.trans next.direction,
    aligned.status.trans next.status, aligned.outcome.trans next.outcome,
    aligned.ticks.trans next.ticks, aligned.store.trans next.store⟩

/-! ### Steps of nodes -/

/-- The operations of a store do not go by how it is tuned. -/
theorem companion_aligned : Store.Companion Store.Aligned id where
  note aligned := aligned.note
  lookup aligned name := by
    rw [aligned.seesSame.lookup, Value.mapCheckpoint_id, Except.map_id]
    rfl
  peek aligned position := by
    rw [aligned.seesSame.peek, Payload.mapCheckpoint_id, Except.map_id]
    rfl
  deref position := Payload.mapCheckpoint_id ▸ Store.aligned_deref position
  alloc payload := Payload.mapCheckpoint_id ▸ Store.aligned_alloc payload
  update position edit _ := Store.aligned_update position edit
  push name value := Value.mapCheckpoint_id ▸ Store.aligned_push name value
  remove := Store.aligned_remove
  collapse := Store.aligned_collapse
  freeze aligned := aligned.freeze
  rollback aligned := aligned.rollback

theorem aligned_iff_paired : left.Aligned right ↔
    left.Paired Store.Aligned Aside.SameStanding right :=
  ⟨fun aligned => ⟨aligned.program, aligned.settings, aligned.subject, aligned.node, aligned.signal,
    aligned.direction, aligned.ticks, aligned.store, ⟨aligned.status, aligned.outcome⟩⟩,
    fun paired => ⟨paired.program, paired.settings, paired.subject, paired.node, paired.signal,
      paired.direction, paired.aside.status, paired.aside.outcome, paired.ticks, paired.store⟩⟩

theorem Aligned.note (aligned : left.Aligned right) (event other : Event) :
    (left.note event).Aligned (right.note other) :=
  { aligned with store := aligned.store.note event other }

theorem Aligned.isDone (aligned : left.Aligned right) : left.isDone = right.isDone :=
  (aligned_iff_paired.mp aligned).isDone

/-- An action does the same to matchers that differ only in how their stores are tuned. -/
def Steady (action : MatcherM α) : Prop := Lockstep Aligned id action action

theorem steady_of_coupled {action : MatcherM α}
    (coupled : Coupled Store.Aligned Aside.SameStanding action) :
    Steady action := fun left right aligned =>
  (coupled left right (aligned_iff_paired.mp aligned)).imp fun _ _ => aligned_iff_paired.mpr

theorem steady_throw (abort : Abort) : Steady (throw abort : MatcherM α) := lockstep_throw abort

/-- Every node does the same, whatever signal it gets. -/
theorem steady_stepNode (id : NodeId) (node : Node) (signal : Signal) :
    Steady (stepNode id node signal) :=
  steady_of_coupled (coupled_stepNode companion_aligned id node signal)

theorem steady_stepBackward : Steady stepBackward :=
  steady_of_coupled (coupled_stepBackward companion_aligned)

/-- Counting a tick, and saying whether the run goes on. -/
theorem steady_countTick (goesOn : Bool) :
    Steady (do modify countTick; return goesOn) :=
  steady_of_coupled (coupled_countTick companion_aligned goesOn)

/-! ### Ticks -/

/-- A run has been broken off since its sweep threshold would have left 64 bits. -/
def Overflowed (result : EStateM.Result Abort Matcher α) : Prop :=
  ∃ reached, result = .error (.defect .thresholdOverflow) reached

/-- Two outcomes agree, unless one of the runs has been broken off by its threshold. -/
def Tracks (result other : EStateM.Result Abort Matcher α) : Prop :=
  Overflowed result ∨ Overflowed other ∨ Agree Aligned id result other

theorem Steady.tracks {action : MatcherM α} (steady : Steady action)
    (aligned : left.Aligned right) :
    Tracks (action left) (action right) := .inr (.inr (steady left right aligned))

theorem Overflowed.bind {action : MatcherM α} {matcher : Matcher}
    (overflowed : Overflowed (action matcher)) (next : α → MatcherM β) :
    Overflowed ((action >>= next) matcher) := by
  obtain ⟨reached, failed⟩ := overflowed
  exact ⟨reached, bind_of_error failed⟩

theorem Tracks.bind {action : MatcherM α} {next : α → MatcherM β}
    (first : Tracks (action left) (action right))
    (second : ∀ value left' right', action left = .ok value left' →
      action right = .ok value right' →
      left'.Aligned right' → Tracks (next value left') (next value right')) :
    Tracks ((action >>= next) left) ((action >>= next) right) := by
  obtain overflowed | overflowed | agree := first
  · exact .inl (overflowed.bind next)
  · exact .inr (.inl (overflowed.bind next))
  · generalize ranLeft : action left = outcome at agree
    generalize ranRight : action right = outcome' at agree
    cases agree with
    | error still =>
      rw [bind_of_error ranLeft, bind_of_error ranRight]
      exact .inr (.inr (.error still))
    | ok same still =>
      cases same
      rw [bind_of_ok ranLeft, bind_of_ok ranRight]
      exact second _ _ _ ranLeft ranRight still

/-- Where nothing leaks, a look of the collector changes only how the store is tuned. -/
theorem Upkept.collect {matcher : Matcher} (upkept : matcher.Upkept) :
    (∃ after, collect matcher = .ok ⟨⟩ after ∧ matcher.Aligned after) ∨
      Overflowed (collect matcher) := by
  have inOrder := upkept.inOrder
  obtain ⟨context, entries, bindings, tidy⟩ := upkept.tail
  have polls := tidy.accounts.stands.poll_aligned tidy.reached inOrder matcher.collector
  have same : matcher.Aligned matcher :=
    ⟨rfl, rfl, rfl, rfl, rfl, rfl, rfl, rfl, rfl, rfl, rfl, inOrder, inOrder⟩
  unfold Matcher.collect
  rw [bind_of_ok (rfl : (get : MatcherM Matcher) matcher = .ok matcher matcher)]
  split
  · obtain ⟨result, store, polled, aligned⟩ | ⟨store, failed⟩ := polls
    · have polling : onStore matcher.collector.poll matcher =
          .ok result { matcher with store := store } := by
        unfold onStore onPart
        rw [polled]
      rw [bind_of_ok polling]
      exact .inl ⟨_, rfl, { same with store := aligned }⟩
    · have failing : onStore matcher.collector.poll matcher =
          .error (.defect .thresholdOverflow) { matcher with store := store } := by
        unfold onStore onPart
        rw [failed]
        rfl
      exact .inr ⟨_, bind_of_error failing⟩
  · exact .inl ⟨matcher, rfl, same⟩

theorem tracks_collect (aligned : left.Aligned right) (upkept : left.Upkept)
    (upkept' : right.Upkept) : Tracks (collect left) (collect right) := by
  obtain ⟨after, collected, same⟩ | overflowed := upkept.collect
  · obtain ⟨after', collected', same'⟩ | overflowed := upkept'.collect
    · rw [collected, collected']
      exact .inr (.inr (.ok rfl (same.symm.trans (aligned.trans same'))))
    · exact .inr (.inl overflowed)
  · exact .inl overflowed

theorem tracks_stepForward (aligned : left.Aligned right) (upkept : left.Upkept)
    (upkept' : right.Upkept) : Tracks (stepForward left) (stepForward right) := by
  unfold stepForward
  rw [bind_of_ok (rfl : (get : MatcherM Matcher) left = .ok left left),
    bind_of_ok (rfl : (get : MatcherM Matcher) right = .ok right right), aligned.node,
    aligned.program, aligned.signal]
  cases right.node with
  | none => exact (steady_throw _).tracks aligned
  | some id =>
    dsimp only
    cases right.program.node? id with
    | none => exact (steady_throw _).tracks aligned
    | some node =>
      refine ((steady_stepNode id node right.signal).tracks aligned).bind
        fun value left' right' stepped stepped' still => ?_
      exact tracks_collect still (maintains_stepNode id node right.signal _ _ _ upkept stepped)
        (maintains_stepNode id node right.signal _ _ _ upkept' stepped')

/-- The two take every tick together. -/
theorem tracks_tick (aligned : left.Aligned right) (upkept : left.Upkept)
    (upkept' : right.Upkept) : Tracks (tick left) (tick right) := by
  unfold tick
  rw [bind_of_ok (rfl : (get : MatcherM Matcher) left = .ok left left),
    bind_of_ok (rfl : (get : MatcherM Matcher) right = .ok right right), aligned.direction]
  cases right.direction with
  | forward =>
    refine (tracks_stepForward aligned upkept upkept').bind fun _ _ _ _ _ still => ?_
    exact (steady_countTick true).tracks still
  | backward =>
    refine (steady_stepBackward.tracks aligned).bind fun resumed _ _ _ _ still => ?_
    cases resumed with
    | true => exact (steady_countTick true).tracks still
    | false => exact (steady_of_coupled (lockstep_pure rfl)).tracks still

theorem tracks_drive (allowance : Nat) (aligned : left.Aligned right) (upkept : left.Upkept)
    (upkept' : right.Upkept) : Tracks (drive allowance left) (drive allowance right) := by
  induction allowance generalizing left right with
  | zero =>
    rw [drive, drive, aligned.isDone]
    split
    · exact .inr (.inr (.ok rfl aligned))
    · exact .inr (.inr (.ok rfl (aligned.note _ _)))
  | succ allowance inductionHypothesis =>
    rw [drive, drive, aligned.isDone]
    split
    · exact .inr (.inr (.ok rfl aligned))
    · obtain ⟨reached, failed⟩ | ⟨reached, failed⟩ | agree := tracks_tick aligned upkept upkept'
      · rw [failed]
        exact .inl ⟨reached, rfl⟩
      · rw [failed]
        exact .inr (.inl ⟨reached, rfl⟩)
      · generalize ticked : tick left = outcome at agree
        generalize ticked' : tick right = outcome' at agree
        cases agree with
        | error still => exact .inr (.inr (.error still))
        | @ok goesOn _ _ _ same still =>
          cases same
          cases goesOn with
          | false => exact .inr (.inr (.ok rfl still))
          | true =>
            exact inductionHypothesis still (maintains_tick _ _ _ upkept ticked)
              (maintains_tick _ _ _ upkept' ticked')

/-! ### Calls -/

theorem tracks_execute (budget : Budget) (aligned : left.Aligned right) (upkept : left.Upkept)
    (upkept' : right.Upkept) : Tracks (execute budget left) (execute budget right) := by
  have ready : Aligned { left with status := .executing } { right with status := .executing } :=
    { aligned with status := rfl }
  unfold execute
  obtain ⟨reached, failed⟩ | ⟨reached, failed⟩ | agree :=
    tracks_drive budget.allowance ready (upkept.alike rfl rfl rfl) (upkept'.alike rfl rfl rfl)
  · rw [failed]
    exact .inl ⟨reached, rfl⟩
  · rw [failed]
    exact .inr (.inl ⟨reached, rfl⟩)
  · generalize drive budget.allowance { left with status := .executing } = outcome at agree
    generalize drive budget.allowance { right with status := .executing } = outcome' at agree
    cases agree with
    | @ok found _ _ _ same still =>
      cases same
      cases found <;> exact .inr (.inr (.ok rfl { still with status := rfl, outcome := rfl }))
    | @error abort _ _ still =>
      cases abort with
      | failed failure => exact .inr (.inr (.error { still.note _ _ with status := rfl }))
      | defect defect => exact .inr (.inr (.error still))

theorem tracks_resume (budget : Budget) (aligned : left.Aligned right) (upkept : left.Upkept)
    (upkept' : right.Upkept) : Tracks (resume budget left) (resume budget right) := by
  unfold resume
  rw [bind_of_ok (rfl : (get : MatcherM Matcher) left = .ok left left),
    bind_of_ok (rfl : (get : MatcherM Matcher) right = .ok right right), aligned.status]
  split
  · exact tracks_execute budget aligned upkept upkept'
  · exact (steady_throw _).tracks aligned

theorem tracks_resumeWith (outcome : Outcome) (budgets : List Budget) (aligned : left.Aligned right)
    (upkept : left.Upkept) (upkept' : right.Upkept) :
    Tracks (resumeWith outcome budgets left) (resumeWith outcome budgets right) := by
  induction budgets generalizing outcome left right with
  | nil => cases outcome <;> exact (steady_of_coupled (lockstep_pure rfl)).tracks aligned
  | cons budget budgets inductionHypothesis =>
    cases outcome with
    | paused =>
      refine (tracks_resume budget aligned upkept upkept').bind
        fun value left' right' resumed resumed' still => ?_
      exact inductionHypothesis value still (stable_upkept.resume budget _ _ _ upkept resumed)
        (stable_upkept.resume budget _ _ _ upkept' resumed')
    | matched => exact (steady_of_coupled (lockstep_pure rfl)).tracks aligned
    | noMatch => exact (steady_of_coupled (lockstep_pure rfl)).tracks aligned

theorem steady_prepare (entry : NodeId) (text : List Char) : Steady (prepare entry text) := by
  intro left right aligned
  have cleared := Store.aligned_clear aligned.store.nextId aligned.store.inOrderLeft
    aligned.store.inOrderRight
  refine (concur_prepare companion_aligned entry (aligned_iff_paired.mp ?_)).imp
    fun _ _ => aligned_iff_paired.mpr
  exact { aligned with store := cleared, subject := rfl, ticks := rfl, outcome := rfl }

theorem tracks_run (entry : NodeId) (text : List Char) (budget : Budget)
    (aligned : left.Aligned right) (unfreed : left.collector.freed = 0)
    (unfreed' : right.collector.freed = 0) :
    Tracks (run entry text budget left) (run entry text budget right) := by
  have inOrder := aligned.store.inOrderLeft
  have inOrder' := aligned.store.inOrderRight
  unfold run
  rw [bind_of_ok (rfl : (get : MatcherM Matcher) left = .ok left left),
    bind_of_ok (rfl : (get : MatcherM Matcher) right = .ok right right), aligned.status,
    aligned.program]
  split
  · exact (steady_throw _).tracks aligned
  · split
    · exact (steady_throw _).tracks aligned
    · refine ((steady_prepare entry text).tracks aligned).bind
        fun ⟨⟩ left' right' prepared prepared' still => ?_
      exact tracks_execute budget still
        (upkept_prepare inOrder.wiped inOrder.idle unfreed prepared)
        (upkept_prepare inOrder'.wiped inOrder'.idle unfreed' prepared')

end Matcher

/-! ### What can be asked of a run -/

theorem Matcher.Aligned.result {left right : Matcher} (aligned : left.Aligned right) :
    left.result = right.result :=
  (aligned_iff_paired.mp aligned).result companion_aligned ⟨aligned.status, aligned.outcome⟩
    aligned.store.seesSame.heapSize

/-- Where two runs stand, and all that can be asked of them, is the same. -/
structure Matcher.SameProgress (left right : Matcher) : Prop where
  node : left.node = right.node
  signal : left.signal = right.signal
  direction : left.direction = right.direction
  cursor : left.subject.cursor = right.subject.cursor
  ticks : left.ticks = right.ticks
  status : left.status = right.status
  result : left.result = right.result

theorem Matcher.Aligned.sameProgress {left right : Matcher} (aligned : left.Aligned right) :
    left.SameProgress right :=
  ⟨aligned.node, aligned.signal, aligned.direction, congrArg Subject.cursor aligned.subject,
    aligned.ticks, aligned.status, aligned.result⟩

/-- The settings of the store never change a match, whatever the program and however the run is cut
into parts. Unless one of two runs is broken off by its sweep threshold, they return the same
outcome or fail the same way, and stand at the same place after as many ticks, with the same status
and result. Since a budget may end after any tick, this holds after every one. -/
theorem settings_never_change_match (program : Program) (run : RunSettings)
    (settings other : StoreSettings) (entry : NodeId) (text : List Char) (first : Budget)
    (others : List Budget) :
    let ran := Matcher.runWith entry text first others (.ofProgram program ⟨settings, run⟩)
    let ran' := Matcher.runWith entry text first others (.ofProgram program ⟨other, run⟩)
    Matcher.Overflowed ran ∨ Matcher.Overflowed ran' ∨
      Action.answer ran = Action.answer ran' ∧
        (Action.reached ran).SameProgress (Action.reached ran') := by
  intro ran ran'
  have fresh : (Matcher.ofProgram program ⟨settings, run⟩).Aligned
      (.ofProgram program ⟨other, run⟩) :=
    ⟨rfl, rfl, rfl, rfl, rfl, rfl, rfl, rfl, rfl, Store.aligned_empty settings other⟩
  have tracks : Matcher.Tracks ran ran' := by
    refine (Matcher.tracks_run entry text first fresh rfl rfl).bind
      fun outcome left right running running' still => ?_
    exact Matcher.tracks_resumeWith outcome others still
      (Matcher.upkept_run (Store.wiped_empty settings) rfl rfl running)
      (Matcher.upkept_run (Store.wiped_empty other) rfl rfl running')
  refine tracks.imp_right (Or.imp_right fun agree => ?_)
  generalize ran = outcome at agree
  generalize ran' = outcome' at agree
  cases agree with
  | ok same reached => exact ⟨congrArg Except.ok same, reached.sameProgress⟩
  | error reached => exact ⟨rfl, reached.sameProgress⟩

end Rewind
