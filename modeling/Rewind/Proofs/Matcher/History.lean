/-
This file proves that a matcher forgets its past. Anything may have been done with it: it may have
run on other texts, some of the runs may have been aborted, and its store and its cursor may have
been changed by hand. Unless it is in the middle of a run, a new run goes as the first run of a new
matcher does. There is one trace: the ids of generations are never given out twice, so the
checkpoints that are bound or stored are numbered from where the ids have got to.
-/

import Mathlib
import Rewind.Proofs.Matcher.Miswiring
import Rewind.Proofs.Matcher.Reuse

namespace Rewind

/-! ### Stores that stay usable -/

/-- A store that can be cleared for another run, whatever it holds. -/
structure Store.Usable (settings : StoreSettings) (store : Store) : Prop where
  settings : store.settings = settings
  inOrder : store.InOrder
  /-- The first id has been given out. -/
  numbered : 0 < store.nextId

namespace Store

variable {settings : StoreSettings} {store after : Store} {α β : Type}

theorem usable_empty (settings : StoreSettings) : (empty settings).Usable settings :=
  ⟨rfl, inOrder_empty settings, Nat.one_pos⟩

theorem Usable.keeps (usable : store.Usable settings) (keeps : store.Keeps after) :
    after.Usable settings :=
  ⟨keeps.settings.trans usable.settings, usable.inOrder.keeps keeps,
    keeps.nextId.symm ▸ usable.numbered⟩

theorem Usable.note (usable : store.Usable settings) (event : Event) :
    (store.note event).Usable settings :=
  ⟨usable.settings, ⟨usable.inOrder.wiped, usable.inOrder.layered, usable.inOrder.idle⟩,
    usable.numbered⟩

theorem Usable.freeze (usable : store.Usable settings) (resume : ResumePoint) :
    (store.freeze resume).2.Usable settings :=
  ⟨usable.settings, (Operation.freeze resume).inOrder_perform usable.inOrder, Nat.succ_pos _⟩

theorem Usable.rollback (usable : store.Usable settings) : store.rollback.2.Usable settings := by
  refine ⟨(retains_rollback store).settings.trans usable.settings,
    Operation.rollback.inOrder_perform usable.inOrder, ?_⟩
  rw [rollback_nextId]
  exact usable.numbered

theorem Usable.restore (usable : store.Usable settings) (checkpoint : Checkpoint) :
    (Action.reached (restore checkpoint store)).Usable settings := by
  obtain ⟨fault, failed, -⟩ | ⟨started, resume, restored, ran, -, -, event, same⟩ :=
    store.restore_cases checkpoint
  · rw [failed]
    exact usable
  · have inOrder := usable.inOrder.restore ran
    rw [ran]
    rw [same] at inOrder ⊢
    exact ⟨usable.settings, inOrder, usable.numbered⟩

theorem Usable.collapse (usable : store.Usable settings) (checkpoint : Checkpoint) :
    (Action.reached (collapse checkpoint store)).Usable settings := by
  obtain ⟨failed, -⟩ | ⟨-, merged, ran, -, nextId, kept, -, -⟩ := store.collapse_cases checkpoint
  · rw [failed]
    exact usable
  · rw [ran]
    exact ⟨kept.trans usable.settings, usable.inOrder.collapse ran, nextId.symm ▸ usable.numbered⟩

/-- No operation makes a store unusable, whether it is refused or not. -/
theorem Usable.perform (usable : store.Usable settings) (operation : Operation) :
    (Action.reached (operation.perform store)).Usable settings := by
  cases operation with
  | access made => exact usable.keeps (made.keeps_perform usable.inOrder.wiped)
  | freeze resume => exact usable.freeze resume
  | rollback => exact usable.rollback
  | restore checkpoint =>
    have still := usable.restore checkpoint
    change (Action.reached ((Store.restore checkpoint >>= fun _ => pure _) store)).Usable settings
    cases ran : Store.restore checkpoint store with
    | ok resume after =>
      rw [ran] at still
      rwa [Action.bind_of_ok ran]
    | error fault after =>
      rw [ran] at still
      rwa [Action.bind_of_error ran]
  | collapse checkpoint =>
    have still := usable.collapse checkpoint
    change (Action.reached ((Store.collapse checkpoint >>= fun _ => pure _) store)).Usable settings
    cases ran : Store.collapse checkpoint store with
    | ok _ after =>
      rw [ran] at still
      rwa [Action.bind_of_ok ran]
    | error fault after =>
      rw [ran] at still
      rwa [Action.bind_of_error ran]
  | clear => exact ⟨usable.settings, Operation.clear.inOrder_perform usable.inOrder, Nat.succ_pos _⟩

/-- A usable store, and another one that differs at most in its journal. -/
structure UsableTwin (settings : StoreSettings) (left right : Store) : Prop where
  same : left.SameContents right
  usable : left.Usable settings

theorem lockstep_usableTwin {onValue : α → β} {action other : StoreM α}
    (same : Action.Lockstep SameContents onValue action other)
    (kept : ∀ store : Store, store.Usable settings →
      (Action.reached (action store)).Usable settings) :
    Action.Lockstep (UsableTwin settings) onValue action other := by
  intro left right twin
  have concur := same left right twin.same
  have still := kept left twin.usable
  generalize action left = outcome at concur still
  generalize other right = outcome' at concur
  cases concur with
  | ok same reached => exact .ok same ⟨reached, still⟩
  | error reached => exact .error ⟨reached, still⟩

theorem lockstep_usableTwin_local {onValue : α → β} {action other : StoreM α}
    (same : Action.Lockstep SameContents onValue action other) (isLocal : Local action) :
    Action.Lockstep (UsableTwin settings) onValue action other :=
  lockstep_usableTwin same fun store usable => usable.keeps (isLocal store usable.inOrder.wiped)

/-- A look of a collector. What it has counted before makes no difference. -/
theorem usableTwin_poll (collector other : Collector) :
    Action.Lockstep (UsableTwin settings) Prod.fst collector.poll other.poll := by
  refine lockstep_usableTwin_local (Action.lockstep_get fun left right same => ?_)
    (local_poll collector)
  rw [same.sweepRequested]
  split
  · refine Action.lockstep_bind (Action.lockstep_modify fun _ _ same =>
      { same with sweepRequested := rfl }) fun _ _ _ => ?_
    exact Action.lockstep_bind (sameContents_sweep false) fun _ _ equal =>
      Action.lockstep_pure equal
  · exact Action.lockstep_pure rfl

/-- What the nodes do keeps a store usable. -/
theorem companion_usableTwin (settings : StoreSettings) :
    Store.Companion (UsableTwin settings) id where
  note twin event other := ⟨twin.same.note event other, twin.usable.note event⟩
  lookup twin := Matcher.companion_sameContents.lookup twin.same
  peek twin := Matcher.companion_sameContents.peek twin.same
  deref position := by
    rw [Payload.mapCheckpoint_id]
    exact lockstep_usableTwin_local (sameContents_deref position) (local_deref position)
  alloc payload := Payload.mapCheckpoint_id ▸
    lockstep_usableTwin_local (sameContents_alloc payload) (local_alloc payload)
  update position edit _ :=
    lockstep_usableTwin_local (sameContents_update position edit) (local_update position edit)
  push name value := Value.mapCheckpoint_id ▸
    lockstep_usableTwin_local (sameContents_push name value) (local_push name value)
  remove name := lockstep_usableTwin_local (sameContents_remove name) (local_remove name)
  collapse checkpoint := lockstep_usableTwin (sameContents_collapse checkpoint)
    fun _ usable => usable.collapse checkpoint
  freeze twin resume :=
    have frozen := twin.same.freeze resume
    ⟨frozen.1, frozen.2, twin.usable.freeze resume⟩
  rollback twin :=
    have rolled := twin.same.rollback
    ⟨rolled.1, rolled.2, twin.usable.rollback⟩

end Store

namespace Matcher

open Rewind.Action

/-! ### Uses of a matcher -/

/-- What can be done with a matcher. -/
inductive Use
  | run (entry : NodeId) (text : List Char) (budget : Budget)
  | matchText (text : List Char)
  | resume (budget : Budget)
  | reset
  | goto (node : NodeId) (signal : Signal)
  | enter (node : NodeId)
  | finish (node : NodeId)
  | backtrack
  | freeze (node : NodeId) (signal : Signal)
  | moveTo (cursor : Nat)
  | advance
  /-- Whatever is done with the store by hand. -/
  | operate (operation : Operation)

/-- What a use leads to, whether it succeeds or not. -/
def Use.apply : Use → Matcher → Matcher
  | run entry text budget, matcher => reached (Matcher.run entry text budget matcher)
  | matchText text, matcher => reached (Matcher.matchText text matcher)
  | resume budget, matcher => reached (Matcher.resume budget matcher)
  | reset, matcher => matcher.reset
  | goto node signal, matcher => matcher.goto node signal
  | enter node, matcher => matcher.enter node
  | finish node, matcher => matcher.finish node
  | backtrack, matcher => matcher.backtrack
  | freeze node signal, matcher => (matcher.freeze node signal).2
  | moveTo cursor, matcher => matcher.moveTo cursor
  | advance, matcher => { matcher with subject := matcher.subject.advance }
  | operate operation, matcher => reached (onStore operation.perform matcher)

/-- A matcher after some uses. -/
def used (matcher : Matcher) (uses : List Use) : Matcher :=
  uses.foldl (fun matcher use => use.apply matcher) matcher

/-- A matcher for a program that can be used again, whatever it was used for. -/
structure Reusable (program : Program) (settings : Settings) (matcher : Matcher) : Prop where
  program : matcher.program = program
  store : matcher.store.Usable settings.store
  settings : matcher.settings = settings.run

/-- The program and the settings of a matcher stay its own. -/
structure Aside.Owns (program : Program) (settings : RunSettings) (left right : Aside) : Prop where
  program : left.program = program
  settings : left.settings = settings

variable {program : Program} {settings : Settings} {matcher left right : Matcher}

/-- A reusable matcher next to one in the same place. -/
abbrev Doubled (program : Program) (settings : Settings) : Matcher → Matcher → Prop :=
  Paired (Store.UsableTwin settings.store) (Aside.Owns program settings.run)

theorem Reusable.doubled (reusable : matcher.Reusable program settings) :
    Doubled program settings matcher matcher :=
  ⟨rfl, rfl, rfl, rfl, rfl, rfl, rfl, ⟨.refl _, reusable.store⟩, reusable.program,
    reusable.settings⟩

theorem Paired.reusable (doubled : Doubled program settings left right) :
    left.Reusable program settings :=
  ⟨doubled.aside.program, doubled.store.usable, doubled.aside.settings⟩

/-- What a matcher does next to another one. -/
theorem reusable_of_concur {α : Type} {result other : EStateM.Result Abort Matcher α}
    (concur : Concur (Doubled program settings) id id result other) :
    (reached result).Reusable program settings := by
  cases concur with
  | ok _ reached => exact reached.reusable
  | error reached => exact reached.reusable

theorem Reusable.execute (reusable : matcher.Reusable program settings) (budget : Budget) :
    (reached (execute budget matcher)).Reusable program settings := by
  refine reusable_of_concur (concur_execute (Store.companion_usableTwin settings.store)
    ⟨fun owns _ => { owns with }, fun owns _ => { owns with }⟩
    (coupled_collect Store.usableTwin_poll fun owns _ => { owns with }) budget reusable.doubled)

theorem Reusable.prepare (reusable : matcher.Reusable program settings) (entry : NodeId)
    (text : List Char) : (reached (prepare entry text matcher)).Reusable program settings := by
  have cleared : matcher.store.clear.Usable settings.store := reusable.store.perform .clear
  have concur : Concur (Doubled program settings) id id (Matcher.prepare entry text matcher)
      (Matcher.prepare entry text matcher) := by
    refine concur_prepare (Store.companion_usableTwin settings.store) entry ?_
    exact ⟨rfl, rfl, rfl, rfl, rfl, rfl, rfl, ⟨.refl _, cleared⟩, reusable.program,
      reusable.settings⟩
  exact reusable_of_concur concur

theorem Reusable.run (reusable : matcher.Reusable program settings) (entry : NodeId)
    (text : List Char) (budget : Budget) :
    (reached (run entry text budget matcher)).Reusable program settings := by
  rw [run_eq]
  split
  · exact reusable
  · split
    · exact reusable
    · have ready := reusable.prepare entry text
      cases prepared : Matcher.prepare entry text matcher with
      | ok _ after =>
        rw [prepared] at ready
        rw [bind_of_ok prepared]
        exact ready.execute budget
      | error abort after =>
        rw [prepared] at ready
        rw [bind_of_error prepared]
        exact ready

theorem Reusable.apply (reusable : matcher.Reusable program settings) (use : Use) :
    (use.apply matcher).Reusable program settings := by
  have withStore {store : Store} (usable : store.Usable settings.store) :
      Reusable program settings { matcher with store := store } :=
    ⟨reusable.program, usable, reusable.settings⟩
  cases use with
  | run entry text budget => exact reusable.run entry text budget
  | matchText text => exact reusable.run matcher.program.root text _
  | resume budget =>
    change (reached ((if matcher.status = .paused then Matcher.execute budget
      else throw (.failed .notPaused) : MatcherM Outcome) matcher)).Reusable program settings
    split
    · exact reusable.execute budget
    · exact reusable
  | reset => exact ⟨reusable.program, reusable.store.perform .clear, reusable.settings⟩
  | goto node signal => exact ⟨reusable.program, reusable.store, reusable.settings⟩
  | enter node => exact ⟨reusable.program, reusable.store, reusable.settings⟩
  | finish node =>
    change (matcher.finish node).Reusable program settings
    unfold Matcher.finish
    split <;> exact ⟨reusable.program, reusable.store, reusable.settings⟩
  | backtrack => exact ⟨reusable.program, reusable.store, reusable.settings⟩
  | freeze node signal => exact withStore (reusable.store.freeze _)
  | moveTo cursor => exact ⟨reusable.program, reusable.store, reusable.settings⟩
  | advance => exact ⟨reusable.program, reusable.store, reusable.settings⟩
  | operate operation =>
    have still := reusable.store.perform operation
    change (reached (onStore operation.perform matcher)).Reusable program settings
    unfold onStore onPart
    cases performed : operation.perform matcher.store with
    | ok answer store =>
      rw [performed] at still
      exact withStore still
    | error fault store =>
      rw [performed] at still
      exact withStore still

/-- Nothing makes a matcher unusable. -/
theorem reusable_used (program : Program) (settings : Settings) (uses : List Use) :
    ((ofProgram program settings).used uses).Reusable program settings := by
  have kept (uses : List Use) (matcher : Matcher) (reusable : matcher.Reusable program settings) :
      (matcher.used uses).Reusable program settings := by
    induction uses generalizing matcher with
    | nil => exact reusable
    | cons use uses inductionHypothesis => exact inductionHypothesis _ (reusable.apply use)
  exact kept uses _ ⟨rfl, Store.usable_empty settings.store, rfl⟩

/-! ### Starting again -/

/-- Two matchers for a program at the same place of a run. The one on the left has had its collector
count something before the run. -/
structure Aside.Ahead (program : Program) (settings : RunSettings) (before : Collector)
    (left right : Aside) : Prop extends left.Follows program settings right where
  sweeps : left.collector.sweeps = before.sweeps + right.collector.sweeps
  freed : left.collector.freed = before.freed + right.collector.freed

/-- A matcher that has been used, and a new one at the same place of its first run. -/
abbrev Repeating (program : Program) (settings : Settings) (shift : Nat) (before : Collector) :
    Matcher → Matcher → Prop :=
  Paired (Store.Renumbered shift settings.store) (Aside.Ahead program settings.run before)

variable {shift : Nat} {before : Collector}

theorem Aside.records_ahead :
    Aside.Records (Aside.Ahead program settings.run before) where
  status ahead _ := { ahead with status := rfl }
  outcome ahead _ := { ahead with outcome := rfl }

theorem Aside.Ahead.counts {left right : Aside}
    (ahead : left.Ahead program settings.run before right) (report : Option SweepReport) :
    Aside.Ahead program settings.run before
      { left with collector := left.collector.record report }
      { right with collector := right.collector.record report } := by
  cases report with
  | none => exact ahead
  | some report =>
    refine { ahead with sweeps := ?_, freed := ?_ }
    · exact congrArg (· + 1) ahead.sweeps
    · exact (congrArg (· + report.freed) ahead.freed).trans (Nat.add_assoc _ _ _)

/-- Where a run stands is overwritten by the next one. -/
def rewound (matcher : Matcher) : Matcher :=
  { matcher with node := none, signal := .enter, direction := .forward, status := .ready }

/-- Preparing a run succeeds, whatever the matcher was used for. -/
theorem prepare_rewound (reusable : matcher.Reusable program settings) (entry : NodeId)
    (text : List Char) :
    ∃ ready, prepare entry text matcher = .ok () ready ∧
      prepare entry text matcher.rewound = .ok () { ready with status := .ready } := by
  have inOrder := reusable.store.inOrder
  obtain ⟨place, context, first, second, third, store, allocating, allocatingNext, pushing,
    pushingNext, -, -⟩ := (Store.stands_clear inOrder.wiped inOrder.idle).openRoot
  have prepares (other : Matcher) (same : other.store = matcher.store) :
      prepare entry text other = .ok ()
        { ({ other with store := store, subject := .ofList text, ticks := 0, outcome := none }.note
            (.started text.length entry)).goto entry .enter with direction := .forward } := by
    rw [← same] at allocating
    unfold prepare
    rw [bind_of_ok (rfl : (modify _ : MatcherM PUnit) other = .ok ⟨⟩ _),
      bind_of_ok (World.onStore_of_ok allocating), bind_of_ok (World.onStore_of_ok allocatingNext),
      bind_of_ok (World.onStore_of_ok pushing), bind_of_ok (World.onStore_of_ok pushingNext)]
    rfl
  exact ⟨_, prepares matcher rfl, prepares matcher.rewound rfl⟩

theorem run_of_known (idle : matcher.status ≠ .paused) {entry : NodeId}
    (known : (matcher.program.node? entry).isSome = true) (text : List Char) (budget : Budget) :
    run entry text budget matcher = (prepare entry text >>= fun _ => execute budget) matcher := by
  have found : ¬ (matcher.program.node? entry).isNone = true := by
    rw [Option.isNone_iff_eq_none]
    exact Option.isSome_iff_ne_none.mp known
  rw [run_eq, if_neg idle, if_neg found]

/-- A run that is not refused goes on as if the matcher had been rewound. -/
theorem run_rewound (reusable : matcher.Reusable program settings) (idle : matcher.status ≠ .paused)
    {entry : NodeId} (known : (matcher.program.node? entry).isSome = true) (text : List Char)
    (budget : Budget) :
    run entry text budget matcher =
      (prepare entry text >>= fun _ => execute budget) matcher.rewound := by
  obtain ⟨ready, prepared, prepared'⟩ := prepare_rewound reusable entry text
  rw [run_of_known idle known, bind_of_ok prepared, bind_of_ok prepared']
  rfl

/-- A new run of a matcher that was used goes as the first run of a new one. -/
theorem concur_run (reusable : matcher.Reusable program settings) (idle : matcher.status ≠ .paused)
    {entry : NodeId} (known : (program.node? entry).isSome = true) (text : List Char)
    (budget : Budget) :
    Concur (Repeating program settings (matcher.store.nextId - 1) matcher.collector) id id
      (run entry text budget matcher) (run entry text budget (.ofProgram program settings)) := by
  have ahead : matcher.store.nextId =
      (Store.empty settings.store).nextId + (matcher.store.nextId - 1) :=
    (Nat.add_sub_cancel' reusable.store.numbered).symm
  have executes : Lockstep (Repeating program settings (matcher.store.nextId - 1) matcher.collector)
      id (execute budget) (execute budget) := fun _ _ repeating =>
    concur_execute (Store.companion_renumbered _ _) Aside.records_ahead
      (coupled_collect Store.renumbered_poll fun ahead report => ahead.counts report) budget
        repeating
  have concur : Concur (Repeating program settings (matcher.store.nextId - 1) matcher.collector) id
      id (prepare entry text matcher.rewound)
        (prepare entry text (.ofProgram program settings)) := by
    refine concur_prepare (Store.companion_renumbered _ _) entry ?_
    exact ⟨reusable.program, reusable.settings, rfl, rfl, rfl, rfl, rfl,
      Store.renumbered_clear ahead reusable.store.inOrder (Store.inOrder_empty _)
        reusable.store.settings rfl,
      ⟨⟨⟨rfl, rfl⟩, reusable.program, reusable.settings⟩, rfl, rfl⟩⟩
  have fresh : (ofProgram program settings).status ≠ .paused := fun same => nomatch same
  rw [run_rewound reusable idle (reusable.program ▸ known), run_of_known fresh known]
  generalize preparing : prepare entry text matcher.rewound = prepared at concur
  generalize preparing' : prepare entry text (ofProgram program settings) = prepared' at concur
  cases concur with
  | error reached =>
    rw [bind_of_error preparing, bind_of_error preparing']
    exact .error reached
  | ok same reached =>
    rw [bind_of_ok preparing, bind_of_ok preparing']
    exact executes _ _ reached

/-! ### What is seen after a run -/

/-- The same is seen of two matchers after a run, but for the ids of generations, which are ahead on
the left. The collector on the left has counted some sweeps before. -/
structure Repeats (shift : Nat) (before : Collector) (left right : Matcher) : Prop where
  result : left.result = right.result
  ticks : left.ticks = right.ticks
  subject : left.subject = right.subject
  direction : left.direction = right.direction
  status : left.status = right.status
  outcome : left.outcome = right.outcome
  statistics : left.store.statistics =
    { right.store.statistics with generation := right.store.statistics.generation + shift }
  bindings : left.store.bindings =
    right.store.bindings.map fun binding => (binding.1, binding.2.mapCheckpoint (.shifted shift))
  cells : ∀ position, left.store.chain.cell position =
    (right.store.chain.cell position).map (Cell.mapCheckpoint (.shifted shift))
  sweeps : left.collector.sweeps = before.sweeps + right.collector.sweeps
  freed : left.collector.freed = before.freed + right.collector.freed

theorem Paired.repeats (repeating : Repeating program settings shift before left right) :
    left.Repeats shift before right where
  result := repeating.result (Store.companion_renumbered shift settings.store)
    repeating.aside.toSameStanding (congrArg Counters.heapSize repeating.store.counters)
  ticks := repeating.ticks
  subject := repeating.subject
  direction := repeating.direction
  status := repeating.aside.status
  outcome := repeating.aside.outcome
  statistics := by
    have newest : left.store.statistics.generation = right.store.statistics.generation + shift :=
      repeating.store.flanks.top.1
    rw [← newest, ← repeating.store.statistics]
  bindings := (List.map_id left.store.bindings).symm.trans
    (repeating.store.mirrors.chain.bindings Forgetting.shallow_nothing
      (Forgetting.shallow_relabelling _))
  cells position := (id_map (left.store.chain.cell position)).symm.trans
    (repeating.store.mirrors.chain.cell Forgetting.shallow_nothing
      (Forgetting.shallow_relabelling _) position)
  sweeps := repeating.aside.sweeps
  freed := repeating.aside.freed

theorem repeats_of_concur {again first : EStateM.Result Abort Matcher Outcome}
    (concur : Concur (Repeating program settings shift before) id id again first) :
    answer again = answer first ∧ (reached again).Repeats shift before (reached first) := by
  cases concur with
  | ok same reached => exact ⟨congrArg Except.ok same, reached.repeats⟩
  | error reached => exact ⟨rfl, reached.repeats⟩

/-- A matcher forgets its past: a run of any length, from any node, on any text, comes to the same
outcome or the same abort as the first run of a new matcher, and the same is seen afterwards. Only
the ids of generations, also those in checkpoints that are bound or stored, are all ahead by one
number. -/
theorem earlier_uses_leave_no_trace (program : Program) (settings : Settings) (uses : List Use)
    (idle : ((ofProgram program settings).used uses).status ≠ .paused) (entry : NodeId)
    (known : (program.node? entry).isSome = true) (text : List Char) (ticks : Nat) :
    ∃ shift,
      let before := (ofProgram program settings).used uses
      let again := run entry text (.ofTicks ticks) before
      let first := run entry text (.ofTicks ticks) (ofProgram program settings)
      answer again = answer first ∧
        (reached again).Repeats shift before.collector (reached first) := by
  exact ⟨_, repeats_of_concur
    (concur_run (reusable_used program settings uses) idle known text (.ofTicks ticks))⟩

/-- An atomic group around the letter `a`. -/
def atomicLetter : Program where
  nodes := #[⟨.text ['a'], some ⟨1, .childDone⟩⟩, ⟨.atomic 0, none⟩]
  root := 1

theorem earlier_uses_leave_no_trace_atomic :
    let uses : List Use :=
      [.run 1 ['b'] (.ofTicks 9), .moveTo 1, .operate (.access (.push "x" .nil))]
    ((ofProgram atomicLetter {}).used uses).status ≠ .paused ∧
      (atomicLetter.node? 1).isSome = true ∧
      ∃ shift,
        let before := (ofProgram atomicLetter {}).used uses
        let again := run 1 ['a'] (.ofTicks 5) before
        let first := run 1 ['a'] (.ofTicks 5) (ofProgram atomicLetter {})
        answer again = answer first ∧
          (reached again).Repeats shift before.collector (reached first) := by
  have idle : ((ofProgram atomicLetter {}).used
      [.run 1 ['b'] (.ofTicks 9), .moveTo 1, .operate (.access (.push "x" .nil))]).status ≠
        .paused := by
    decide +kernel
  exact ⟨idle, rfl, earlier_uses_leave_no_trace atomicLetter {} _ idle 1 rfl ['a'] 5⟩

/-- Checkpoints that are bound tell how often the store was cleared. -/
theorem checkpoints_tell_of_earlier_uses :
    ((ofProgram atomicLetter {}).used [.reset]).status ≠ .paused ∧
      (atomicLetter.node? 1).isSome = true ∧
      (reached (run 1 ['a'] (.ofTicks 1)
          ((ofProgram atomicLetter {}).used [.reset]))).store.bindings ≠
        (reached (run 1 ['a'] (.ofTicks 1) (ofProgram atomicLetter {}))).store.bindings := by
  have ready : ((ofProgram atomicLetter {}).used [.reset]).status = .ready := rfl
  refine ⟨ready ▸ by decide, rfl, ?_⟩
  decide +kernel

end Matcher

end Rewind
