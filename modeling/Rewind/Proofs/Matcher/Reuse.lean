/-
This file proves that a matcher can be used again. What a run leaves behind is thrown away by a
reset, but for the pools, the ids of generations, what the collector has counted, and the journal.
None of that is visible in the next run: whatever was matched before, a matcher that has been reset
reports on a text what a new one reports, down to the numbers of its store. Only the id of the
newest generation tells how much has gone on before.
-/

import Mathlib
import Rewind.Batch.Report
import Rewind.Proofs.Matcher.Pausing
import Rewind.Proofs.Store.Renumbering

namespace Rewind

/-! ### Stores in tandem -/

/-- The operations of a store do not go by how generations are numbered. -/
theorem Store.companion_renumbered (shift : Nat) (settings : StoreSettings) :
    Store.Companion (Store.Renumbered shift settings) (Checkpoint.shifted shift) where
  note same := same.note
  lookup same := same.lookup
  peek same := same.peek
  deref := Store.renumbered_deref
  alloc := Store.renumbered_alloc
  update position _ discreet := Store.renumbered_update position discreet
  push := Store.renumbered_push
  remove := Store.renumbered_remove
  collapse := Store.renumbered_collapse
  freeze same := same.freeze
  rollback same := same.rollback

/-- A look of a collector counts what it reports. -/
theorem Collector.poll_counted (collector : Collector) (store : Store) :
    ∀ report found after, collector.poll store = .ok (report, found) after →
      found = collector.record report := by
  intro report found after polled
  unfold Collector.poll at polled
  rw [Action.bind_of_ok (rfl : (get : StoreM Store) store = .ok store store)] at polled
  split at polled
  · obtain ⟨-, requested, -, polled⟩ := Action.bind_eq_ok_iff.mp polled
    obtain ⟨swept, reached, -, polled⟩ := Action.bind_eq_ok_iff.mp polled
    cases polled
    rfl
  · cases polled
    rfl

theorem Store.Renumbered.statistics {shift : Nat} {settings : StoreSettings} {left right : Store}
    (same : left.Renumbered shift settings right) :
    { left.statistics with generation := right.statistics.generation } = right.statistics := by
  have length : left.chain.length = right.chain.length := congrArg (· + 1) same.flanks.depth
  simp only [Store.statistics, same.counters, length]

namespace Matcher

open Rewind.Action

/-! ### Calls in tandem -/

/-- What is recorded at the end of a call may be recorded for both: a status, and an outcome unless
the call was aborted. -/
structure Aside.Records (aside : Aside → Aside → Prop) : Prop where
  status : ∀ {left right : Aside}, aside left right → ∀ status,
    aside { left with status := status } { right with status := status }
  outcome : ∀ {left right : Aside}, aside left right → ∀ outcome,
    aside { left with outcome := outcome } { right with outcome := outcome }

section

variable {related : Store → Store → Prop} {aside : Aside → Aside → Prop}
  {relabel : Checkpoint → Checkpoint} {left right : Matcher}

/-- The two collectors count the same sweeps. -/
theorem coupled_collect
    (polls : ∀ collector other : Collector, Lockstep related Prod.fst collector.poll other.poll)
    (counts : ∀ {left right : Aside}, aside left right → ∀ report,
      aside { left with collector := left.collector.record report }
        { right with collector := right.collector.record report }) :
    Coupled related aside collect := by
  intro left right paired
  have concur := polls left.collector right.collector left.store right.store paired.store
  unfold collect
  rw [bind_of_ok (rfl : (get : MatcherM Matcher) left = .ok left left),
    bind_of_ok (rfl : (get : MatcherM Matcher) right = .ok right right), paired.direction]
  split
  · have polled := Collector.poll_counted left.collector left.store
    have polled' := Collector.poll_counted right.collector right.store
    simp only [bind, EStateM.bind, onStore, onPart]
    generalize left.collector.poll left.store = outcome at concur polled
    generalize right.collector.poll right.store = outcome' at concur polled'
    cases concur with
    | error reached => exact .error { paired with store := reached }
    | @ok found other _ _ same reached =>
      refine .ok rfl { paired with store := reached, aside := ?_ }
      change aside { left.aside with collector := found.2 }
        { right.aside with collector := other.2 }
      rw [polled found.1 found.2 _ rfl, polled' other.1 other.2 _ rfl,
        show found.1 = other.1 from same]
      exact counts paired.aside other.1
  · exact .ok rfl paired

theorem concur_settle (companion : Store.Companion related relabel) (records : Aside.Records aside)
    {driven other : EStateM.Result Abort Matcher Outcome}
    (concur : Concur (Paired related aside) id id driven other) :
    Concur (Paired related aside) id id (settle driven) (settle other) := by
  cases concur with
  | @ok found _ left right same reached =>
    cases same
    have settled (status : Status) : Paired related aside
        { left with status := status, outcome := some found }
        { right with status := status, outcome := some found } :=
      { reached with aside := records.outcome (records.status reached.aside status) (some found) }
    cases found <;> exact .ok rfl (settled _)
  | @error abort left right reached =>
    cases abort with
    | failed failure =>
      exact .error { reached with
        store := companion.note reached.store _ _
        aside := records.status reached.aside .ended }
    | defect defect => exact .error reached

/-- Two runs that go on side by side. -/
theorem concur_execute (companion : Store.Companion related relabel) (records : Aside.Records aside)
    (collects : Coupled related aside collect) (budget : Budget)
    (paired : Paired related aside left right) :
    Concur (Paired related aside) id id (execute budget left) (execute budget right) := by
  rw [execute_eq, execute_eq]
  refine concur_settle companion records (coupled_drive companion collects _ _ _ ?_)
  exact { paired with aside := records.status paired.aside .executing }

end

/-! ### Runs in tandem -/

/-- Two matchers for a program at the same place of a run, where one of them has run before. -/
structure Aside.Follows (program : Program) (settings : RunSettings) (left right : Aside) : Prop
    extends left.SameStanding right where
  program : left.program = program
  settings : left.settings = settings

theorem Aside.records_follows (program : Program) (settings : RunSettings) :
    Aside.Records (Aside.Follows program settings) where
  status follows _ := { follows with status := rfl }
  outcome follows _ := { follows with outcome := rfl }

/-- A matcher that has run before, and a new one at the same place of its first run. -/
abbrev Abreast (program : Program) (settings : Settings) (shift : Nat) : Matcher → Matcher → Prop :=
  Paired (Store.Renumbered shift settings.store) (Aside.Follows program settings.run)

variable {program : Program} {settings : Settings} {shift : Nat} {left right : Matcher}

theorem concur_execute_abreast (budget : Budget)
    (abreast : Abreast program settings shift left right) :
    Concur (Abreast program settings shift) id id (execute budget left) (execute budget right) :=
  concur_execute (Store.companion_renumbered shift settings.store)
    (Aside.records_follows program settings.run)
    (coupled_collect Store.renumbered_poll fun follows _ => { follows with }) budget abreast

/-! ### Matchers between two texts -/

/-- A matcher as it is made for a program, or as a reset leaves it. -/
structure Unused (program : Program) (settings : Settings) (matcher : Matcher) : Prop where
  program : matcher.program = program
  storeSettings : matcher.store.settings = settings.store
  settings : matcher.settings = settings.run
  inOrder : matcher.store.InOrder
  numbered : 0 < matcher.store.nextId
  node : matcher.node = none
  signal : matcher.signal = .enter
  direction : matcher.direction = .forward
  status : matcher.status = .ready

theorem unused_ofProgram (program : Program) (settings : Settings) :
    (ofProgram program settings).Unused program settings :=
  ⟨rfl, rfl, rfl, Store.inOrder_empty _, Nat.one_pos, rfl, rfl, rfl, rfl⟩

theorem unused_reset {matcher : Matcher} (isProgram : matcher.program = program)
    (isStoreSettings : matcher.store.settings = settings.store)
    (isSettings : matcher.settings = settings.run) (inOrder : matcher.store.InOrder) :
    matcher.reset.Unused program settings :=
  ⟨isProgram, isStoreSettings, isSettings, Operation.clear.inOrder_perform inOrder,
    Nat.succ_pos _, rfl, rfl, rfl, rfl⟩

theorem Unused.reset (unused : left.Unused program settings) : left.reset.Unused program settings :=
  unused_reset unused.program unused.storeSettings unused.settings unused.inOrder

theorem Paired.unused_reset (abreast : Abreast program settings shift left right) :
    left.reset.Unused program settings :=
  Matcher.unused_reset abreast.aside.program abreast.store.settingsLeft abreast.aside.settings
    abreast.store.flanks.inOrderLeft

/-- A new run of a matcher that is as good as new. -/
theorem Unused.concur_prepare (unused : left.Unused program settings) (entry : NodeId)
    (text : List Char) :
    Concur (Abreast program settings (left.store.nextId - 1)) id id (prepare entry text left)
      (prepare entry text (.ofProgram program settings)) := by
  refine Matcher.concur_prepare (Store.companion_renumbered _ _) entry ?_
  have ahead : left.store.nextId = (Store.empty settings.store).nextId + (left.store.nextId - 1) :=
    (Nat.add_sub_cancel' unused.numbered).symm
  exact ⟨unused.program, unused.settings, rfl, unused.node, unused.signal, unused.direction, rfl,
    Store.renumbered_clear ahead unused.inOrder (Store.inOrder_empty _) unused.storeSettings rfl,
    ⟨⟨unused.status, rfl⟩, unused.program, unused.settings⟩⟩

/-- A call that is refused leaves both as they are. Otherwise both run side by side. -/
theorem Unused.matchText_cases (unused : left.Unused program settings) (text : List Char) :
    (∃ failure, matchText text left = .error (.failed failure) left ∧
        matchText text (.ofProgram program settings) =
          .error (.failed failure) (.ofProgram program settings)) ∨
      Concur (Abreast program settings (left.store.nextId - 1)) id id (matchText text left)
        (matchText text (.ofProgram program settings)) := by
  have runs (matcher : Matcher) (unused : matcher.Unused program settings) :
      matchText text matcher =
        if (program.node? program.root).isNone then
          .error (.failed (.unknownNode program.root)) matcher
        else (prepare program.root text >>= fun _ => execute (.ofSettings settings.run))
          matcher := by
    unfold matchText run
    rw [bind_of_ok (rfl : (get : MatcherM Matcher) matcher = .ok matcher matcher),
      bind_of_ok (rfl : (get : MatcherM Matcher) matcher = .ok matcher matcher), unused.status,
      unused.program, unused.settings, if_neg (fun impossible => nomatch impossible)]
    split <;> rfl
  rw [runs left unused, runs _ (unused_ofProgram program settings)]
  split
  · exact .inl ⟨_, rfl, rfl⟩
  · refine .inr ?_
    have concur := unused.concur_prepare program.root text
    generalize preparing : prepare program.root text left = prepared at concur
    generalize preparing' : prepare program.root text (.ofProgram program settings) = prepared'
      at concur
    cases concur with
    | error reached =>
      rw [bind_of_error preparing, bind_of_error preparing']
      exact .error reached
    | ok same reached =>
      rw [bind_of_ok preparing, bind_of_ok preparing']
      exact concur_execute_abreast _ reached

end Matcher

/-! ### Reports -/

/-- Two reports that say the same about a run, apart from how the generations were numbered. -/
structure Report.SameFindings (left right : Report) : Prop where
  outcome : left.outcome = right.outcome
  tree : left.tree = right.tree
  ticks : left.ticks = right.ticks
  /-- All numbers but the id of the newest generation are the same. -/
  statistics : { left.statistics with generation := right.statistics.generation } = right.statistics

/-- Two reports with the same findings, or runs that were aborted in the same way. -/
inductive Report.Agree : Except Abort Report → Except Abort Report → Prop
  | reported {left right : Report} (same : left.SameFindings right) : Agree (.ok left) (.ok right)
  | aborted (abort : Abort) : Agree (.error abort) (.error abort)

namespace Matcher

variable {program : Program} {settings : Settings} {shift : Nat} {left right matcher : Matcher}

theorem Paired.agree_reportOn (abreast : Abreast program settings shift left right)
    (outcome : Outcome) : Report.Agree (left.reportOn outcome) (right.reportOn outcome) := by
  have result := abreast.result (Store.companion_renumbered shift settings.store)
    abreast.aside.toSameStanding (congrArg Counters.heapSize abreast.store.counters)
  unfold reportOn
  rw [result]
  cases right.result with
  | error abort => exact .aborted abort
  | ok tree => exact .reported ⟨rfl, rfl, abreast.ticks, abreast.store.statistics⟩

/-- What is reported on a text by a matcher that has done nothing before. -/
def reportAlone (matcher : Matcher) (text : List Char) : Except Abort Report :=
  match matcher.matchText text with
  | .ok outcome reached => reached.reportOn outcome
  | .error abort _ => .error abort

theorem examine_fst (matcher : Matcher) (text : List Char) :
    (matcher.examine text).1 = matcher.reportAlone text := by
  unfold examine reportAlone
  rcases matcher.matchText text with ⟨outcome, reached⟩ | ⟨failure | defect, reached⟩
  · dsimp only
    rcases reached.reportOn outcome with (failure | defect) | report <;> rfl
  · rfl
  · rfl

/-- A matcher that is as good as new reports what a new one reports. Unless it has run into a
defect, it is as good as new afterwards. -/
theorem Unused.examine (unused : matcher.Unused program settings) (text : List Char) :
    Report.Agree (matcher.examine text).1 ((ofProgram program settings).reportAlone text) ∧
      ((∀ defect, (matcher.examine text).1 ≠ .error (.defect defect)) →
        (matcher.examine text).2.Unused program settings) := by
  rw [examine_fst]
  obtain ⟨failure, failed, failed'⟩ | concur := unused.matchText_cases text
  · unfold reportAlone Matcher.examine
    rw [failed, failed']
    exact ⟨.aborted _, fun _ => unused.reset⟩
  · unfold reportAlone Matcher.examine
    generalize matchText text matcher = outcome at concur
    generalize matchText text (ofProgram program settings) = outcome' at concur
    cases concur with
    | @error abort left right reached =>
      refine ⟨.aborted abort, fun sound => ?_⟩
      cases abort with
      | failed failure => exact reached.unused_reset
      | defect defect => exact absurd rfl (sound defect)
    | @ok outcome other left right same reached =>
      cases same
      refine ⟨reached.agree_reportOn outcome, fun sound => ?_⟩
      dsimp only at sound ⊢
      split
      · rename_i defect found
        exact absurd found (sound defect)
      · exact reached.unused_reset

end Matcher

end Rewind
