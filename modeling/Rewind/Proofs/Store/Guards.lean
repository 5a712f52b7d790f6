/-
This file says what an action keeps however it ends, and how it may fail. The two go together: an
action that is built from others keeps what all of them keep, and fails as one of them does.

All that an access does to a store comes down to a few operations on the tail of its chain. What
these keep, every access keeps, so an invariant has to be checked for them alone; and if it is one
of what is seen from the tail, and an empty store has it, every generation has it after every run.
-/

import Mathlib
import Rewind.Proofs.Store.Views

namespace Rewind

/-! ### Actions -/

namespace Action

variable {ε σ α β : Type} {invariant : σ → Prop} {allowed : ε → Prop}

/-- An outcome in a state with an invariant; if it is a fault, then one of those allowed. -/
inductive EndsWell (invariant : σ → Prop) (allowed : ε → Prop) : EStateM.Result ε σ α → Prop
  | ok {value : α} {state : σ} (kept : invariant state) :
    EndsWell invariant allowed (.ok value state)
  | error {fault : ε} {state : σ} (expected : allowed fault) (kept : invariant state) :
    EndsWell invariant allowed (.error fault state)

/-- An action keeps an invariant however it ends, and fails only in the ways allowed. -/
def Guards (invariant : σ → Prop) (allowed : ε → Prop) (action : EStateM ε σ α) : Prop :=
  ∀ state, invariant state → EndsWell invariant allowed (action state)

theorem EndsWell.kept {result : EStateM.Result ε σ α} (ends : EndsWell invariant allowed result) :
    invariant (reached result) := by
  cases ends with
  | ok kept => exact kept
  | error _ kept => exact kept

theorem EndsWell.expected {fault : ε} {state : σ}
    (ends : EndsWell invariant allowed (.error fault state : EStateM.Result ε σ α)) :
    allowed fault := by
  cases ends with
  | error expected _ => exact expected

theorem guards_pure (value : α) : Guards invariant allowed (pure value : EStateM ε σ α) :=
  fun _ kept => .ok kept

theorem guards_throw {fault : ε} (expected : allowed fault) :
    Guards invariant allowed (throw fault : EStateM ε σ α) := fun _ kept => .error expected kept

theorem guards_get : Guards invariant allowed (get : EStateM ε σ σ) := fun _ kept => .ok kept

theorem guards_modify {change : σ → σ}
    (keeps : ∀ state, invariant state → invariant (change state)) :
    Guards invariant allowed (modify change : EStateM ε σ PUnit) :=
  fun state kept => .ok (keeps state kept)

theorem guards_bind {action : EStateM ε σ α} {next : α → EStateM ε σ β}
    (first : Guards invariant allowed action)
    (second : ∀ value, Guards invariant allowed (next value)) :
    Guards invariant allowed (action >>= next) := by
  intro state kept
  have ends := first state kept
  generalize ran : action state = result at ends
  cases ends with
  | error expected still =>
    rw [bind_of_error ran]
    exact .error expected still
  | ok still =>
    rw [bind_of_ok ran]
    exact second _ _ still

theorem guards_forM (items : List β) {action : β → EStateM ε σ PUnit}
    (each : ∀ item, Guards invariant allowed (action item)) :
    Guards invariant allowed (items.forM action) := by
  induction items with
  | nil => exact guards_pure PUnit.unit
  | cons item items inductionHypothesis =>
    exact guards_bind (each item) fun _ => inductionHypothesis

end Action

/-- A fault is a refusal, or a defect of another kind. -/
def StoreFault.Spares (kind : Defect → Bool) (fault : StoreFault) : Prop :=
  ∀ defect, fault = .defect defect → kind defect = false

theorem StoreFault.spares_refused (kind : Defect → Bool) (error : StoreError) :
    (StoreFault.refused error).Spares kind := fun _ same => nomatch same

theorem StoreFault.spares_defect {kind : Defect → Bool} {defect : Defect}
    (other : kind defect = false) : (StoreFault.defect defect).Spares kind := by
  rintro _ ⟨⟩
  exact other

/-! ### Chains -/

/-- An edit of a cell in use that changes its count at most. -/
def Cell.Recounts (edit : Cell → Except StoreError Cell) : Prop :=
  ∀ cell changed, edit cell = .ok changed → ∃ position payload count other,
    cell = ⟨position, .used payload count⟩ ∧ changed = ⟨position, .used payload other⟩

theorem Cell.recounts_increase : Recounts increase := by
  rintro ⟨position, payload | next⟩ changed edited
  · cases edited
    exact ⟨_, _, _, _, rfl, rfl⟩
  · cases edited

theorem Cell.recounts_decrease : Recounts decrease := by
  rintro ⟨position, ⟨payload, - | count⟩ | next⟩ changed edited
  · cases edited
  · cases edited
    exact ⟨_, _, _, _, rfl, rfl⟩
  · cases edited

/-- Looking changes nothing, and is only ever refused. -/
theorem Snapshot.guards_look {property : Snapshot → Prop} {allowed : StoreFault → Prop}
    (refused : ∀ error, allowed (.refused error)) (position : Nat) :
    Action.Guards property allowed (look position) := by
  intro snapshot kept
  unfold look
  cases snapshot.cell? position with
  | none => exact .error (refused _) kept
  | some cell => exact .ok kept

namespace Chain

open Rewind.Action (Guards guards_pure guards_throw guards_get guards_bind guards_forM)

/-- What is seen from the tail has a property, and the pools are wiped. -/
def Shown (property : Snapshot → Prop) (chain : Chain) : Prop :=
  chain.pools.Wiped ∧ property chain.snapshot

/-- What is kept of the snapshot is kept of what is seen. -/
theorem Follows.guards {α : Type} {action : ChainM α} {flat : SnapshotM α}
    {property : Snapshot → Prop} {allowed : StoreFault → Prop} (follows : Follows action flat)
    (flatly : Guards property allowed flat) : Guards (Shown property) allowed action := by
  rintro chain ⟨wiped, holds⟩
  have shows := follows chain wiped
  have ends := flatly chain.snapshot holds
  generalize action chain = result at shows
  generalize flat chain.snapshot = shown at shows ends
  cases shows with
  | ok keeps =>
    cases ends with
    | ok kept => exact .ok ⟨keeps.wiped wiped, kept⟩
  | error keeps =>
    cases ends with
    | error expected kept => exact .error expected ⟨keeps.wiped wiped, kept⟩

/-- The operations that counting is built from keep an invariant, and fail only in the ways
allowed. -/
structure GuardsCounts (invariant : Chain → Prop) (allowed : StoreFault → Prop) : Prop where
  refused : ∀ error, allowed (.refused error)
  recount : ∀ position {edit : Cell → Except StoreError Cell}, Cell.Recounts edit →
    Guards invariant allowed (change position edit)
  free : ∀ sweeping position, Guards invariant allowed (Chain.free sweeping position)

/-- The operations on cells that all others are built from keep an invariant, and fail only in the
ways allowed. -/
structure GuardsCells (invariant : Chain → Prop) (allowed : StoreFault → Prop) : Prop
    extends GuardsCounts invariant allowed where
  read : ∀ distance position, Guards invariant allowed (Chain.read distance position)
  overwrite : ∀ position payload, Guards invariant allowed (do
    let _ ← own position
    Chain.overwrite position payload)
  alloc : ∀ payload, Guards invariant allowed (Chain.alloc payload)

/-- All operations that the others are built from keep an invariant, and fail only in the ways
allowed. -/
structure GuardsAll (invariant : Chain → Prop) (allowed : StoreFault → Prop) : Prop
    extends GuardsCells invariant allowed where
  push : ∀ name value, Guards invariant allowed (Chain.push name value)
  remove : ∀ name, Guards invariant allowed (Chain.remove name)
  replace : ∀ name value, Guards invariant allowed (Chain.replace name value)
  retune : ∀ chain threshold, invariant chain →
    invariant (chain.mapCounters fun counters => { counters with sweepThreshold := threshold })
  overflow : allowed (.defect .thresholdOverflow)

variable {invariant : Chain → Prop} {allowed : StoreFault → Prop}

namespace GuardsCounts

variable (guards : GuardsCounts invariant allowed)
include guards

theorem ofExcept {α : Type} (answer : Except StoreError α) :
    Guards invariant allowed (ChainM.ofExcept answer) := by
  cases answer with
  | ok value => exact guards_pure value
  | error error => exact guards_throw (guards.refused error)

theorem peek (position : Nat) : Guards invariant allowed (Chain.peek position) :=
  guards_bind guards_get fun chain => guards.ofExcept (chain.cell position)

theorem retain (position : Nat) : Guards invariant allowed (Chain.retain position) :=
  guards_bind (guards.recount position Cell.recounts_increase) fun _ => guards_pure ()

theorem retainAll (positions : List Nat) : Guards invariant allowed (Chain.retainAll positions) :=
  guards_forM positions guards.retain

theorem drop (sweeping : Bool) (position : Nat) :
    Guards invariant allowed (Chain.drop sweeping position) := by
  refine guards_bind (guards.recount position Cell.recounts_decrease) fun cell => ?_
  split
  · exact guards_pure none
  · exact guards.free sweeping position

theorem releaseOne (sweeping : Bool) (position : Nat) :
    Guards invariant allowed (Chain.releaseOne sweeping position) := by
  unfold Chain.releaseOne
  split
  · refine guards_bind (guards.peek position) fun seen => ?_
    split
    · exact guards_pure none
    · exact guards.drop sweeping position
  · exact guards.drop sweeping position

theorem releaseAll (sweeping : Bool) (pending : List Nat) :
    Guards invariant allowed (Chain.releaseAll sweeping pending) := by
  intro chain kept
  fun_induction Chain.releaseAll sweeping pending chain with
  | case1 chain => exact .ok kept
  | case2 chain position rest fault reached failed =>
    have ends := guards.releaseOne sweeping position chain kept
    rw [failed] at ends
    exact .error ends.expected ends.kept
  | case3 chain position rest freed reached released inductionHypothesis =>
    have ends := guards.releaseOne sweeping position chain kept
    rw [released] at ends
    exact inductionHypothesis ends.kept

theorem release (sweeping : Bool) (positions : List Nat) :
    Guards invariant allowed (Chain.release sweeping positions) :=
  guards.releaseAll sweeping positions.reverse

theorem freeAndRelease (sweeping : Bool) (position : Nat) :
    Guards invariant allowed (Chain.freeAndRelease sweeping position) := by
  refine guards_bind (guards.free sweeping position) fun freed => ?_
  cases freed with
  | some payload => exact guards.release sweeping payload.references
  | none => exact guards_pure ()

theorem sweepCell (marks : Array Bool) (position : Nat) :
    Guards invariant allowed (Chain.sweepCell marks position) := by
  unfold Chain.sweepCell
  split
  · exact guards_pure ()
  · refine guards_bind (guards.peek position) fun cell => ?_
    split
    · exact guards_pure ()
    · exact guards.freeAndRelease true position

theorem sweepUnmarked (marks : Array Bool) :
    Guards invariant allowed (Chain.sweepUnmarked marks) := guards_forM _ (guards.sweepCell marks)

end GuardsCounts

end Chain

/-! ### Stores -/

namespace Store

open Rewind.Action (Guards guards_pure guards_get guards_bind)

variable {invariant : Chain → Prop} {allowed : StoreFault → Prop}

/-- An invariant of the chain of a store. -/
def OfChain (invariant : Chain → Prop) (store : Store) : Prop := invariant store.chain

theorem guards_onChain {α : Type} {action : ChainM α} (guards : Guards invariant allowed action) :
    Guards (OfChain invariant) allowed (onChain action) := by
  intro store kept
  have ends := guards store.chain kept
  unfold onChain Action.onPart
  generalize action store.chain = result at ends
  cases ends with
  | ok still => exact .ok still
  | error expected still => exact .error expected still

/-- An action that leaves the chain as it is and does not fail. -/
theorem guards_of_chain {α : Type} {action : StoreM α}
    (ends : ∀ store, ∃ value after, action store = .ok value after ∧ after.chain = store.chain) :
    Guards (OfChain invariant) allowed action := by
  intro store kept
  obtain ⟨value, after, ran, same⟩ := ends store
  rw [ran]
  refine .ok ?_
  unfold OfChain
  rw [same]
  exact kept

section Counts

variable (guards : Chain.GuardsCounts invariant allowed)
include guards

theorem guards_releaseAll (positions : List Nat) :
    Guards (OfChain invariant) allowed (releaseAll positions) :=
  guards_bind guards_get fun store => guards_onChain (guards.release store.sweeping positions)

theorem guards_retainValue (value : Value) :
    Guards (OfChain invariant) allowed (retainValue value) := by
  unfold retainValue
  split
  · exact guards_onChain (guards.retain _)
  · exact guards_pure ()

theorem guards_releaseValue (value : Value) :
    Guards (OfChain invariant) allowed (releaseValue value) := by
  unfold releaseValue
  split
  · exact guards_releaseAll guards _
  · exact guards_pure ()

theorem guards_remove {name : String} (removes : Guards invariant allowed (Chain.remove name)) :
    Guards (OfChain invariant) allowed (remove name) :=
  guards_bind (guards_onChain removes) (guards_releaseValue guards)

end Counts

section Cells

variable (guards : Chain.GuardsCells invariant allowed)
include guards

theorem guards_read {α : Type} (reading : Store → Except StoreError α) :
    Guards (OfChain invariant) allowed (read reading) := by
  intro store kept
  unfold read
  cases reading store with
  | ok value => exact .ok kept
  | error error => exact .error (guards.refused error) kept

theorem guards_deref (position : Nat) : Guards (OfChain invariant) allowed (deref position) := by
  refine guards_bind guards_get fun store => guards_onChain ?_
  exact guards_bind (guards.read _ position) fun cell => guards.ofExcept cell.payload

theorem guards_alloc (payload : Payload) : Guards (OfChain invariant) allowed (alloc payload) := by
  refine guards_bind (guards_onChain (guards.retainAll _)) fun _ =>
    guards_bind (guards_onChain (guards.alloc payload)) fun (position, grown) => ?_
  cases grown with
  | true => exact guards_of_chain fun store => ⟨_, _, rfl, rfl⟩
  | false => exact guards_pure position

theorem guards_assign (position : Nat) (payload : Payload) :
    Guards (OfChain invariant) allowed (assign position payload) :=
  guards_bind (guards_onChain (guards.retainAll _)) fun _ =>
    guards_bind (guards_onChain (guards.overwrite position payload)) fun old =>
      guards_releaseAll guards.toGuardsCounts old.references

theorem guards_freeUnreachable : Guards (OfChain invariant) allowed freeUnreachable := by
  intro store kept
  have ends := guards.sweepUnmarked store.chain.marks store.chain kept
  unfold freeUnreachable onChain Action.onPart
  simp only
  generalize Chain.sweepUnmarked store.chain.marks store.chain = result at ends
  cases ends with
  | ok still => exact .ok still
  | error expected still => exact .error expected still

end Cells

variable (guards : Chain.GuardsAll invariant allowed)
include guards

theorem guards_adjustThreshold : Guards (OfChain invariant) allowed adjustThreshold := by
  intro store kept
  unfold adjustThreshold
  rw [Action.bind_of_ok (rfl : (get : StoreM Store) store = .ok store store)]
  split
  · unfold grownThreshold
    by_cases fits : store.chain.counters.sweepThreshold + 1 < 0x10000000000000000
    · simp only [if_pos fits]
      exact .ok (guards.retune store.chain _ kept)
    · simp only [if_neg fits]
      exact .error guards.overflow kept
  · exact .ok kept

theorem guards_sweep (forced : Bool) : Guards (OfChain invariant) allowed (sweep forced) := by
  refine guards_bind guards_get fun before => ?_
  split
  · exact guards_pure none
  · refine guards_bind (guards_freeUnreachable guards.toGuardsCells) fun _ => guards_bind guards_get
      fun swept => guards_bind (guards_adjustThreshold guards) fun _ => ?_
    exact guards_of_chain fun store => ⟨_, _, rfl, rfl⟩

theorem guards_push (name : String) (value : Value) :
    Guards (OfChain invariant) allowed (push name value) :=
  guards_bind (guards_retainValue guards.toGuardsCounts value) fun _ =>
    guards_onChain (guards.push name value)

theorem guards_replace (name : String) (value : Value) :
    Guards (OfChain invariant) allowed (replace name value) :=
  guards_bind (guards_retainValue guards.toGuardsCounts value) fun _ =>
    guards_bind (guards_onChain (guards.replace name value))
      (guards_releaseValue guards.toGuardsCounts)

theorem guards_rename (name renamed : String) :
    Guards (OfChain invariant) allowed (rename name renamed) :=
  guards_onChain (guards_bind (guards.remove name) (guards.push renamed))

end Store

/-- Every access keeps what the operations keep that it is built from. -/
theorem Access.guards_perform {invariant : Chain → Prop} {allowed : StoreFault → Prop}
    (guards : Chain.GuardsAll invariant allowed) (access : Access) :
    Action.Guards (Store.OfChain invariant) allowed access.perform := by
  have cells := guards.toGuardsCells
  have answered {α : Type} {action : StoreM α}
      (guarded : Action.Guards (Store.OfChain invariant) allowed action) (answer : α → Answer) :
      Action.Guards (Store.OfChain invariant) allowed (do return answer (← action)) :=
    Action.guards_bind guarded fun value => Action.guards_pure (answer value)
  cases access with
  | alloc payload => exact answered (Store.guards_alloc cells payload) _
  | deref position => exact answered (Store.guards_deref cells position) _
  | peek position => exact answered (Store.guards_read cells _) _
  | count position => exact answered (Store.guards_read cells _) _
  | isFreed position => exact answered (Store.guards_read cells _) _
  | assign position payload => exact answered (Store.guards_assign cells position payload) _
  | update position edit =>
    refine answered (Action.guards_bind (Store.guards_deref cells position) fun payload => ?_) _
    exact Action.guards_bind (Store.guards_assign cells position (edit payload).2) fun _ =>
      Action.guards_pure (edit payload).1
  | free position =>
    exact answered (Action.guards_bind Action.guards_get fun store =>
      Store.guards_onChain (cells.freeAndRelease store.sweeping position)) _
  | retain position => exact answered (Store.guards_onChain (cells.retain position)) _
  | release position => exact answered (Store.guards_releaseAll cells.toGuardsCounts [position]) _
  | push name value => exact answered (Store.guards_push guards name value) _
  | lookup name => exact answered (Store.guards_read cells _) _
  | contains name => exact answered (Store.guards_read cells _) _
  | remove name => exact answered (Store.guards_remove cells.toGuardsCounts (guards.remove name)) _
  | replace name value => exact answered (Store.guards_replace guards name value) _
  | rename name renamed => exact answered (Store.guards_rename guards name renamed) _
  | bindings => exact answered (Store.guards_read cells _) _
  | counters => exact answered (Store.guards_read cells _) _
  | sweep forced => exact answered (Store.guards_sweep guards forced) _
  | takeRequest =>
    have taking : Action.Guards (Store.OfChain invariant) allowed Store.takeRequest :=
      Store.guards_of_chain fun store => ⟨_, _, rfl, rfl⟩
    exact answered taking _

/-! ### Runs -/

/-- An operation fails as its accesses do, or because a checkpoint is of no use any more. -/
theorem Operation.fault_allowed {invariant : Chain → Prop} {allowed : StoreFault → Prop}
    (guards : Chain.GuardsAll invariant allowed) (stuck : allowed (.defect .missingResumePoint))
    {store after : Store} (kept : invariant store.chain) {operation : Operation}
    {fault : StoreFault} (failed : operation.perform store = .error fault after) :
    allowed fault := by
  cases operation with
  | access made =>
    have ends := made.guards_perform guards store kept
    change made.perform store = _ at failed
    rw [failed] at ends
    exact ends.expected
  | freeze resume => cases failed
  | rollback => cases failed
  | restore checkpoint =>
    change (Store.restore checkpoint >>= fun resume => pure _) store = _ at failed
    have restoring : Action.EndsWell (fun _ => True) allowed (Store.restore checkpoint store) := by
      unfold Store.restore
      rw [Action.bind_of_ok (rfl : (get : StoreM Store) store = .ok store store)]
      cases store.startedBy? checkpoint with
      | none => exact .error (guards.refused _) trivial
      | some started =>
        simp only
        cases started.resume with
        | none => exact .error stuck trivial
        | some resume => exact .ok trivial
    cases ran : Store.restore checkpoint store with
    | ok resume restored =>
      rw [Action.bind_of_ok ran] at failed
      cases failed
    | error other reached =>
      rw [Action.bind_of_error ran] at failed
      cases failed
      rw [ran] at restoring
      exact restoring.expected
  | collapse checkpoint =>
    change (Store.collapse checkpoint >>= fun _ => pure _) store = _ at failed
    obtain ⟨refused, -⟩ | ⟨-, merged, succeeded, -⟩ := store.collapse_cases checkpoint
    · rw [Action.bind_of_error refused] at failed
      cases failed
      exact guards.refused _
    · rw [Action.bind_of_ok succeeded] at failed
      cases failed
  | clear => cases failed

/-- What an empty store shows, and the operations on the tail keep, is shown by every generation
after every run. -/
theorem Store.eachView_after {property : Snapshot → Prop} {allowed : StoreFault → Prop}
    (guards : Chain.GuardsAll (Chain.Shown property) allowed)
    (blank : ∀ id threshold, property ((Generation.oldest id threshold).over []))
    (settings : StoreSettings) (operations : List Operation) :
    ((empty settings).after operations).InOrder ∧
      ((empty settings).after operations).chain.EachView property := by
  have step : ∀ (store : Store) (operation : Operation),
      store.InOrder ∧ store.chain.EachView property → True →
        (Action.reached (operation.perform store)).InOrder ∧
          (Action.reached (operation.perform store)).chain.EachView property := by
    rintro store operation ⟨inOrder, each⟩ -
    refine ⟨operation.inOrder_perform inOrder, Operation.eachView_perform blank
      inOrder.wiped inOrder.layered each fun access _ => ?_⟩
    exact (access.guards_perform guards store ⟨inOrder.wiped, each.tail⟩).kept.2
  exact (Along.of_forall (fun _ _ => trivial) _ operations).after step
    ⟨inOrder_empty settings, Chain.eachView_of_blank blank _ _ _⟩

end Rewind
