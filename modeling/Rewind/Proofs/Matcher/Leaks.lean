/-
This file proves that runs never leak, whatever the program. Each move of a node either leaves the
store alone or keeps it tidy, in the newest generation and in all below; so the same holds of every
step, of every tick and of every call that is not broken off. When the run of a compiled pattern
ends with a match, nothing but the match is left.
-/

import Mathlib
import Rewind.Proofs.Matcher.Correctness
import Rewind.Proofs.Matcher.Housekeeping

namespace Rewind

/-! ### Maintaining an invariant -/

/-- An action that succeeds keeps an invariant. -/
def Action.Maintains {ε σ α : Type} (invariant : σ → Prop) (action : EStateM ε σ α) : Prop :=
  ∀ state value after, invariant state → action state = .ok value after → invariant after

namespace Action

variable {ε σ α β : Type} {invariant : σ → Prop}

theorem maintains_pure (value : α) : Maintains invariant (pure value : EStateM ε σ α) := by
  rintro state _ _ holds ⟨⟩
  exact holds

theorem maintains_get : Maintains invariant (get : EStateM ε σ σ) := by
  rintro state _ _ holds ⟨⟩
  exact holds

theorem maintains_throw (error : ε) : Maintains invariant (throw error : EStateM ε σ α) :=
  fun _ _ _ _ impossible => nomatch impossible

theorem maintains_bind {action : EStateM ε σ α} {next : α → EStateM ε σ β}
    (first : Maintains invariant action) (second : ∀ value, Maintains invariant (next value)) :
    Maintains invariant (action >>= next) := by
  intro state value after holds ran
  obtain ⟨found, reached, ranFirst, ranSecond⟩ := bind_eq_ok_iff.mp ran
  exact second found reached value after (first state found reached holds ranFirst) ranSecond

theorem maintains_modify {change : σ → σ}
    (keeps : ∀ state, invariant state → invariant (change state)) :
    Maintains invariant (modify change : EStateM ε σ PUnit) := by
  intro state value after holds ran
  rw [← modify_eq_ok_iff.mp ran]
  exact keeps state holds

theorem maintains_modifyGet {change : σ → α × σ}
    (keeps : ∀ state, invariant state → invariant (change state).2) :
    Maintains invariant (modifyGet change : EStateM ε σ α) := by
  rintro state _ _ holds ⟨⟩
  exact keeps state holds

end Action

/-! ### Upkeep -/

/-- A view is tidy, and counts exactly. -/
def Snapshot.Tidy (snapshot : Snapshot) : Prop :=
  ∃ context entries bindings, snapshot.Accounts 0 entries bindings ∧
    Entry.Tidy context entries bindings

/-- A matcher keeps its store tidy in every generation, and its collector has freed nothing. -/
structure Matcher.Upkept (matcher : Matcher) : Prop where
  inOrder : matcher.store.InOrder
  tidy : matcher.store.chain.EachView Snapshot.Tidy
  unfreed : matcher.collector.freed = 0

namespace Matcher

open Rewind.Action

variable {matcher after : Matcher} {α β : Type}

theorem Upkept.tail (upkept : matcher.Upkept) :
    ∃ context entries bindings, matcher.store.Tidy context entries bindings := by
  obtain ⟨context, entries, bindings, accounts, tidy⟩ := upkept.tidy.tail
  exact ⟨context, entries, bindings, upkept.inOrder.accounts accounts, tidy⟩

/-- Only the chain and what the collector has freed matter. -/
theorem Upkept.alike (upkept : matcher.Upkept) (chain : after.store.chain = matcher.store.chain)
    (sweeping : after.store.sweeping = matcher.store.sweeping)
    (collector : after.collector = matcher.collector) : after.Upkept := by
  refine ⟨⟨?_, ?_, sweeping.trans upkept.inOrder.idle⟩, ?_, ?_⟩
  · exact chain ▸ upkept.inOrder.wiped
  · exact chain ▸ upkept.inOrder.layered
  · exact chain ▸ upkept.tidy
  · exact collector ▸ upkept.unfreed

/-- The newest generation has been changed, and is tidy again. -/
theorem Upkept.withTail (upkept : matcher.Upkept) {store : Store}
    (keeps : matcher.store.Keeps store)
    {context : Nat} {entries : Multiset Entry} {bindings : Bindings}
    (tidy : store.Tidy context entries bindings) : Upkept { matcher with store := store } :=
  ⟨upkept.inOrder.keeps keeps, upkept.tidy.keeps keeps.chain
    ⟨context, entries, bindings, tidy.accounts.snapshot, tidy.entries⟩, upkept.unfreed⟩

theorem onStore_ok {action : StoreM α} {value : α}
    (ran : onStore action matcher = .ok value after) :
    ∃ store, action matcher.store = .ok value store ∧ after = { matcher with store := store } := by
  unfold onStore onPart at ran
  cases result : action matcher.store with
  | ok found reached =>
    rw [result] at ran
    cases ran
    exact ⟨reached, rfl, rfl⟩
  | error fault reached =>
    rw [result] at ran
    cases ran

theorem maintains_onStore {action : StoreM α} (isLocal : Store.Local action)
    (tidies : ∀ {store after : Store} {value : α} {context : Nat} {entries : Multiset Entry}
      {bindings : Bindings}, store.Tidy context entries bindings → action store = .ok value after →
        ∃ changed bound, after.Tidy context changed bound) :
    Maintains Upkept (onStore action) := by
  intro matcher value after upkept ran
  obtain ⟨store, succeeded, rfl⟩ := onStore_ok ran
  obtain ⟨context, entries, bindings, tidy⟩ := upkept.tail
  obtain ⟨changed, bound, still⟩ := tidies tidy succeeded
  exact upkept.withTail (isLocal.keeps upkept.inOrder.wiped succeeded) still

theorem maintains_ofStore (answer : Except StoreError α) : Maintains Upkept (ofStore answer) := by
  cases answer with
  | ok value => exact maintains_pure value
  | error error => exact maintains_throw _

theorem maintains_confused (node : NodeId) (confusion : Confusion) :
    Maintains Upkept (confused node confusion : MatcherM α) := maintains_throw _

/-! ### Moves -/

theorem Upkept.moveTo (upkept : matcher.Upkept) (cursor : Nat) : (matcher.moveTo cursor).Upkept :=
  upkept.alike rfl rfl rfl

theorem Upkept.finish (upkept : matcher.Upkept) (node : NodeId) : (matcher.finish node).Upkept := by
  unfold Matcher.finish
  split <;> exact upkept.alike rfl rfl rfl

theorem Upkept.freeze (upkept : matcher.Upkept) (node : NodeId) (signal : Signal) :
    (matcher.freeze node signal).2.Upkept :=
  ⟨Operation.inOrder_perform (.freeze _) upkept.inOrder, upkept.tidy.extend _ _, upkept.unfreed⟩

theorem maintains_finish (node : NodeId) :
    Maintains Upkept (modify fun matcher => matcher.finish node : MatcherM PUnit) :=
  maintains_modify fun _ upkept => upkept.finish node

theorem maintains_enter (node : NodeId) :
    Maintains Upkept (modify fun matcher => matcher.enter node : MatcherM PUnit) :=
  maintains_modify fun _ upkept => upkept.alike rfl rfl rfl

theorem maintains_leaveChoice (node : NodeId) (signal : Signal) :
    Maintains Upkept (modify fun matcher => matcher.leaveChoice node signal : MatcherM PUnit) :=
  maintains_modify fun _ upkept => upkept.freeze node signal

theorem maintains_backtrack : Maintains Upkept (modify backtrack : MatcherM PUnit) :=
  maintains_modify fun _ upkept => upkept.alike rfl rfl rfl

theorem maintains_remove {name : String} (different : name ≠ globalName) :
    Maintains Upkept (onStore (Store.remove name)) :=
  maintains_onStore (Store.local_remove name) fun tidy removing => tidy.remove different removing

theorem maintains_deref (position : Nat) : Maintains Upkept (onStore (Store.deref position)) :=
  maintains_onStore (Store.local_deref position) fun tidy reading => ⟨_, _, tidy.deref reading⟩

theorem maintains_update {edit : Payload → α × Payload}
    (discreet : ∀ payload, (payload.items?.isSome = true → payload.references = []) →
      (edit payload).2.references = payload.references ∧
        (edit payload).2.items?.isSome = payload.items?.isSome) (position : Nat) :
    Maintains Upkept (onStore (Store.update position edit)) := by
  refine maintains_onStore (Store.local_update position edit) fun tidy updating => ?_
  obtain ⟨changed, still⟩ := tidy.update discreet updating
  exact ⟨changed, _, still⟩

theorem maintains_collapse (checkpoint : Checkpoint) :
    Maintains Upkept (onStore (Store.collapse checkpoint)) := by
  intro matcher value after upkept ran
  obtain ⟨store, succeeded, rfl⟩ := onStore_ok ran
  refine ⟨upkept.inOrder.collapse succeeded, ?_, upkept.unfreed⟩
  obtain ⟨failed, -⟩ | ⟨-, merged, collapsed, chain, -⟩ := matcher.store.collapse_cases checkpoint
  · rw [succeeded] at failed
    cases failed
  · rw [succeeded] at collapsed
    cases collapsed
    exact chain ▸ upkept.tidy.mergeTo upkept.inOrder.layered _

/-- A frame that refers to nothing is put on the stack. -/
theorem maintains_openFrame {items : List Value} (plain : (Payload.list items).references = [])
    (name : String) {next : Nat → MatcherM β} (goesOn : ∀ frame, Maintains Upkept (next frame)) :
    Maintains Upkept (do
      let frame ← onStore (Store.alloc (.list items))
      onStore (Store.push name (.ref frame))
      next frame) := by
  intro matcher value after upkept ran
  obtain ⟨frame, _, allocating, ranRest⟩ := bind_eq_ok_iff.mp ran
  obtain ⟨⟨⟩, _, pushing, goingOn⟩ := bind_eq_ok_iff.mp ranRest
  obtain ⟨first, allocatingStore, rfl⟩ := onStore_ok allocating
  obtain ⟨second, pushingStore, rfl⟩ := onStore_ok pushing
  obtain ⟨context, entries, bindings, tidy⟩ := upkept.tail
  have allocated := (Store.local_alloc _).keeps upkept.inOrder.wiped allocatingStore
  have pushed := (Store.local_push name _).keeps (allocated.chain.wiped upkept.inOrder.wiped)
    pushingStore
  have opened := tidy.openFrame plain allocatingStore pushingStore
  exact goesOn frame _ value after (upkept.withTail (allocated.trans pushed) opened) goingOn

/-! ### Nodes -/

theorem maintains_finishIf (passed : Bool) (id : NodeId) (cursor : Nat) :
    Maintains Upkept (finishIf passed id cursor) := by
  refine maintains_modify fun matcher upkept => ?_
  split
  · exact (upkept.moveTo _).finish id
  · exact upkept.alike rfl rfl rfl

theorem maintains_tryBranch (id : NodeId) (children : List NodeId) (branch : Nat) :
    Maintains Upkept (tryBranch id children branch) := by
  refine maintains_modify fun matcher upkept => ?_
  split
  · exact upkept.alike rfl rfl rfl
  · split
    · exact (upkept.freeze id _).alike rfl rfl rfl
    · exact upkept.alike rfl rfl rfl

theorem maintains_stepAlternation (id : NodeId) (children : List NodeId) (signal : Signal) :
    Maintains Upkept (stepAlternation id children signal) := by
  unfold stepAlternation
  split
  · exact maintains_tryBranch id children 0
  · exact maintains_finish id
  · exact maintains_tryBranch id children _

theorem maintains_readFrame (id : NodeId) (name : String) :
    Maintains Upkept (readFrame id name) := by
  refine maintains_bind maintains_get fun _ => maintains_bind (maintains_ofStore _) fun value => ?_
  split
  · exact maintains_confused id _
  · refine maintains_bind (maintains_deref _) fun payload => ?_
    split
    · exact maintains_pure _
    · exact maintains_confused id _

theorem maintains_repetitionFrame (id : NodeId) : Maintains Upkept (repetitionFrame id) := by
  refine maintains_bind (maintains_readFrame id repetitionName) fun frame => ?_
  split
  · exact maintains_pure _
  · exact maintains_confused id _

/-- Setting an item of a frame to something that refers to nothing. -/
theorem maintains_updateFrame (frame index : Nat) {value : Value}
    (plain : value.reference? = none) :
    Maintains Upkept (updateFrame frame index value) := by
  refine maintains_bind (maintains_update (fun payload isPlain => ?_) frame) fun present => ?_
  · cases payload with
    | list items =>
      refine ⟨?_, rfl⟩
      have none : ∀ item ∈ items, item.reference? = none :=
        List.filterMap_eq_nil_iff.mp (isPlain rfl)
      change (items.set index value).filterMap _ = items.filterMap _
      rw [List.filterMap_eq_nil_iff.mpr none, List.filterMap_eq_nil_iff]
      intro item member
      obtain old | rfl := List.mem_or_eq_of_mem_set member
      · exact none item old
      · exact plain
    | object fields => exact ⟨rfl, rfl⟩
    | capture record => exact ⟨rfl, rfl⟩
  · split
    · exact maintains_pure ()
    · exact maintains_throw _

theorem maintains_iterate (frame : Nat) (child : NodeId) : Maintains Upkept (iterate frame child) :=
  maintains_bind maintains_get fun _ =>
    maintains_bind (maintains_updateFrame frame 1 rfl) fun _ => maintains_enter child

theorem maintains_leaveRepetition (id : NodeId) : Maintains Upkept (leaveRepetition id) :=
  maintains_bind (maintains_remove (by decide)) fun _ => maintains_finish id

theorem maintains_decideRepetition (id child : NodeId) (min : Nat)
    (max : Option Nat) (lazily : Bool) (frame count : Nat) :
    Maintains Upkept (decideRepetition id child min max lazily frame count) := by
  unfold decideRepetition
  split
  · exact maintains_iterate frame child
  · split
    · exact maintains_leaveRepetition id
    · split
      · exact maintains_bind (maintains_leaveChoice id _) fun _ => maintains_leaveRepetition id
      · exact maintains_bind (maintains_leaveChoice id _) fun _ => maintains_iterate frame child

theorem maintains_stepRepetition (id child : NodeId) (min : Nat) (max : Option Nat) (lazily : Bool)
    (signal : Signal) : Maintains Upkept (stepRepetition id child min max lazily signal) := by
  unfold stepRepetition
  split
  · exact maintains_bind maintains_get fun _ => maintains_openFrame rfl _ fun frame =>
      maintains_decideRepetition id child min max lazily frame 0
  · refine maintains_bind (maintains_repetitionFrame id) fun (frame, done, start) => ?_
    dsimp only
    split
    · refine maintains_bind (maintains_updateFrame frame 0 rfl) fun _ =>
        maintains_bind maintains_get fun _ => ?_
      split
      · exact maintains_leaveRepetition id
      · exact maintains_decideRepetition id child min max lazily _ _
    · exact maintains_throw _
  · exact maintains_leaveRepetition id
  · exact maintains_bind (maintains_repetitionFrame id) fun frame => maintains_iterate _ child
  · exact maintains_confused id _

theorem maintains_stepAtomic (id child : NodeId) (signal : Signal) :
    Maintains Upkept (stepAtomic id child signal) := by
  unfold stepAtomic
  split
  · refine maintains_bind (maintains_modifyGet fun _ upkept => upkept.freeze id _) fun checkpoint =>
      maintains_bind ?_ fun _ => maintains_enter child
    exact maintains_onStore (Store.local_push _ _) fun tidy pushing =>
      ⟨_, _, tidy.pushPlain rfl pushing⟩
  · refine maintains_bind maintains_get fun _ =>
      maintains_bind (maintains_ofStore _) fun value => ?_
    split
    · exact maintains_bind (maintains_remove (by decide)) fun _ =>
        maintains_bind (maintains_collapse _) fun _ => maintains_finish id
    · exact maintains_confused id _
  · exact maintains_backtrack
  · exact maintains_confused id _

theorem maintains_stepLookahead (id child : NodeId) (negative : Bool) (signal : Signal) :
    Maintains Upkept (stepLookahead id child negative signal) := by
  unfold stepLookahead
  split
  · refine maintains_bind maintains_get fun _ =>
      maintains_bind (maintains_modifyGet fun _ upkept => upkept.freeze id _) fun checkpoint => ?_
    exact maintains_openFrame rfl _ fun _ => maintains_enter child
  · refine maintains_bind (maintains_readFrame id _) fun frame => ?_
    split
    · refine maintains_bind (maintains_remove (by decide)) fun _ =>
        maintains_bind (maintains_collapse _) fun _ => maintains_modify fun matcher upkept => ?_
      split
      · exact upkept.alike rfl rfl rfl
      · exact (upkept.moveTo _).finish id
    · exact maintains_confused id _
  · refine maintains_modify fun matcher upkept => ?_
    split
    · exact upkept.finish id
    · exact upkept.alike rfl rfl rfl
  · exact maintains_confused id _

theorem maintains_openCapture (id : NodeId) : Maintains Upkept (openCapture id) := by
  refine maintains_bind maintains_get fun _ => maintains_bind (maintains_ofStore _) fun value => ?_
  split
  · exact maintains_pure _
  · exact maintains_confused id _

/-- Changing a capture without changing what it refers to. -/
theorem maintains_updateCapture (id : NodeId) (position : Nat) (confusion : Confusion)
    {edit : Capture → Capture}
    (discreet : ∀ record, (Payload.capture (edit record)).references =
      (Payload.capture record).references) :
    Maintains Upkept (updateCapture id position confusion edit) := by
  refine maintains_bind (maintains_update (fun payload _ => ?_) position) fun isCapture => ?_
  · cases payload with
    | capture record => exact ⟨discreet record, rfl⟩
    | object fields => exact ⟨rfl, rfl⟩
    | list items => exact ⟨rfl, rfl⟩
  · split
    · exact maintains_pure ()
    · exact maintains_confused id confusion

theorem updateCapture_ok {id : NodeId} {position : Nat} {confusion : Confusion}
    {edit : Capture → Capture}
    (ran : updateCapture id position confusion edit matcher = .ok () after) :
    ∃ store, Store.update position (editCapture edit) matcher.store = .ok true store ∧
      after = { matcher with store := store } := by
  obtain ⟨isCapture, reached, updating, succeeded⟩ := bind_eq_ok_iff.mp ran
  obtain ⟨store, updatingStore, rfl⟩ := onStore_ok updating
  cases isCapture with
  | true =>
    cases succeeded
    exact ⟨store, updatingStore, rfl⟩
  | false => cases succeeded

/-- A capture is opened inside of another one. -/
theorem maintains_nest (id : NodeId) {record : Capture} {parent : Nat}
    (inside : (Payload.capture record).references = [parent])
    (confusion : Confusion) (name : String)
    {next : MatcherM β} (goesOn : Maintains Upkept next) :
    Maintains Upkept (do
      let opened ← onStore (Store.alloc (.capture record))
      updateCapture id parent confusion fun around =>
        { around with children := around.children ++ [opened] }
      onStore (Store.push name (.ref opened))
      next) := by
  intro matcher value after upkept ran
  obtain ⟨opened, _, allocating, ranRest⟩ := bind_eq_ok_iff.mp ran
  obtain ⟨⟨⟩, _, listing, ranLast⟩ := bind_eq_ok_iff.mp ranRest
  obtain ⟨⟨⟩, _, pushing, goingOn⟩ := bind_eq_ok_iff.mp ranLast
  obtain ⟨first, allocatingStore, rfl⟩ := onStore_ok allocating
  obtain ⟨second, listingStore, rfl⟩ := updateCapture_ok listing
  obtain ⟨third, pushingStore, rfl⟩ := onStore_ok pushing
  obtain ⟨context, entries, bindings, tidy⟩ := upkept.tail
  obtain ⟨grown, bound, still⟩ := tidy.openCapture inside allocatingStore listingStore pushingStore
  have wiped := upkept.inOrder.wiped
  have allocated := (Store.local_alloc _).keeps wiped allocatingStore
  have listed := (Store.local_update parent _).keeps (allocated.chain.wiped wiped) listingStore
  have pushed := (Store.local_push name _).keeps ((allocated.trans listed).chain.wiped wiped)
    pushingStore
  exact goesOn _ value after (upkept.withTail ((allocated.trans listed).trans pushed) still) goingOn

theorem maintains_stepCapture (id : NodeId) (name : String) (child : NodeId) (signal : Signal) :
    Maintains Upkept (stepCapture id name child signal) := by
  unfold stepCapture
  split
  · refine maintains_bind (maintains_openCapture id) fun parent =>
      maintains_bind maintains_get fun _ => ?_
    exact maintains_nest id rfl _ openName (maintains_enter child)
  · refine maintains_bind (maintains_openCapture id) fun closing =>
      maintains_bind maintains_get fun _ => ?_
    exact maintains_bind (maintains_updateCapture id closing _ fun _ => rfl) fun _ =>
      maintains_bind (maintains_remove (by decide)) fun _ => maintains_finish id
  · exact maintains_confused id _

theorem maintains_setBounds (id : NodeId) (start stop : Option Nat) :
    Maintains Upkept (setBounds id start stop) := by
  refine maintains_bind maintains_get fun _ => ?_
  split
  · exact maintains_throw _
  · exact maintains_updateCapture id _ _ fun _ => rfl

theorem maintains_attempt (id child : NodeId) (retry : Bool) :
    Maintains Upkept (attempt id child retry) := by
  refine maintains_bind maintains_get fun _ => maintains_bind (maintains_setBounds id _ _) fun _ =>
    maintains_modify fun matcher upkept => ?_
  split
  · exact (upkept.freeze id _).alike rfl rfl rfl
  · exact upkept.alike rfl rfl rfl

theorem maintains_stepRoot (id child : NodeId) (search : Bool) (signal : Signal) :
    Maintains Upkept (stepRoot id child search signal) := by
  unfold stepRoot
  split
  · exact maintains_attempt id child search
  · exact maintains_bind maintains_get fun _ => maintains_bind (maintains_setBounds id _ _) fun _ =>
      maintains_finish id
  · refine maintains_bind maintains_get fun _ => ?_
    split
    · exact maintains_backtrack
    · exact maintains_bind (maintains_modify fun _ upkept => upkept.alike rfl rfl rfl) fun _ =>
        maintains_attempt id child true
  · exact maintains_confused id _

/-- Every node keeps the store tidy, whatever signal it gets. -/
theorem maintains_stepNode (id : NodeId) (node : Node) (signal : Signal) :
    Maintains Upkept (stepNode id node signal) := by
  cases node with
  | root child search => exact maintains_stepRoot id child search signal
  | text characters => exact maintains_bind maintains_get fun _ => maintains_finishIf _ id _
  | any => exact maintains_bind maintains_get fun _ => maintains_finishIf _ id _
  | charClass set => exact maintains_bind maintains_get fun _ => maintains_finishIf _ id _
  | anchor anchor => exact maintains_bind maintains_get fun _ => maintains_finishIf _ id _
  | sequence children =>
    refine maintains_modify fun matcher upkept => ?_
    split
    · exact upkept.alike rfl rfl rfl
    · exact upkept.finish id
  | alternation children => exact maintains_stepAlternation id children signal
  | repetition child min max lazily =>
    exact maintains_stepRepetition id child min max lazily signal
  | atomic child => exact maintains_stepAtomic id child signal
  | lookahead child negative => exact maintains_stepLookahead id child negative signal
  | capture name child => exact maintains_stepCapture id name child signal

/-! ### Ticks -/

/-- The look of the collector that follows a step. -/
def collect : MatcherM PUnit := do
  let stepped ← get
  if stepped.direction = .forward then
    let (_, collector) ← onStore stepped.collector.poll
    modify fun matcher => { matcher with collector := collector }

/-- The collector frees nothing. -/
theorem maintains_collect : Maintains Upkept collect := by
  intro matcher value after upkept ran
  unfold collect at ran
  rw [bind_of_ok (rfl : (get : MatcherM Matcher) matcher = .ok matcher matcher)] at ran
  split at ran
  · obtain ⟨⟨report, collector⟩, polled, polling, recording⟩ := bind_eq_ok_iff.mp ran
    cases recording
    obtain ⟨store, pollingStore, rfl⟩ := onStore_ok polling
    obtain ⟨context, entries, bindings, tidy⟩ := upkept.tail
    obtain ⟨still, unfreed⟩ := tidy.poll pollingStore
    have upkeptStore := upkept.withTail
      ((Store.local_poll matcher.collector).keeps upkept.inOrder.wiped pollingStore) still
    exact ⟨upkeptStore.inOrder, upkeptStore.tidy, unfreed.trans upkept.unfreed⟩
  · cases ran
    exact upkept

theorem maintains_stepForward : Maintains Upkept stepForward := by
  refine maintains_bind maintains_get fun matcher => ?_
  split
  · exact maintains_throw _
  · split
    · exact maintains_throw _
    · exact maintains_bind (maintains_stepNode _ _ _) fun _ => maintains_collect

theorem Upkept.rollback (upkept : matcher.Upkept) :
    Upkept { matcher with store := matcher.store.rollback.2 } := by
  refine ⟨Operation.inOrder_perform .rollback upkept.inOrder, ?_, upkept.unfreed⟩
  change matcher.store.rollback.2.chain.EachView _
  rw [matcher.store.rollback_chain]
  exact upkept.tidy.discardTail

theorem maintains_stepBackward : Maintains Upkept stepBackward := by
  intro matcher value after upkept ran
  unfold stepBackward at ran
  rw [bind_of_ok (rfl : (get : MatcherM Matcher) matcher = .ok matcher matcher)] at ran
  have rolled := upkept.rollback
  generalize matcher.store.rollback = outcome at ran rolled
  obtain ⟨point, store⟩ := outcome
  cases point with
  | none =>
    cases ran
    exact rolled
  | some point =>
    cases ran
    exact rolled.alike rfl rfl rfl

theorem maintains_countTick : Maintains Upkept (modify countTick : MatcherM PUnit) := by
  refine maintains_modify fun matcher upkept => ?_
  unfold countTick
  dsimp only
  split <;> exact upkept.alike rfl rfl rfl

theorem maintains_tick : Maintains Upkept tick := by
  refine maintains_bind maintains_get fun matcher => ?_
  split
  · exact maintains_bind maintains_stepForward fun _ =>
      maintains_bind maintains_countTick fun _ => maintains_pure true
  · refine maintains_bind maintains_stepBackward fun resumed => ?_
    split
    · exact maintains_bind maintains_countTick fun _ => maintains_pure true
    · exact maintains_pure false

/-! ### Calls -/

/-- A property that neither ticks nor pauses take away. -/
structure Stable (invariant : Matcher → Prop) : Prop where
  tick : Maintains invariant tick
  note : ∀ {matcher : Matcher} (event : Event), invariant matcher → invariant (matcher.note event)
  status : ∀ {matcher : Matcher} (status : Status) (outcome : Option Outcome), invariant matcher →
    invariant { matcher with status := status, outcome := outcome }

theorem stable_upkept : Stable Upkept where
  tick := maintains_tick
  note _ upkept := upkept.alike rfl rfl rfl
  status _ _ upkept := upkept.alike rfl rfl rfl

namespace Stable

variable {invariant : Matcher → Prop} (stable : Stable invariant)
include stable

theorem drive (allowance : Nat) : Maintains invariant (drive allowance) := by
  induction allowance with
  | zero =>
    intro matcher outcome after holds ran
    rw [Matcher.drive] at ran
    split at ran
    · cases ran
      exact holds
    · cases ran
      exact stable.note _ holds
  | succ allowance inductionHypothesis =>
    intro matcher outcome after holds ran
    rw [Matcher.drive] at ran
    split at ran
    · cases ran
      exact holds
    · cases ticked : Matcher.tick matcher with
      | error abort reached =>
        simp only [ticked] at ran
        cases ran
      | ok goesOn reached =>
        have still := stable.tick matcher goesOn reached holds ticked
        simp only [ticked] at ran
        cases goesOn with
        | true => exact inductionHypothesis reached outcome after still ran
        | false =>
          cases ran
          exact still

theorem execute (budget : Budget) : Maintains invariant (execute budget) := by
  intro matcher outcome after holds ran
  have ready := stable.status .executing matcher.outcome holds
  unfold Matcher.execute at ran
  cases driven : Matcher.drive budget.allowance { matcher with status := .executing } with
  | ok found reached =>
    have still := stable.drive budget.allowance _ found reached ready driven
    rw [driven] at ran
    cases found <;> cases ran <;> exact stable.status _ _ still
  | error abort reached =>
    rw [driven] at ran
    cases abort <;> cases ran

theorem resume (budget : Budget) : Maintains invariant (resume budget) := by
  refine maintains_bind maintains_get fun matcher => ?_
  split
  · exact stable.execute budget
  · exact maintains_throw _

theorem resumeWith (outcome : Outcome) (budgets : List Budget) :
    Maintains invariant (resumeWith outcome budgets) := by
  induction budgets generalizing outcome with
  | nil => cases outcome <;> exact maintains_pure _
  | cons budget budgets inductionHypothesis =>
    cases outcome with
    | paused => exact maintains_bind (stable.resume budget) inductionHypothesis
    | matched => exact maintains_pure _
    | noMatch => exact maintains_pure _

section

variable {matcher reached : Matcher} {entry : NodeId} {text : List Char} {outcome : Outcome}
  (prepares : ∀ prepared, prepare entry text matcher = .ok () prepared → invariant prepared)
include prepares

/-- What holds of a prepared run holds wherever it gets. -/
theorem run {budget : Budget} (ran : run entry text budget matcher = .ok outcome reached) :
    invariant reached := by
  unfold Matcher.run at ran
  rw [bind_of_ok (rfl : (get : MatcherM Matcher) matcher = .ok matcher matcher)] at ran
  split at ran
  · cases ran
  · split at ran
    · cases ran
    · obtain ⟨⟨⟩, prepared, preparing, executing⟩ := bind_eq_ok_iff.mp ran
      exact stable.execute budget prepared outcome reached (prepares prepared preparing) executing

theorem runWith {first : Budget} {others : List Budget}
    (ran : runWith entry text first others matcher = .ok outcome reached) : invariant reached := by
  obtain ⟨firstOutcome, paused, running, resuming⟩ := bind_eq_ok_iff.mp ran
  exact stable.resumeWith firstOutcome others paused outcome reached (stable.run prepares running)
    resuming

end

end Stable

end Matcher

/-! ### Runs -/

/-- An open root match and the object that leads to it are tidy. -/
theorem Store.Stands.tidyRoot {store : Store} {context place : Nat}
    (shows : store.Shows (.ofRoot context place 0 none [])) :
    ∃ entries bindings, store.Tidy context entries bindings := by
  let root : Entry := ⟨place, .capture { name := Matcher.rootName, parent := none, start := 0 }, 2⟩
  let object : Entry := ⟨context, .object [(Matcher.rootName, .ref place)], 1⟩
  let bindings : Bindings := [(Matcher.globalName, .ref context), (Matcher.openName, .ref place)]
  have stands : store.Stands {root, object} bindings := shows
  have different : place ≠ context := by
    have distinct := stands.chain.heap.distinct
    simpa [root, object] using distinct
  have occurrences : 0 + bindings.held + Entry.held {root, object} = {context, place, place} := rfl
  refine ⟨_, _, ⟨stands, fun entry member => ?_, fun position member => ?_⟩, List.mem_cons_self,
    fun entry member isFrame => ?_, fun entry member isFrame => ?_, fun entry member _ => ?_⟩
  · rw [occurrences]
    obtain rfl | isObject := Multiset.mem_cons.mp member
    · simp [root, different]
    · rw [Multiset.mem_singleton.mp isObject]
      simp [object, different.symm]
  · rw [occurrences] at member
    simp only [Multiset.insert_eq_cons, Multiset.mem_cons, Multiset.mem_singleton] at member
    simp only [root, object, Multiset.insert_eq_cons, Multiset.map_cons, Multiset.map_singleton,
      Multiset.mem_cons, Multiset.mem_singleton]
    tauto
  · obtain rfl | isObject := Multiset.mem_cons.mp member
    · cases isFrame
    · rw [Multiset.mem_singleton.mp isObject] at isFrame
      cases isFrame
  · obtain rfl | isObject := Multiset.mem_cons.mp member
    · cases isFrame
    · rw [Multiset.mem_singleton.mp isObject] at isFrame
      cases isFrame
  · have leads : Entry.Reached {root, object} (.ofContext context) context :=
      .bound List.mem_cons_self
    obtain rfl | isObject := Multiset.mem_cons.mp member
    · have member : object ∈ ({root, object} : Multiset Entry) := by simp
      exact .referred member leads List.mem_cons_self
    · rw [Multiset.mem_singleton.mp isObject]
      exact leads

namespace Matcher

open Rewind.Action

theorem maintains_collector {action : StoreM α} (collector : Collector) :
    Maintains (fun matcher => matcher.collector = collector) (onStore action) := by
  intro matcher value after same ran
  obtain ⟨store, -, rfl⟩ := onStore_ok ran
  exact same

/-- A prepared run is tidy. -/
theorem upkept_prepare {matcher after : Matcher} (wiped : matcher.store.chain.pools.Wiped)
    (idle : matcher.store.sweeping = false) (unfreed : matcher.collector.freed = 0) {entry : NodeId}
    {text : List Char} (ran : prepare entry text matcher = .ok () after) : after.Upkept := by
  have sameCollector : after.collector = matcher.collector := by
    refine (?_ : Maintains (fun other => other.collector = matcher.collector) (prepare entry text))
      matcher () after rfl ran
    exact maintains_bind (maintains_modify fun _ same => same) fun _ =>
      maintains_bind (maintains_collector _) fun _ =>
        maintains_bind (maintains_collector _) fun _ =>
        maintains_bind (maintains_collector _) fun _ =>
          maintains_bind (maintains_collector _) fun _ => maintains_modify fun _ same => same
  obtain ⟨context, place, prepared, preparing, acts⟩ :=
    World.prepare_spec ⟨matcher.program, text.toArray, False⟩ rfl wiped idle entry text rfl
  rw [ran] at preparing
  cases preparing
  have shows := acts.poised.shows
  obtain ⟨entries, bindings, tidy⟩ := shows.tidyRoot
  exact ⟨⟨shows.chain.wiped, acts.poised.layered, shows.idle⟩,
    Chain.eachView_of_alone acts.poised.older
      ⟨context, entries, bindings, tidy.accounts.snapshot, tidy.entries⟩, sameCollector ▸ unfreed⟩

theorem upkept_run {matcher after : Matcher} (wiped : matcher.store.chain.pools.Wiped)
    (idle : matcher.store.sweeping = false) (unfreed : matcher.collector.freed = 0) {entry : NodeId}
    {text : List Char} {budget : Budget} {outcome : Outcome}
    (ran : run entry text budget matcher = .ok outcome after) : after.Upkept :=
  stable_upkept.run (fun _ prepares => upkept_prepare wiped idle unfreed prepares) ran

/-- A run stays tidy, however it is cut into parts. -/
theorem upkept_runWith {program : Program} {settings : Settings} {entry : NodeId} {text : List Char}
    {first : Budget} {others : List Budget} {outcome : Outcome} {reached : Matcher}
    (ran : runWith entry text first others (.ofProgram program settings) = .ok outcome reached) :
    reached.Upkept :=
  stable_upkept.runWith
    (fun _ prepares => upkept_prepare (Store.wiped_empty settings.store) rfl rfl prepares) ran

end Matcher

/-! ### What is left of a match -/

namespace MatchTree

mutual

/-- The number of captures in a match. -/
def captureCount : MatchTree → Nat
  | ⟨_, _, _, _, children⟩ => captureCountOfAll children

/-- The number of some captures and of those in them. -/
def captureCountOfAll : List MatchTree → Nat
  | [] => 0
  | tree :: trees => 1 + captureCount tree + captureCountOfAll trees

end

end MatchTree

namespace Located

mutual

theorem card_entries (text : Array Char) (parent : Nat) : ∀ located : Located,
    (located.entries parent).card = 1 + (located.tree text).captureCount
  | .mk place name start stop children => by
    rw [entries, Multiset.card_cons, card_entriesOfAll text place children, tree,
      MatchTree.captureCount, Nat.add_comm]

theorem card_entriesOfAll (text : Array Char) (parent : Nat) : ∀ trees : List Located,
    (entriesOfAll parent trees).card = MatchTree.captureCountOfAll (Located.trees text trees)
  | [] => rfl
  | first :: rest => by
    rw [entriesOfAll, Multiset.card_add, card_entries text parent first,
      card_entriesOfAll text parent rest, Located.trees, MatchTree.captureCountOfAll]

end

end Located

/-- What is left in the store when a run has ended with a match. -/
structure Matcher.Bare (blamed : NodeId) (tree : MatchTree) (matcher : Matcher) : Prop where
  /-- Only the global object and the root match are bound. -/
  bindings : ∃ context root, matcher.rootMatch blamed = .ok root ∧ matcher.store.bindings =
    [(Matcher.globalName, .ref context), (Matcher.openName, .ref root)]
  /-- Besides them there are the captures of the match. -/
  usedCells : matcher.store.statistics.usedCells = 2 + tree.captureCount

theorem World.Concludes.bare {world : World} {matcher : Matcher} {tree : MatchTree}
    (concludes : world.Concludes (some tree) matcher) (blamed : NodeId) :
    matcher.Bare blamed tree := by
  obtain ⟨floor, context, place, start, stop, closed, rests, made, isTree⟩ := concludes
  have shows := rests.poised.shows
  refine ⟨⟨context, place, rootMatch_eq shows blamed, ?_⟩, ?_⟩
  · change matcher.store.chain.bindings = _
    rw [Chain.bindings_eq_snapshot, shows.chain.stack.bindings_eq]
    rfl
  · have counted := shows.chain.heap.counted
    have split : (Scene.ofRoot context place start (some stop) closed).entries =
        Scene.innerEntry _ ::ₘ Scene.contextEntry _ ::ₘ
          (Located.entriesOfAll place closed + 0 + 0) := rfl
    have captures : tree.captureCount = MatchTree.captureCountOfAll tree.children := by
      cases tree
      rfl
    change matcher.store.chain.counters.usedCells = _
    rw [Chain.snapshot_counters, split, Multiset.card_cons, Multiset.card_cons, add_zero, add_zero,
      Located.card_entriesOfAll world.text, made] at counted
    rw [captures, counted]
    omega

/-- Every cell in use can be reached from a binding, and counts just its occurrences. -/
structure Snapshot.LeakFree (snapshot : Snapshot) : Prop where
  reached : ∀ entry ∈ snapshot.entries,
    Entry.Reached snapshot.entries snapshot.bindings entry.position
  counted : snapshot.Exact

theorem Snapshot.Tidy.leakFree {snapshot : Snapshot} (tidy : snapshot.Tidy) :
    snapshot.LeakFree := by
  obtain ⟨context, entries, bindings, accounts, tidy⟩ := tidy
  refine ⟨?_, accounts.exact fun _ _ => rfl⟩
  rw [accounts.heap.entries_eq, accounts.stack.bindings_eq]
  exact tidy.reached accounts.balanced

/-- Runs never leak, whatever the program and however they are cut into parts. Where a run stands
after any number of ticks, every generation holds only what can be reached, counted exactly, and the
collector has freed nothing. When the run of a compiled pattern ends with a match, nothing but the
match is left. -/
theorem runs_never_leak (program : Program) (settings : Settings) (entry : NodeId)
    (text : List Char) (first : Budget) (others : List Budget) :
    match Matcher.runWith entry text first others (.ofProgram program settings) with
    | .ok outcome reached =>
      reached.store.chain.EachView Snapshot.LeakFree ∧ reached.collector.freed = 0 ∧
        ∀ pattern search, Pattern.compile pattern search = .ok program → entry = program.root →
          outcome = .matched →
            ∃ tree, reached.result = .ok (some tree) ∧ reached.Bare program.root tree
    | .error _ _ => True := by
  cases ran : Matcher.runWith entry text first others (.ofProgram program settings) with
  | error abort reached => trivial
  | ok outcome reached =>
    have upkept := Matcher.upkept_runWith ran
    refine ⟨upkept.tidy.imp fun _ tidy => tidy.leakFree, upkept.unfreed, ?_⟩
    rintro pattern search compiled rfl rfl
    obtain ⟨other, compiles, runs⟩ := World.run_ends pattern search text
    rw [compiled] at compiles
    cases compiles
    obtain ⟨enough, ends⟩ := runs (.ofProgram program settings) rfl (fun same => nomatch same)
      (Store.wiped_empty settings.store) rfl
    have report := World.runWith_ends (ends first).1 others
    rw [ran] at report
    cases report with
    | matched found copied concludes => exact ⟨_, copied, concludes.bare program.root⟩

end Rewind
