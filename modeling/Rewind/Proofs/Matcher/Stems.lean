/-
This file follows the generations of a chain by what each keeps for good: its id and where it
resumes. A step of a node starts generations or merges some, but never does both, and going back
only discards one; so a generation that is there before a tick and is not removed by it is the same
afterwards.
-/

import Mathlib
import Rewind.Proofs.Matcher.Leaks
import Rewind.Proofs.Store.Checkpoints

namespace Rewind

namespace Chain

/-- What every generation of a chain keeps, the newest first. -/
def stems (chain : Chain) : List (Nat × Option ResumePoint) :=
  chain.generations.map fun generation => (generation.id, generation.resume)

variable {chain after : Chain}

theorem Keeps.stems (keeps : chain.Keeps after) : after.stems = chain.stems := by
  unfold Chain.stems generations
  rw [List.map_cons, List.map_cons, keeps.id, keeps.resume, keeps.older]

theorem stems_discardTail (chain : Chain) : chain.discardTail.stems <:+ chain.stems := by
  unfold discardTail
  split
  · exact List.suffix_refl _
  · rename_i tail older lower
    unfold stems generations
    rw [lower]
    exact List.suffix_cons _ _

/-- Merging keeps the stem of the generation merged into. -/
theorem stems_mergeTo {depth : Nat} (inside : depth ≤ chain.older.length) :
    (chain.mergeTo depth).stems <:+ chain.stems := by
  obtain ⟨target, older, dropped, lower, id, resume⟩ := Store.mergeTo_top inside
  have same : (chain.mergeTo depth).stems =
      (target :: older).map fun generation => (generation.id, generation.resume) := by
    unfold stems generations
    rw [lower, List.map_cons, id, resume]
    rfl
  rw [same, ← dropped]
  exact (List.drop_suffix _ _).map _

end Chain

/-- A property of a store that changes of the newest generation do not affect. -/
structure Store.Coarse (invariant : Store → Prop) : Prop where
  wiped : ∀ {store}, invariant store → store.chain.pools.Wiped
  keeps : ∀ {store after}, invariant store → store.Keeps after → invariant after

namespace Matcher

open Rewind.Action

variable {invariant : Store → Prop} {α β : Type}

/-- An action that succeeds keeps a property of the store. -/
abbrev Upholds (invariant : Store → Prop) (action : MatcherM α) : Prop :=
  Maintains (fun matcher => invariant matcher.store) action

/-! ### Steps without choices -/

/-- A change of everything but the store. -/
theorem upholds_modify {change : Matcher → Matcher}
    (same : ∀ matcher, (change matcher).store = matcher.store) :
    Upholds invariant (modify change) :=
  maintains_modify fun matcher holds => (same matcher).symm ▸ holds

theorem upholds_finish (node : NodeId) :
    Upholds invariant (modify fun matcher => matcher.finish node) :=
  upholds_modify fun matcher => matcher.store_finish node

theorem upholds_finishIf (passed : Bool) (id : NodeId) (cursor : Nat) :
    Upholds invariant (finishIf passed id cursor) := by
  refine upholds_modify fun matcher => ?_
  split
  · exact store_finish _ id
  · rfl

theorem upholds_confused (node : NodeId) (confusion : Confusion) :
    Upholds invariant (confused node confusion : MatcherM α) := maintains_throw _

/-- Looking up a name. -/
theorem upholds_lookup (name : String) {next : Value → MatcherM α}
    (goesOn : ∀ value, Upholds invariant (next value)) :
    Upholds invariant (do next (← ofStore ((← get).store.lookup name))) := by
  refine maintains_bind maintains_get fun matcher => maintains_bind ?_ goesOn
  cases matcher.store.lookup name with
  | ok value => exact maintains_pure value
  | error error => exact maintains_throw _

theorem upholds_openCapture (id : NodeId) : Upholds invariant (openCapture id) := by
  refine upholds_lookup openName fun value => ?_
  split
  · exact maintains_pure _
  · exact upholds_confused id _

theorem upholds_leaveChoice
    (freezes : ∀ store resume, invariant store → invariant (store.freeze resume).2)
    (node : NodeId) (signal : Signal) :
    Upholds invariant (modify fun matcher => matcher.leaveChoice node signal) :=
  maintains_modify fun matcher holds => freezes matcher.store _ holds

theorem upholds_tryBranch
    (freezes : ∀ store resume, invariant store → invariant (store.freeze resume).2)
    (id : NodeId) (children : List NodeId) (branch : Nat) :
    Upholds invariant (tryBranch id children branch) := by
  refine maintains_modify fun matcher holds => ?_
  split
  · exact holds
  · split
    · exact freezes matcher.store _ holds
    · exact holds

section

variable (coarse : Store.Coarse invariant)
include coarse

theorem upholds_onStore {action : StoreM α} (isLocal : Store.Local action) :
    Upholds invariant (onStore action) := by
  intro matcher value after holds ran
  obtain ⟨store, succeeded, rfl⟩ := onStore_ok ran
  exact coarse.keeps holds (isLocal.keeps (coarse.wiped holds) succeeded)

theorem upholds_readFrame (id : NodeId) (name : String) :
    Upholds invariant (readFrame id name) := by
  refine upholds_lookup name fun value => ?_
  split
  · exact upholds_confused id _
  · refine maintains_bind (upholds_onStore coarse (Store.local_deref _)) fun payload => ?_
    split
    · exact maintains_pure _
    · exact upholds_confused id _

theorem upholds_repetitionFrame (id : NodeId) : Upholds invariant (repetitionFrame id) := by
  refine maintains_bind (upholds_readFrame coarse id repetitionName) fun frame => ?_
  split
  · exact maintains_pure _
  · exact upholds_confused id _

theorem upholds_updateFrame (frame index : Nat) (value : Value) :
    Upholds invariant (updateFrame frame index value) := by
  refine maintains_bind (upholds_onStore coarse (Store.local_update _ _)) fun present => ?_
  split
  · exact maintains_pure ()
  · exact maintains_throw _

theorem upholds_iterate (frame : Nat) (child : NodeId) :
    Upholds invariant (iterate frame child) :=
  maintains_bind maintains_get fun _ =>
    maintains_bind (upholds_updateFrame coarse frame 1 _) fun _ => upholds_modify fun _ => rfl

theorem upholds_leaveRepetition (id : NodeId) : Upholds invariant (leaveRepetition id) :=
  maintains_bind (upholds_onStore coarse (Store.local_remove _)) fun _ => upholds_finish id

theorem upholds_updateCapture (id : NodeId) (position : Nat) (confusion : Confusion)
    (edit : Capture → Capture) : Upholds invariant (updateCapture id position confusion edit) := by
  refine maintains_bind (upholds_onStore coarse (Store.local_update _ _)) fun isCapture => ?_
  split
  · exact maintains_pure ()
  · exact upholds_confused id confusion

theorem upholds_setBounds (id : NodeId) (start stop : Option Nat) :
    Upholds invariant (setBounds id start stop) := by
  refine maintains_bind maintains_get fun _ => ?_
  split
  · exact maintains_throw _
  · exact upholds_updateCapture coarse id _ _ _

theorem upholds_stepCapture (id : NodeId) (name : String) (child : NodeId) (signal : Signal) :
    Upholds invariant (stepCapture id name child signal) := by
  unfold stepCapture
  split
  · exact maintains_bind (upholds_openCapture id) fun parent =>
      maintains_bind maintains_get fun _ =>
      maintains_bind (upholds_onStore coarse (Store.local_alloc _)) fun opened =>
      maintains_bind (upholds_updateCapture coarse id _ _ _) fun _ =>
      maintains_bind (upholds_onStore coarse (Store.local_push _ _)) fun _ =>
      upholds_modify fun _ => rfl
  · exact maintains_bind (upholds_openCapture id) fun closing =>
      maintains_bind maintains_get fun _ =>
      maintains_bind (upholds_updateCapture coarse id _ _ _) fun _ =>
      maintains_bind (upholds_onStore coarse (Store.local_remove _)) fun _ => upholds_finish id
  · exact upholds_confused id _

/-! ### Steps that leave choices -/

section

variable (freezes : ∀ store resume, invariant store → invariant (store.freeze resume).2)
include freezes

theorem upholds_decideRepetition (id child : NodeId) (min : Nat) (max : Option Nat) (lazily : Bool)
    (frame count : Nat) :
    Upholds invariant (decideRepetition id child min max lazily frame count) := by
  unfold decideRepetition
  split
  · exact upholds_iterate coarse frame child
  · split
    · exact upholds_leaveRepetition coarse id
    · split
      · exact maintains_bind (upholds_leaveChoice freezes id _) fun _ =>
          upholds_leaveRepetition coarse id
      · exact maintains_bind (upholds_leaveChoice freezes id _) fun _ =>
          upholds_iterate coarse frame child

theorem upholds_stepRepetition (id child : NodeId) (min : Nat) (max : Option Nat) (lazily : Bool)
    (signal : Signal) : Upholds invariant (stepRepetition id child min max lazily signal) := by
  unfold stepRepetition
  split
  · exact maintains_bind maintains_get fun _ =>
      maintains_bind (upholds_onStore coarse (Store.local_alloc _)) fun frame =>
      maintains_bind (upholds_onStore coarse (Store.local_push _ _)) fun _ =>
      upholds_decideRepetition coarse freezes id child min max lazily frame 0
  · refine maintains_bind (upholds_repetitionFrame coarse id) fun frame => ?_
    dsimp only
    split
    · refine maintains_bind (upholds_updateFrame coarse _ 0 _) fun _ =>
        maintains_bind maintains_get fun _ => ?_
      split
      · exact upholds_leaveRepetition coarse id
      · exact upholds_decideRepetition coarse freezes id child min max lazily _ _
    · exact maintains_throw _
  · exact upholds_leaveRepetition coarse id
  · exact maintains_bind (upholds_repetitionFrame coarse id) fun frame =>
      upholds_iterate coarse _ child
  · exact upholds_confused id _

theorem upholds_attempt (id child : NodeId) (retry : Bool) :
    Upholds invariant (attempt id child retry) := by
  refine maintains_bind maintains_get fun _ =>
    maintains_bind (upholds_setBounds coarse id _ _) fun _ =>
    maintains_modify fun matcher holds => ?_
  split
  · exact freezes matcher.store _ holds
  · exact holds

theorem upholds_stepRoot (id child : NodeId) (search : Bool) (signal : Signal) :
    Upholds invariant (stepRoot id child search signal) := by
  unfold stepRoot
  split
  · exact upholds_attempt coarse freezes id child search
  · exact maintains_bind maintains_get fun _ =>
      maintains_bind (upholds_setBounds coarse id _ _) fun _ => upholds_finish id
  · refine maintains_bind maintains_get fun _ => ?_
    split
    · exact upholds_modify fun _ => rfl
    · exact maintains_bind (upholds_modify fun _ => rfl) fun _ =>
        upholds_attempt coarse freezes id child true
  · exact upholds_confused id _

end

/-- An atomic group or a lookahead whose child has matched merges, and leaves no choice. -/
def Merges (node : Node) (signal : Signal) : Prop :=
  match node with
  | .atomic _ | .lookahead _ _ => signal = .childDone
  | _ => False

/-- A step that does not merge anything. -/
theorem upholds_stepNode
    (freezes : ∀ store resume, invariant store → invariant (store.freeze resume).2)
    (id : NodeId) (node : Node) (signal : Signal) (merges : ¬ Merges node signal) :
    Upholds invariant (stepNode id node signal) := by
  cases node with
  | root child search => exact upholds_stepRoot coarse freezes id child search signal
  | text characters => exact maintains_bind maintains_get fun _ => upholds_finishIf _ id _
  | any => exact maintains_bind maintains_get fun _ => upholds_finishIf _ id _
  | charClass set => exact maintains_bind maintains_get fun _ => upholds_finishIf _ id _
  | anchor anchor => exact maintains_bind maintains_get fun _ => upholds_finishIf _ id _
  | sequence children =>
    refine upholds_modify fun matcher => ?_
    split
    · rfl
    · exact matcher.store_finish id
  | alternation children =>
    change Upholds invariant (stepAlternation id children signal)
    unfold stepAlternation
    split
    · exact upholds_tryBranch freezes id children 0
    · exact upholds_finish id
    · exact upholds_tryBranch freezes id children _
  | repetition child min max lazily =>
    exact upholds_stepRepetition coarse freezes id child min max lazily signal
  | atomic child =>
    change Upholds invariant (stepAtomic id child signal)
    unfold stepAtomic
    split
    · exact maintains_bind (maintains_modifyGet fun matcher holds => freezes matcher.store _ holds)
        fun checkpoint =>
          maintains_bind (upholds_onStore coarse (Store.local_push _ _)) fun _ =>
          upholds_modify fun _ => rfl
    · exact absurd rfl merges
    · exact upholds_modify fun _ => rfl
    · exact upholds_confused id _
  | lookahead child negative =>
    change Upholds invariant (stepLookahead id child negative signal)
    unfold stepLookahead
    split
    · exact maintains_bind maintains_get fun _ =>
        maintains_bind (maintains_modifyGet fun matcher holds => freezes matcher.store _ holds)
        fun checkpoint =>
          maintains_bind (upholds_onStore coarse (Store.local_alloc _)) fun frame =>
          maintains_bind (upholds_onStore coarse (Store.local_push _ _)) fun _ =>
          upholds_modify fun _ => rfl
    · exact absurd rfl merges
    · refine upholds_modify fun matcher => ?_
      split
      · exact matcher.store_finish id
      · rfl
    · exact upholds_confused id _
  | capture name child => exact upholds_stepCapture coarse id name child signal

/-! ### Steps that merge -/

/-- A step that merges leaves no choice. -/
theorem upholds_merging {id : NodeId} {node : Node} {signal : Signal}
    (collapses : ∀ store checkpoint merged, invariant store →
      Store.collapse checkpoint store = .ok () merged → invariant merged)
    (merges : Merges node signal) : Upholds invariant (stepNode id node signal) := by
  have collapsing (checkpoint : Checkpoint) :
      Upholds invariant (onStore (Store.collapse checkpoint)) := by
    intro matcher value after holds ran
    obtain ⟨store, succeeded, rfl⟩ := onStore_ok ran
    exact collapses _ _ _ holds succeeded
  cases node with
  | atomic child =>
    cases show signal = .childDone from merges
    refine upholds_lookup atomicName fun value => ?_
    split
    · exact maintains_bind (upholds_onStore coarse (Store.local_remove _)) fun _ =>
        maintains_bind (collapsing _) fun _ => upholds_finish id
    · exact upholds_confused id _
  | lookahead child negative =>
    cases show signal = .childDone from merges
    refine maintains_bind (upholds_readFrame coarse id _) fun frame => ?_
    split
    · refine maintains_bind (upholds_onStore coarse (Store.local_remove _)) fun _ =>
        maintains_bind (collapsing _) fun _ => upholds_modify fun matcher => ?_
      split
      · rfl
      · exact store_finish _ id
    · exact upholds_confused id _
  | _ => exact merges.elim

/-! ### Ticks -/

theorem upholds_collect : Upholds invariant collect := by
  refine maintains_bind maintains_get fun stepped => ?_
  split
  · exact maintains_bind (upholds_onStore coarse (Store.local_poll _)) fun polled =>
      upholds_modify fun _ => rfl
  · exact maintains_pure _

theorem upholds_countTick : Upholds invariant (modify countTick : MatcherM PUnit) :=
  maintains_modify fun matcher holds => by
    have kept : matcher.store.Keeps matcher.countTick.store := by
      unfold countTick
      dsimp only
      split
      · exact ⟨.refl _, rfl, rfl, fun idle => idle⟩
      · exact .refl _
    exact coarse.keeps holds kept

end

/-- What a tick keeps that hands a signal to a node. -/
theorem invariant_of_step (coarse : Store.Coarse invariant) {matcher after : Matcher}
    {id : NodeId} {node : Node} (steps : Upholds invariant (stepNode id node matcher.signal))
    (holds : invariant matcher.store) (forward : matcher.direction = .forward)
    (isNode : matcher.control = some (id, matcher.signal))
    (found : matcher.program.node? id = some node) {goesOn : Bool}
    (ticked : tick matcher = .ok goesOn after) : invariant after.store := by
  rw [tick_of_step forward isNode found] at ticked
  have whole : Upholds invariant (do
      stepNode id node matcher.signal
      collect
      modify countTick
      return true : MatcherM Bool) :=
    maintains_bind steps fun _ => maintains_bind (upholds_collect coarse) fun _ =>
      maintains_bind (upholds_countTick coarse) fun _ => maintains_pure true
  exact whole matcher goesOn after holds ticked

end Matcher

namespace Store

/-- Generations have been started at most. -/
def GrownFrom (base : List (Nat × Option ResumePoint)) (store : Store) : Prop :=
  store.chain.pools.Wiped ∧ base <:+ store.chain.stems

/-- Generations have been removed at most. -/
def CutFrom (whole : List (Nat × Option ResumePoint)) (store : Store) : Prop :=
  store.chain.pools.Wiped ∧ store.chain.stems <:+ whole

variable {stems : List (Nat × Option ResumePoint)}

theorem coarse_grownFrom : Coarse (GrownFrom stems) :=
  ⟨fun grown => grown.1, fun grown keeps =>
    ⟨keeps.chain.wiped grown.1, keeps.chain.stems ▸ grown.2⟩⟩

theorem coarse_cutFrom : Coarse (CutFrom stems) :=
  ⟨fun cut => cut.1, fun cut keeps => ⟨keeps.chain.wiped cut.1, keeps.chain.stems ▸ cut.2⟩⟩

theorem GrownFrom.freeze {store : Store} (grown : store.GrownFrom stems) (resume : ResumePoint) :
    (store.freeze resume).2.GrownFrom stems :=
  ⟨grown.1, grown.2.trans (List.suffix_cons _ _)⟩

theorem CutFrom.collapse {store merged : Store} (cut : store.CutFrom stems)
    {checkpoint : Checkpoint} (collapsed : collapse checkpoint store = .ok () merged) :
    merged.CutFrom stems := by
  obtain ⟨failed, -⟩ | ⟨held, other, succeeded, chain, -⟩ := store.collapse_cases checkpoint
  · rw [collapsed] at failed
    cases failed
  · rw [collapsed] at succeeded
    cases succeeded
    refine ⟨?_, ?_⟩
    · rw [chain]
      exact Chain.wiped_mergeTo cut.1 _
    · rw [chain]
      exact (Chain.stems_mergeTo (depth_le_of_holds held)).trans cut.2

end Store

/-- A tick starts generations or removes some, but does not do both. -/
theorem Matcher.stems_tick {matcher after : Matcher} (wiped : matcher.store.chain.pools.Wiped)
    {goesOn : Bool} (ticked : tick matcher = .ok goesOn after) :
    matcher.store.chain.stems <:+ after.store.chain.stems ∨
      after.store.chain.stems <:+ matcher.store.chain.stems := by
  cases direction : matcher.direction with
  | forward =>
    obtain ⟨id, signal, node, isNode, found⟩ := node_of_tick direction ticked
    obtain rfl : matcher.signal = signal := by
      unfold Matcher.control at isNode
      obtain ⟨_, -, same⟩ := Option.map_eq_some_iff.mp isNode
      exact congrArg Prod.snd same
    by_cases merges : Merges node matcher.signal
    · have steps :
          Upholds (Store.CutFrom matcher.store.chain.stems) (stepNode id node matcher.signal) :=
        upholds_merging Store.coarse_cutFrom
          (fun _ _ _ cut collapsed => cut.collapse collapsed) merges
      exact .inr (invariant_of_step Store.coarse_cutFrom steps ⟨wiped, List.suffix_refl _⟩ direction
        isNode found ticked).2
    · have steps : Upholds (Store.GrownFrom matcher.store.chain.stems)
          (stepNode id node matcher.signal) :=
        upholds_stepNode Store.coarse_grownFrom (fun _ resume grown => grown.freeze resume) id node
          matcher.signal merges
      exact .inl (invariant_of_step Store.coarse_grownFrom steps ⟨wiped, List.suffix_refl _⟩
        direction isNode found ticked).2
  | backward =>
    rw [chain_of_tick direction ticked]
    exact .inr (Chain.stems_discardTail _)

end Rewind
