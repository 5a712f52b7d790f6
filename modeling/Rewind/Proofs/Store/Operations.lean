/-
This file gathers everything that can be done with a store, so that statements can be made about
runs of operations of any length. Accesses read and change cells and bindings, and may sweep; all
they do stays in the tail. The other operations grow and shrink the chain.
-/

import Mathlib
import Rewind.Proofs.Store.Locality

namespace Rewind

/-! ### Operations and their answers -/

/-- What an operation of the store answers when it is not refused. -/
inductive Answer
  | done
  | position (position : Nat)
  | payload (payload : Payload)
  | value (value : Value)
  | count (count : Nat)
  | flag (flag : Bool)
  | bindings (bindings : Bindings)
  | counters (counters : Counters)
  | swept (report : Option SweepReport)
  | checkpoint (checkpoint : Checkpoint)
  | resumed (resume : Option ResumePoint)
  deriving DecidableEq

/-- What can be done with the cells and bindings of a store. -/
inductive Access
  | alloc (payload : Payload)
  | deref (position : Nat)
  | peek (position : Nat)
  | count (position : Nat)
  | isFreed (position : Nat)
  | assign (position : Nat) (payload : Payload)
  /-- Any change of a payload; it may say something about what it found. -/
  | update (position : Nat) (edit : Payload → Value × Payload)
  | free (position : Nat)
  | retain (position : Nat)
  | release (position : Nat)
  | push (name : String) (value : Value)
  | lookup (name : String)
  | contains (name : String)
  | remove (name : String)
  | replace (name : String) (value : Value)
  | rename (name renamed : String)
  | bindings
  | counters
  | sweep (forced : Bool)
  /-- Takes a request for a sweep back, as a collector does before it sweeps. -/
  | takeRequest

/-- What can be done with a store. -/
inductive Operation
  | access (made : Access)
  | freeze (resume : ResumePoint)
  | rollback
  | restore (checkpoint : Checkpoint)
  | collapse (checkpoint : Checkpoint)
  | clear

/-- Reads from a store. -/
def Store.read {α : Type} (reading : Store → Except StoreError α) : StoreM α := fun store =>
  match reading store with
  | .ok value => .ok value store
  | .error error => .error (.refused error) store

/-- Takes a request for a sweep back, and says whether there was one. -/
def Store.takeRequest : StoreM Bool := fun store =>
  .ok store.sweepRequested { store with sweepRequested := false }

/-- Performs an access. -/
def Access.perform : Access → StoreM Answer
  | .alloc payload => do return .position (← Store.alloc payload)
  | .deref position => do return .payload (← Store.deref position)
  | .peek position => do return .payload (← Store.read fun store => store.peek position)
  | .count position => do return .count (← Store.read fun store => store.count position)
  | .isFreed position => do return .flag (← Store.read fun store => store.isFreed position)
  | .assign position payload => do
    Store.assign position payload
    return .done
  | .update position edit => do return .value (← Store.update position edit)
  | .free position => do
    Store.free position
    return .done
  | .retain position => do
    Store.retain position
    return .done
  | .release position => do
    Store.release position
    return .done
  | .push name value => do
    Store.push name value
    return .done
  | .lookup name => do return .value (← Store.read fun store => store.lookup name)
  | .contains name => do return .flag (← Store.read fun store => .ok (store.contains name))
  | .remove name => do
    Store.remove name
    return .done
  | .replace name value => do
    Store.replace name value
    return .done
  | .rename name renamed => do
    Store.rename name renamed
    return .done
  | .bindings => do return .bindings (← Store.read fun store => .ok store.bindings)
  | .counters => do return .counters (← Store.read fun store => .ok store.chain.counters)
  | .sweep forced => do return .swept (← Store.sweep forced)
  | .takeRequest => do return .flag (← Store.takeRequest)

/-- Performs an operation. -/
def Operation.perform : Operation → StoreM Answer
  | .access made => made.perform
  | .freeze resume => fun store =>
    .ok (.checkpoint (store.freeze resume).1) (store.freeze resume).2
  | .rollback => fun store => .ok (.resumed store.rollback.1) store.rollback.2
  | .restore checkpoint => do return .resumed (some (← Store.restore checkpoint))
  | .collapse checkpoint => do
    Store.collapse checkpoint
    return .done
  | .clear => fun store => .ok .done store.clear

/-- Where an action left its state, whether it succeeded or not. -/
def Action.reached {ε σ α : Type} : EStateM.Result ε σ α → σ
  | .ok _ state => state
  | .error _ state => state

/-- The store that a run of operations leads to. A refused operation does not end the run. -/
def Store.after (store : Store) (operations : List Operation) : Store :=
  operations.foldl (fun store operation => Action.reached (operation.perform store)) store

@[simp] theorem Store.after_nil (store : Store) : store.after [] = store := rfl

@[simp] theorem Store.after_cons (store : Store) (operation : Operation)
    (operations : List Operation) :
    store.after (operation :: operations) =
      (Action.reached (operation.perform store)).after operations := rfl

theorem Store.after_append (store : Store) (first second : List Operation) :
    store.after (first ++ second) = (store.after first).after second := List.foldl_append

/-! ### Accesses stay in the tail -/

namespace Chain

/-- All that an action does stays in the tail. -/
def Local {α : Type} (action : ChainM α) : Prop :=
  ∀ chain : Chain, chain.pools.Wiped → chain.Keeps (Action.reached (action chain))

theorem Follows.isLocal {α : Type} {action : ChainM α} {flat : SnapshotM α}
    (follows : Follows action flat) : Local action := by
  intro chain wiped
  have shows := follows chain wiped
  generalize action chain = result at shows
  generalize flat chain.snapshot = shown at shows
  cases shows with
  | ok keeps => exact keeps
  | error keeps => exact keeps

theorem local_bind {α β : Type} {action : ChainM α} {next : α → ChainM β} (first : Local action)
    (second : ∀ value, Local (next value)) : Local (action >>= next) := by
  intro chain wiped
  have keeps := first chain wiped
  cases ran : action chain with
  | error fault reached =>
    rw [Action.bind_of_error ran]
    rw [ran] at keeps
    exact keeps
  | ok value reached =>
    rw [Action.bind_of_ok ran]
    rw [ran] at keeps
    exact keeps.trans (second value reached (keeps.wiped wiped))

theorem local_pure {α : Type} (value : α) : Local (pure value : ChainM α) :=
  fun chain _ => .refl chain

theorem local_retain (position : Nat) : Local (retain position) :=
  local_bind (follows_change position _).isLocal fun _ => local_pure ()

theorem local_forM {α : Type} (items : List α) {action : α → ChainM PUnit}
    (each : ∀ item, Local (action item)) : Local (items.forM action) := by
  induction items with
  | nil => exact local_pure ()
  | cons item items inductionHypothesis =>
    exact local_bind (each item) fun _ => inductionHypothesis

theorem local_releaseOne (sweeping : Bool) (position : Nat) :
    Local (releaseOne sweeping position) := by
  have dropping : Local (drop sweeping position) := by
    refine local_bind (follows_change position _).isLocal fun cell => ?_
    split
    · exact local_pure none
    · exact (follows_free sweeping position).isLocal
  unfold releaseOne
  split
  · refine local_bind (follows_peek position).isLocal fun seen => ?_
    split
    · exact local_pure none
    · exact dropping
  · exact dropping

theorem releaseAll_of_ok {sweeping : Bool} {position : Nat} {rest : List Nat}
    {chain reached : Chain} {freed : Option Payload}
    (released : releaseOne sweeping position chain = .ok freed reached) :
    releaseAll sweeping (position :: rest) chain =
      releaseAll sweeping ((freed.elim [] Payload.references).reverse ++ rest) reached := by
  rw [releaseAll]
  split
  · rename_i failed
    rw [released] at failed
    cases failed
  · rename_i same
    rw [released] at same
    cases same
    rfl

theorem releaseAll_of_error {sweeping : Bool} {position : Nat} {rest : List Nat}
    {chain reached : Chain} {fault : StoreFault}
    (failed : releaseOne sweeping position chain = .error fault reached) :
    releaseAll sweeping (position :: rest) chain = .error fault reached := by
  rw [releaseAll]
  split
  · rename_i same
    rw [failed] at same
    cases same
    rfl
  · rename_i released
    rw [failed] at released
    cases released

theorem local_releaseAll (sweeping : Bool) (pending : List Nat) :
    Local (releaseAll sweeping pending) := by
  intro chain wiped
  fun_induction releaseAll sweeping pending chain with
  | case1 chain => exact .refl chain
  | case2 chain position rest fault reached failed =>
    have keeps := local_releaseOne sweeping position chain wiped
    rw [failed] at keeps
    exact keeps
  | case3 chain position rest freed reached released inductionHypothesis =>
    have keeps := local_releaseOne sweeping position chain wiped
    rw [released] at keeps
    exact keeps.trans (inductionHypothesis (keeps.wiped wiped))

theorem local_release (sweeping : Bool) (positions : List Nat) :
    Local (release sweeping positions) := local_releaseAll sweeping positions.reverse

theorem local_freeAndRelease (sweeping : Bool) (position : Nat) :
    Local (freeAndRelease sweeping position) := by
  refine local_bind (follows_free sweeping position).isLocal fun freed => ?_
  cases freed with
  | some payload => exact local_release sweeping payload.references
  | none => exact local_pure ()

theorem local_sweepUnmarked (marks : Array Bool) : Local (sweepUnmarked marks) := by
  refine local_forM _ fun position => ?_
  unfold sweepCell
  split
  · exact local_pure ()
  · refine local_bind (follows_peek position).isLocal fun cell => ?_
    split
    · exact local_pure ()
    · exact local_freeAndRelease true position

end Chain

/-- What an access leaves as it is. -/
structure Store.Keeps (before after : Store) : Prop where
  chain : before.chain.Keeps after.chain
  nextId : after.nextId = before.nextId
  settings : after.settings = before.settings
  idle : before.sweeping = false → after.sweeping = false

namespace Store

theorem Keeps.refl (store : Store) : store.Keeps store :=
  ⟨.refl store.chain, rfl, rfl, fun idle => idle⟩

theorem Keeps.trans {first second third : Store} (left : first.Keeps second)
    (right : second.Keeps third) : first.Keeps third where
  chain := left.chain.trans right.chain
  nextId := right.nextId.trans left.nextId
  settings := right.settings.trans left.settings
  idle := right.idle ∘ left.idle

/-- All that an action does stays in the tail. -/
def Local {α : Type} (action : StoreM α) : Prop :=
  ∀ store : Store, store.chain.pools.Wiped → store.Keeps (Action.reached (action store))

theorem Local.keeps {α : Type} {action : StoreM α} (isLocal : Local action) {store after : Store}
    (wiped : store.chain.pools.Wiped) {value : α} (ran : action store = .ok value after) :
    store.Keeps after := by
  have keeps := isLocal store wiped
  rwa [ran] at keeps

theorem local_bind {α β : Type} {action : StoreM α} {next : α → StoreM β} (first : Local action)
    (second : ∀ value, Local (next value)) : Local (action >>= next) := by
  intro store wiped
  have keeps := first store wiped
  cases ran : action store with
  | error fault reached =>
    rw [Action.bind_of_error ran]
    rw [ran] at keeps
    exact keeps
  | ok value reached =>
    rw [Action.bind_of_ok ran]
    rw [ran] at keeps
    exact keeps.trans (second value reached (keeps.chain.wiped wiped))

theorem local_pure {α : Type} (value : α) : Local (pure value : StoreM α) :=
  fun store _ => .refl store

theorem local_get : Local (get : StoreM Store) := fun store _ => .refl store

theorem local_read {α : Type} (reading : Store → Except StoreError α) : Local (read reading) := by
  intro store _
  unfold read
  cases reading store with
  | ok value => exact .refl store
  | error error => exact .refl store

theorem onChain_of_ok {α : Type} {store : Store} {action : ChainM α} {value : α}
    {reached : Chain} (ran : action store.chain = .ok value reached) :
    onChain action store = .ok value { store with chain := reached } := by
  unfold onChain Action.onPart
  rw [ran]

theorem onChain_of_error {α : Type} {store : Store} {action : ChainM α} {fault : StoreFault}
    {reached : Chain} (ran : action store.chain = .error fault reached) :
    onChain action store = .error fault { store with chain := reached } := by
  unfold onChain Action.onPart
  rw [ran]
  rfl

theorem local_onChain {α : Type} {action : ChainM α} (inTail : Chain.Local action) :
    Local (onChain action) := by
  intro store wiped
  have keeps := inTail store.chain wiped
  unfold onChain Action.onPart
  cases ran : action store.chain with
  | ok value reached =>
    rw [ran] at keeps
    exact ⟨keeps, rfl, rfl, fun idle => idle⟩
  | error fault reached =>
    rw [ran] at keeps
    exact ⟨keeps, rfl, rfl, fun idle => idle⟩

theorem local_deref (position : Nat) : Local (deref position) := by
  refine local_bind local_get fun store => local_onChain ?_
  exact Chain.local_bind (Chain.follows_read _ position).isLocal fun cell =>
    (Chain.follows_ofExcept cell.payload).isLocal

theorem local_retainAll (positions : List Nat) : Local (onChain (Chain.retainAll positions)) :=
  local_onChain (Chain.local_forM positions Chain.local_retain)

theorem local_releaseAll (positions : List Nat) : Local (releaseAll positions) :=
  local_bind local_get fun store => local_onChain (Chain.local_release store.sweeping positions)

theorem local_assign (position : Nat) (payload : Payload) : Local (assign position payload) := by
  refine local_bind (local_retainAll _) fun _ => local_bind (local_onChain ?_) fun old =>
    local_releaseAll old.references
  exact (Chain.follows_overwrite position payload).isLocal

theorem local_retainValue (value : Value) : Local (retainValue value) := by
  unfold retainValue
  split
  · exact local_onChain (Chain.local_retain _)
  · exact local_pure ()

theorem local_releaseValue (value : Value) : Local (releaseValue value) := by
  unfold releaseValue
  split
  · exact local_releaseAll _
  · exact local_pure ()

theorem local_freeUnreachable : Local freeUnreachable := by
  intro store wiped
  have keeps := Chain.local_sweepUnmarked store.chain.marks store.chain wiped
  unfold freeUnreachable onChain Action.onPart
  cases ran : Chain.sweepUnmarked store.chain.marks store.chain with
  | ok value reached =>
    rw [ran] at keeps
    exact ⟨keeps, rfl, rfl, fun _ => rfl⟩
  | error fault reached =>
    rw [ran] at keeps
    exact ⟨keeps, rfl, rfl, fun _ => rfl⟩

theorem local_adjustThreshold : Local adjustThreshold := by
  intro store _
  unfold adjustThreshold
  rw [Action.bind_of_ok (rfl : (get : StoreM Store) store = .ok store store)]
  split
  · cases store.grownThreshold with
    | error defect => exact .refl store
    | ok threshold =>
      have kept : store.chain.Keeps (store.chain.mapCounters fun counters =>
          { counters with sweepThreshold := threshold }) := Chain.keeps_mapCounters rfl
      exact ⟨kept, rfl, rfl, fun idle => idle⟩
  · exact .refl store

theorem local_sweep (forced : Bool) : Local (sweep forced) := by
  refine local_bind local_get fun before => ?_
  split
  · exact local_pure none
  · refine local_bind local_freeUnreachable fun _ => local_bind local_get fun swept =>
      local_bind local_adjustThreshold fun _ => ?_
    intro store _
    exact ⟨.refl store.chain, rfl, rfl, fun idle => idle⟩

theorem local_poll (collector : Collector) : Local collector.poll := by
  refine local_bind local_get fun store => ?_
  split
  · refine local_bind (fun store _ => ⟨.refl store.chain, rfl, rfl, fun idle => idle⟩) fun _ => ?_
    exact local_bind (local_sweep false) fun report => local_pure _
  · exact local_pure _

theorem local_alloc (payload : Payload) : Local (alloc payload) := by
  refine local_bind (local_retainAll _) fun _ => local_bind
    (local_onChain (Chain.follows_alloc payload).isLocal) fun allocated => ?_
  obtain ⟨position, grown⟩ := allocated
  cases grown with
  | true => exact fun store _ => ⟨.refl store.chain, rfl, rfl, fun idle => idle⟩
  | false => exact local_pure position

theorem local_update {α : Type} (position : Nat) (edit : Payload → α × Payload) :
    Local (update position edit) :=
  local_bind (local_deref position) fun payload =>
    local_bind (local_assign position (edit payload).2) fun _ => local_pure (edit payload).1

theorem local_push (name : String) (value : Value) : Local (push name value) :=
  local_bind (local_retainValue value) fun _ =>
    local_onChain (Chain.follows_push name value).isLocal

theorem local_remove (name : String) : Local (remove name) :=
  local_bind (local_onChain (Chain.follows_remove name).isLocal) local_releaseValue

theorem local_rename (name renamed : String) : Local (rename name renamed) :=
  local_onChain (Chain.local_bind (Chain.follows_remove name).isLocal fun value =>
    (Chain.follows_push renamed value).isLocal)

end Store

/-- Whatever an access does stays in the tail. -/
theorem Access.keeps_perform (access : Access) {store : Store} (wiped : store.chain.pools.Wiped) :
    store.Keeps (Action.reached (access.perform store)) := by
  refine (?_ : Store.Local access.perform) store wiped
  have answered {α : Type} {action : StoreM α} (inTail : Store.Local action)
      (answer : α → Answer) : Store.Local (do return answer (← action)) :=
    Store.local_bind inTail fun value => Store.local_pure (answer value)
  cases access with
  | alloc payload => exact answered (Store.local_alloc payload) _
  | deref position => exact answered (Store.local_deref position) _
  | peek position => exact answered (Store.local_read _) _
  | count position => exact answered (Store.local_read _) _
  | isFreed position => exact answered (Store.local_read _) _
  | assign position payload => exact answered (Store.local_assign position payload) _
  | update position edit => exact answered (Store.local_update position edit) _
  | free position =>
    exact answered (Store.local_bind Store.local_get fun store =>
      Store.local_onChain (Chain.local_freeAndRelease store.sweeping position)) _
  | retain position => exact answered (Store.local_onChain (Chain.local_retain position)) _
  | release position => exact answered (Store.local_releaseAll [position]) _
  | push name value => exact answered (Store.local_push name value) _
  | lookup name => exact answered (Store.local_read _) _
  | contains name => exact answered (Store.local_read _) _
  | remove name => exact answered (Store.local_remove name) _
  | replace name value =>
    exact answered (Store.local_bind (Store.local_retainValue value) fun _ =>
      Store.local_bind (Store.local_onChain (Chain.follows_replace name value).isLocal)
        Store.local_releaseValue) _
  | rename name renamed => exact answered (Store.local_rename name renamed) _
  | bindings => exact answered (Store.local_read _) _
  | counters => exact answered (Store.local_read _) _
  | sweep forced => exact answered (Store.local_sweep forced) _
  | takeRequest =>
    have taking : Store.Local Store.takeRequest := fun store _ =>
      ⟨.refl store.chain, rfl, rfl, fun idle => idle⟩
    exact answered taking _

/-! ### Pools stay wiped -/

theorem Pool.wiped_giveBackAll {pool : Pool Level}
    (wiped : ∀ level ∈ pool.items, level.bindings = []) (given : List Level) :
    ∀ level ∈ (pool.giveBackAll given).items, level.bindings = [] := by
  unfold Pool.giveBackAll
  induction given generalizing pool with
  | nil => exact wiped
  | cons level given inductionHypothesis =>
    exact inductionHypothesis (Chain.wiped_giveBack wiped level)

theorem Generation.wiped_recycle {pools : Pools} (wiped : pools.Wiped) (generation : Generation) :
    (generation.recycle pools).Wiped := Pool.wiped_giveBackAll wiped _

theorem Generation.wiped_foldl_recycle {pools : Pools} (wiped : pools.Wiped)
    (generations : List Generation) :
    (generations.foldl (fun pools generation => generation.recycle pools) pools).Wiped := by
  induction generations generalizing pools with
  | nil => exact wiped
  | cons generation generations inductionHypothesis =>
    exact inductionHypothesis (generation.wiped_recycle wiped)

theorem Generation.wiped_mergeInto {pools : Pools} (wiped : pools.Wiped)
    (newer older : Generation) : (newer.mergeInto older pools).2.Wiped :=
  Pool.wiped_giveBackAll (Pool.wiped_giveBackAll wiped _) _

theorem Generation.wiped_foldl_mergeInto {merged : Generation × Pools} (wiped : merged.2.Wiped)
    (newer : List Generation) :
    (newer.foldl (fun merged generation => generation.mergeInto merged.1 merged.2)
      merged).2.Wiped := by
  induction newer generalizing merged with
  | nil => exact wiped
  | cons generation newer inductionHypothesis =>
    exact inductionHypothesis (wiped_mergeInto wiped generation merged.1)

theorem Chain.wiped_discardTail {chain : Chain} (wiped : chain.pools.Wiped) :
    chain.discardTail.pools.Wiped := by
  unfold discardTail
  split
  · exact wiped
  · exact chain.tail.wiped_recycle wiped

theorem Chain.wiped_discardTo {chain : Chain} (wiped : chain.pools.Wiped) (depth : Nat) :
    (chain.discardTo depth).pools.Wiped := by
  unfold discardTo
  split
  · exact wiped
  · exact Generation.wiped_foldl_recycle wiped _

theorem Chain.wiped_mergeTo {chain : Chain} (wiped : chain.pools.Wiped) (depth : Nat) :
    (chain.mergeTo depth).pools.Wiped := by
  unfold mergeTo
  split
  · exact wiped
  · exact Generation.wiped_foldl_mergeInto wiped _

/-! ### What the other operations do -/

namespace Store

theorem freeze_chain (store : Store) (resume : ResumePoint) :
    (store.freeze resume).2.chain = store.chain.extend store.nextId resume := rfl

theorem rollback_chain (store : Store) : store.rollback.2.chain = store.chain.discardTail := by
  unfold rollback
  cases lower : store.chain.older with
  | nil =>
    unfold Chain.discardTail
    rw [lower]
    rfl
  | cons tail older => rfl

/-- Restoring either changes nothing or discards what lies above the checkpoint. -/
theorem restore_cases (store : Store) (checkpoint : Checkpoint) :
    (∃ fault, restore checkpoint store = .error fault store ∧
        ∀ started resume, store.startedBy? checkpoint = some started →
          started.resume = some resume → False) ∨
      ∃ started resume restored, restore checkpoint store = .ok resume restored ∧
        store.startedBy? checkpoint = some started ∧ started.resume = some resume ∧
        ∃ event, restored =
          { store with chain := store.chain.discardTo checkpoint.depth }.note event := by
  unfold restore
  rw [Action.bind_of_ok (rfl : (get : StoreM Store) store = .ok store store)]
  cases found : store.startedBy? checkpoint with
  | none => exact .inl ⟨_, rfl, fun started _ impossible => nomatch impossible⟩
  | some started =>
    cases resumes : started.resume with
    | none =>
      refine .inl ⟨.defect .missingResumePoint, ?_, fun _ resume same impossible => ?_⟩
      · simp only [resumes]
        rfl
      · cases same
        rw [resumes] at impossible
        cases impossible
    | some resume =>
      refine .inr ⟨started, resume, _, ?_, rfl, resumes,
        .restored (store.chain.older.length - checkpoint.depth) checkpoint.id, rfl⟩
      simp only [resumes]
      rfl

/-- Collapsing either is refused or merges what lies above the checkpoint. -/
theorem collapse_cases (store : Store) (checkpoint : Checkpoint) :
    collapse checkpoint store = .error (.refused .staleCheckpoint) store ∧
        store.holds checkpoint = false ∨
      store.holds checkpoint = true ∧ ∃ merged, collapse checkpoint store = .ok () merged ∧
        merged.chain = store.chain.mergeTo checkpoint.depth ∧ merged.nextId = store.nextId ∧
        merged.settings = store.settings ∧ merged.sweeping = store.sweeping ∧
        merged.sweepRequested = store.sweepRequested := by
  unfold collapse
  rw [Action.bind_of_ok (rfl : (get : StoreM Store) store = .ok store store)]
  cases held : store.holds checkpoint with
  | false => exact .inl ⟨rfl, rfl⟩
  | true =>
    refine .inr ⟨rfl, ?_⟩
    simp only [if_true]
    split
    · exact ⟨_, rfl, rfl, rfl, rfl, rfl, rfl⟩
    · exact ⟨_, rfl, rfl, rfl, rfl, rfl, rfl⟩

end Store

/-- What an operation that is no access makes of a chain. -/
inductive Store.Reshaped (store : Store) : Chain → Prop
  | same : store.Reshaped store.chain
  | extended (resume : ResumePoint) : store.Reshaped (store.chain.extend store.nextId resume)
  | shortened : store.Reshaped store.chain.discardTail
  | discarded (depth : Nat) : store.Reshaped (store.chain.discardTo depth)
  | merged (depth : Nat) : store.Reshaped (store.chain.mergeTo depth)
  | cleared : store.Reshaped store.clear.chain

/-- An operation is an access, or it reshapes the chain and does not sweep. -/
theorem Operation.perform_cases (operation : Operation) (store : Store) :
    (∃ made, operation = .access made) ∨
      store.Reshaped (Action.reached (operation.perform store)).chain ∧
        (Action.reached (operation.perform store)).sweeping = store.sweeping := by
  cases operation with
  | access made => exact .inl ⟨made, rfl⟩
  | freeze resume => exact .inr ⟨.extended resume, rfl⟩
  | rollback =>
    right
    change store.Reshaped store.rollback.2.chain ∧ store.rollback.2.sweeping = _
    rw [store.rollback_chain]
    refine ⟨.shortened, ?_⟩
    unfold Store.rollback
    split <;> rfl
  | restore checkpoint =>
    right
    change store.Reshaped
      (Action.reached ((Store.restore checkpoint >>= fun resume => pure _) store)).chain ∧
      (Action.reached ((Store.restore checkpoint >>= fun resume => pure _) store)).sweeping = _
    obtain ⟨fault, failed, -⟩ | ⟨started, resume, restored, succeeded, -, -, event, rfl⟩ :=
      store.restore_cases checkpoint
    · rw [Action.bind_of_error failed]
      exact ⟨.same, rfl⟩
    · rw [Action.bind_of_ok succeeded]
      exact ⟨.discarded checkpoint.depth, rfl⟩
  | collapse checkpoint =>
    right
    change store.Reshaped
      (Action.reached ((Store.collapse checkpoint >>= fun _ => pure _) store)).chain ∧
      (Action.reached ((Store.collapse checkpoint >>= fun _ => pure _) store)).sweeping = _
    obtain ⟨failed, -⟩ | ⟨-, merged, succeeded, chain, -, -, sweeping, -⟩ :=
      store.collapse_cases checkpoint
    · rw [Action.bind_of_error failed]
      exact ⟨.same, rfl⟩
    · rw [Action.bind_of_ok succeeded]
      change store.Reshaped merged.chain ∧ merged.sweeping = _
      rw [chain]
      exact ⟨.merged checkpoint.depth, sweeping⟩
  | clear => exact .inr ⟨.cleared, rfl⟩

theorem Operation.wiped_perform (operation : Operation) {store : Store}
    (wiped : store.chain.pools.Wiped) :
    (Action.reached (operation.perform store)).chain.pools.Wiped := by
  obtain ⟨made, rfl⟩ | ⟨reshaped, -⟩ := operation.perform_cases store
  · exact (made.keeps_perform wiped).chain.wiped wiped
  · generalize (Action.reached (operation.perform store)).chain = after at reshaped
    cases reshaped with
    | same => exact wiped
    | extended resume => exact wiped
    | shortened => exact Chain.wiped_discardTail wiped
    | discarded depth => exact Chain.wiped_discardTo wiped depth
    | merged depth => exact Chain.wiped_mergeTo wiped depth
    | cleared => exact Generation.wiped_foldl_recycle wiped _

theorem Store.wiped_after {store : Store} (wiped : store.chain.pools.Wiped)
    (operations : List Operation) : (store.after operations).chain.pools.Wiped := by
  induction operations generalizing store with
  | nil => exact wiped
  | cons operation operations inductionHypothesis =>
    exact inductionHypothesis (operation.wiped_perform wiped)

theorem Store.wiped_empty (settings : StoreSettings) : (empty settings).chain.pools.Wiped :=
  fun _ member => nomatch member

end Rewind
