/-
This file proves that a store is in order after every run, whatever was refused on the way and
however often references were counted or taken away by hand: in the view of every generation the
cells that are not in use are threaded on the free list, the stack is a list of bindings, and no
reference points outside of the heap. A reference may well point to a free cell.

The proof follows each operation through all the ways it can end. References that an operation is
about to store are kept beside the heap, and they lie inside of it as soon as they are counted.
-/

import Mathlib
import Rewind.Proofs.Store.Accounting
import Rewind.Proofs.Store.Views

namespace Rewind

/-- The heap and the stack are in order, and no reference points outside of the heap. -/
def Snapshot.Sound (snapshot : Snapshot) : Prop :=
  ∃ entries bindings, snapshot.Holds entries ∧ snapshot.Binds bindings ∧
    ∀ position ∈ bindings.held + Entry.held entries, position < snapshot.counters.heapSize

/-- A chain is in order, and some references on top of those it holds point inside of the heap. -/
def Chain.Sound (outer : Multiset Nat) (chain : Chain) : Prop :=
  ∃ entries bindings, chain.Holds entries bindings ∧
    ∀ position ∈ outer + (bindings.held + Entry.held entries), position < chain.counters.heapSize

/-- A chain stays in order, together with the references that are kept beside it. -/
def Chain.Steady (outer : Multiset Nat) (before after : Chain) : Prop :=
  before.Sound outer → after.Sound outer

/-- However an action ends, the state it leaves is related to the one before. -/
def Action.Within {ε σ α : Type} (relation : σ → σ → Prop) (action : EStateM ε σ α) : Prop :=
  ∀ state, relation state (Action.reached (action state))

namespace Action

variable {ε σ α β : Type} {relation : σ → σ → Prop} [IsPreorder σ relation]

theorem within_pure (value : α) : Within relation (pure value : EStateM ε σ α) :=
  fun state => refl_of relation state

theorem within_get : Within relation (get : EStateM ε σ σ) := fun state => refl_of relation state

theorem within_bind {action : EStateM ε σ α} {next : α → EStateM ε σ β}
    (first : Within relation action) (second : ∀ value, Within relation (next value)) :
    Within relation (action >>= next) := by
  intro state
  have related := first state
  cases ran : action state with
  | error fault reached =>
    rw [bind_of_error ran]
    rwa [ran] at related
  | ok value reached =>
    rw [bind_of_ok ran]
    rw [ran] at related
    exact trans_of relation related (second value reached)

theorem within_forM (items : List β) {action : β → EStateM ε σ PUnit}
    (each : ∀ item, Within relation (action item)) : Within relation (items.forM action) := by
  induction items with
  | nil => exact within_pure PUnit.unit
  | cons item items inductionHypothesis =>
    exact within_bind (each item) fun _ => inductionHypothesis

end Action

namespace Chain

variable {chain after : Chain} {outer : Multiset Nat} {entries left : Multiset Entry}
  {bindings bound : Bindings}

instance (outer : Multiset Nat) : IsPreorder Chain (Steady outer) where
  refl _ sound := sound
  trans _ _ _ first second := second ∘ first

theorem Sound.mono {more : Multiset Nat} (sound : chain.Sound more)
    (fewer : ∀ position ∈ outer, position ∈ more) : chain.Sound outer := by
  obtain ⟨entries, bindings, holds, inside⟩ := sound
  refine ⟨entries, bindings, holds, fun position member => inside position ?_⟩
  rw [Multiset.mem_add] at member ⊢
  exact member.imp (fewer position) id

/-- A chain is still in order if all references it holds were there before. -/
theorem Sound.of_holds {growth : Nat} (holds : after.Holds left bound)
    (moves : chain.Moves growth after)
    (inside : ∀ position ∈ outer + (bindings.held + Entry.held entries),
      position < chain.counters.heapSize)
    (former : ∀ position ∈ bound.held + Entry.held left,
      position ∈ outer + (bindings.held + Entry.held entries)) : after.Sound outer := by
  refine ⟨left, bound, holds, fun position member => ?_⟩
  refine Nat.lt_of_lt_of_le (inside position ?_) moves.larger
  obtain kept | held := Multiset.mem_add.mp member
  · exact Multiset.mem_add.mpr (.inl kept)
  · exact former position held

theorem Sound.unchanged {growth : Nat} (holds : after.Holds entries bindings)
    (moves : chain.Moves growth after)
    (inside : ∀ position ∈ outer + (bindings.held + Entry.held entries),
      position < chain.counters.heapSize) : after.Sound outer :=
  .of_holds holds moves inside fun _ member => Multiset.mem_add.mpr (.inr member)

/-! ### Cells -/

theorem steady_read (distance position : Nat) :
    Action.Within (Steady outer) (do ChainM.ofExcept (← read distance position).payload) := by
  rintro chain ⟨entries, bindings, holds, inside⟩
  obtain ⟨entry, -, -, after, ran, held, moves⟩ | ⟨-, fault, after, ran, held, moves⟩ :=
    holds.read_cases distance position
  · rw [ran]
    exact .unchanged held moves inside
  · rw [ran]
    exact .unchanged held moves inside

theorem steady_retain (position : Nat) : Action.Within (Steady outer) (retain position) := by
  rintro chain ⟨entries, bindings, holds, inside⟩
  obtain ⟨-, after, ran, held, moves⟩ | ⟨-, fault, after, ran, held, moves⟩ :=
    holds.retain_cases position
  · rw [ran]
    refine .of_holds held moves inside fun other member => ?_
    rw [Entry.held_bump] at member
    exact Multiset.mem_add.mpr (.inr member)
  · rw [ran]
    exact .unchanged held moves inside

/-- A reference that has been counted points inside of the heap. -/
theorem Sound.retain (sound : chain.Sound outer) {position : Nat}
    (ran : Chain.retain position chain = .ok () after) : after.Sound (position ::ₘ outer) := by
  obtain ⟨entries, bindings, holds, inside⟩ := sound
  obtain ⟨isEntry, reached, succeeded, held, moves⟩ | ⟨-, fault, reached, failed, -⟩ :=
    holds.retain_cases position
  · rw [ran] at succeeded
    cases succeeded
    refine ⟨_, _, held, fun other member => ?_⟩
    rw [Entry.held_bump, Multiset.cons_add, Multiset.mem_cons] at member
    refine Nat.lt_of_lt_of_le ?_ moves.larger
    obtain same | before := member
    · exact same ▸ holds.inside isEntry
    · exact inside other before
  · rw [ran] at failed
    cases failed

theorem steady_retainAll (positions : List Nat) :
    Action.Within (Steady outer) (retainAll positions) :=
  Action.within_forM positions steady_retain

theorem Sound.retainAll (sound : chain.Sound outer) {positions : List Nat}
    (ran : Chain.retainAll positions chain = .ok () after) : after.Sound (positions + outer) := by
  induction positions generalizing chain outer with
  | nil =>
    cases ran
    rwa [Multiset.coe_nil, zero_add]
  | cons position positions inductionHypothesis =>
    change (Chain.retain position >>= fun _ => Chain.retainAll positions) chain = _ at ran
    obtain ⟨_, once, first, rest⟩ := Action.bind_eq_ok_iff.mp ran
    have retained := inductionHypothesis (sound.retain first) rest
    rwa [Multiset.add_cons, ← Multiset.cons_add, Multiset.cons_coe] at retained

theorem steady_releaseOne (sweeping : Bool) (position : Nat) :
    Action.Within (Steady outer) (releaseOne sweeping position) := by
  rintro chain ⟨entries, bindings, holds, inside⟩
  have ends := holds.releaseOne sweeping position
  generalize Chain.releaseOne sweeping position chain = result at ends
  cases ends with
  | lowered _ split _ held moves =>
    subst split
    refine .of_holds held moves inside fun other member => Multiset.mem_add.mpr (.inr ?_)
    rwa [Entry.held_cons] at member ⊢
  | freed _ split _ held moves =>
    subst split
    refine .of_holds held moves inside fun other member => Multiset.mem_add.mpr (.inr ?_)
    rw [Entry.held_cons]
    exact (Multiset.mem_add.mp member).elim (fun bound => by simp [bound])
      fun held => by simp [held]
  | skipped => exact ⟨entries, bindings, holds, inside⟩
  | failed _ held moves => exact .unchanged held moves inside

theorem steady_releaseAll (sweeping : Bool) (pending : List Nat) :
    Action.Within (Steady outer) (releaseAll sweeping pending) := by
  intro chain
  fun_induction Chain.releaseAll sweeping pending chain with
  | case1 chain => exact refl_of (Steady outer) chain
  | case2 chain position rest fault reached failed =>
    have steady : Steady outer chain _ := steady_releaseOne sweeping position chain
    rwa [failed] at steady
  | case3 chain position rest freed reached released inductionHypothesis =>
    have steady : Steady outer chain _ := steady_releaseOne sweeping position chain
    rw [released] at steady
    exact trans_of (Steady outer) steady inductionHypothesis

theorem steady_free (sweeping : Bool) (position : Nat) :
    Action.Within (Steady outer) (free sweeping position) := by
  rintro chain ⟨entries, bindings, holds, inside⟩
  have ends := holds.free sweeping position
  generalize Chain.free sweeping position chain = result at ends
  cases ends with
  | freed _ split _ held moves =>
    subst split
    refine .of_holds held moves inside fun other member => Multiset.mem_add.mpr (.inr ?_)
    rw [Entry.held_cons]
    exact (Multiset.mem_add.mp member).elim (fun bound => by simp [bound])
      fun held => by simp [held]
  | skipped => exact ⟨entries, bindings, holds, inside⟩
  | failed _ held moves => exact .unchanged held moves inside

theorem steady_freeAndRelease (sweeping : Bool) (position : Nat) :
    Action.Within (Steady outer) (freeAndRelease sweeping position) := by
  refine Action.within_bind (steady_free sweeping position) fun freed => ?_
  cases freed with
  | some payload => exact steady_releaseAll sweeping payload.references.reverse
  | none => exact Action.within_pure ()

theorem steady_peek (position : Nat) : Action.Within (Steady outer) (peek position) := by
  intro chain
  change Steady outer chain (Action.reached (ChainM.ofExcept (chain.cell position) chain))
  cases chain.cell position <;> exact refl_of (Steady outer) chain

theorem steady_sweepCell (marks : Array Bool) (position : Nat) :
    Action.Within (Steady outer) (sweepCell marks position) := by
  unfold sweepCell
  split
  · exact Action.within_pure ()
  · refine Action.within_bind (steady_peek position) fun cell => ?_
    split
    · exact Action.within_pure ()
    · exact steady_freeAndRelease true position

theorem steady_sweepUnmarked (marks : Array Bool) :
    Action.Within (Steady outer) (sweepUnmarked marks) :=
  Action.within_forM _ (steady_sweepCell marks)

/-- Storing references that point inside of the heap. -/
theorem steady_alloc {payload : Payload}
    (counted : ∀ position ∈ payload.references, position ∈ outer) :
    Action.Within (Steady outer) (alloc payload) := by
  rintro chain ⟨entries, bindings, holds, inside⟩
  obtain ⟨position, grown, after, ran, held, moves, -⟩ := holds.alloc payload
  rw [ran]
  refine .of_holds held moves inside fun other member => ?_
  rw [Entry.held_cons, Multiset.mem_add, Multiset.mem_add, Multiset.mem_coe] at member
  rw [Multiset.mem_add, Multiset.mem_add]
  obtain bound | stored | before := member
  · exact .inr (.inl bound)
  · exact .inl (counted other stored)
  · exact .inr (.inr before)

theorem steady_overwrite (position : Nat) {payload : Payload}
    (counted : ∀ position ∈ payload.references, position ∈ outer) :
    Action.Within (Steady outer) (do
      let _ ← own position
      overwrite position payload) := by
  rintro chain ⟨entries, bindings, holds, inside⟩
  obtain ⟨entry, rest, -, rfl, after, ran, held, moves⟩ | ⟨-, fault, after, ran, held, moves⟩ :=
    holds.overwrite_cases position payload
  · rw [ran]
    refine .of_holds held moves inside fun other member => ?_
    rw [Entry.held_cons, Multiset.mem_add, Multiset.mem_add, Multiset.mem_coe] at member
    rw [Entry.held_cons, Multiset.mem_add, Multiset.mem_add, Multiset.mem_add]
    obtain bound | stored | before := member
    · exact .inr (.inl bound)
    · exact .inl (counted other stored)
    · exact .inr (.inr (.inr before))
  · rw [ran]
    exact .unchanged held moves inside

/-! ### Bindings -/

theorem steady_push (name : String) {value : Value}
    (counted : ∀ position ∈ value.reference?, position ∈ outer) :
    Action.Within (Steady outer) (push name value) := by
  rintro chain ⟨entries, bindings, holds, inside⟩
  obtain ⟨after, ran, held, moves⟩ := holds.push name value
  rw [ran]
  refine .of_holds held moves inside fun other member => ?_
  rw [Bindings.held_append, Bindings.held_singleton, Multiset.mem_add, Multiset.mem_add] at member
  rw [Multiset.mem_add, Multiset.mem_add]
  obtain (bound | pushed) | before := member
  · exact .inr (.inl bound)
  · exact .inl (counted other (Option.mem_toList.mp pushed))
  · exact .inr (.inr before)

theorem steady_remove (name : String) : Action.Within (Steady outer) (remove name) := by
  rintro chain ⟨entries, bindings, holds, inside⟩
  obtain ⟨front, value, back, after, rfl, -, ran, held, moves⟩ | ⟨-, after, ran, held, moves⟩ :=
    holds.remove_cases name
  · rw [ran]
    refine .of_holds held moves inside fun other member => ?_
    simp only [Bindings.held_append, Bindings.held_cons, Multiset.mem_add] at member ⊢
    tauto
  · rw [ran]
    exact .unchanged held moves inside

/-- A value that is removed is a reference inside of the heap. -/
theorem Sound.remove (sound : chain.Sound outer) {name : String} {value : Value}
    (ran : Chain.remove name chain = .ok value after) :
    after.Sound (value.reference?.toList + outer) := by
  obtain ⟨entries, bindings, holds, inside⟩ := sound
  obtain ⟨front, removed, back, reached, rfl, -, succeeded, held, moves⟩ |
    ⟨-, reached, failed, -⟩ := holds.remove_cases name
  · rw [ran] at succeeded
    cases succeeded
    refine ⟨_, _, held, fun other member => Nat.lt_of_lt_of_le (inside other ?_) moves.larger⟩
    simp only [Bindings.held_append, Bindings.held_cons, Multiset.mem_add] at member ⊢
    tauto
  · rw [ran] at failed
    cases failed

theorem steady_replace (name : String) {value : Value}
    (counted : ∀ position ∈ value.reference?, position ∈ outer) :
    Action.Within (Steady outer) (replace name value) := by
  rintro chain ⟨entries, bindings, holds, inside⟩
  obtain ⟨front, old, back, after, rfl, -, ran, held, moves⟩ | ⟨-, after, ran, held, moves⟩ :=
    holds.replace_cases name value
  · rw [ran]
    refine .of_holds held moves inside fun other member => ?_
    have stored : other ∈ (value.reference?.toList : Multiset Nat) → other ∈ outer := fun present =>
      counted other (Option.mem_toList.mp present)
    simp only [Bindings.held_append, Bindings.held_cons, Multiset.mem_add] at member ⊢
    tauto
  · rw [ran]
    exact .unchanged held moves inside

end Chain

/-! ### Accesses -/

namespace Store

/-- The chain of a store stays in order. -/
def Steady (outer : Multiset Nat) (before after : Store) : Prop :=
  before.chain.Steady outer after.chain

instance (outer : Multiset Nat) : IsPreorder Store (Steady outer) where
  refl store := refl_of (Chain.Steady outer) store.chain
  trans _ _ _ first second := trans_of (Chain.Steady outer) first second

variable {store after : Store} {outer : Multiset Nat}

theorem reached_onChain {α : Type} (action : ChainM α) (store : Store) :
    (Action.reached (onChain action store)).chain = Action.reached (action store.chain) := by
  unfold onChain Action.onPart
  cases action store.chain <;> rfl

/-- The chain of a store that an operation on the chain has succeeded on. -/
theorem onChain_ok {α : Type} {action : ChainM α} {value : α}
    (ran : onChain action store = .ok value after) :
    action store.chain = .ok value after.chain := by
  unfold onChain Action.onPart at ran
  cases result : action store.chain with
  | ok found reached =>
    rw [result] at ran
    cases ran
    rfl
  | error fault reached =>
    rw [result] at ran
    cases ran

theorem steady_onChain {α : Type} {action : ChainM α}
    (steady : Action.Within (Chain.Steady outer) action) :
    Action.Within (Steady outer) (onChain action) := by
  intro store
  unfold Steady
  rw [reached_onChain]
  exact steady store.chain

theorem steady_of_chain {α : Type} {action : StoreM α}
    (same : ∀ store, (Action.reached (action store)).chain = store.chain) :
    Action.Within (Steady outer) action := by
  intro store
  unfold Steady
  rw [same]
  exact refl_of (Chain.Steady outer) store.chain

theorem steady_read {α : Type} (reading : Store → Except StoreError α) :
    Action.Within (Steady outer) (read reading) := by
  refine steady_of_chain fun store => ?_
  unfold read
  cases reading store <;> rfl

theorem steady_deref (position : Nat) : Action.Within (Steady outer) (deref position) :=
  Action.within_bind Action.within_get fun _ => steady_onChain (Chain.steady_read _ position)

theorem steady_releaseAll (positions : List Nat) :
    Action.Within (Steady outer) (releaseAll positions) :=
  Action.within_bind Action.within_get fun _ =>
    steady_onChain (Chain.steady_releaseAll _ positions.reverse)

theorem steady_releaseValue (value : Value) :
    Action.Within (Steady outer) (releaseValue value) := by
  unfold releaseValue
  split
  · exact steady_releaseAll _
  · exact Action.within_pure ()

/-- Once references are counted, they can be stored. -/
theorem steady_of_counted {β : Type} {action : StoreM Unit} {next : StoreM β}
    (counted : List Nat) (first : Action.Within (Steady outer) action)
    (safe : ∀ store after, store.chain.Sound outer → action store = .ok () after →
      after.chain.Sound (counted + outer))
    (second : ∀ more, (∀ position ∈ counted, position ∈ more) →
      Action.Within (Steady more) next) :
    Action.Within (Steady outer) (do action; next) := by
  intro store sound
  have steady := first store sound
  cases ran : action store with
  | error fault reached =>
    rw [Action.bind_of_error ran]
    rwa [ran] at steady
  | ok value reached =>
    rw [Action.bind_of_ok ran]
    have stored := second (counted + outer)
      (fun position member => Multiset.mem_add.mpr (.inl member)) reached
      (safe store reached sound ran)
    exact stored.mono fun position member => Multiset.mem_add.mpr (.inr member)

theorem steady_afterRetainAll {β : Type} {positions : List Nat} {next : StoreM β}
    (second : ∀ more, (∀ position ∈ positions, position ∈ more) →
      Action.Within (Steady more) next) :
    Action.Within (Steady outer) (do onChain (Chain.retainAll positions); next) :=
  steady_of_counted positions (steady_onChain (Chain.steady_retainAll positions))
    (fun _ _ sound ran => sound.retainAll (onChain_ok ran)) second

theorem steady_afterRetainValue {β : Type} {value : Value} {next : StoreM β}
    (second : ∀ more, (∀ position ∈ value.reference?, position ∈ more) →
      Action.Within (Steady more) next) :
    Action.Within (Steady outer) (do retainValue value; next) := by
  unfold retainValue
  cases reference : value.reference? with
  | none =>
    refine second outer fun position member => ?_
    rw [reference] at member
    cases member
  | some position =>
    refine steady_of_counted [position] (steady_onChain (Chain.steady_retain position))
      (fun _ _ sound ran => sound.retain (onChain_ok ran)) fun more counted => second more ?_
    rw [reference]
    rintro other ⟨⟩
    exact counted position List.mem_cons_self

theorem steady_alloc (payload : Payload) : Action.Within (Steady outer) (alloc payload) := by
  refine steady_afterRetainAll fun more counted => ?_
  refine Action.within_bind (steady_onChain (Chain.steady_alloc counted)) fun allocated => ?_
  obtain ⟨position, grown⟩ := allocated
  cases grown with
  | true => exact steady_of_chain fun _ => rfl
  | false => exact Action.within_pure position

theorem steady_assign (position : Nat) (payload : Payload) :
    Action.Within (Steady outer) (assign position payload) := by
  refine steady_afterRetainAll fun more counted => ?_
  exact Action.within_bind (steady_onChain (Chain.steady_overwrite position counted)) fun old =>
    steady_releaseAll old.references

theorem steady_rename (name renamed : String) :
    Action.Within (Steady outer) (rename name renamed) := by
  refine steady_onChain fun chain sound => ?_
  have removed := Chain.steady_remove name chain sound
  cases ran : Chain.remove name chain with
  | error fault reached =>
    rw [Action.bind_of_error ran]
    rwa [ran] at removed
  | ok value reached =>
    rw [Action.bind_of_ok ran]
    have pushed := Chain.steady_push renamed
      (fun position member => Multiset.mem_add.mpr (.inl (Option.mem_toList.mpr member)))
      reached (sound.remove ran)
    exact pushed.mono fun position member => Multiset.mem_add.mpr (.inr member)

theorem steady_freeUnreachable : Action.Within (Steady outer) freeUnreachable := by
  intro store
  have steady : Chain.Steady outer store.chain _ :=
    Chain.steady_sweepUnmarked store.chain.marks store.chain
  unfold freeUnreachable onChain Action.onPart
  simp only
  cases ran : Chain.sweepUnmarked store.chain.marks store.chain with
  | ok value reached =>
    rw [ran] at steady
    exact steady
  | error fault reached =>
    rw [ran] at steady
    exact steady

theorem steady_adjustThreshold : Action.Within (Steady outer) adjustThreshold := by
  intro store
  unfold adjustThreshold
  rw [Action.bind_of_ok (rfl : (get : StoreM Store) store = .ok store store)]
  split
  · cases store.grownThreshold with
    | error defect => exact refl_of (Steady outer) store
    | ok threshold =>
      rintro ⟨entries, bindings, holds, inside⟩
      exact ⟨entries, bindings, holds.withThreshold threshold, inside⟩
  · exact refl_of (Steady outer) store

theorem steady_sweep (forced : Bool) : Action.Within (Steady outer) (sweep forced) := by
  refine Action.within_bind Action.within_get fun before => ?_
  split
  · exact Action.within_pure none
  · refine Action.within_bind steady_freeUnreachable fun _ => Action.within_bind Action.within_get
      fun swept => Action.within_bind steady_adjustThreshold fun _ => ?_
    exact steady_of_chain fun _ => rfl

end Store

/-- Every access leaves a chain in order, whether it is refused or not. -/
theorem Access.steady_perform (access : Access) (outer : Multiset Nat) :
    Action.Within (Store.Steady outer) access.perform := by
  have answered {α : Type} {action : StoreM α} (steady : Action.Within (Store.Steady outer) action)
      (answer : α → Answer) :
      Action.Within (Store.Steady outer) (do return answer (← action)) :=
    Action.within_bind steady fun value => Action.within_pure (answer value)
  cases access with
  | alloc payload => exact answered (Store.steady_alloc payload) _
  | deref position => exact answered (Store.steady_deref position) _
  | peek position => exact answered (Store.steady_read _) _
  | count position => exact answered (Store.steady_read _) _
  | isFreed position => exact answered (Store.steady_read _) _
  | assign position payload => exact answered (Store.steady_assign position payload) _
  | update position edit =>
    refine answered (Action.within_bind (Store.steady_deref position) fun payload => ?_) _
    exact Action.within_bind (Store.steady_assign position (edit payload).2) fun _ =>
      Action.within_pure (edit payload).1
  | free position =>
    exact answered (Action.within_bind Action.within_get fun store =>
      Store.steady_onChain (Chain.steady_freeAndRelease store.sweeping position)) _
  | retain position => exact answered (Store.steady_onChain (Chain.steady_retain position)) _
  | release position => exact answered (Store.steady_releaseAll [position]) _
  | push name value =>
    exact answered (Store.steady_afterRetainValue fun more counted =>
      Store.steady_onChain (Chain.steady_push name counted)) _
  | lookup name => exact answered (Store.steady_read _) _
  | contains name => exact answered (Store.steady_read _) _
  | remove name =>
    exact answered (Action.within_bind (Store.steady_onChain (Chain.steady_remove name))
      Store.steady_releaseValue) _
  | replace name value =>
    exact answered (Store.steady_afterRetainValue fun more counted =>
      Action.within_bind (Store.steady_onChain (Chain.steady_replace name counted))
        Store.steady_releaseValue) _
  | rename name renamed => exact answered (Store.steady_rename name renamed) _
  | bindings => exact answered (Store.steady_read _) _
  | counters => exact answered (Store.steady_read _) _
  | sweep forced => exact answered (Store.steady_sweep forced) _
  | takeRequest => exact answered (Store.steady_of_chain fun _ => rfl) _

/-! ### Runs -/

theorem Chain.Sound.snapshot {chain : Chain} {outer : Multiset Nat} (sound : chain.Sound outer) :
    chain.snapshot.Sound := by
  obtain ⟨entries, bindings, holds, inside⟩ := sound
  exact ⟨entries, bindings, holds.heap, holds.stack, fun position member =>
    inside position (Multiset.mem_add.mpr (.inr member))⟩

theorem Snapshot.Sound.chain {chain : Chain} (sound : chain.snapshot.Sound)
    (wiped : chain.pools.Wiped) : chain.Sound 0 := by
  obtain ⟨entries, bindings, heap, stack, inside⟩ := sound
  refine ⟨entries, bindings, ⟨heap, stack, wiped⟩, fun position member => inside position ?_⟩
  rwa [zero_add] at member

theorem Generation.sound_oldest (id threshold : Nat) :
    ((Generation.oldest id threshold).over []).Sound :=
  ⟨0, [], (holds_oldest id threshold).1, (holds_oldest id threshold).2,
    fun _ member => absurd member (Multiset.notMem_zero _)⟩

/-- In every generation of a store that a run has led to, everything is in order. -/
theorem Store.sound_after (settings : StoreSettings) (operations : List Operation) :
    ((empty settings).after operations).InOrder ∧
      ((empty settings).after operations).chain.EachView Snapshot.Sound := by
  have step : ∀ (store : Store) (operation : Operation),
      store.InOrder ∧ store.chain.EachView Snapshot.Sound → True →
        (Action.reached (operation.perform store)).InOrder ∧
          (Action.reached (operation.perform store)).chain.EachView Snapshot.Sound := by
    rintro store operation ⟨inOrder, each⟩ -
    refine ⟨operation.inOrder_perform inOrder, Operation.eachView_perform Generation.sound_oldest
      inOrder.wiped inOrder.layered each fun access _ => ?_⟩
    exact (access.steady_perform 0 store (each.tail.chain inOrder.wiped)).snapshot
  exact (Along.of_forall (fun _ _ => trivial) _ operations).after step
    ⟨inOrder_empty settings, Chain.eachView_of_blank Generation.sound_oldest _ _ _⟩

end Rewind
