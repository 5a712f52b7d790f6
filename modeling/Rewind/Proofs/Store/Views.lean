/-
This file makes statements about all generations of a store at once. A generation is seen over those
below it, and only the newest is ever changed; so what holds of every view is kept by the operations
that grow and shrink the chain, and an access has to keep it only for what is seen from the tail.

Statements about runs in which not everything is done at any time are made along the run: every
operation meets a condition on the store that it is performed on.
-/

import Mathlib
import Rewind.Proofs.Store.Transparency

namespace Rewind

/-- What is seen from every generation over those below it has a property. -/
def Chain.EachView (property : Snapshot → Prop) (chain : Chain) : Prop :=
  ∀ generation older, generation :: older <:+ chain.generations → property (generation.over older)

namespace Chain

variable {property : Snapshot → Prop} {chain after : Chain}

theorem EachView.tail (each : chain.EachView property) : property chain.snapshot :=
  each chain.tail chain.older (List.suffix_refl _)

theorem EachView.imp {other : Snapshot → Prop} (each : chain.EachView property)
    (implies : ∀ view, property view → other view) : chain.EachView other :=
  fun generation older below => implies _ (each generation older below)

/-- A chain on top of views that were there before, with one more view on top. -/
theorem EachView.of_older (each : chain.EachView property)
    (below : after.older <:+ chain.generations)
    (top : property after.snapshot) : after.EachView property := by
  intro generation older suffix
  obtain same | deeper := List.suffix_cons_iff.mp suffix
  · cases same
    exact top
  · exact each generation older (deeper.trans below)

theorem EachView.keeps (each : chain.EachView property) (keeps : chain.Keeps after)
    (top : property after.snapshot) : after.EachView property :=
  each.of_older (keeps.older ▸ List.suffix_cons _ _) top

theorem EachView.extend (each : chain.EachView property) (id : Nat) (resume : ResumePoint) :
    (chain.extend id resume).EachView property :=
  each.of_older (List.suffix_refl _) (Store.snapshot_extend chain id resume ▸ each.tail)

theorem EachView.of_suffix (each : chain.EachView property)
    (below : after.generations <:+ chain.generations) : after.EachView property :=
  fun generation older suffix => each generation older (suffix.trans below)

theorem EachView.discardTail (each : chain.EachView property) :
    chain.discardTail.EachView property := by
  unfold Chain.discardTail
  split
  · exact each
  · rename_i tail older lower
    refine each.of_suffix ?_
    change tail :: older <:+ chain.tail :: chain.older
    rw [lower]
    exact List.suffix_cons _ _

theorem EachView.discardTo (each : chain.EachView property) (depth : Nat) :
    (chain.discardTo depth).EachView property := by
  unfold Chain.discardTo
  split
  · exact each
  · rename_i tail older dropped
    refine each.of_suffix ?_
    change tail :: older <:+ chain.generations
    rw [← dropped]
    exact List.drop_suffix _ _

theorem older_mergeTo (chain : Chain) (depth : Nat) :
    (chain.mergeTo depth).older <:+ chain.generations := by
  unfold Chain.mergeTo
  split
  · exact List.suffix_cons _ _
  · rename_i target older dropped
    change older <:+ chain.generations
    refine List.IsSuffix.trans ?_ (List.drop_suffix (chain.older.length - depth) chain.generations)
    rw [dropped]
    exact List.suffix_cons _ _

/-- Merging changes nothing that is seen from the tail, and leaves all that lies below. -/
theorem EachView.mergeTo (each : chain.EachView property)
    (layered : Generation.Layered chain.generations) (depth : Nat) :
    (chain.mergeTo depth).EachView property :=
  each.of_older (chain.older_mergeTo depth) ((mergeTo_spec layered depth).1 ▸ each.tail)

/-- A chain of a single generation has a single view. -/
theorem eachView_of_alone (alone : chain.older = []) (top : property chain.snapshot) :
    chain.EachView property := by
  intro generation older below
  unfold generations at below
  rw [alone] at below
  obtain same | deeper := List.suffix_cons_iff.mp below
  · cases same
    unfold Chain.snapshot at top
    rwa [alone] at top
  · cases List.suffix_nil.mp deeper

theorem eachView_of_blank
    (blank : ∀ id threshold, property ((Generation.oldest id threshold).over []))
    (id threshold : Nat) (pools : Pools) :
    Chain.EachView property { tail := .oldest id threshold, pools := pools } := by
  intro generation older suffix
  obtain same | deeper := List.suffix_cons_iff.mp suffix
  · cases same
    exact blank id threshold
  · cases List.suffix_nil.mp deeper

end Chain

/-- The store as it is seen from one of its generations. -/
def Store.seenFrom (store : Store) (generation : Generation) (older : List Generation) : Store :=
  { store with chain := { tail := generation, older := older, pools := store.chain.pools } }

/-! ### Runs -/

/-- What holds of every view is kept if it holds of an empty store, and an access keeps it for the
view of the tail. -/
theorem Operation.eachView_perform {property : Snapshot → Prop}
    (blank : ∀ id threshold, property ((Generation.oldest id threshold).over []))
    {store : Store} (wiped : store.chain.pools.Wiped)
    (layered : Generation.Layered store.chain.generations)
    (each : store.chain.EachView property) {operation : Operation}
    (accessed : ∀ access, operation = .access access →
      property (Action.reached (access.perform store)).chain.snapshot) :
    (Action.reached (operation.perform store)).chain.EachView property := by
  obtain ⟨made, rfl⟩ | ⟨reshaped, -⟩ := operation.perform_cases store
  · exact each.keeps (made.keeps_perform wiped).chain (accessed made rfl)
  · generalize (Action.reached (operation.perform store)).chain = after at reshaped
    cases reshaped with
    | same => exact each
    | extended resume => exact each.extend store.nextId resume
    | shortened => exact each.discardTail
    | discarded depth => exact each.discardTo depth
    | merged depth => exact each.mergeTo layered depth
    | cleared => exact Chain.eachView_of_blank blank _ _ _

namespace Store

/-- Every operation of a run meets a condition on the store that it is performed on. -/
def Along (condition : Store → Operation → Prop) : Store → List Operation → Prop
  | _, [] => True
  | store, operation :: operations =>
    condition store operation ∧
      Along condition (Action.reached (operation.perform store)) operations

/-- What every operation keeps that meets the condition holds at the end of the run. -/
theorem Along.after {condition : Store → Operation → Prop} {invariant : Store → Prop}
    (step : ∀ store operation, invariant store → condition store operation →
      invariant (Action.reached (operation.perform store)))
    {operations : List Operation} {store : Store} (along : store.Along condition operations)
    (holds : invariant store) : invariant (store.after operations) := by
  induction operations generalizing store with
  | nil => exact holds
  | cons operation operations inductionHypothesis =>
    exact inductionHypothesis along.2 (step store operation holds along.1)

theorem Along.and {first second : Store → Operation → Prop} {operations : List Operation}
    {store : Store} (left : store.Along first operations) (right : store.Along second operations) :
    store.Along (fun store operation => first store operation ∧ second store operation)
      operations := by
  induction operations generalizing store with
  | nil => trivial
  | cons operation operations inductionHypothesis =>
    exact ⟨⟨left.1, right.1⟩, inductionHypothesis left.2 right.2⟩

theorem Along.of_imp {exact : Prop} {condition : Store → Operation → Prop}
    {operations : List Operation} {store : Store}
    (along : exact → store.Along condition operations) :
    store.Along (fun store operation => exact → condition store operation) operations := by
  induction operations generalizing store with
  | nil => trivial
  | cons operation operations inductionHypothesis =>
    exact ⟨fun asked => (along asked).1, inductionHypothesis fun asked => (along asked).2⟩

theorem Along.of_forall {condition : Store → Operation → Prop}
    (always : ∀ store operation, condition store operation) (store : Store)
    (operations : List Operation) : store.Along condition operations := by
  induction operations generalizing store with
  | nil => trivial
  | cons operation operations inductionHypothesis =>
    exact ⟨always store operation, inductionHypothesis _⟩

/-- A store between two operations: it is not sweeping, its pools are wiped and its generations
stand on each other. -/
structure InOrder (store : Store) : Prop where
  wiped : store.chain.pools.Wiped
  layered : Generation.Layered store.chain.generations
  idle : store.sweeping = false

theorem InOrder.keeps {store after : Store} (inOrder : store.InOrder) (keeps : store.Keeps after) :
    after.InOrder := by
  refine ⟨keeps.chain.wiped inOrder.wiped, ⟨keeps.chain.rooted inOrder.layered.1, ?_⟩,
    keeps.idle inOrder.idle⟩
  exact keeps.chain.older ▸ inOrder.layered.2

theorem inOrder_empty (settings : StoreSettings) : (empty settings).InOrder :=
  ⟨wiped_empty settings, layered_empty settings, rfl⟩

end Store

theorem Operation.idle_perform (operation : Operation) {store : Store}
    (wiped : store.chain.pools.Wiped) (idle : store.sweeping = false) :
    (Action.reached (operation.perform store)).sweeping = false := by
  obtain ⟨made, rfl⟩ | ⟨-, same⟩ := operation.perform_cases store
  · exact (made.keeps_perform wiped).idle idle
  · exact same.trans idle

theorem Operation.inOrder_perform (operation : Operation) {store : Store}
    (inOrder : store.InOrder) : (Action.reached (operation.perform store)).InOrder :=
  ⟨operation.wiped_perform inOrder.wiped, operation.layered_perform inOrder.wiped inOrder.layered,
    operation.idle_perform inOrder.wiped inOrder.idle⟩

theorem Store.InOrder.restore {store restored : Store} (inOrder : store.InOrder)
    {checkpoint : Checkpoint} {resume : ResumePoint}
    (succeeded : restore checkpoint store = .ok resume restored) : restored.InOrder := by
  have still := (Operation.restore checkpoint).inOrder_perform inOrder
  change (Action.reached ((Store.restore checkpoint >>= fun _ => pure _) store)).InOrder at still
  rw [Action.bind_of_ok succeeded] at still
  exact still

theorem Store.InOrder.collapse {store merged : Store} (inOrder : store.InOrder)
    {checkpoint : Checkpoint} (collapsed : collapse checkpoint store = .ok () merged) :
    merged.InOrder := by
  have still := (Operation.collapse checkpoint).inOrder_perform inOrder
  change (Action.reached ((Store.collapse checkpoint >>= fun _ => pure _) store)).InOrder at still
  rw [Action.bind_of_ok collapsed] at still
  exact still

end Rewind
