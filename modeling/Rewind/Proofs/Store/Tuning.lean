/-
This file compares stores that are tuned differently. How a store is tuned shows in the threshold at
which a sweep is asked for, in whether one has been asked for, and in which generation owns a cell.
No operation on cells and bindings goes by any of that, and the operations that grow and shrink the
chain keep stores parallel. So two stores in which the same is seen from every generation, up to the
threshold, stay like that whatever is done to both.

A look of the collector is made by one store and not by the other. Where every cell can be reached
it frees nothing, and at most raises the threshold.
-/

import Mathlib
import Rewind.Proofs.Store.Parallel
import Rewind.Proofs.Store.Sweeping

namespace Rewind

/-! ### Leaving out the threshold -/

/-- A snapshot without the threshold at which a sweep is asked for. -/
def Snapshot.untuned (snapshot : Snapshot) : Snapshot :=
  snapshot.mapCounters fun counters => { counters with sweepThreshold := 0 }

namespace Snapshot

@[simp] theorem untuned_cell? (snapshot : Snapshot) (position : Nat) :
    snapshot.untuned.cell? position = snapshot.cell? position := rfl

@[simp] theorem untuned_level? (snapshot : Snapshot) (index : Nat) :
    snapshot.untuned.level? index = snapshot.level? index := rfl

@[simp] theorem untuned_levelCount (snapshot : Snapshot) :
    snapshot.untuned.counters.levelCount = snapshot.counters.levelCount := rfl

theorem untuned_look (position : Nat) : Blind untuned id (look position) (look position) := by
  intro snapshot
  unfold look
  rw [untuned_cell?]
  cases snapshot.cell? position <;> rfl

theorem untuned_change (position : Nat) (edit : Cell → Except StoreError Cell) :
    Blind untuned id (change position edit) (change position edit) := by
  intro snapshot
  unfold change
  rw [untuned_cell?]
  cases snapshot.cell? position with
  | none => rfl
  | some cell =>
    simp only
    cases edit cell <;> rfl

theorem untuned_overwrite (position : Nat) (payload : Payload) :
    Blind untuned id (overwrite position payload) (overwrite position payload) := by
  intro snapshot
  unfold overwrite
  rw [untuned_cell?]
  rcases snapshot.cell? position with - | ⟨own, old | next⟩ <;> rfl

/-- The threshold is looked at only to say whether the heap has grown up to it. -/
theorem untuned_alloc (payload : Payload) :
    Blind untuned Prod.fst (alloc payload)
      (fun snapshot => Action.mapOutcome Prod.fst id (alloc payload snapshot)) := by
  intro snapshot
  have same : snapshot.untuned.counters.freeHead = snapshot.counters.freeHead := rfl
  change Action.mapOutcome Prod.fst id (alloc payload snapshot.untuned) = _
  unfold alloc
  rw [same]
  cases snapshot.counters.freeHead with
  | none => rfl
  | some position =>
    simp only [untuned_cell?]
    rcases snapshot.cell? position with - | ⟨own, old | next⟩ <;> rfl

theorem untuned_free (sweeping : Bool) (position : Nat) :
    Blind untuned (Option.map id) (free sweeping position) (free sweeping position) := by
  intro snapshot
  unfold free
  rw [untuned_cell?]
  rcases snapshot.cell? position with - | ⟨own, ⟨payload, count⟩ | next⟩
  · rfl
  · have same : snapshot.untuned.counters.usedCells = snapshot.counters.usedCells := rfl
    simp only [same]
    split
    · rfl
    · cases snapshot.counters.usedCells <;> rfl
  · simp only
    split <;> rfl

/-! ### Bindings -/

theorem untuned_getBelow? (snapshot : Snapshot) (name : String) (count : Nat) :
    snapshot.untuned.getBelow? name count = snapshot.getBelow? name count := by
  induction count with
  | zero => rfl
  | succ index inductionHypothesis =>
    rw [getBelow?, getBelow?, untuned_level?, inductionHypothesis]

theorem untuned_levelOfBelow? (snapshot : Snapshot) (name : String) (count : Nat) :
    snapshot.untuned.levelOfBelow? name count = snapshot.levelOfBelow? name count := by
  induction count with
  | zero => rfl
  | succ index inductionHypothesis =>
    rw [levelOfBelow?, levelOfBelow?, untuned_level?, inductionHypothesis]

theorem untuned_makeRoom (snapshot : Snapshot) (name : String) :
    snapshot.untuned.makeRoom name = (snapshot.makeRoom name).untuned := by
  have same : snapshot.untuned.needsLevel name = snapshot.needsLevel name := rfl
  unfold makeRoom
  rw [same]
  split <;> rfl

theorem untuned_push (name : String) (value : Value) :
    Blind untuned id (push name value) (push name value) := by
  intro snapshot
  unfold push
  simp only [untuned_makeRoom, untuned_levelCount, untuned_level?]
  generalize snapshot.makeRoom name = roomy
  cases roomy.level? (roomy.counters.levelCount - 1) with
  | none => rfl
  | some level =>
    simp only
    cases level.insert name value <;> rfl

theorem untuned_dropEmptyLevels (snapshot : Snapshot) (count : Nat) :
    snapshot.untuned.dropEmptyLevels count = (snapshot.dropEmptyLevels count).untuned := by
  induction count generalizing snapshot with
  | zero => rfl
  | succ top inductionHypothesis =>
    rw [dropEmptyLevels, dropEmptyLevels, untuned_level?]
    split
    · exact inductionHypothesis (snapshot.cut top)
    · rfl

theorem untuned_binding (name : String) : Blind untuned id (binding name) (binding name) := by
  intro snapshot
  unfold binding
  rw [untuned_levelCount, untuned_levelOfBelow?]
  cases snapshot.levelOfBelow? name snapshot.counters.levelCount with
  | none => rfl
  | some index =>
    simp only [untuned_level?]
    cases snapshot.level? index with
    | none => rfl
    | some level =>
      simp only
      cases level.get? name <;> rfl

theorem untuned_remove (name : String) : Blind untuned id (remove name) (remove name) := by
  refine blind_bind (untuned_binding name) fun (index, level, value) snapshot => ?_
  let smaller := mapCounters (fun counters => { counters with stackSize := counters.stackSize - 1 })
    (snapshot.putLevel index (level.erase name))
  exact congrArg (EStateM.Result.ok value) (smaller.untuned_dropEmptyLevels _)

end Snapshot

/-- Leaves out the threshold, and nothing else. -/
def Forgetting.tuning : Forgetting := ⟨Snapshot.untuned, id, id, id⟩

theorem Forgetting.lawful_tuning : tuning.Lawful where
  count _ := rfl
  isFree _ := rfl
  payload cell := (id_map cell.payload).symm
  increase cell := (id_map cell.increase).symm
  decrease cell := (id_map cell.decrease).symm
  references _ := rfl
  reference? _ := rfl
  look := Snapshot.untuned_look
  change position edit _ := Snapshot.untuned_change position edit
  overwrite := Snapshot.untuned_overwrite
  free := Snapshot.untuned_free
  push := Snapshot.untuned_push
  remove := Snapshot.untuned_remove

/-! ### The tail -/

/-- The same is seen from the tails of two stores, up to the threshold. -/
structure Store.SeesSame (left right : Store) : Prop where
  chain : left.chain.Alike .tuning right.chain
  sweeping : left.sweeping = right.sweeping

namespace Store

variable {left right : Store}

theorem compares_seesSame : Compares .tuning .tuning SeesSame where
  lawful := Forgetting.lawful_tuning
  twinLawful := Forgetting.lawful_tuning
  chain related := related.chain
  sweeping related := related.sweeping
  withChain related _ _ reached := ⟨reached, related.sweeping⟩

/-- One store may ask for a sweep where the other does not. -/
theorem seesSame_alloc (payload : Payload) :
    Action.Lockstep SeesSame id (alloc payload) (alloc payload) := by
  have retaining := compares_seesSame.retainAll (rfl : Forgetting.tuning.onPayload payload = _)
  refine Action.lockstep_bind retaining fun _ _ _ => ?_
  have allocating : Action.Lockstep (Chain.Alike .tuning) Prod.fst (Chain.alloc payload)
      (Chain.alloc payload) :=
    Chain.lockstep_of_follows (Chain.follows_alloc payload) (Chain.follows_alloc payload)
      (Snapshot.untuned_alloc payload) (Snapshot.untuned_alloc payload)
  refine Action.lockstep_bind (compares_seesSame.onChain allocating)
    fun (position, grown) (other, otherGrown) equal first second related => ?_
  cases equal
  cases grown <;> cases otherGrown <;> exact .ok rfl ⟨related.chain, related.sweeping⟩

theorem SeesSame.untuned (same : left.SeesSame right) :
    left.chain.snapshot.untuned = right.chain.snapshot.untuned := same.chain.seen

theorem SeesSame.heapSize (same : left.SeesSame right) :
    left.chain.counters.heapSize = right.chain.counters.heapSize :=
  congrArg (fun snapshot => snapshot.counters.heapSize) same.untuned

theorem SeesSame.peek (same : left.SeesSame right) (position : Nat) :
    left.peek position = right.peek position := by
  have seen : left.chain.snapshot.untuned.cell? position =
      right.chain.snapshot.untuned.cell? position := by rw [same.untuned]
  rw [Snapshot.untuned_cell?, Snapshot.untuned_cell?] at seen
  unfold Store.peek
  rw [Chain.cell_eq_snapshot, Chain.cell_eq_snapshot, seen]

theorem SeesSame.lookup (same : left.SeesSame right) (name : String) :
    left.lookup name = right.lookup name := by
  have count : left.chain.counters.levelCount = right.chain.counters.levelCount :=
    congrArg (fun snapshot => snapshot.counters.levelCount) same.untuned
  have found := congrArg (fun snapshot =>
    Snapshot.getBelow? snapshot name left.chain.counters.levelCount) same.untuned
  simp only [Snapshot.untuned_getBelow?] at found
  unfold Store.lookup
  rw [Chain.get?_eq_snapshot, Chain.get?_eq_snapshot, found, count]

end Store

/-! ### All generations -/

/-- What is seen from each generation up to the threshold, with its id and its resume point. -/
def Generation.lineup : List Generation → List (Nat × Option ResumePoint × Snapshot)
  | [] => []
  | generation :: older =>
    (generation.id, generation.resume, (generation.over older).untuned) :: lineup older

theorem Generation.lineup_eq_views (generations : List Generation) :
    lineup generations = views 0 Snapshot.untuned generations := by
  induction generations with
  | nil => rfl
  | cons generation older inductionHypothesis => exact congrArg (_ :: ·) inductionHypothesis

/-- Two stores that are the same up to how they are tuned: the same is seen from every
generation. -/
structure Store.Aligned (left right : Store) : Prop where
  generations : Generation.lineup left.chain.generations =
    Generation.lineup right.chain.generations
  nextId : left.nextId = right.nextId
  inOrderLeft : left.InOrder
  inOrderRight : right.InOrder

namespace Store

variable {left right : Store}

theorem Aligned.symm (aligned : left.Aligned right) : right.Aligned left :=
  ⟨aligned.generations.symm, aligned.nextId.symm, aligned.inOrderRight, aligned.inOrderLeft⟩

theorem Aligned.trans {third : Store} (aligned : left.Aligned right) (next : right.Aligned third) :
    left.Aligned third :=
  ⟨aligned.generations.trans next.generations, aligned.nextId.trans next.nextId,
    aligned.inOrderLeft, next.inOrderRight⟩

theorem aligned_iff_parallel : left.Aligned right ↔ left.Parallel Snapshot.untuned right := by
  constructor
  · rintro ⟨generations, nextId, inOrderLeft, inOrderRight⟩
    rw [Generation.lineup_eq_views, Generation.lineup_eq_views] at generations
    exact ⟨generations, nextId, inOrderLeft, inOrderRight⟩
  · rintro ⟨generations, nextId, inOrderLeft, inOrderRight⟩
    rw [← Generation.lineup_eq_views, ← Generation.lineup_eq_views] at generations
    exact ⟨generations, nextId, inOrderLeft, inOrderRight⟩

theorem Aligned.seesSame (aligned : left.Aligned right) : left.SeesSame right :=
  ⟨⟨(aligned_iff_parallel.mp aligned).top.2.2, aligned.inOrderLeft.wiped,
    aligned.inOrderRight.wiped⟩, aligned.inOrderLeft.idle.trans aligned.inOrderRight.idle.symm⟩

theorem Aligned.note (aligned : left.Aligned right) (event other : Event) :
    (left.note event).Aligned (right.note other) :=
  ⟨aligned.generations, aligned.nextId,
    ⟨aligned.inOrderLeft.wiped, aligned.inOrderLeft.layered, aligned.inOrderLeft.idle⟩,
    ⟨aligned.inOrderRight.wiped, aligned.inOrderRight.layered, aligned.inOrderRight.idle⟩⟩

/-! ### Accesses -/

theorem Aligned.keeps (aligned : left.Aligned right) {left' right' : Store}
    (keepsLeft : left.Keeps left') (keepsRight : right.Keeps right')
    (seen : left'.chain.snapshot.untuned = right'.chain.snapshot.untuned) :
    left'.Aligned right' :=
  aligned_iff_parallel.mpr ((aligned_iff_parallel.mp aligned).keeps keepsLeft keepsRight seen)

theorem aligned_of_local {α β : Type} {onValue : α → β} {action other : StoreM α}
    (isLocal : Local action) (otherLocal : Local other)
    (lockstep : Action.Lockstep SeesSame onValue action other) :
    Action.Lockstep Aligned onValue action other :=
  lockstep_of_local isLocal otherLocal lockstep
    (fun _ _ aligned => ⟨aligned.seesSame, aligned.inOrderLeft.wiped, aligned.inOrderRight.wiped⟩)
    fun _ _ _ _ aligned keepsLeft keepsRight reached =>
      aligned.keeps keepsLeft keepsRight reached.untuned

theorem aligned_alloc (payload : Payload) :
    Action.Lockstep Aligned id (alloc payload) (alloc payload) :=
  aligned_of_local (local_alloc payload) (local_alloc payload) (seesSame_alloc payload)

theorem aligned_deref (position : Nat) :
    Action.Lockstep Aligned id (deref position) (deref position) :=
  aligned_of_local (local_deref position) (local_deref position) (compares_seesSame.deref position)

theorem aligned_update {α : Type} (position : Nat) (edit : Payload → α × Payload) :
    Action.Lockstep Aligned id (update position edit) (update position edit) := by
  refine aligned_of_local (local_update position edit) (local_update position edit)
    (compares_seesSame.update position fun payload other equal => ?_)
  cases equal
  exact ⟨rfl, rfl⟩

theorem aligned_push (name : String) (value : Value) :
    Action.Lockstep Aligned id (push name value) (push name value) :=
  aligned_of_local (local_push name value) (local_push name value)
    (compares_seesSame.push name rfl)

theorem aligned_remove (name : String) :
    Action.Lockstep Aligned id (remove name) (remove name) :=
  aligned_of_local (local_remove name) (local_remove name) (compares_seesSame.remove name)

/-! ### Growing and shrinking the chain -/

theorem Aligned.freeze (aligned : left.Aligned right) (resume : ResumePoint) :
    (left.freeze resume).1 = (right.freeze resume).1 ∧
      (left.freeze resume).2.Aligned (right.freeze resume).2 := by
  obtain ⟨same, frozen⟩ := (aligned_iff_parallel.mp aligned).freeze resume
  exact ⟨same, aligned_iff_parallel.mpr frozen⟩

theorem Aligned.rollback (aligned : left.Aligned right) :
    left.rollback.1 = right.rollback.1 ∧ left.rollback.2.Aligned right.rollback.2 := by
  obtain ⟨same, below⟩ := (aligned_iff_parallel.mp aligned).rollback
  exact ⟨same, aligned_iff_parallel.mpr below⟩

theorem aligned_collapse (checkpoint : Checkpoint) :
    Action.Lockstep Aligned id (collapse checkpoint) (collapse checkpoint) := fun _ _ aligned =>
  ((aligned_iff_parallel.mp aligned).collapse checkpoint).imp fun _ _ merged =>
    aligned_iff_parallel.mpr merged.1

/-- Cleared stores differ only in how they are tuned. -/
theorem aligned_clear (nextId : left.nextId = right.nextId) (inOrderLeft : left.InOrder)
    (inOrderRight : right.InOrder) : left.clear.Aligned right.clear :=
  aligned_iff_parallel.mpr (flanks_clear nextId inOrderLeft inOrderRight fun _ _ => rfl)

theorem aligned_empty (settings other : StoreSettings) :
    (empty settings).Aligned (empty other) := aligned_iff_parallel.mpr (parallel_empty rfl)

/-! ### The collector -/

variable {store : Store} {entries : Multiset Entry} {bindings : Bindings}

theorem untuned_withThreshold (store : Store) (threshold : Nat) :
    (store.withThreshold threshold).chain.snapshot.untuned = store.chain.snapshot.untuned := by
  unfold withThreshold
  rw [Chain.snapshot_mapCounters rfl rfl]
  rfl

/-- Where every cell can be reached, a sweep at most raises the threshold. -/
theorem Stands.sweep_untuned (stands : store.Stands entries bindings)
    (reached : ∀ entry ∈ entries, Entry.Reached entries bindings entry.position) :
    (∃ report after, Store.sweep false store = .ok report after ∧
        after.chain.snapshot.untuned = store.chain.snapshot.untuned) ∨
      Store.sweep false store = .error (.defect .thresholdOverflow) store := by
  obtain ⟨-, skipped⟩ | ⟨threshold, report, event, -, swept, -⟩ | ⟨failed, -⟩ :=
    sweep_of_freed (stands.freeUnreachable reached) false
  · exact .inl ⟨none, store, skipped, rfl⟩
  · exact .inl ⟨_, _, swept, store.untuned_withThreshold threshold⟩
  · exact .inr failed

/-- A look of the collector changes nothing but how the store is tuned. -/
theorem Stands.poll_aligned (stands : store.Stands entries bindings)
    (reached : ∀ entry ∈ entries, Entry.Reached entries bindings entry.position)
    (inOrder : store.InOrder) (collector : Collector) :
    (∃ result after, collector.poll store = .ok result after ∧ store.Aligned after) ∨
      ∃ after, collector.poll store = .error (.defect .thresholdOverflow) after := by
  have same : store.Aligned store := ⟨rfl, rfl, inOrder, inOrder⟩
  have ready : Stands entries bindings { store with sweepRequested := false } :=
    ⟨stands.chain, stands.idle⟩
  obtain ⟨-, polled⟩ | ⟨-, ⟨report, after, swept, polled⟩ | ⟨fault, after, swept, polled⟩⟩ :=
    collector.poll_cases store
  · exact .inl ⟨_, store, polled, same⟩
  · obtain ⟨_, _, sweeping, seen⟩ | failed := ready.sweep_untuned reached
    · rw [swept] at sweeping
      cases sweeping
      have keeps := (local_poll collector).keeps inOrder.wiped polled
      exact .inl ⟨_, after, polled, same.keeps (.refl store) keeps seen.symm⟩
    · rw [swept] at failed
      cases failed
  · obtain ⟨_, _, sweeping, -⟩ | failed := ready.sweep_untuned reached
    · rw [swept] at sweeping
      cases sweeping
    · rw [swept] at failed
      cases failed
      exact .inr ⟨_, polled⟩

end Store

end Rewind
