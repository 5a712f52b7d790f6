/-
This file follows checkpoints through runs of operations. A checkpoint only says which generation
was the newest, how deep it lay and which generation came on top; chains shrink and grow again at
the same depth, so all depends on ids being used once.

The main statement: as long as no operation has removed the generation that a freeze started,
restoring the checkpoint brings back the chain as it was before the freeze, generation by
generation, and afterwards it is refused for good.
-/

import Mathlib
import Rewind.Proofs.Store.Operations

namespace Rewind

/-! ### The lineage of a chain -/

/-- The generations of a chain, the oldest first. -/
def Chain.lineage (chain : Chain) : List Generation := chain.generations.reverse

namespace Chain

theorem lineage_eq (chain : Chain) : chain.lineage = chain.older.reverse ++ [chain.tail] :=
  List.reverse_cons

@[simp] theorem length_lineage (chain : Chain) :
    chain.lineage.length = chain.older.length + 1 := by
  rw [lineage_eq, List.length_append, List.length_reverse, List.length_singleton]

theorem generationAt?_eq (chain : Chain) (depth : Nat) :
    chain.generationAt? depth = chain.lineage[depth]? := by
  unfold generationAt?
  split
  · rename_i inside
    rw [lineage, List.getElem?_reverse (show depth < chain.older.length + 1 by omega)]
    exact congrArg (chain.generations[·]?) (by simp only [generations, List.length_cons]; omega)
  · rename_i outside
    exact (List.getElem?_eq_none (by rw [length_lineage]; omega)).symm

theorem lineage_tail (chain : Chain) : chain.lineage[chain.older.length]? = some chain.tail := by
  rw [lineage_eq, List.getElem?_append_right (by simp)]
  simp

/-- What lies at a depth and below. -/
theorem lineage_drop {chain : Chain} {depth : Nat} (inside : depth ≤ chain.older.length) :
    (chain.generations.drop (chain.older.length - depth)).reverse =
      chain.lineage.take (depth + 1) := by
  rw [lineage, List.reverse_drop]
  exact congrArg (chain.generations.reverse.take ·) (by
    simp only [generations, List.length_cons]
    omega)

theorem lineage_discardTo {chain : Chain} {depth : Nat} (inside : depth ≤ chain.older.length) :
    (chain.discardTo depth).lineage = chain.lineage.take (depth + 1) := by
  rw [← lineage_drop inside]
  unfold discardTo
  split
  · rename_i dropped
    have positive : 0 < (chain.generations.drop (chain.older.length - depth)).length := by
      rw [List.length_drop]
      simp only [generations, List.length_cons]
      omega
    rw [dropped] at positive
    exact absurd positive (Nat.lt_irrefl 0)
  · rename_i tail older dropped
    rw [dropped]
    rfl

theorem discardTo_below {chain : Chain} {tail : Generation} {older : List Generation}
    (lower : chain.older = tail :: older) :
    chain.discardTo older.length = chain.discardTail := by
  have one : chain.older.length - older.length = 1 := by
    rw [lower, List.length_cons]
    omega
  unfold discardTo discardTail
  rw [one, generations, lower]
  rfl

/-- A merged generation keeps the id and the resume point of the one merged into. -/
theorem foldl_mergeInto_keeps (newer : List Generation) (merged : Generation × Pools) :
    let result :=
      newer.foldl (fun merged generation => generation.mergeInto merged.1 merged.2) merged
    result.1.id = merged.1.id ∧ result.1.resume = merged.1.resume := by
  induction newer generalizing merged with
  | nil => exact ⟨rfl, rfl⟩
  | cons generation newer inductionHypothesis =>
    exact inductionHypothesis (generation.mergeInto merged.1 merged.2)

theorem lineage_mergeTo {chain : Chain} {depth : Nat} (inside : depth ≤ chain.older.length) :
    ∃ target, chain.lineage[depth]? = some target ∧
      (chain.mergeTo depth).tail.id = target.id ∧
      (chain.mergeTo depth).tail.resume = target.resume ∧
      (chain.mergeTo depth).older.reverse = chain.lineage.take depth := by
  have cut := lineage_drop inside
  unfold mergeTo
  split
  · rename_i dropped
    rw [dropped] at cut
    have := congrArg List.length cut
    simp at this
  · rename_i target older dropped
    rw [dropped, List.reverse_cons] at cut
    have size : older.length = depth := by
      have := congrArg List.length cut
      simp only [List.length_append, List.length_reverse, List.length_singleton, List.length_take,
        length_lineage] at this
      omega
    have found : chain.lineage[depth]? = some target := by
      have : (chain.lineage.take (depth + 1))[depth]? = some target := by
        rw [← cut, List.getElem?_append_right (by simp [size])]
        simp [size]
      rwa [List.getElem?_take_of_succ] at this
    refine ⟨target, found, (foldl_mergeInto_keeps _ _).1, (foldl_mergeInto_keeps _ _).2, ?_⟩
    have shorter := congrArg (List.take depth) cut
    rw [List.take_take, Nat.min_eq_left (Nat.le_succ depth),
      List.take_append_of_le_length (by simp [size]),
      List.take_of_length_le (by simp [size])] at shorter
    exact shorter

end Chain

/-! ### What an operation does to the lineage -/

/-- Whether an operation removes the generation at a depth: it discards it, or merges it into one
below. -/
def Operation.Removes (operation : Operation) (store : Store) (depth : Nat) : Prop :=
  match operation with
  | .access _ | .freeze _ => False
  | .rollback => 0 < depth ∧ depth = store.chain.older.length
  | .restore checkpoint =>
    checkpoint.depth < depth ∧ ∃ resume restored,
      Store.restore checkpoint store = .ok resume restored
  | .collapse checkpoint =>
    checkpoint.depth < depth ∧ ∃ merged, Store.collapse checkpoint store = .ok () merged
  | .clear => True

/-- The generation at a depth is not removed by any operation of a run. -/
def Store.Survives (depth : Nat) : Store → List Operation → Prop
  | _, [] => True
  | store, operation :: operations =>
    ¬ operation.Removes store depth ∧
      Survives depth (Action.reached (operation.perform store)) operations

/-- All that an operation can do to the lineage of a store. -/
inductive Store.Turn (before : Store) (operation : Operation) (after : Store) : Prop
  /-- What lies above some depth is gone, and the generation there may have changed inside. -/
  | trimmed (depth : Nat) (top tail : Generation)
    (inside : before.chain.lineage[depth]? = some top)
    (cut : after.chain.lineage = before.chain.lineage.take depth ++ [tail])
    (id : tail.id = top.id) (resume : tail.resume = top.resume)
    (nextId : after.nextId = before.nextId)
    (removed : ∀ other < before.chain.lineage.length,
      operation.Removes before other ↔ depth < other)
  /-- A generation has come on top. -/
  | extended (resume : ResumePoint) (frozen : operation = .freeze resume) (tail : Generation)
    (grown : after.chain.lineage = before.chain.lineage ++ [tail])
    (id : tail.id = before.nextId) (nextId : after.nextId = before.nextId + 1)
  /-- Everything is new. -/
  | cleared (tail : Generation) (only : after.chain.lineage = [tail])
    (id : tail.id = before.nextId) (nextId : after.nextId = before.nextId + 1)
    (removed : ∀ other, operation.Removes before other)

namespace Store

/-- An operation that changes nothing below the tail. -/
theorem Turn.of_keeps {before after : Store} {operation : Operation}
    (keeps : before.chain.Keeps after.chain) (nextId : after.nextId = before.nextId)
    (removed : ∀ other < before.chain.lineage.length,
      operation.Removes before other ↔ before.chain.older.length < other) :
    before.Turn operation after := by
  refine .trimmed before.chain.older.length before.chain.tail after.chain.tail
    before.chain.lineage_tail ?_ keeps.id keeps.resume nextId removed
  rw [Chain.lineage_eq after.chain, keeps.older, before.chain.lineage_eq,
    List.take_append_of_le_length (by simp), List.take_of_length_le (by simp)]

/-- An operation that changes no generation. -/
theorem Turn.of_unchanged {before after : Store} {operation : Operation}
    (same : after.chain = before.chain) (nextId : after.nextId = before.nextId)
    (removed : ∀ other < before.chain.lineage.length, ¬ operation.Removes before other) :
    before.Turn operation after := by
  refine .of_keeps (same ▸ .refl before.chain) nextId fun other inside => ?_
  rw [Chain.length_lineage] at inside
  exact iff_of_false (removed other (by rw [Chain.length_lineage]; exact inside)) (by omega)

theorem turn_rollback (store : Store) :
    store.Turn .rollback store.rollback.2 := by
  have chain := store.rollback_chain
  have nextId : store.rollback.2.nextId = store.nextId := by
    unfold rollback
    split <;> rfl
  cases lower : store.chain.older with
  | nil =>
    refine .of_unchanged ?_ nextId fun other inside removed => ?_
    · rw [chain, Chain.discardTail, lower]
    · obtain ⟨positive, same⟩ := removed
      rw [same, lower] at positive
      exact absurd positive (Nat.lt_irrefl 0)
  | cons tail older =>
    have below : store.rollback.2.chain.lineage = older.reverse ++ [tail] := by
      rw [chain, Chain.discardTail, lower]
      exact Chain.lineage_eq _
    have whole : store.chain.lineage = older.reverse ++ [tail] ++ [store.chain.tail] := by
      rw [Chain.lineage_eq, lower, List.reverse_cons]
    refine .trimmed older.length tail tail ?_ ?_ rfl rfl nextId fun other inside => ?_
    · rw [whole, List.getElem?_append_left (by simp), List.getElem?_append_right (by simp)]
      simp
    · rw [below, whole, List.append_assoc, List.take_append_of_le_length (by simp),
        List.take_of_length_le (by simp)]
    · rw [Chain.length_lineage, lower, List.length_cons] at inside
      simp only [Operation.Removes, lower, List.length_cons]
      omega

theorem inside_of_holds {store : Store} {checkpoint : Checkpoint}
    (held : store.holds checkpoint = true) :
    ∃ generation, store.chain.lineage[checkpoint.depth]? = some generation ∧
      generation.id = checkpoint.id := by
  unfold holds at held
  rw [Chain.generationAt?_eq] at held
  cases found : store.chain.lineage[checkpoint.depth]? with
  | none =>
    rw [found] at held
    cases held
  | some generation =>
    rw [found] at held
    exact ⟨generation, rfl, by simpa using held⟩

theorem started_of_startedBy? {store : Store} {checkpoint : Checkpoint} {started : Generation}
    (found : store.startedBy? checkpoint = some started) :
    store.holds checkpoint = true ∧
      store.chain.lineage[checkpoint.depth + 1]? = some started ∧
      started.id = checkpoint.successor := by
  unfold startedBy? at found
  split at found
  · rename_i held
    rw [Chain.generationAt?_eq, Option.filter_eq_some_iff] at found
    exact ⟨held, found.1, by simpa using found.2⟩
  · cases found

theorem depth_le_of_holds {store : Store} {checkpoint : Checkpoint}
    (held : store.holds checkpoint = true) : checkpoint.depth ≤ store.chain.older.length := by
  obtain ⟨generation, found, -⟩ := inside_of_holds held
  have inside := (List.getElem?_eq_some_iff.mp found).1
  rw [Chain.length_lineage] at inside
  omega

theorem turn_restore (store : Store) (checkpoint : Checkpoint) :
    store.Turn (.restore checkpoint)
      (Action.reached ((Operation.restore checkpoint).perform store)) := by
  change store.Turn _ (Action.reached ((restore checkpoint >>= fun resume => pure _) store))
  obtain ⟨fault, failed, -⟩ | ⟨started, resume, restored, succeeded, found, -, event, rfl⟩ :=
    store.restore_cases checkpoint
  · rw [Action.bind_of_error failed]
    refine .of_unchanged rfl rfl fun other inside removed => ?_
    obtain ⟨-, resume, restored, succeeded⟩ := removed
    rw [failed] at succeeded
    cases succeeded
  · rw [Action.bind_of_ok succeeded]
    obtain ⟨held, -, -⟩ := started_of_startedBy? found
    obtain ⟨generation, target, -⟩ := inside_of_holds held
    refine .trimmed checkpoint.depth generation generation target ?_ rfl rfl rfl
      fun other inside => ⟨fun removed => removed.1, fun deeper => ⟨deeper, _, _, succeeded⟩⟩
    change (store.chain.discardTo checkpoint.depth).lineage = _
    rw [Chain.lineage_discardTo (depth_le_of_holds held), List.take_add_one, target]
    rfl

theorem turn_collapse (store : Store) (checkpoint : Checkpoint) :
    store.Turn (.collapse checkpoint)
      (Action.reached ((Operation.collapse checkpoint).perform store)) := by
  change store.Turn _ (Action.reached ((collapse checkpoint >>= fun _ => pure _) store))
  obtain ⟨failed, -⟩ | ⟨held, merged, succeeded, chain, nextId, -⟩ :=
    store.collapse_cases checkpoint
  · rw [Action.bind_of_error failed]
    refine .of_unchanged rfl rfl fun other inside removed => ?_
    obtain ⟨-, merged, succeeded⟩ := removed
    rw [failed] at succeeded
    cases succeeded
  · rw [Action.bind_of_ok succeeded]
    obtain ⟨target, found, id, resume, below⟩ :=
      Chain.lineage_mergeTo (depth_le_of_holds held)
    refine .trimmed checkpoint.depth target merged.chain.tail found ?_ (chain ▸ id)
      (chain ▸ resume) nextId
      fun other inside => ⟨fun removed => removed.1, fun deeper => ⟨deeper, _, succeeded⟩⟩
    change merged.chain.lineage = _
    rw [Chain.lineage_eq, chain, below]

end Store

theorem Operation.turn (operation : Operation) {store : Store} (wiped : store.chain.pools.Wiped) :
    store.Turn operation (Action.reached (operation.perform store)) := by
  cases operation with
  | access made =>
    have keeps := made.keeps_perform wiped
    refine .of_keeps keeps.chain keeps.nextId fun other inside => ?_
    rw [Chain.length_lineage] at inside
    exact iff_of_false not_false (by omega)
  | freeze resume =>
    exact .extended resume rfl (store.chain.tail.successor store.nextId resume)
      List.reverse_cons rfl rfl
  | rollback => exact store.turn_rollback
  | restore checkpoint => exact store.turn_restore checkpoint
  | collapse checkpoint => exact store.turn_collapse checkpoint
  | clear =>
    exact .cleared (.oldest store.nextId store.settings.sweepThreshold) rfl rfl rfl
      fun _ => trivial

/-! ### Generations that stay, and generations that are new -/

namespace Store

/-- What lies below a depth is what it was, and the generation there is still the same one. -/
structure Preserves (depth : Nat) (below : List Generation) (top : Generation) (store : Store) :
    Prop where
  below : store.chain.lineage.take depth = below
  top : ∃ generation, store.chain.lineage[depth]? = some generation ∧ generation.id = top.id ∧
    generation.resume = top.resume

/-- All generations from a depth on have been started since some id was the next one. -/
structure Renews (depth id : Nat) (store : Store) : Prop where
  fresh : ∀ other generation, depth ≤ other → store.chain.lineage[other]? = some generation →
    id ≤ generation.id
  next : id ≤ store.nextId

theorem Preserves.turn {depth : Nat} {below : List Generation} {top : Generation}
    {before after : Store} {operation : Operation} (preserves : Preserves depth below top before)
    (turn : before.Turn operation after) (stays : ¬ operation.Removes before depth) :
    Preserves depth below top after := by
  obtain ⟨same, generation, found, id, resume⟩ := preserves
  have inside := (List.getElem?_eq_some_iff.mp found).1
  cases turn with
  | cleared _ _ _ _ removed => exact absurd (removed depth) stays
  | extended _ _ tail grown =>
    refine ⟨?_, generation, ?_, id, resume⟩
    · rw [grown, List.take_append_of_le_length inside.le, same]
    · rw [grown, List.getElem?_append_left inside, found]
  | trimmed cutDepth cutTop tail target cut cutId cutResume _ removed =>
    have kept : depth ≤ cutDepth := by
      rw [removed depth inside] at stays
      omega
    have cutInside := (List.getElem?_eq_some_iff.mp target).1
    have size : (before.chain.lineage.take cutDepth).length = cutDepth := by
      rw [List.length_take]
      omega
    refine ⟨?_, ?_⟩
    · rw [cut, List.take_append_of_le_length (by omega), List.take_take, Nat.min_eq_left kept, same]
    · obtain deeper | equal := Nat.lt_or_eq_of_le kept
      · refine ⟨generation, ?_, id, resume⟩
        rw [cut, List.getElem?_append_left (by omega), List.getElem?_take_of_lt deeper, found]
      · subst equal
        rw [target] at found
        cases found
        refine ⟨tail, ?_, cutId.trans id, cutResume.trans resume⟩
        rw [cut, List.getElem?_append_right (by omega), size, Nat.sub_self]
        rfl

theorem Renews.turn {depth id : Nat} {before after : Store} {operation : Operation}
    (renews : Renews depth id before) (turn : before.Turn operation after) :
    Renews depth id after := by
  obtain ⟨fresh, next⟩ := renews
  cases turn with
  | cleared tail only tailId nextId =>
    refine ⟨fun other generation deep found => ?_, by omega⟩
    rw [only, List.getElem?_singleton] at found
    split at found
    · cases found
      omega
    · cases found
  | extended _ _ tail grown tailId nextId =>
    refine ⟨fun other generation deep found => ?_, by omega⟩
    rw [grown, List.getElem?_append] at found
    split at found
    · exact fresh other generation deep found
    · rw [List.getElem?_singleton] at found
      split at found
      · cases found
        omega
      · cases found
  | trimmed cutDepth cutTop tail target cut cutId _ nextId =>
    have cutInside := (List.getElem?_eq_some_iff.mp target).1
    have size : (before.chain.lineage.take cutDepth).length = cutDepth := by
      rw [List.length_take]
      omega
    refine ⟨fun other generation deep found => ?_, by omega⟩
    rw [cut, List.getElem?_append, size] at found
    split at found
    · rename_i shallower
      rw [List.getElem?_take_of_lt shallower] at found
      exact fresh other generation deep found
    · rw [List.getElem?_singleton] at found
      split at found
      · rename_i zero
        cases found
        rw [cutId]
        exact fresh cutDepth cutTop (by omega) target
      · cases found

/-- Removing the generation at a depth leaves none there, or a new one. -/
theorem Turn.renews {depth : Nat} {before after : Store} {operation : Operation}
    (turn : before.Turn operation after) (inside : depth < before.chain.lineage.length)
    (removed : operation.Removes before depth) : Renews depth before.nextId after := by
  cases turn with
  | cleared tail only tailId nextId =>
    refine ⟨fun other generation deep found => ?_, by omega⟩
    rw [only, List.getElem?_singleton] at found
    split at found
    · cases found
      omega
    · cases found
  | extended resume frozen =>
    rw [frozen] at removed
    exact removed.elim
  | trimmed cutDepth cutTop tail target cut cutId _ nextId iff =>
    have deeper := (iff depth inside).mp removed
    have cutInside := (List.getElem?_eq_some_iff.mp target).1
    refine ⟨fun other generation deep found => ?_, by omega⟩
    rw [cut, List.getElem?_eq_none (by simp; omega)] at found
    cases found

/-- Over a run a generation stays as long as no operation removes it. -/
theorem preserves_after {depth : Nat} {below : List Generation} {top : Generation} {store : Store}
    (wiped : store.chain.pools.Wiped) (preserves : Preserves depth below top store)
    {operations : List Operation} (survives : Survives depth store operations) :
    Preserves depth below top (store.after operations) := by
  induction operations generalizing store with
  | nil => exact preserves
  | cons operation operations inductionHypothesis =>
    exact inductionHypothesis (operation.wiped_perform wiped)
      (preserves.turn (operation.turn wiped) survives.1) survives.2

theorem renews_after {depth id : Nat} {store : Store} (wiped : store.chain.pools.Wiped)
    (renews : Renews depth id store) (operations : List Operation) :
    Renews depth id (store.after operations) := by
  induction operations generalizing store with
  | nil => exact renews
  | cons operation operations inductionHypothesis =>
    exact inductionHypothesis (operation.wiped_perform wiped) (renews.turn (operation.turn wiped))

theorem Turn.nextId_le {before after : Store} {operation : Operation}
    (turn : before.Turn operation after) : before.nextId ≤ after.nextId := by
  cases turn with
  | cleared _ _ _ nextId => omega
  | extended _ _ _ _ _ nextId => omega
  | trimmed _ _ _ _ _ _ _ nextId => omega

/-- Once removed, a generation does not come back: whatever lies at its depth is new. -/
theorem renews_of_not_survives {depth : Nat} {store : Store}
    (wiped : store.chain.pools.Wiped) {below : List Generation} {top : Generation}
    (preserves : Preserves depth below top store) {operations : List Operation}
    (removed : ¬ Survives depth store operations) :
    Renews depth store.nextId (store.after operations) := by
  induction operations generalizing store with
  | nil => exact absurd trivial removed
  | cons operation operations inductionHypothesis =>
    have turn := operation.turn wiped
    have wipedAfter := operation.wiped_perform wiped
    by_cases now : operation.Removes store depth
    · obtain ⟨generation, found, -⟩ := preserves.top
      have inside := (List.getElem?_eq_some_iff.mp found).1
      exact renews_after wipedAfter (turn.renews inside now) operations
    · have later : ¬ Survives depth (Action.reached (operation.perform store)) operations :=
        fun survives => removed ⟨now, survives⟩
      obtain ⟨fresh, next⟩ := inductionHypothesis wipedAfter (preserves.turn turn now) later
      have grown := turn.nextId_le
      exact ⟨fun other generation deep found => grown.trans (fresh other generation deep found),
        grown.trans next⟩

end Store

/-! ### Ids grow along the lineage -/

namespace Store

/-- Ids grow from the oldest generation to the newest, and none is used in advance. -/
structure Ordered (store : Store) : Prop where
  sorted : (store.chain.lineage.map Generation.id).Pairwise (· < ·)
  bounded : ∀ generation ∈ store.chain.lineage, generation.id < store.nextId

theorem ordered_empty (settings : StoreSettings) : (empty settings).Ordered where
  sorted := List.pairwise_singleton _ _
  bounded generation member := by
    cases List.mem_singleton.mp member
    exact Nat.one_pos

theorem Ordered.turn {before after : Store} {operation : Operation} (ordered : before.Ordered)
    (turn : before.Turn operation after) : after.Ordered := by
  obtain ⟨sorted, bounded⟩ := ordered
  cases turn with
  | cleared tail only tailId nextId =>
    refine ⟨by rw [only]; exact List.pairwise_singleton _ _, fun generation member => ?_⟩
    rw [only] at member
    cases List.mem_singleton.mp member
    omega
  | extended _ _ tail grown tailId nextId =>
    refine ⟨?_, fun generation member => ?_⟩
    · rw [grown, List.map_append, List.pairwise_append]
      refine ⟨sorted, List.pairwise_singleton _ _, fun id member other last => ?_⟩
      obtain ⟨generation, inside, rfl⟩ := List.mem_map.mp member
      cases List.mem_singleton.mp last
      rw [tailId]
      exact bounded generation inside
    · rw [grown, List.mem_append] at member
      obtain inside | last := member
      · exact Nat.lt_trans (bounded generation inside) (by omega)
      · cases List.mem_singleton.mp last
        omega
  | trimmed depth top tail target cut id _ nextId =>
    have inside := (List.getElem?_eq_some_iff.mp target).1
    have ids : after.chain.lineage.map Generation.id =
        (before.chain.lineage.map Generation.id).take (depth + 1) := by
      rw [cut, List.map_append, List.map_take, List.take_add_one, List.getElem?_map, target]
      exact congrArg (_ ++ [·]) id
    refine ⟨ids ▸ sorted.sublist (List.take_sublist _ _), fun generation member => ?_⟩
    have listed : generation.id ∈ (before.chain.lineage.map Generation.id).take (depth + 1) :=
      ids ▸ List.mem_map_of_mem member
    obtain ⟨other, present, same⟩ := List.mem_map.mp (List.mem_of_mem_take listed)
    rw [nextId, ← same]
    exact bounded other present

theorem ordered_after {store : Store} (wiped : store.chain.pools.Wiped) (ordered : store.Ordered)
    (operations : List Operation) : (store.after operations).Ordered := by
  induction operations generalizing store with
  | nil => exact ordered
  | cons operation operations inductionHypothesis =>
    exact inductionHypothesis (operation.wiped_perform wiped) (ordered.turn (operation.turn wiped))

/-! ### A checkpoint at every later point -/

variable {frozen : Store} {resume : ResumePoint} {after : List Operation}

/-- Right after a freeze, the generation it started lies on top of all there was. -/
theorem preserves_freeze (frozen : Store) (resume : ResumePoint) :
    Preserves ((frozen.freeze resume).1.depth + 1) frozen.chain.lineage
      (frozen.chain.tail.successor frozen.nextId resume) (frozen.freeze resume).2 := by
  have lineage : (frozen.freeze resume).2.chain.lineage =
      frozen.chain.lineage ++ [frozen.chain.tail.successor frozen.nextId resume] :=
    List.reverse_cons
  have size : (frozen.freeze resume).1.depth + 1 = frozen.chain.lineage.length :=
    frozen.chain.length_lineage.symm
  rw [size]
  refine ⟨?_, _, ?_, rfl, rfl⟩
  · rw [lineage, List.take_append_of_le_length (Nat.le_refl _),
      List.take_of_length_le (Nat.le_refl _)]
  · rw [lineage, List.getElem?_append_right (Nat.le_refl _), Nat.sub_self]
    rfl

/-- Right after a freeze, the generation its checkpoint names lies below. -/
theorem preserves_frozen (frozen : Store) (resume : ResumePoint) :
    Preserves (frozen.freeze resume).1.depth (frozen.chain.lineage.take frozen.chain.older.length)
      frozen.chain.tail (frozen.freeze resume).2 := by
  have lineage : (frozen.freeze resume).2.chain.lineage =
      frozen.chain.lineage ++ [frozen.chain.tail.successor frozen.nextId resume] :=
    List.reverse_cons
  have size := frozen.chain.length_lineage
  rw [show (frozen.freeze resume).1.depth = frozen.chain.older.length from rfl]
  refine ⟨?_, frozen.chain.tail, ?_, rfl, rfl⟩
  · rw [lineage, List.take_append_of_le_length (by omega)]
  · rw [lineage, List.getElem?_append_left (by omega), frozen.chain.lineage_tail]

theorem wiped_freeze (wiped : frozen.chain.pools.Wiped) :
    (frozen.freeze resume).2.chain.pools.Wiped := wiped

/-- Restoring brings the chain before the freeze back, while what the freeze started is there. -/
theorem restore_of_survives (wiped : frozen.chain.pools.Wiped)
    (survives : Survives ((frozen.freeze resume).1.depth + 1) (frozen.freeze resume).2 after) :
    ∃ restored, restore (frozen.freeze resume).1 ((frozen.freeze resume).2.after after) =
        .ok resume restored ∧ restored.chain.generations = frozen.chain.generations := by
  obtain ⟨below, started, found, id, resumes⟩ :=
    preserves_after (wiped_freeze wiped) (preserves_freeze frozen resume) survives
  generalize (frozen.freeze resume).2.after after = store at below found
  have shallow : store.chain.lineage[(frozen.freeze resume).1.depth]? = some frozen.chain.tail := by
    rw [← List.getElem?_take_of_succ, below]
    exact frozen.chain.lineage_tail
  have held : store.holds (frozen.freeze resume).1 = true := by
    rw [holds, Chain.generationAt?_eq, shallow]
    exact beq_self_eq_true _
  have begun : store.startedBy? (frozen.freeze resume).1 = some started := by
    rw [startedBy?, if_pos held, Chain.generationAt?_eq, found]
    exact Option.filter_some_pos (beq_iff_eq.mpr id)
  obtain ⟨fault, failed, none⟩ | ⟨_, answer, restored, succeeded, same, answers, event, rfl⟩ :=
    store.restore_cases (frozen.freeze resume).1
  · exact (none started resume begun resumes).elim
  · cases begun.symm.trans same
    cases resumes.symm.trans answers
    refine ⟨_, succeeded, List.reverse_injective ?_⟩
    change (store.chain.discardTo (frozen.freeze resume).1.depth).lineage = frozen.chain.lineage
    rw [Chain.lineage_discardTo (depth_le_of_holds held), below]

/-- Once what the freeze started is gone, its checkpoint is refused. -/
theorem restore_of_not_survives (wiped : frozen.chain.pools.Wiped)
    (removed : ¬ Survives ((frozen.freeze resume).1.depth + 1) (frozen.freeze resume).2 after) :
    restore (frozen.freeze resume).1 ((frozen.freeze resume).2.after after) =
      .error (.refused .nothingToRestore) ((frozen.freeze resume).2.after after) := by
  obtain ⟨fresh, -⟩ :=
    renews_of_not_survives (wiped_freeze wiped) (preserves_freeze frozen resume) removed
  generalize (frozen.freeze resume).2.after after = store at fresh
  have missing : store.startedBy? (frozen.freeze resume).1 = none := by
    by_contra present
    obtain ⟨started, found⟩ := Option.ne_none_iff_exists'.mp present
    obtain ⟨-, placed, id⟩ := started_of_startedBy? found
    have later : frozen.nextId + 1 ≤ started.id := fresh _ started (Nat.le_refl _) placed
    have same : started.id = frozen.nextId := id
    omega
  unfold restore
  rw [Action.bind_of_ok (rfl : (get : StoreM Store) store = .ok store store), missing]
  rfl

theorem collapse_of_survives (wiped : frozen.chain.pools.Wiped)
    (survives : Survives (frozen.freeze resume).1.depth (frozen.freeze resume).2 after) :
    ∃ merged, collapse (frozen.freeze resume).1 ((frozen.freeze resume).2.after after) =
      .ok () merged := by
  obtain ⟨-, generation, found, id, -⟩ :=
    preserves_after (wiped_freeze wiped) (preserves_frozen frozen resume) survives
  generalize (frozen.freeze resume).2.after after = store at found
  obtain ⟨-, lost⟩ | ⟨-, merged, succeeded, -⟩ := store.collapse_cases (frozen.freeze resume).1
  · rw [holds, Chain.generationAt?_eq, found] at lost
    exact absurd (beq_iff_eq.mpr id) (Bool.eq_false_iff.mp lost)
  · exact ⟨merged, succeeded⟩

theorem collapse_of_not_survives (wiped : frozen.chain.pools.Wiped) (ordered : frozen.Ordered)
    (removed : ¬ Survives (frozen.freeze resume).1.depth (frozen.freeze resume).2 after) :
    collapse (frozen.freeze resume).1 ((frozen.freeze resume).2.after after) =
      .error (.refused .staleCheckpoint) ((frozen.freeze resume).2.after after) := by
  obtain ⟨fresh, -⟩ :=
    renews_of_not_survives (wiped_freeze wiped) (preserves_frozen frozen resume) removed
  generalize (frozen.freeze resume).2.after after = store at fresh
  obtain ⟨failed, -⟩ | ⟨held, -⟩ := store.collapse_cases (frozen.freeze resume).1
  · exact failed
  · obtain ⟨generation, found, id⟩ := inside_of_holds held
    have later : frozen.nextId + 1 ≤ generation.id := fresh _ generation (Nat.le_refl _) found
    have earlier : frozen.chain.tail.id < frozen.nextId :=
      ordered.bounded _ (List.mem_of_getElem? frozen.chain.lineage_tail)
    have same : generation.id = frozen.chain.tail.id := id
    omega

/-! ### Rolling back -/

theorem survives_concat {depth : Nat} {store : Store} {operations : List Operation}
    {operation : Operation} (survives : Survives depth store operations)
    (stays : ¬ operation.Removes (store.after operations) depth) :
    Survives depth store (operations ++ [operation]) := by
  induction operations generalizing store with
  | nil => exact ⟨stays, trivial⟩
  | cons first operations inductionHypothesis =>
    exact ⟨survives.1, inductionHypothesis survives.2 stays⟩

/-- Every generation but the oldest was started by a freeze of the run, and has stayed since. -/
theorem exists_freeze {store : Store} (wiped : store.chain.pools.Wiped)
    (single : store.chain.older.length = 0) (operations : List Operation) (depth : Nat)
    (inside : depth < (store.after operations).chain.older.length) :
    ∃ before resume after, operations = before ++ .freeze resume :: after ∧
      (store.after before).chain.older.length = depth ∧
      Survives (depth + 1) ((store.after before).freeze resume).2 after := by
  induction operations using List.reverseRecOn with
  | nil => exact absurd inside (by rw [after_nil, single]; exact Nat.not_lt_zero depth)
  | append_singleton operations operation inductionHypothesis =>
    have turn := operation.turn (wiped_after wiped operations)
    rw [after_append] at inside
    change depth < (Action.reached (operation.perform (store.after operations))).chain.older.length
      at inside
    generalize Action.reached (operation.perform (store.after operations)) = reached at inside turn
    -- A generation that was there before the last operation, and is not removed by it.
    have earlier (present : depth < (store.after operations).chain.older.length)
        (stays : ¬ operation.Removes (store.after operations) (depth + 1)) :
        ∃ before resume after, operations ++ [operation] = before ++ .freeze resume :: after ∧
          (store.after before).chain.older.length = depth ∧
          Survives (depth + 1) ((store.after before).freeze resume).2 after := by
      obtain ⟨before, resume, after, rfl, size, survives⟩ := inductionHypothesis present
      refine ⟨before, resume, after ++ [operation], by simp, size, survives_concat survives ?_⟩
      rwa [after_append] at stays
    have size := reached.chain.length_lineage
    have before := (store.after operations).chain.length_lineage
    cases turn with
    | cleared tail only =>
      rw [only, List.length_singleton] at size
      omega
    | extended resume frozen tail grown =>
      subst frozen
      rw [grown, List.length_append, List.length_singleton] at size
      by_cases newest : depth = (store.after operations).chain.older.length
      · exact ⟨operations, resume, [], rfl, newest.symm, trivial⟩
      · exact earlier (by omega) not_false
    | trimmed cutDepth top tail target cut _ _ _ removed =>
      have cutInside := (List.getElem?_eq_some_iff.mp target).1
      rw [cut, List.length_append, List.length_take, List.length_singleton] at size
      refine earlier (by omega) ?_
      rw [removed (depth + 1) (by omega)]
      omega

/-- Rolling back discards what restoring the newest checkpoint discards. -/
theorem rollback_of_survives (wiped : frozen.chain.pools.Wiped)
    (survives : Survives ((frozen.freeze resume).1.depth + 1) (frozen.freeze resume).2 after)
    (newest : ((frozen.freeze resume).2.after after).chain.older.length =
      (frozen.freeze resume).1.depth + 1) {answer : ResumePoint} {restored : Store}
    (restoring : restore (frozen.freeze resume).1 ((frozen.freeze resume).2.after after) =
      .ok answer restored) :
    ((frozen.freeze resume).2.after after).rollback =
      (some resume, { restored with
        journal := ((frozen.freeze resume).2.after after).rollback.2.journal }) := by
  obtain ⟨-, started, found, -, resumes⟩ :=
    preserves_after (wiped_freeze wiped) (preserves_freeze frozen resume) survives
  generalize (frozen.freeze resume).2.after after = store at found newest restoring
  rw [← newest, Chain.lineage_tail] at found
  cases found
  obtain ⟨fault, failed, -⟩ | ⟨_, _, _, succeeded, -, -, event, rfl⟩ :=
    store.restore_cases (frozen.freeze resume).1
  · rw [failed] at restoring
    cases restoring
  · rw [succeeded] at restoring
    cases restoring
    cases lower : store.chain.older with
    | nil =>
      rw [lower] at newest
      cases newest
    | cons tail older =>
      have depth : (frozen.freeze resume).1.depth = older.length := by
        rw [lower, List.length_cons] at newest
        omega
      have rolledBack : store.rollback = (store.chain.tail.resume,
          { store with chain := store.chain.discardTail }.note
            (.rolledBack store.chain.tail.id)) := by
        unfold rollback
        rw [lower]
      rw [rolledBack, depth, Chain.discardTo_below lower, resumes]
      rfl

/-- The generation that a restorable checkpoint started is not newer than the tail. -/
theorem successor_le_tail {store : Store} (ordered : store.Ordered) {checkpoint : Checkpoint}
    {answer : ResumePoint} {restored : Store}
    (restoring : restore checkpoint store = .ok answer restored) :
    checkpoint.successor ≤ store.chain.tail.id := by
  obtain ⟨fault, failed, -⟩ | ⟨started, _, _, -, found, -⟩ := store.restore_cases checkpoint
  · rw [failed] at restoring
    cases restoring
  · obtain ⟨-, placed, id⟩ := started_of_startedBy? found
    rw [← id]
    have sorted := ordered.sorted
    rw [Chain.lineage_eq, List.map_append, List.pairwise_append] at sorted
    have member := List.mem_of_getElem? placed
    rw [Chain.lineage_eq, List.mem_append] at member
    obtain below | last := member
    · exact (sorted.2.2 _ (List.mem_map_of_mem below) _ (List.mem_singleton_self _)).le
    · rw [List.mem_singleton.mp last]

/-- Where there is something to roll back, it is what the newest checkpoint restores. -/
theorem exists_newest {store : Store} (wiped : store.chain.pools.Wiped)
    (single : store.chain.older.length = 0) (ordered : store.Ordered)
    (operations : List Operation) {depth : Nat}
    (size : (store.after operations).chain.older.length = depth + 1) :
    ∃ before resume after restored,
      operations = before ++ .freeze resume :: after ∧
      restore ((store.after before).freeze resume).1 (store.after operations) =
        .ok resume restored ∧
      (∀ other answer reached, restore other (store.after operations) = .ok answer reached →
        other.successor ≤ ((store.after before).freeze resume).1.successor) ∧
      (store.after operations).rollback =
        (some resume, { restored with
          journal := (store.after operations).rollback.2.journal }) := by
  obtain ⟨before, resume, after, rfl, lower, survives⟩ :=
    exists_freeze wiped single operations depth (by omega)
  have wipedBefore := wiped_after wiped before
  have orderedAfter := ordered_after wiped ordered (before ++ .freeze resume :: after)
  have split : store.after (before ++ .freeze resume :: after) =
      ((store.after before).freeze resume).2.after after := after_append ..
  rw [split] at size orderedAfter ⊢
  subst lower
  obtain ⟨restored, restoring, -⟩ := restore_of_survives wipedBefore survives
  refine ⟨before, resume, after, restored, rfl, restoring, fun other answer reached success => ?_,
    rollback_of_survives wipedBefore survives size restoring⟩
  obtain ⟨-, started, found, id, -⟩ := preserves_after (wiped_freeze wipedBefore)
    (preserves_freeze (store.after before) resume) survives
  have tail : started = (((store.after before).freeze resume).2.after after).chain.tail := by
    have top := Chain.lineage_tail (((store.after before).freeze resume).2.after after).chain
    rw [size] at top
    exact Option.some.inj (found.symm.trans top)
  calc other.successor
      ≤ (((store.after before).freeze resume).2.after after).chain.tail.id :=
        successor_le_tail orderedAfter success
    _ = ((store.after before).freeze resume).1.successor := by rw [← tail, id]; rfl

end Store

/-- Checkpoints over whole runs. A checkpoint can be restored exactly as long as the generation that
its freeze started has not been discarded or merged away, and restoring it then brings back the
chain before the freeze; it can be collapsed to exactly as long as the generation it names is there;
and rolling back is restoring the newest checkpoint that can be restored. -/
theorem checkpoints_over_runs (settings : StoreSettings) :
    (∀ (before : List Operation) (resume : ResumePoint) (after : List Operation),
      let frozen := (Store.empty settings).after before
      let checkpoint := (frozen.freeze resume).1
      let started := (frozen.freeze resume).2
      let store := started.after after
      (started.Survives (checkpoint.depth + 1) after →
        ∃ restored, Store.restore checkpoint store = .ok resume restored ∧
          restored.chain.generations = frozen.chain.generations) ∧
      (¬ started.Survives (checkpoint.depth + 1) after →
        Store.restore checkpoint store = .error (.refused .nothingToRestore) store) ∧
      (started.Survives checkpoint.depth after →
        ∃ merged, Store.collapse checkpoint store = .ok () merged) ∧
      (¬ started.Survives checkpoint.depth after →
        Store.collapse checkpoint store = .error (.refused .staleCheckpoint) store)) ∧
    ∀ operations : List Operation,
      let store := (Store.empty settings).after operations
      (store.rollback.1 = none ↔ store.chain.length = 1) ∧
      (store.chain.length ≠ 1 →
        ∃ before resume after restored,
          let checkpoint := (((Store.empty settings).after before).freeze resume).1
          operations = before ++ .freeze resume :: after ∧
          Store.restore checkpoint store = .ok resume restored ∧
          (∀ other answer reached, Store.restore other store = .ok answer reached →
            other.successor ≤ checkpoint.successor) ∧
          store.rollback = (some resume, { restored with
            journal := store.rollback.2.journal })) := by
  have wiped := Store.wiped_empty settings
  refine ⟨fun before resume after => ?_, fun operations => ?_⟩
  · have wipedBefore := Store.wiped_after wiped before
    exact ⟨Store.restore_of_survives wipedBefore, Store.restore_of_not_survives wipedBefore,
      Store.collapse_of_survives wipedBefore, Store.collapse_of_not_survives wipedBefore
        (Store.ordered_after wiped (Store.ordered_empty settings) before)⟩
  · have single : (Store.empty settings).chain.older.length = 0 := rfl
    cases lower : ((Store.empty settings).after operations).chain.older with
    | nil =>
      have alone : ((Store.empty settings).after operations).chain.length = 1 := by
        rw [Chain.length, lower, List.length_nil]
      refine ⟨⟨fun _ => alone, fun _ => ?_⟩, fun several => absurd alone several⟩
      unfold Store.rollback
      rw [lower]
    | cons below older =>
      have size : ((Store.empty settings).after operations).chain.older.length =
          older.length + 1 := by
        rw [lower, List.length_cons]
      have newest := Store.exists_newest wiped single (Store.ordered_empty settings) operations size
      refine ⟨?_, fun _ => newest⟩
      obtain ⟨_, resume, _, _, -, -, -, rolledBack⟩ := newest
      rw [rolledBack, Chain.length, size]
      exact iff_of_false (Option.some_ne_none _) (by omega)

end Rewind
