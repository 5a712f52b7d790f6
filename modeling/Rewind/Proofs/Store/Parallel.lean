/-
This file compares all generations of two stores at once. What is seen from a generation may be
compared up to something; its resume point is the same, and so is its id, or else all ids of one
store are ahead of those of the other by the same number. The operations that grow and shrink the
chain go by ids, resume points and depths alone, so two stores that flank each other answer them in
the same way, up to how their generations are numbered, and go on flanking each other, whichever of
their generations own what.
-/

import Mathlib
import Rewind.Proofs.Store.Views

namespace Rewind

/-! ### What is seen from each generation -/

/-- What is seen from each generation up to something, with its resume point and its id, moved on by
some number. -/
def Generation.views (shift : Nat) (onSnapshot : Snapshot → Snapshot) :
    List Generation → List (Nat × Option ResumePoint × Snapshot)
  | [] => []
  | generation :: older =>
    (generation.id + shift, generation.resume, onSnapshot (generation.over older)) ::
      views shift onSnapshot older

/-- What the chain is reshaped by, with the id moved on by some number. -/
def Generation.label (shift : Nat) (generation : Generation) : Nat × Option ResumePoint :=
  (generation.id + shift, generation.resume)

/-- A checkpoint of generations whose ids are moved on by some number. -/
def Checkpoint.shifted (shift : Nat) (checkpoint : Checkpoint) : Checkpoint :=
  { id := checkpoint.id + shift
    depth := checkpoint.depth
    successor := checkpoint.successor + shift }

namespace Generation

variable {shift : Nat} {onSnapshot twin : Snapshot → Snapshot}

theorem views_drop (generations : List Generation) (count : Nat) :
    views shift onSnapshot (generations.drop count) =
      (views shift onSnapshot generations).drop count := by
  induction generations generalizing count with
  | nil => rw [List.drop_nil, views, List.drop_nil]
  | cons generation older inductionHypothesis =>
    cases count with
    | zero => rfl
    | succ count => exact inductionHypothesis count

theorem labels_views (generations : List Generation) :
    (views shift onSnapshot generations).map (fun view => (view.1, view.2.1)) =
      generations.map (label shift) := by
  induction generations with
  | nil => rfl
  | cons generation older inductionHypothesis =>
    exact congrArg (generation.label shift :: ·) inductionHypothesis

@[simp] theorem length_views (generations : List Generation) :
    (views shift onSnapshot generations).length = generations.length := by
  have labels := congrArg List.length (@labels_views shift onSnapshot generations)
  rwa [List.length_map, List.length_map] at labels

theorem views_eq {left right : Chain} (id : left.tail.id = right.tail.id + shift)
    (resume : left.tail.resume = right.tail.resume)
    (seen : onSnapshot left.snapshot = twin right.snapshot)
    (below : views 0 onSnapshot left.older = views shift twin right.older) :
    views 0 onSnapshot left.generations = views shift twin right.generations :=
  congrArg₂ List.cons (Prod.ext id (Prod.ext resume seen)) below

end Generation

/-- The same is seen from every generation of two stores, once something has been left out on either
side, and the ids of one are ahead of those of the other by the same number. -/
structure Store.Flanks (shift : Nat) (onSnapshot twin : Snapshot → Snapshot) (left right : Store) :
    Prop where
  generations : Generation.views 0 onSnapshot left.chain.generations =
    Generation.views shift twin right.chain.generations
  nextId : left.nextId = right.nextId + shift
  inOrderLeft : left.InOrder
  inOrderRight : right.InOrder

/-- The same is seen from every generation of two stores, up to something. -/
abbrev Store.Parallel (onSnapshot : Snapshot → Snapshot) (left right : Store) : Prop :=
  left.Flanks 0 onSnapshot onSnapshot right

namespace Store

variable {shift : Nat} {onSnapshot twin : Snapshot → Snapshot} {left right : Store}

theorem Flanks.top (flanks : left.Flanks shift onSnapshot twin right) :
    left.chain.tail.id = right.chain.tail.id + shift ∧
      left.chain.tail.resume = right.chain.tail.resume ∧
      onSnapshot left.chain.snapshot = twin right.chain.snapshot := by
  obtain ⟨id, others⟩ := Prod.mk.inj (List.cons.inj flanks.generations).1
  exact ⟨id, Prod.mk.inj others⟩

theorem Flanks.below (flanks : left.Flanks shift onSnapshot twin right) :
    Generation.views 0 onSnapshot left.chain.older =
      Generation.views shift twin right.chain.older :=
  (List.cons.inj flanks.generations).2

theorem Flanks.depth (flanks : left.Flanks shift onSnapshot twin right) :
    left.chain.older.length = right.chain.older.length := by
  have length := congrArg List.length flanks.below
  rwa [Generation.length_views, Generation.length_views] at length

theorem parallel_empty {settings other : StoreSettings}
    (blank : onSnapshot ((Generation.oldest 0 settings.sweepThreshold).over []) =
      onSnapshot ((Generation.oldest 0 other.sweepThreshold).over [])) :
    (empty settings).Parallel onSnapshot (empty other) :=
  ⟨Generation.views_eq rfl rfl blank rfl, rfl, inOrder_empty settings, inOrder_empty other⟩

/-- Where only the tails have changed, only they have to be compared again. -/
theorem Flanks.keeps (flanks : left.Flanks shift onSnapshot twin right) {left' right' : Store}
    (keepsLeft : left.Keeps left') (keepsRight : right.Keeps right')
    (seen : onSnapshot left'.chain.snapshot = twin right'.chain.snapshot) :
    left'.Flanks shift onSnapshot twin right' := by
  obtain ⟨id, resume, -⟩ := flanks.top
  refine ⟨Generation.views_eq ?_ ?_ seen ?_, ?_, flanks.inOrderLeft.keeps keepsLeft,
    flanks.inOrderRight.keeps keepsRight⟩
  · rw [keepsLeft.chain.id, keepsRight.chain.id, id]
  · rw [keepsLeft.chain.resume, keepsRight.chain.resume, resume]
  · rw [keepsLeft.chain.older, keepsRight.chain.older, flanks.below]
  · rw [keepsLeft.nextId, keepsRight.nextId, flanks.nextId]

/-! ### Checkpoints and rollbacks -/

theorem Flanks.freeze (flanks : left.Flanks shift onSnapshot twin right) (resume : ResumePoint) :
    (left.freeze resume).1 = (right.freeze resume).1.shifted shift ∧
      (left.freeze resume).2.Flanks shift onSnapshot twin (right.freeze resume).2 := by
  obtain ⟨id, -, seen⟩ := flanks.top
  refine ⟨?_, Generation.views_eq flanks.nextId rfl ?_ flanks.generations,
    ?_, (Operation.freeze resume).inOrder_perform flanks.inOrderLeft,
    (Operation.freeze resume).inOrder_perform flanks.inOrderRight⟩
  · unfold Store.freeze
    simp only
    rw [id, flanks.depth, flanks.nextId]
    rfl
  · rw [freeze_chain, freeze_chain, snapshot_extend, snapshot_extend, seen]
  · change left.nextId + 1 = right.nextId + 1 + shift
    rw [flanks.nextId, Nat.add_right_comm]

theorem views_discardTail (chain : Chain) :
    Generation.views shift onSnapshot chain.discardTail.generations =
      if chain.older.length = 0 then Generation.views shift onSnapshot chain.generations
      else Generation.views shift onSnapshot chain.older := by
  unfold Chain.discardTail
  cases lower : chain.older <;> rfl

theorem rollback_resume (store : Store) :
    store.rollback.1 = if store.chain.older.length = 0 then none else store.chain.tail.resume := by
  unfold Store.rollback
  cases store.chain.older <;> rfl

theorem rollback_nextId (store : Store) : store.rollback.2.nextId = store.nextId := by
  unfold Store.rollback
  split <;> rfl

theorem Flanks.rollback (flanks : left.Flanks shift onSnapshot twin right) :
    left.rollback.1 = right.rollback.1 ∧
      left.rollback.2.Flanks shift onSnapshot twin right.rollback.2 := by
  refine ⟨?_, ?_, ?_, Operation.rollback.inOrder_perform flanks.inOrderLeft,
    Operation.rollback.inOrder_perform flanks.inOrderRight⟩
  · rw [rollback_resume, rollback_resume, flanks.depth, flanks.top.2.1]
  · rw [rollback_chain, rollback_chain, views_discardTail, views_discardTail, flanks.depth,
      flanks.generations, flanks.below]
  · rw [rollback_nextId, rollback_nextId, flanks.nextId]

theorem Flanks.label (flanks : left.Flanks shift onSnapshot twin right) (depth : Nat) :
    (left.chain.generationAt? depth).map (Generation.label 0) =
      (right.chain.generationAt? depth).map (Generation.label shift) := by
  have labels : left.chain.generations.map (Generation.label 0) =
      right.chain.generations.map (Generation.label shift) := by
    rw [← Generation.labels_views, flanks.generations, Generation.labels_views]
  have place (shift : Nat) (chain : Chain) :
      (chain.generationAt? depth).map (Generation.label shift) =
        if depth ≤ chain.older.length then
          (chain.generations.map (Generation.label shift))[chain.older.length - depth]?
            else none := by
    unfold Chain.generationAt?
    rw [List.getElem?_map]
    split <;> rfl
  rw [place, place, labels, flanks.depth]

theorem holds_eq (store : Store) (shift : Nat) (checkpoint : Checkpoint) :
    store.holds checkpoint =
      ((store.chain.generationAt? checkpoint.depth).map (Generation.label shift)).any
        fun label => label.1 == (checkpoint.shifted shift).id := by
  unfold Store.holds
  rw [Option.any_map]
  refine congrArg (Option.any · _) (funext fun generation => ?_)
  rw [Bool.eq_iff_iff, beq_iff_eq, beq_iff_eq]
  exact Nat.add_right_cancel_iff.symm

theorem Flanks.holds (flanks : left.Flanks shift onSnapshot twin right) (checkpoint : Checkpoint) :
    left.holds (checkpoint.shifted shift) = right.holds checkpoint := by
  rw [holds_eq left 0, holds_eq right shift, ← flanks.label]
  rfl

theorem startedBy?_eq (store : Store) (shift : Nat) (checkpoint : Checkpoint) :
    (store.startedBy? checkpoint).map Generation.resume =
      if store.holds checkpoint then
        (((store.chain.generationAt? (checkpoint.depth + 1)).map (Generation.label shift)).filter
          fun label => label.1 == (checkpoint.shifted shift).successor).map Prod.snd
      else none := by
  unfold Store.startedBy?
  split
  · rw [Option.filter_map, Option.map_map]
    refine congrArg (Option.map Generation.resume <| Option.filter · _)
      (funext fun generation => ?_)
    rw [Bool.eq_iff_iff, beq_iff_eq, Function.comp_apply, beq_iff_eq]
    exact Nat.add_right_cancel_iff.symm
  · rfl

theorem Flanks.startedBy? (flanks : left.Flanks shift onSnapshot twin right)
    (checkpoint : Checkpoint) :
    (left.startedBy? (checkpoint.shifted shift)).map Generation.resume =
      (right.startedBy? checkpoint).map Generation.resume := by
  rw [startedBy?_eq left 0, startedBy?_eq right shift, flanks.holds, ← flanks.label]
  rfl

/-- Restoring goes by the resume point of the generation that the checkpoint started. -/
theorem restore_eq (store : Store) (checkpoint : Checkpoint) :
    restore checkpoint store =
      match (store.startedBy? checkpoint).map Generation.resume with
      | none => .error (.refused .nothingToRestore) store
      | some none => .error (.defect .missingResumePoint) store
      | some (some resume) =>
        .ok resume ({ store with chain := store.chain.discardTo checkpoint.depth }.note
          (.restored (store.chain.older.length - checkpoint.depth) checkpoint.id)) := by
  unfold restore
  rw [Action.bind_of_ok (rfl : (get : StoreM Store) store = .ok store store)]
  cases store.startedBy? checkpoint with
  | none => rfl
  | some started =>
    simp only [Option.map_some]
    cases started.resume <;> rfl

/-- What reshaping the chain leaves as it is. -/
structure Retains (before after : Store) : Prop where
  settings : after.settings = before.settings
  sweepRequested : after.sweepRequested = before.sweepRequested

theorem retains_rollback (store : Store) : store.Retains store.rollback.2 := by
  unfold Store.rollback
  split
  · exact ⟨rfl, rfl⟩
  · exact ⟨rfl, rfl⟩

theorem Flanks.restore (flanks : left.Flanks shift onSnapshot twin right)
    (checkpoint : Checkpoint) :
    Action.Agree (fun left' right' => left'.Flanks shift onSnapshot twin right' ∧
      left.Retains left' ∧ right.Retains right') id (restore (checkpoint.shifted shift) left)
      (restore checkpoint right) := by
  have unchanged : left.Flanks shift onSnapshot twin right ∧ left.Retains left ∧
      right.Retains right := ⟨flanks, ⟨rfl, rfl⟩, ⟨rfl, rfl⟩⟩
  have resumes := restore_eq left (checkpoint.shifted shift)
  have resumes' := restore_eq right checkpoint
  rw [flanks.startedBy?] at resumes
  rcases started : (right.startedBy? checkpoint).map Generation.resume with - | - | resume
  · rw [resumes, resumes', started]
    exact .error unchanged
  · rw [resumes, resumes', started]
    exact .error unchanged
  · simp only [started] at resumes resumes'
    obtain ⟨generation, found, -⟩ := Option.map_eq_some_iff.mp started
    have inside := depth_le_of_holds (started_of_startedBy? found).1
    rw [resumes, resumes']
    refine .ok rfl ⟨⟨?_, flanks.nextId, flanks.inOrderLeft.restore resumes,
      flanks.inOrderRight.restore resumes'⟩, ⟨rfl, rfl⟩, ⟨rfl, rfl⟩⟩
    change Generation.views 0 onSnapshot (left.chain.discardTo checkpoint.depth).generations =
      Generation.views shift twin (right.chain.discardTo checkpoint.depth).generations
    rw [generations_discardTo (flanks.depth ▸ inside), generations_discardTo inside,
      Generation.views_drop, Generation.views_drop, flanks.generations, flanks.depth]

theorem Flanks.collapse (flanks : left.Flanks shift onSnapshot twin right)
    (checkpoint : Checkpoint) :
    Action.Agree (fun left' right' => left'.Flanks shift onSnapshot twin right' ∧
      left.Retains left' ∧ right.Retains right') id (collapse (checkpoint.shifted shift) left)
      (collapse checkpoint right) := by
  have held := flanks.holds checkpoint
  obtain ⟨failed, gone⟩ | ⟨here, merged, collapsed, chain, nextId, settings, -, requested⟩ :=
    left.collapse_cases (checkpoint.shifted shift)
  · obtain ⟨failed', -⟩ | ⟨here', -⟩ := right.collapse_cases checkpoint
    · rw [failed, failed']
      exact .error ⟨flanks, ⟨rfl, rfl⟩, ⟨rfl, rfl⟩⟩
    · rw [gone, here'] at held
      cases held
  · obtain ⟨-, gone'⟩ | ⟨here', merged', collapsed', chain', nextId', settings', -, requested'⟩ :=
      right.collapse_cases checkpoint
    · rw [here, gone'] at held
      cases held
    · rw [collapsed, collapsed']
      have inside := depth_le_of_holds here'
      obtain ⟨target, older, dropped, below, id, resume⟩ := mergeTo_top (flanks.depth ▸ inside)
      obtain ⟨target', older', dropped', below', id', resume'⟩ := mergeTo_top inside
      have seen := (Chain.mergeTo_spec flanks.inOrderLeft.layered checkpoint.depth).1
      have seen' := (Chain.mergeTo_spec flanks.inOrderRight.layered checkpoint.depth).1
      have lined : Generation.views 0 onSnapshot (target :: older) =
          Generation.views shift twin (target' :: older') := by
        rw [← dropped, ← dropped', Generation.views_drop, Generation.views_drop,
          flanks.generations, flanks.depth]
      obtain ⟨same, lower⟩ := List.cons.inj lined
      obtain ⟨sameId, others⟩ := Prod.mk.inj same
      refine .ok rfl ⟨⟨?_, by rw [nextId, nextId', flanks.nextId],
        flanks.inOrderLeft.collapse collapsed, flanks.inOrderRight.collapse collapsed'⟩,
        ⟨settings, requested⟩, ⟨settings', requested'⟩⟩
      rw [chain, chain']
      refine Generation.views_eq ?_ ?_ ?_ ?_
      · rw [← Nat.add_zero (left.chain.mergeTo _).tail.id, id', ← sameId, ← id]
        rfl
      · rw [resume', ← (Prod.mk.inj others).1, ← resume]
        rfl
      · rw [seen', ← flanks.top.2.2, ← seen]
        rfl
      · rw [below', ← lower, ← below]
        rfl

/-- Cleared stores flank each other, however their generations are numbered. -/
theorem flanks_clear (nextId : left.nextId = right.nextId + shift) (inOrderLeft : left.InOrder)
    (inOrderRight : right.InOrder)
    (blank : ∀ id other, onSnapshot ((Generation.oldest id left.settings.sweepThreshold).over []) =
      twin ((Generation.oldest other right.settings.sweepThreshold).over [])) :
    left.clear.Flanks shift onSnapshot twin right.clear := by
  refine ⟨Generation.views_eq nextId rfl (blank left.nextId right.nextId) rfl, ?_,
    Operation.clear.inOrder_perform inOrderLeft, Operation.clear.inOrder_perform inOrderRight⟩
  change left.nextId + 1 = right.nextId + 1 + shift
  rw [nextId, Nat.add_right_comm]

end Store

end Rewind
