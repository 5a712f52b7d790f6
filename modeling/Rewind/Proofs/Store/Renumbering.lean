/-
This file compares stores whose generations are numbered differently. A store that has been cleared
goes on with higher ids than a new one has, and so do the checkpoints in its cells and bindings.
Apart from that the same is seen from all its generations, and everything that is done to both is
answered the same.
-/

import Mathlib
import Rewind.Proofs.Store.Parallel

namespace Rewind

/-- Two stores with the same settings that differ only in which generations own what and in how the
generations are numbered: the ids on the left are ahead by some number. -/
structure Store.Renumbered (shift : Nat) (settings : StoreSettings)
    (left right : Store) : Prop where
  flanks : left.Flanks shift id (Snapshot.mapCheckpoint (Checkpoint.shifted shift)) right
  settingsLeft : left.settings = settings
  settingsRight : right.settings = settings
  sweepRequested : left.sweepRequested = right.sweepRequested

namespace Store

variable {shift : Nat} {settings : StoreSettings} {left right : Store} {α β : Type}

/-- What is seen from the tails, with the checkpoints of the right relabelled. -/
abbrev MirrorsAhead (shift : Nat) : Store → Store → Prop :=
  Mirrors .nothing (.relabelling (Checkpoint.shifted shift))

theorem Renumbered.mirrors (same : left.Renumbered shift settings right) :
    MirrorsAhead shift left right where
  chain := ⟨same.flanks.top.2.2, same.flanks.inOrderLeft.wiped, same.flanks.inOrderRight.wiped⟩
  growth := by rw [same.settingsLeft, same.settingsRight]
  freeSpace := by rw [same.settingsLeft, same.settingsRight]
  sweeping := same.flanks.inOrderLeft.idle.trans same.flanks.inOrderRight.idle.symm
  sweepRequested := same.sweepRequested

theorem Renumbered.note (same : left.Renumbered shift settings right) (event other : Event) :
    (left.note event).Renumbered shift settings (right.note other) :=
  have ⟨generations, nextId, inOrderLeft, inOrderRight⟩ := same.flanks
  ⟨⟨generations, nextId, ⟨inOrderLeft.wiped, inOrderLeft.layered, inOrderLeft.idle⟩,
    ⟨inOrderRight.wiped, inOrderRight.layered, inOrderRight.idle⟩⟩, same.settingsLeft,
    same.settingsRight, same.sweepRequested⟩

/-! ### What can be read -/

theorem Renumbered.counters (same : left.Renumbered shift settings right) :
    left.chain.counters = right.chain.counters :=
  same.mirrors.chain.counters Forgetting.shallow_nothing (Forgetting.shallow_relabelling _)

theorem Renumbered.lookup (same : left.Renumbered shift settings right) (name : String) :
    left.lookup name = (right.lookup name).map (Value.mapCheckpoint (.shifted shift)) := by
  have found :=
    same.mirrors.lookup Forgetting.shallow_nothing (Forgetting.shallow_relabelling _) name
  exact (id_map (left.lookup name)).symm.trans found

theorem Renumbered.peek (same : left.Renumbered shift settings right) (position : Nat) :
    left.peek position = (right.peek position).map (Payload.mapCheckpoint (.shifted shift)) := by
  have seen := same.mirrors.chain.payload Forgetting.shallow_nothing
    (Forgetting.shallow_relabelling _) position
  exact (id_map (left.peek position)).symm.trans seen

/-! ### Accesses -/

/-- What changes only the tails keeps the numbering. -/
theorem renumbered_of_local {onLeft onRight : α → β} {action other : StoreM α}
    (isLocal : Local action) (otherLocal : Local other)
    (tandem : Action.Tandem (MirrorsAhead shift) onLeft onRight action other) :
    Action.Tandem (Renumbered shift settings) onLeft onRight action other := by
  refine lockstep_of_local isLocal otherLocal tandem ?_ ?_
  · intro left right same
    exact ⟨same.mirrors, same.flanks.inOrderLeft.wiped, same.flanks.inOrderRight.wiped⟩
  · intro left right left' right' same keepsLeft keepsRight reached
    exact ⟨same.flanks.keeps keepsLeft keepsRight reached.chain.seen,
      keepsLeft.settings.trans same.settingsLeft, keepsRight.settings.trans same.settingsRight,
      reached.sweepRequested⟩

theorem compares_mirrorsAhead (shift : Nat) :
    Compares .nothing (.relabelling (Checkpoint.shifted shift)) (MirrorsAhead shift) :=
  compares_mirrors Forgetting.shallow_nothing.toLawful (Forgetting.shallow_relabelling _).toLawful

theorem renumbered_alloc (payload : Payload) :
    Action.Lockstep (Renumbered shift settings) id (alloc (payload.mapCheckpoint (.shifted shift)))
      (alloc payload) :=
  renumbered_of_local (local_alloc _) (local_alloc payload)
    (mirrors_alloc Forgetting.shallow_nothing (Forgetting.shallow_relabelling _) rfl)

theorem renumbered_deref (position : Nat) :
    Action.Tandem (Renumbered shift settings) id
      (Payload.mapCheckpoint (.shifted shift)) (deref position)
      (deref position) :=
  renumbered_of_local (local_deref position) (local_deref position)
    ((compares_mirrorsAhead shift).deref position)

theorem renumbered_update (position : Nat) {edit : Payload → α × Payload}
    (discreet : ∀ payload, edit (payload.mapCheckpoint (.shifted shift)) =
      ((edit payload).1, (edit payload).2.mapCheckpoint (.shifted shift))) :
    Action.Lockstep (Renumbered shift settings) id (update position edit)
      (update position edit) := by
  refine renumbered_of_local (local_update position edit) (local_update position edit)
    ((compares_mirrorsAhead shift).update position fun payload other equal => ?_)
  have relabelled : payload = other.mapCheckpoint (.shifted shift) := equal
  rw [relabelled, discreet]
  exact ⟨rfl, rfl⟩

theorem renumbered_push (name : String) (value : Value) :
    Action.Lockstep (Renumbered shift settings) id
      (push name (value.mapCheckpoint (.shifted shift)))
      (push name value) :=
  renumbered_of_local (local_push name _) (local_push name value)
    ((compares_mirrorsAhead shift).push name rfl)

theorem renumbered_remove (name : String) :
    Action.Lockstep (Renumbered shift settings) id (remove name) (remove name) :=
  renumbered_of_local (local_remove name) (local_remove name)
    ((compares_mirrorsAhead shift).remove name)

/-- A look of a collector. What it has counted before makes no difference. -/
theorem renumbered_poll (collector other : Collector) :
    Action.Lockstep (Renumbered shift settings) Prod.fst collector.poll other.poll := by
  refine renumbered_of_local (local_poll collector) (local_poll other) ?_
  refine Action.lockstep_get fun left right mirrors => ?_
  rw [mirrors.sweepRequested]
  split
  · refine Action.lockstep_bind (Action.lockstep_modify fun _ _ mirrors =>
      { mirrors with sweepRequested := rfl }) fun _ _ _ => ?_
    exact Action.lockstep_bind
      (mirrors_sweep Forgetting.shallow_nothing (Forgetting.shallow_relabelling _) false)
      fun _ _ equal => Action.lockstep_pure equal
  · exact Action.lockstep_pure rfl

/-! ### Growing and shrinking the chain -/

theorem Renumbered.retains (same : left.Renumbered shift settings right) {left' right' : Store}
    (flanks : left'.Flanks shift id (Snapshot.mapCheckpoint (.shifted shift)) right')
    (retainsLeft : left.Retains left') (retainsRight : right.Retains right') :
    left'.Renumbered shift settings right' where
  flanks := flanks
  settingsLeft := retainsLeft.settings.trans same.settingsLeft
  settingsRight := retainsRight.settings.trans same.settingsRight
  sweepRequested := by
    rw [retainsLeft.sweepRequested, retainsRight.sweepRequested, same.sweepRequested]

theorem Renumbered.freeze (same : left.Renumbered shift settings right) (resume : ResumePoint) :
    (left.freeze resume).1 = (right.freeze resume).1.shifted shift ∧
      (left.freeze resume).2.Renumbered shift settings (right.freeze resume).2 := by
  obtain ⟨checkpoint, frozen⟩ := same.flanks.freeze resume
  exact ⟨checkpoint, same.retains frozen ⟨rfl, rfl⟩ ⟨rfl, rfl⟩⟩

theorem Renumbered.rollback (same : left.Renumbered shift settings right) :
    left.rollback.1 = right.rollback.1 ∧
      left.rollback.2.Renumbered shift settings right.rollback.2 := by
  obtain ⟨resume, below⟩ := same.flanks.rollback
  exact ⟨resume, same.retains below left.retains_rollback right.retains_rollback⟩

theorem renumbered_collapse (checkpoint : Checkpoint) :
    Action.Lockstep (Renumbered shift settings) id (collapse (checkpoint.shifted shift))
      (collapse checkpoint) :=
  fun _ _ same => (same.flanks.collapse checkpoint).imp fun _ _ merged =>
    same.retains merged.1 merged.2.1 merged.2.2

/-- Cleared stores differ only in how their generations are numbered. -/
theorem renumbered_clear (nextId : left.nextId = right.nextId + shift) (inOrderLeft : left.InOrder)
    (inOrderRight : right.InOrder) (settingsLeft : left.settings = settings)
    (settingsRight : right.settings = settings) :
    left.clear.Renumbered shift settings right.clear where
  flanks := flanks_clear nextId inOrderLeft inOrderRight fun _ _ => by
    rw [settingsLeft, settingsRight]
    rfl
  settingsLeft := settingsLeft
  settingsRight := settingsRight
  sweepRequested := rfl

end Store

end Rewind
