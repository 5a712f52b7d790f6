/-
This file erases from a snapshot what checkpoints say about the chain: the id and the depth of the
generation they were taken in. What remains of a checkpoint is which freeze it comes from.

No operation on cells and bindings looks at a checkpoint, so each does the same to an erased
snapshot as to the snapshot itself. Two stores that differ only in the shape of their chains can
therefore be followed in lockstep.
-/

import Mathlib
import Rewind.Proofs.Store.Locality

namespace Rewind

/-! ### Erasing -/

/-- A checkpoint reduced to the freeze it comes from. -/
def Checkpoint.erased (checkpoint : Checkpoint) : Checkpoint :=
  { id := 0, depth := 0, successor := checkpoint.successor }

/-- Changes the checkpoint that a value may be. -/
def Value.mapCheckpoint (change : Checkpoint → Checkpoint) : Value → Value
  | .checkpoint point => .checkpoint (change point)
  | value => value

/-- Changes all checkpoints in a payload. -/
def Payload.mapCheckpoint (change : Checkpoint → Checkpoint) : Payload → Payload
  | .object fields => .object (fields.map fun field => (field.1, field.2.mapCheckpoint change))
  | .list items => .list (items.map (Value.mapCheckpoint change))
  | .capture record => .capture record

/-- A value without what checkpoints say about the chain. -/
def Value.erased (value : Value) : Value := value.mapCheckpoint Checkpoint.erased

/-- A payload without what checkpoints say about the chain. -/
def Payload.erased (payload : Payload) : Payload := payload.mapCheckpoint Checkpoint.erased

/-- Changes all checkpoints in a cell. -/
def Cell.mapCheckpoint (change : Checkpoint → Checkpoint) (cell : Cell) : Cell :=
  match cell.slot with
  | .used payload count => { cell with slot := .used (payload.mapCheckpoint change) count }
  | .free _ => cell

/-- A cell without what checkpoints say about the chain. -/
def Cell.erased (cell : Cell) : Cell := cell.mapCheckpoint Checkpoint.erased

/-- Changes all checkpoints in some bindings. -/
def Bindings.mapCheckpoint (change : Checkpoint → Checkpoint) (bindings : Bindings) : Bindings :=
  bindings.map fun binding => (binding.1, binding.2.mapCheckpoint change)

/-- Bindings without what checkpoints say about the chain. -/
def Bindings.erased (bindings : Bindings) : Bindings :=
  bindings.map fun binding => (binding.1, binding.2.erased)

/-- Changes all checkpoints in a level. -/
def Level.mapCheckpoint (change : Checkpoint → Checkpoint) (level : Level) : Level :=
  { level with bindings := level.bindings.mapCheckpoint change }

/-- Changes all checkpoints in a snapshot. -/
def Snapshot.mapCheckpoint (change : Checkpoint → Checkpoint) (snapshot : Snapshot) : Snapshot where
  cell? position := (snapshot.cell? position).map (Cell.mapCheckpoint change)
  level? index := (snapshot.level? index).map (Level.mapCheckpoint change)
  counters := snapshot.counters

/-- A snapshot without what checkpoints say about the chain. -/
def Snapshot.erased (snapshot : Snapshot) : Snapshot := snapshot.mapCheckpoint Checkpoint.erased

variable (relabel : Checkpoint → Checkpoint)

@[simp] theorem Value.reference?_mapCheckpoint (value : Value) :
    (value.mapCheckpoint relabel).reference? = value.reference? := by cases value <;> rfl

@[simp] theorem Payload.references_mapCheckpoint (payload : Payload) :
    (payload.mapCheckpoint relabel).references = payload.references := by
  cases payload with
  | object fields =>
    simp only [mapCheckpoint, references, List.filterMap_map]
    exact congrArg (fields.filterMap ·)
      (funext fun field => field.2.reference?_mapCheckpoint relabel)
  | list items =>
    simp only [mapCheckpoint, references, List.filterMap_map]
    exact congrArg (items.filterMap ·) (funext (Value.reference?_mapCheckpoint relabel))
  | capture record => rfl

theorem Value.mapCheckpoint_id : Value.mapCheckpoint id = id := by
  funext value
  cases value <;> rfl

theorem Payload.mapCheckpoint_id : Payload.mapCheckpoint id = id := by
  funext payload
  cases payload with
  | object fields =>
    simp only [mapCheckpoint, Value.mapCheckpoint_id]
    exact congrArg Payload.object (List.map_id fields)
  | list items =>
    simp only [mapCheckpoint, Value.mapCheckpoint_id]
    exact congrArg Payload.list (List.map_id items)
  | capture record => rfl

/-! ### Cells -/

namespace Cell

@[simp] theorem isFree_mapCheckpoint (cell : Cell) :
    (cell.mapCheckpoint relabel).isFree = cell.isFree := by
  obtain ⟨position, slot⟩ := cell
  cases slot <;> rfl

@[simp] theorem count_mapCheckpoint (cell : Cell) :
    (cell.mapCheckpoint relabel).count = cell.count := by
  obtain ⟨position, slot⟩ := cell
  cases slot <;> rfl

theorem payload_mapCheckpoint (cell : Cell) :
    (cell.mapCheckpoint relabel).payload = cell.payload.map (Payload.mapCheckpoint relabel) := by
  obtain ⟨position, slot⟩ := cell
  cases slot <;> rfl

theorem increase_mapCheckpoint (cell : Cell) :
    (cell.mapCheckpoint relabel).increase = cell.increase.map (mapCheckpoint relabel) := by
  obtain ⟨position, slot⟩ := cell
  cases slot <;> rfl

theorem decrease_mapCheckpoint (cell : Cell) :
    (cell.mapCheckpoint relabel).decrease = cell.decrease.map (mapCheckpoint relabel) := by
  obtain ⟨position, slot⟩ := cell
  cases slot with
  | free next => rfl
  | used payload count => cases count <;> rfl

end Cell

/-! ### Operations do not look at checkpoints -/

/-- The outcome of an action, with its value and the state it reached mapped. -/
def Action.mapOutcome {ε σ τ α β : Type} (onValue : α → β) (onState : σ → τ) :
    EStateM.Result ε σ α → EStateM.Result ε τ β
  | .ok value state => .ok (onValue value) (onState state)
  | .error error state => .error error (onState state)

/-- An operation does to a snapshot what another one does to it once something is forgotten. -/
def Snapshot.Blind {α β : Type} (forget : Snapshot → Snapshot) (onValue : α → β)
    (flat : SnapshotM α) (forgetting : SnapshotM β) : Prop :=
  ∀ snapshot : Snapshot,
    forgetting (forget snapshot) = Action.mapOutcome onValue forget (flat snapshot)

namespace Snapshot

@[simp] theorem mapCheckpoint_cell? (snapshot : Snapshot) (position : Nat) :
    (snapshot.mapCheckpoint relabel).cell? position =
      (snapshot.cell? position).map (Cell.mapCheckpoint relabel) := rfl

@[simp] theorem mapCheckpoint_level? (snapshot : Snapshot) (index : Nat) :
    (snapshot.mapCheckpoint relabel).level? index =
      (snapshot.level? index).map (Level.mapCheckpoint relabel) := rfl

@[simp] theorem mapCheckpoint_counters (snapshot : Snapshot) :
    (snapshot.mapCheckpoint relabel).counters = snapshot.counters := rfl

theorem mapCheckpoint_putCell (position : Nat) (cell : Cell) (snapshot : Snapshot) :
    (snapshot.putCell position cell).mapCheckpoint relabel =
      (snapshot.mapCheckpoint relabel).putCell position (cell.mapCheckpoint relabel) := by
  refine Snapshot.ext (funext fun other => ?_) rfl rfl
  simp only [putCell, mapCheckpoint, Function.update_apply]
  split <;> rfl

theorem mapCheckpoint_putLevel (index : Nat) (level : Level) (snapshot : Snapshot) :
    (snapshot.putLevel index level).mapCheckpoint relabel =
      (snapshot.mapCheckpoint relabel).putLevel index (level.mapCheckpoint relabel) := by
  refine Snapshot.ext rfl (funext fun other => ?_) rfl
  simp only [putLevel, mapCheckpoint, Function.update_apply]
  split <;> rfl

theorem mapCheckpoint_mapCounters (change : Counters → Counters) (snapshot : Snapshot) :
    (snapshot.mapCounters change).mapCheckpoint relabel =
      (snapshot.mapCheckpoint relabel).mapCounters change := rfl

theorem blind_look (position : Nat) :
    Blind (mapCheckpoint relabel) (Cell.mapCheckpoint relabel) (look position) (look position) := by
  intro snapshot
  unfold look
  rw [mapCheckpoint_cell?]
  cases snapshot.cell? position <;> rfl

theorem blind_change (position : Nat) {edit : Cell → Except StoreError Cell}
    (blind : ∀ cell : Cell, edit (cell.mapCheckpoint relabel) =
      (edit cell).map (Cell.mapCheckpoint relabel)) :
    Blind (mapCheckpoint relabel) (Cell.mapCheckpoint relabel) (change position edit)
      (change position edit) := by
  intro snapshot
  unfold change
  rw [mapCheckpoint_cell?]
  cases snapshot.cell? position with
  | none => rfl
  | some cell =>
    simp only [Option.map_some, blind]
    cases edit cell with
    | error error => rfl
    | ok changed =>
      simp only [Except.map]
      rw [← mapCheckpoint_putCell]
      rfl

theorem blind_overwrite (position : Nat) (payload : Payload) :
    Blind (mapCheckpoint relabel) (Payload.mapCheckpoint relabel) (overwrite position payload)
      (overwrite position (payload.mapCheckpoint relabel)) := by
  intro snapshot
  unfold overwrite
  rw [mapCheckpoint_cell?]
  rcases snapshot.cell? position with - | ⟨own, payload | next⟩
  · rfl
  · refine congrArg (EStateM.Result.ok _) ?_
    rw [mapCheckpoint_putCell]
    rfl
  · rfl

theorem blind_alloc (payload : Payload) :
    Blind (mapCheckpoint relabel) id (alloc payload) (alloc (payload.mapCheckpoint relabel)) := by
  intro snapshot
  unfold alloc
  rw [mapCheckpoint_counters]
  cases snapshot.counters.freeHead with
  | none =>
    refine congrArg (EStateM.Result.ok _) ?_
    unfold grow
    rw [mapCheckpoint_mapCounters, mapCheckpoint_putCell]
    rfl
  | some position =>
    simp only [mapCheckpoint_cell?]
    rcases snapshot.cell? position with - | ⟨own, old | next⟩
    · rfl
    · rfl
    · refine congrArg (EStateM.Result.ok _) ?_
      rw [mapCheckpoint_mapCounters, mapCheckpoint_putCell]
      rfl

theorem blind_free (sweeping : Bool) (position : Nat) :
    Blind (mapCheckpoint relabel) (Option.map (Payload.mapCheckpoint relabel))
      (free sweeping position) (free sweeping position) := by
  intro snapshot
  unfold free
  rw [mapCheckpoint_cell?]
  rcases snapshot.cell? position with - | ⟨own, ⟨payload, count⟩ | next⟩
  · rfl
  · simp only [Option.map_some, Cell.mapCheckpoint, mapCheckpoint_counters]
    split
    · rfl
    · cases snapshot.counters.usedCells with
      | zero => rfl
      | succ used =>
        refine congrArg (EStateM.Result.ok _) ?_
        rw [mapCheckpoint_mapCounters, mapCheckpoint_putCell]
        rfl
  · simp only [Option.map_some, Cell.mapCheckpoint]
    split <;> rfl

end Snapshot

/-! ### Bindings -/

namespace Level

theorem get?_mapCheckpoint (level : Level) (name : String) :
    (level.mapCheckpoint relabel).get? name =
      (level.get? name).map (Value.mapCheckpoint relabel) := by
  unfold get? mapCheckpoint Bindings.mapCheckpoint
  induction level.bindings with
  | nil => rfl
  | cons binding bindings inductionHypothesis =>
    obtain ⟨bound, value⟩ := binding
    rw [List.map_cons, List.lookup_cons, List.lookup_cons]
    cases name == bound with
    | true => rfl
    | false => exact inductionHypothesis

@[simp] theorem contains_mapCheckpoint (level : Level) (name : String) :
    (level.mapCheckpoint relabel).contains name = level.contains name := by
  rw [contains, contains, get?_mapCheckpoint, Option.isSome_map]

@[simp] theorem isEmpty_mapCheckpoint (level : Level) :
    (level.mapCheckpoint relabel).isEmpty = level.isEmpty := by
  simp only [isEmpty, mapCheckpoint, Bindings.mapCheckpoint, List.isEmpty_map]

theorem insert_mapCheckpoint (level : Level) (name : String) (value : Value) :
    (level.mapCheckpoint relabel).insert name (value.mapCheckpoint relabel) =
      (level.insert name value).map (mapCheckpoint relabel) := by
  unfold insert
  rw [contains_mapCheckpoint]
  split
  · rfl
  · simp only [Except.map, mapCheckpoint, Bindings.mapCheckpoint, List.map_append]
    rfl

theorem set_mapCheckpoint (level : Level) (name : String) (value : Value) :
    (level.mapCheckpoint relabel).set name (value.mapCheckpoint relabel) =
      (level.set name value).mapCheckpoint relabel := by
  simp only [set, mapCheckpoint, Bindings.mapCheckpoint, List.map_map, mk.injEq, true_and]
  refine congrArg (List.map · level.bindings) (funext fun binding => ?_)
  simp only [Function.comp_apply]
  split <;> rfl

theorem erase_mapCheckpoint (level : Level) (name : String) :
    (level.mapCheckpoint relabel).erase name = (level.erase name).mapCheckpoint relabel := by
  simp only [erase, mapCheckpoint, Bindings.mapCheckpoint, List.filter_map, mk.injEq, true_and]
  rfl

end Level

namespace Snapshot

theorem bindings_mapCheckpoint (snapshot : Snapshot) :
    (snapshot.mapCheckpoint relabel).bindings = (snapshot.bindings.mapCheckpoint relabel) := by
  unfold bindings Bindings.mapCheckpoint
  rw [List.map_flatMap]
  refine congrArg (List.flatMap · _) (funext fun index => ?_)
  rw [mapCheckpoint_level?]
  cases snapshot.level? index <;> rfl

theorem getBelow?_mapCheckpoint (snapshot : Snapshot) (name : String) (count : Nat) :
    (snapshot.mapCheckpoint relabel).getBelow? name count =
      (snapshot.getBelow? name count).map (Value.mapCheckpoint relabel) := by
  induction count with
  | zero => rfl
  | succ index inductionHypothesis =>
    rw [getBelow?, getBelow?, mapCheckpoint_level?, inductionHypothesis]
    cases snapshot.level? index with
    | none => rfl
    | some level =>
      simp only [Option.map_some, Option.bind_some, Level.get?_mapCheckpoint]
      cases level.get? name <;> rfl

theorem levelOfBelow?_mapCheckpoint (snapshot : Snapshot) (name : String) (count : Nat) :
    (snapshot.mapCheckpoint relabel).levelOfBelow? name count =
      snapshot.levelOfBelow? name count := by
  induction count with
  | zero => rfl
  | succ index inductionHypothesis =>
    rw [levelOfBelow?, levelOfBelow?, mapCheckpoint_level?, inductionHypothesis]
    cases snapshot.level? index with
    | none => rfl
    | some level => simp only [Option.map_some, Level.contains_mapCheckpoint]

theorem needsLevel_mapCheckpoint (snapshot : Snapshot) (name : String) :
    (snapshot.mapCheckpoint relabel).needsLevel name = snapshot.needsLevel name := by
  unfold needsLevel
  rw [mapCheckpoint_counters]
  cases snapshot.counters.levelCount with
  | zero => rfl
  | succ top =>
    simp only [mapCheckpoint_level?]
    cases snapshot.level? top with
    | none => rfl
    | some level => simp only [Option.map_some, Level.contains_mapCheckpoint]

theorem makeRoom_mapCheckpoint (snapshot : Snapshot) (name : String) :
    (snapshot.mapCheckpoint relabel).makeRoom name =
      (snapshot.makeRoom name).mapCheckpoint relabel := by
  unfold makeRoom
  rw [needsLevel_mapCheckpoint]
  split
  · unfold openLevel
    rw [mapCheckpoint_mapCounters, mapCheckpoint_putLevel]
    rfl
  · rfl

theorem blind_push (name : String) (value : Value) :
    Blind (mapCheckpoint relabel) id (push name value) (push name (value.mapCheckpoint relabel)) :=
      by
  intro snapshot
  unfold push
  simp only [makeRoom_mapCheckpoint, mapCheckpoint_counters, mapCheckpoint_level?]
  generalize snapshot.makeRoom name = roomy
  cases roomy.level? (roomy.counters.levelCount - 1) with
  | none => rfl
  | some level =>
    simp only [Option.map_some, Level.insert_mapCheckpoint]
    cases level.insert name value with
    | error defect => rfl
    | ok extended =>
      refine congrArg (EStateM.Result.ok _) ?_
      rw [mapCheckpoint_mapCounters, mapCheckpoint_putLevel]

theorem cut_mapCheckpoint (snapshot : Snapshot) (top : Nat) :
    (snapshot.mapCheckpoint relabel).cut top = (snapshot.cut top).mapCheckpoint relabel := by
  refine Snapshot.ext rfl (funext fun index => ?_) rfl
  simp only [cut, mapCheckpoint]
  split <;> rfl

theorem dropEmptyLevels_mapCheckpoint (snapshot : Snapshot) (count : Nat) :
    (snapshot.mapCheckpoint relabel).dropEmptyLevels count =
      (snapshot.dropEmptyLevels count).mapCheckpoint relabel := by
  induction count generalizing snapshot with
  | zero => rfl
  | succ top inductionHypothesis =>
    have empty : ((snapshot.level? top).map (Level.mapCheckpoint relabel)).all Level.isEmpty =
        (snapshot.level? top).all Level.isEmpty := by
      cases snapshot.level? top with
      | none => rfl
      | some level => simp only [Option.map_some, Option.all_some, Level.isEmpty_mapCheckpoint]
    rw [dropEmptyLevels, dropEmptyLevels, mapCheckpoint_level?, empty]
    split
    · rw [cut_mapCheckpoint, inductionHypothesis]
    · rfl

theorem blind_binding (name : String) :
    Blind (mapCheckpoint relabel)
      (fun found => (found.1, found.2.1.mapCheckpoint relabel, found.2.2.mapCheckpoint relabel))
      (binding name)
      (binding name) := by
  intro snapshot
  unfold binding
  rw [levelOfBelow?_mapCheckpoint, mapCheckpoint_counters]
  cases snapshot.levelOfBelow? name snapshot.counters.levelCount with
  | none => rfl
  | some index =>
    simp only [mapCheckpoint_level?]
    cases snapshot.level? index with
    | none => rfl
    | some level =>
      simp only [Option.map_some, Level.get?_mapCheckpoint]
      cases level.get? name <;> rfl

theorem unbind_mapCheckpoint (snapshot : Snapshot) (name : String) (index : Nat) (level : Level) :
    (snapshot.mapCheckpoint relabel).unbind name index (level.mapCheckpoint relabel) =
      (snapshot.unbind name index level).mapCheckpoint relabel := by
  unfold unbind
  rw [← dropEmptyLevels_mapCheckpoint, mapCheckpoint_mapCounters, mapCheckpoint_putLevel,
    Level.erase_mapCheckpoint]
  rfl

theorem blind_bind {α β γ δ : Type} {forget : Snapshot → Snapshot} {onFirst : α → β}
    {onSecond : γ → δ} {flat : SnapshotM α} {forgetting : SnapshotM β} {next : α → SnapshotM γ}
    {forgettingNext : β → SnapshotM δ} (first : Blind forget onFirst flat forgetting)
    (second : ∀ value, Blind forget onSecond (next value) (forgettingNext (onFirst value))) :
    Blind forget onSecond (flat >>= next) (forgetting >>= forgettingNext) := by
  intro snapshot
  have same := first snapshot
  cases ran : flat snapshot with
  | error fault reached =>
    rw [ran] at same
    rw [Action.bind_of_error ran, Action.bind_of_error same]
    rfl
  | ok value reached =>
    rw [ran] at same
    rw [Action.bind_of_ok ran, Action.bind_of_ok same]
    exact second value reached

theorem blind_remove (name : String) :
    Blind (mapCheckpoint relabel) (Value.mapCheckpoint relabel) (remove name) (remove name) := by
  refine blind_bind (blind_binding relabel name) fun found snapshot => ?_
  exact congrArg (EStateM.Result.ok _)
    (unbind_mapCheckpoint relabel snapshot name found.1 found.2.1)

theorem blind_replace (name : String) (value : Value) :
    Blind (mapCheckpoint relabel) (Value.mapCheckpoint relabel) (replace name value)
      (replace name (value.mapCheckpoint relabel)) := by
  refine blind_bind (blind_binding relabel name) fun found snapshot => ?_
  refine congrArg (EStateM.Result.ok _) ?_
  rw [mapCheckpoint_putLevel, ← Level.set_mapCheckpoint]

end Snapshot

end Rewind
