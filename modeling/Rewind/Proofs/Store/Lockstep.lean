/-
This file runs accesses on two stores in lockstep. Two chains correspond if the same is seen from
their tails once something that no operation goes by has been left out on either side. What that is,
is left open: most operations only have to be blind to it, and an access as a whole also has to find
the same counters.

Every access, performed on two stores that resemble each other, gives the same answer or the same
fault, up to what is left out, and the stores go on resembling each other. On both sides what
checkpoints say about the chain is left out, or nothing is; but the checkpoints of one side may also
be relabelled to be those of the other.
-/

import Mathlib
import Rewind.Proofs.Store.Erasure
import Rewind.Proofs.Store.Operations

namespace Rewind

/-! ### Actions in lockstep -/

namespace Action

variable {ε σ α β γ δ : Type}

/-- Two outcomes concur: the same fault, or values that are the same once each side has forgotten
something, and alike states. -/
inductive Concur (alike : σ → σ → Prop) (onLeft onRight : α → β) :
    EStateM.Result ε σ α → EStateM.Result ε σ α → Prop
  | ok {value other : α} {left right : σ} (same : onLeft value = onRight other)
    (reached : alike left right) : Concur alike onLeft onRight (.ok value left) (.ok other right)
  | error {fault : ε} {left right : σ} (reached : alike left right) :
    Concur alike onLeft onRight (.error fault left) (.error fault right)

/-- Two outcomes agree: the same fault or the same value, up to what a map forgets, and alike
states. -/
abbrev Agree (alike : σ → σ → Prop) (onValue : α → β) :
    EStateM.Result ε σ α → EStateM.Result ε σ α → Prop :=
  Concur alike onValue onValue

/-- Two actions concur on alike states. -/
def Tandem (alike : σ → σ → Prop) (onLeft onRight : α → β) (action other : EStateM ε σ α) : Prop :=
  ∀ left right, alike left right → Concur alike onLeft onRight (action left) (other right)

/-- Two actions agree on alike states. -/
abbrev Lockstep (alike : σ → σ → Prop) (onValue : α → β) (action other : EStateM ε σ α) : Prop :=
  Tandem alike onValue onValue action other

variable {alike : σ → σ → Prop} {onLeft onRight : α → β}

theorem Concur.imp {other : σ → σ → Prop} {outcome outcome' : EStateM.Result ε σ α}
    (concur : Concur alike onLeft onRight outcome outcome')
    (implies : ∀ left right, alike left right → other left right) :
    Concur other onLeft onRight outcome outcome' := by
  cases concur with
  | ok same reached => exact .ok same (implies _ _ reached)
  | error reached => exact .error (implies _ _ reached)

theorem lockstep_pure {value other : α} (same : onLeft value = onRight other) :
    Tandem alike onLeft onRight (pure value : EStateM ε σ α) (pure other) :=
  fun _ _ reached => .ok same reached

theorem lockstep_bind {onResult onOther : γ → δ} {action other : EStateM ε σ α}
    {next otherNext : α → EStateM ε σ γ} (first : Tandem alike onLeft onRight action other)
    (second : ∀ value value', onLeft value = onRight value' →
      Tandem alike onResult onOther (next value) (otherNext value')) :
    Tandem alike onResult onOther (action >>= next) (other >>= otherNext) := by
  intro left right reached
  have concur := first left right reached
  generalize ranLeft : action left = outcome at concur
  generalize ranRight : other right = outcome' at concur
  cases concur with
  | error still =>
    rw [bind_of_error ranLeft, bind_of_error ranRight]
    exact .error still
  | ok same still =>
    rw [bind_of_ok ranLeft, bind_of_ok ranRight]
    exact second _ _ same _ _ still

theorem lockstep_get {next other : σ → EStateM ε σ α}
    (each : ∀ left right, alike left right →
      Tandem alike onLeft onRight (next left) (other right)) :
    Tandem alike onLeft onRight (get >>= next) (get >>= other) :=
  fun left right reached => each left right reached left right reached

theorem lockstep_throw (error : ε) :
    Tandem alike onLeft onRight (throw error : EStateM ε σ α) (throw error) :=
  fun _ _ reached => .error reached

theorem lockstep_modify {change : σ → σ}
    (keeps : ∀ left right, alike left right → alike (change left) (change right)) :
    Lockstep alike id (modify change : EStateM ε σ PUnit) (modify change) :=
  fun left right reached => .ok rfl (keeps left right reached)

theorem lockstep_modifyGet {change : σ → α × σ}
    (keeps : ∀ left right, alike left right →
      onLeft (change left).1 = onRight (change right).1 ∧ alike (change left).2 (change right).2) :
    Tandem alike onLeft onRight (modifyGet change : EStateM ε σ α) (modifyGet change) :=
  fun left right reached => .ok (keeps left right reached).1 (keeps left right reached).2

theorem lockstep_forM {items : List γ} {action other : γ → EStateM ε σ PUnit}
    (each : ∀ item, Lockstep alike id (action item) (other item)) :
    Lockstep alike id (items.forM action) (items.forM other) := by
  induction items with
  | nil => exact lockstep_pure rfl
  | cons item items inductionHypothesis =>
    exact lockstep_bind (each item) fun _ _ _ => inductionHypothesis

end Action

/-! ### Comparing up to something -/

/-- What a comparison of snapshots leaves out, and what of the cells, payloads and values in
them. -/
structure Forgetting where
  onSnapshot : Snapshot → Snapshot
  onCell : Cell → Cell
  onPayload : Payload → Payload
  onValue : Value → Value

/-- No operation goes by what is left out. -/
structure Forgetting.Lawful (forgetting : Forgetting) : Prop where
  count : ∀ cell, (forgetting.onCell cell).count = cell.count
  isFree : ∀ cell, (forgetting.onCell cell).isFree = cell.isFree
  payload : ∀ cell, (forgetting.onCell cell).payload = cell.payload.map forgetting.onPayload
  increase : ∀ cell, (forgetting.onCell cell).increase = cell.increase.map forgetting.onCell
  decrease : ∀ cell, (forgetting.onCell cell).decrease = cell.decrease.map forgetting.onCell
  references : ∀ payload, (forgetting.onPayload payload).references = payload.references
  reference? : ∀ value, (forgetting.onValue value).reference? = value.reference?
  look : ∀ position, Snapshot.Blind forgetting.onSnapshot forgetting.onCell
    (Snapshot.look position) (Snapshot.look position)
  change : ∀ position {edit : Cell → Except StoreError Cell},
    (∀ cell, edit (forgetting.onCell cell) = (edit cell).map forgetting.onCell) →
      Snapshot.Blind forgetting.onSnapshot forgetting.onCell (Snapshot.change position edit)
        (Snapshot.change position edit)
  overwrite : ∀ position payload, Snapshot.Blind forgetting.onSnapshot forgetting.onPayload
    (Snapshot.overwrite position payload)
    (Snapshot.overwrite position (forgetting.onPayload payload))
  free : ∀ sweeping position, Snapshot.Blind forgetting.onSnapshot
    (Option.map forgetting.onPayload) (Snapshot.free sweeping position)
    (Snapshot.free sweeping position)
  push : ∀ name value, Snapshot.Blind forgetting.onSnapshot id (Snapshot.push name value)
    (Snapshot.push name (forgetting.onValue value))
  remove : ∀ name, Snapshot.Blind forgetting.onSnapshot forgetting.onValue (Snapshot.remove name)
    (Snapshot.remove name)

/-- Only something of the payloads and values is left out: the counters are seen, and the heap and
the stack are laid out in the same way. -/
structure Forgetting.Shallow (forgetting : Forgetting) : Prop extends forgetting.Lawful where
  counters : ∀ snapshot, (forgetting.onSnapshot snapshot).counters = snapshot.counters
  mapCounters : ∀ change snapshot, forgetting.onSnapshot (snapshot.mapCounters change) =
    (forgetting.onSnapshot snapshot).mapCounters change
  cell? : ∀ snapshot position, (forgetting.onSnapshot snapshot).cell? position =
    (snapshot.cell? position).map forgetting.onCell
  bindings : ∀ snapshot, (forgetting.onSnapshot snapshot).bindings =
    snapshot.bindings.map fun binding => (binding.1, forgetting.onValue binding.2)
  getBelow? : ∀ snapshot name count, (forgetting.onSnapshot snapshot).getBelow? name count =
    (snapshot.getBelow? name count).map forgetting.onValue
  alloc : ∀ payload, Snapshot.Blind forgetting.onSnapshot id (Snapshot.alloc payload)
    (Snapshot.alloc (forgetting.onPayload payload))
  replace : ∀ name value, Snapshot.Blind forgetting.onSnapshot forgetting.onValue
    (Snapshot.replace name value) (Snapshot.replace name (forgetting.onValue value))

namespace Forgetting

/-- Changes all checkpoints. -/
def relabelling (relabel : Checkpoint → Checkpoint) : Forgetting :=
  ⟨Snapshot.mapCheckpoint relabel, Cell.mapCheckpoint relabel, Payload.mapCheckpoint relabel,
    Value.mapCheckpoint relabel⟩

theorem shallow_relabelling (relabel : Checkpoint → Checkpoint) :
    (relabelling relabel).Shallow where
  count := Cell.count_mapCheckpoint relabel
  isFree := Cell.isFree_mapCheckpoint relabel
  payload := Cell.payload_mapCheckpoint relabel
  increase := Cell.increase_mapCheckpoint relabel
  decrease := Cell.decrease_mapCheckpoint relabel
  references := Payload.references_mapCheckpoint relabel
  reference? := Value.reference?_mapCheckpoint relabel
  look := Snapshot.blind_look relabel
  change position := Snapshot.blind_change relabel position
  overwrite := Snapshot.blind_overwrite relabel
  free := Snapshot.blind_free relabel
  push := Snapshot.blind_push relabel
  remove := Snapshot.blind_remove relabel
  counters _ := rfl
  mapCounters _ _ := rfl
  cell? _ _ := rfl
  bindings := Snapshot.bindings_mapCheckpoint relabel
  getBelow? := Snapshot.getBelow?_mapCheckpoint relabel
  alloc := Snapshot.blind_alloc relabel
  replace := Snapshot.blind_replace relabel

/-- Leaves out what checkpoints say about the chain. -/
def erasure : Forgetting := ⟨Snapshot.erased, Cell.erased, Payload.erased, Value.erased⟩

theorem shallow_erasure : erasure.Shallow := shallow_relabelling Checkpoint.erased

/-- Leaves out nothing. -/
def nothing : Forgetting := ⟨id, id, id, id⟩

theorem blind_nothing {α : Type} {onValue : α → α} (same : onValue = id) (flat : SnapshotM α) :
    Snapshot.Blind nothing.onSnapshot onValue flat flat := by
  intro snapshot
  subst same
  change flat snapshot = Action.mapOutcome id id (flat snapshot)
  cases flat snapshot <;> rfl

theorem shallow_nothing : nothing.Shallow where
  count _ := rfl
  isFree _ := rfl
  payload cell := (id_map cell.payload).symm
  increase cell := (id_map cell.increase).symm
  decrease cell := (id_map cell.decrease).symm
  references _ := rfl
  reference? _ := rfl
  look position := blind_nothing rfl (Snapshot.look position)
  change position edit _ := blind_nothing rfl (Snapshot.change position edit)
  overwrite position payload := blind_nothing rfl (Snapshot.overwrite position payload)
  free sweeping position := blind_nothing Option.map_id (Snapshot.free sweeping position)
  push name value := blind_nothing rfl (Snapshot.push name value)
  remove name := blind_nothing rfl (Snapshot.remove name)
  counters _ := rfl
  mapCounters _ _ := rfl
  cell? _ _ := (Option.map_id_apply).symm
  bindings snapshot := (List.map_id snapshot.bindings).symm
  getBelow? _ _ _ := (Option.map_id_apply).symm
  alloc payload := blind_nothing rfl (Snapshot.alloc payload)
  replace name value := blind_nothing rfl (Snapshot.replace name value)

end Forgetting

/-! ### Chains in lockstep -/

/-- The same is seen from two chains, once something has been left out of what is seen from
either. -/
structure Chain.Corresponds (forgetting twin : Forgetting) (left right : Chain) : Prop where
  seen : forgetting.onSnapshot left.snapshot = twin.onSnapshot right.snapshot
  wipedLeft : left.pools.Wiped
  wipedRight : right.pools.Wiped

/-- The same is seen from two chains, up to something. -/
abbrev Chain.Alike (forgetting : Forgetting) (left right : Chain) : Prop :=
  left.Corresponds forgetting forgetting right

namespace Chain

section

variable {forgetting twin : Forgetting}

/-- What is done to snapshots once something is forgotten is done to chains in lockstep. -/
theorem lockstep_of_follows {α β : Type} {onLeft onRight : α → β} {action other : ChainM α}
    {flat otherFlat : SnapshotM α} {blinded : SnapshotM β} (follows : Follows action flat)
    (otherFollows : Follows other otherFlat)
    (blind : Snapshot.Blind forgetting.onSnapshot onLeft flat blinded)
    (otherBlind : Snapshot.Blind twin.onSnapshot onRight otherFlat blinded) :
    Action.Tandem (Corresponds forgetting twin) onLeft onRight action other := by
  intro left right alike
  have shows := follows left alike.wipedLeft
  have otherShows := otherFollows right alike.wipedRight
  have same : Action.mapOutcome onLeft forgetting.onSnapshot (flat left.snapshot) =
      Action.mapOutcome onRight twin.onSnapshot (otherFlat right.snapshot) := by
    rw [← blind, ← otherBlind, alike.seen]
  generalize action left = outcome at shows
  generalize flat left.snapshot = shown at shows same
  generalize other right = outcome' at otherShows
  generalize otherFlat right.snapshot = shown' at otherShows same
  cases shows with
  | ok keeps =>
    cases otherShows with
    | ok otherKeeps =>
      simp only [Action.mapOutcome, EStateM.Result.ok.injEq] at same
      exact .ok same.1
        ⟨same.2, keeps.wiped alike.wipedLeft, otherKeeps.wiped alike.wipedRight⟩
    | error otherKeeps => cases same
  | error keeps =>
    cases otherShows with
    | ok otherKeeps => cases same
    | error otherKeeps =>
      simp only [Action.mapOutcome, EStateM.Result.error.injEq] at same
      obtain ⟨rfl, seen⟩ := same
      exact .error ⟨seen, keeps.wiped alike.wipedLeft, otherKeeps.wiped alike.wipedRight⟩

theorem lockstep_ofExcept {α β : Type} {onLeft onRight : α → β} {answer other : Except StoreError α}
    (same : answer.map onLeft = other.map onRight) :
    Action.Tandem (Corresponds forgetting twin) onLeft onRight (ChainM.ofExcept answer)
      (ChainM.ofExcept other) := by
  intro left right alike
  cases answer with
  | error error =>
    cases other with
    | error otherError =>
      cases same
      exact .error alike
    | ok value => cases same
  | ok value =>
    cases other with
    | error otherError => cases same
    | ok otherValue => exact .ok (Except.ok.inj same) alike

variable (lawful : forgetting.Lawful) (twinLawful : twin.Lawful)
include lawful twinLawful

theorem lockstep_peek (position : Nat) :
    Action.Tandem (Corresponds forgetting twin) forgetting.onCell twin.onCell (peek position)
      (peek position) :=
  lockstep_of_follows (follows_peek position) (follows_peek position) (lawful.look position)
    (twinLawful.look position)

theorem lockstep_change (position : Nat) {edit : Cell → Except StoreError Cell}
    (blind : ∀ cell, edit (forgetting.onCell cell) = (edit cell).map forgetting.onCell)
    (twinBlind : ∀ cell, edit (twin.onCell cell) = (edit cell).map twin.onCell) :
    Action.Tandem (Corresponds forgetting twin) forgetting.onCell twin.onCell (change position edit)
      (change position edit) :=
  lockstep_of_follows (follows_change position edit) (follows_change position edit)
    (lawful.change position blind) (twinLawful.change position twinBlind)

theorem lockstep_free (sweeping : Bool) (position : Nat) :
    Action.Tandem (Corresponds forgetting twin) (Option.map forgetting.onPayload)
      (Option.map twin.onPayload) (free sweeping position) (free sweeping position) :=
  lockstep_of_follows (follows_free sweeping position) (follows_free sweeping position)
    (lawful.free sweeping position) (twinLawful.free sweeping position)

theorem lockstep_retain (position : Nat) :
    Action.Lockstep (Corresponds forgetting twin) id (retain position) (retain position) :=
  Action.lockstep_bind
    (lockstep_change lawful twinLawful position lawful.increase twinLawful.increase) fun _ _ _ =>
      Action.lockstep_pure rfl

theorem lockstep_drop (sweeping : Bool) (position : Nat) :
    Action.Tandem (Corresponds forgetting twin) (Option.map forgetting.onPayload)
      (Option.map twin.onPayload) (drop sweeping position) (drop sweeping position) := by
  refine Action.lockstep_bind
    (lockstep_change lawful twinLawful position lawful.decrease twinLawful.decrease)
    fun cell other same => ?_
  rw [← lawful.count cell, same, twinLawful.count other]
  split
  · exact Action.lockstep_pure rfl
  · exact lockstep_free lawful twinLawful sweeping position

theorem lockstep_releaseOne (sweeping : Bool) (position : Nat) :
    Action.Tandem (Corresponds forgetting twin) (Option.map forgetting.onPayload)
      (Option.map twin.onPayload) (releaseOne sweeping position)
        (releaseOne sweeping position) := by
  unfold releaseOne
  split
  · refine Action.lockstep_bind (lockstep_peek lawful twinLawful position) fun cell other same => ?_
    rw [← lawful.isFree cell, same, twinLawful.isFree other]
    split
    · exact Action.lockstep_pure rfl
    · exact lockstep_drop lawful twinLawful sweeping position
  · exact lockstep_drop lawful twinLawful sweeping position

/-- The worklists stay the same, for they hold only positions. -/
theorem lockstep_releaseAll (sweeping : Bool) (pending : List Nat) :
    Action.Lockstep (Corresponds forgetting twin) id (releaseAll sweeping pending)
      (releaseAll sweeping pending) := by
  intro left right alike
  fun_induction releaseAll sweeping pending left generalizing right with
  | case1 left =>
    rw [releaseAll]
    exact .ok rfl alike
  | case2 left position rest fault reached failed =>
    have agree := lockstep_releaseOne lawful twinLawful sweeping position left right alike
    rw [failed] at agree
    generalize ran : releaseOne sweeping position right = outcome at agree
    cases agree with
    | error still =>
      rw [releaseAll_of_error ran]
      exact .error still
  | case3 left position rest freed reached released inductionHypothesis =>
    have agree := lockstep_releaseOne lawful twinLawful sweeping position left right alike
    rw [released] at agree
    generalize ran : releaseOne sweeping position right = outcome at agree
    cases agree with
    | @ok _ other _ _ same still =>
      have references : other.elim [] Payload.references = freed.elim [] Payload.references := by
        cases freed with
        | none => rw [Option.map_eq_none_iff.mp same.symm]
        | some payload =>
          obtain ⟨otherPayload, rfl, equal⟩ := Option.map_eq_some_iff.mp same.symm
          exact ((twinLawful.references otherPayload).symm.trans
            (congrArg Payload.references equal)).trans (lawful.references payload)
      rw [releaseAll_of_ok ran, references]
      exact inductionHypothesis _ still

theorem lockstep_freeAndRelease (sweeping : Bool) (position : Nat) :
    Action.Lockstep (Corresponds forgetting twin) id (freeAndRelease sweeping position)
      (freeAndRelease sweeping position) := by
  refine Action.lockstep_bind (lockstep_free lawful twinLawful sweeping position)
    fun freed other same => ?_
  cases freed with
  | none =>
    rw [Option.map_eq_none_iff.mp same.symm]
    exact Action.lockstep_pure rfl
  | some payload =>
    obtain ⟨otherPayload, rfl, equal⟩ := Option.map_eq_some_iff.mp same.symm
    simp only
    rw [← lawful.references payload, ← equal, twinLawful.references otherPayload]
    exact lockstep_releaseAll lawful twinLawful sweeping _

end

/-! ### What is seen from the tail -/

section

variable {forgetting twin : Forgetting} {left right : Chain} (shallow : forgetting.Shallow)
  (twinShallow : twin.Shallow)
include shallow twinShallow

theorem Corresponds.counters (alike : left.Corresponds forgetting twin right) :
    left.counters = right.counters := by
  have same := congrArg Snapshot.counters alike.seen
  rwa [shallow.counters, twinShallow.counters] at same

theorem Corresponds.cell (alike : left.Corresponds forgetting twin right) (position : Nat) :
    (left.cell position).map forgetting.onCell = (right.cell position).map twin.onCell := by
  have same := congrArg (Snapshot.cell? · position) alike.seen
  simp only [shallow.cell?, twinShallow.cell?] at same
  rw [cell_eq_snapshot, cell_eq_snapshot]
  cases seen : left.snapshot.cell? position with
  | none =>
    rw [seen] at same
    rw [Option.map_eq_none_iff.mp same.symm]
    rfl
  | some cell =>
    rw [seen] at same
    obtain ⟨other, found, equal⟩ := Option.map_eq_some_iff.mp same.symm
    rw [found]
    exact congrArg Except.ok equal.symm

/-- What is left out does not show in what is read off a cell. -/
theorem Corresponds.reading {α : Type} (alike : left.Corresponds forgetting twin right)
    {reading : Cell → α} (blind : ∀ cell, reading (forgetting.onCell cell) = reading cell)
    (twinBlind : ∀ cell, reading (twin.onCell cell) = reading cell) (position : Nat) :
    (left.cell position).map reading = (right.cell position).map reading := by
  have split {onCell : Cell → Cell} (blind : ∀ cell, reading (onCell cell) = reading cell)
      (chain : Chain) : (chain.cell position).map reading =
        ((chain.cell position).map onCell).map reading := by
    cases chain.cell position with
    | error error => rfl
    | ok cell => exact congrArg Except.ok (blind cell).symm
  rw [split blind left, split twinBlind right, alike.cell shallow twinShallow]

theorem Corresponds.payload (alike : left.Corresponds forgetting twin right) (position : Nat) :
    (left.cell position >>= Cell.payload).map forgetting.onPayload =
      (right.cell position >>= Cell.payload).map twin.onPayload := by
  have split {some : Forgetting} (shallow : some.Shallow) (chain : Chain) :
      (chain.cell position >>= Cell.payload).map some.onPayload =
        (chain.cell position).map some.onCell >>= Cell.payload := by
    cases chain.cell position with
    | error error => rfl
    | ok cell => exact (shallow.payload cell).symm
  rw [split shallow, split twinShallow, alike.cell shallow twinShallow]

theorem Corresponds.bindings (alike : left.Corresponds forgetting twin right) :
    left.bindings.map (fun binding => (binding.1, forgetting.onValue binding.2)) =
      right.bindings.map fun binding => (binding.1, twin.onValue binding.2) := by
  rw [bindings_eq_snapshot, bindings_eq_snapshot, ← shallow.bindings, ← twinShallow.bindings,
    alike.seen]

theorem Corresponds.get? (alike : left.Corresponds forgetting twin right) (name : String) :
    (left.get? name).map forgetting.onValue = (right.get? name).map twin.onValue := by
  rw [get?_eq_snapshot, get?_eq_snapshot, ← shallow.getBelow?, ← twinShallow.getBelow?, alike.seen,
    alike.counters shallow twinShallow]

/-! ### Sweeps in lockstep -/

theorem Corresponds.markFrom (alike : left.Corresponds forgetting twin right) (pending : List Nat)
    (marks : Array Bool) :
    left.markFrom pending marks = right.markFrom pending marks := by
  fun_induction Chain.markFrom left pending marks with
  | case1 marks => rw [Chain.markFrom]
  | case2 marks position rest unmarked payload found inductionHypothesis =>
    have same := alike.payload shallow twinShallow position
    rw [found] at same
    rw [Chain.markFrom, dif_pos unmarked, inductionHypothesis]
    cases other : right.cell position >>= Cell.payload with
    | error error =>
      rw [other] at same
      cases same
    | ok otherPayload =>
      rw [other] at same
      simp only
      rw [← shallow.references payload, Except.ok.inj same, twinShallow.references otherPayload]
  | case3 marks position rest unmarked error failed inductionHypothesis =>
    have same := alike.payload shallow twinShallow position
    rw [failed] at same
    rw [Chain.markFrom, dif_pos unmarked, inductionHypothesis]
    cases other : right.cell position >>= Cell.payload with
    | error otherError => rfl
    | ok otherPayload =>
      rw [other] at same
      cases same
  | case4 marks position rest marked inductionHypothesis =>
    rw [Chain.markFrom, dif_neg marked, inductionHypothesis]

theorem Corresponds.marks (alike : left.Corresponds forgetting twin right) :
    left.marks = right.marks := by
  have references {some : Forgetting} (shallow : some.Shallow) (chain : Chain) :
      chain.boundReferences =
        (chain.bindings.map fun binding => (binding.1, some.onValue binding.2)).filterMap
          fun binding => binding.2.reference? := by
    unfold boundReferences
    rw [List.filterMap_map]
    exact congrArg (chain.bindings.filterMap ·)
      (funext fun binding => (shallow.reference? binding.2).symm)
  unfold Chain.marks
  rw [references shallow, references twinShallow, alike.bindings shallow twinShallow,
    alike.counters shallow twinShallow, alike.markFrom shallow twinShallow]

end

theorem lockstep_sweepUnmarked {forgetting twin : Forgetting} (lawful : forgetting.Lawful)
    (twinLawful : twin.Lawful) (marks : Array Bool) :
    Action.Lockstep (Corresponds forgetting twin) id (sweepUnmarked marks)
      (sweepUnmarked marks) := by
  refine Action.lockstep_forM fun position => ?_
  unfold sweepCell
  split
  · exact Action.lockstep_pure rfl
  · refine Action.lockstep_bind (lockstep_peek lawful twinLawful position) fun cell other same => ?_
    rw [← lawful.isFree cell, same, twinLawful.isFree other]
    split
    · exact Action.lockstep_pure rfl
    · exact lockstep_freeAndRelease lawful twinLawful true position

theorem Corresponds.erased {left right : Chain} (alike : left.Alike .erasure right) :
    left.snapshot.erased = right.snapshot.erased := alike.seen

end Chain

/-! ### Stores in lockstep -/

/-- A relation between stores that goes by what is seen of their chains, once something has been
left out on either side. -/
structure Store.Compares (forgetting twin : Forgetting) (alike : Store → Store → Prop) : Prop where
  lawful : forgetting.Lawful
  twinLawful : twin.Lawful
  chain : ∀ {left right : Store}, alike left right →
    left.chain.Corresponds forgetting twin right.chain
  sweeping : ∀ {left right : Store}, alike left right → left.sweeping = right.sweeping
  withChain : ∀ {left right : Store}, alike left right → ∀ {chain other : Chain},
    chain.Corresponds forgetting twin other →
      alike { left with chain := chain } { right with chain := other }

namespace Store

variable {α β : Type} {forgetting twin : Forgetting} {alike : Store → Store → Prop}

theorem Compares.onChain (compares : Compares forgetting twin alike) {onLeft onRight : α → β}
    {action other : ChainM α}
    (lockstep : Action.Tandem (Chain.Corresponds forgetting twin) onLeft onRight action other) :
    Action.Tandem alike onLeft onRight (onChain action) (onChain other) := by
  intro left right related
  have agree := lockstep left.chain right.chain (compares.chain related)
  unfold Store.onChain Action.onPart
  generalize action left.chain = outcome at agree
  generalize other right.chain = outcome' at agree
  cases agree with
  | ok same reached => exact .ok same (compares.withChain related reached)
  | error reached => exact .error (compares.withChain related reached)

theorem lockstep_read {onLeft onRight : α → β} {reading other : Store → Except StoreError α}
    (same : ∀ left right : Store, alike left right →
      (reading left).map onLeft = (other right).map onRight) :
    Action.Tandem alike onLeft onRight (read reading) (read other) := by
  intro left right related
  have equal := same left right related
  unfold read
  cases seen : reading left with
  | error error =>
    cases otherSeen : other right with
    | error otherError =>
      rw [seen, otherSeen] at equal
      cases equal
      exact .error related
    | ok value =>
      rw [seen, otherSeen] at equal
      cases equal
  | ok value =>
    cases otherSeen : other right with
    | error otherError =>
      rw [seen, otherSeen] at equal
      cases equal
    | ok otherValue =>
      rw [seen, otherSeen] at equal
      exact .ok (Except.ok.inj equal) related

/-- Actions that stay in the tail need to be compared only by what is in it: the rest has not
changed. -/
theorem lockstep_of_local {related : Store → Store → Prop} {onLeft onRight : α → β}
    {action other : StoreM α} (isLocal : Local action) (otherLocal : Local other)
    (lockstep : Action.Tandem alike onLeft onRight action other)
    (enters : ∀ left right, related left right →
      alike left right ∧ left.chain.pools.Wiped ∧ right.chain.pools.Wiped)
    (leaves : ∀ left right left' right', related left right → left.Keeps left' →
      right.Keeps right' → alike left' right' → related left' right') :
    Action.Tandem related onLeft onRight action other := by
  intro left right before
  obtain ⟨entered, wiped, otherWiped⟩ := enters left right before
  have agree := lockstep left right entered
  have keeps := isLocal left wiped
  have otherKeeps := otherLocal right otherWiped
  generalize action left = outcome at agree keeps
  generalize other right = outcome' at agree otherKeeps
  cases agree with
  | ok same reached => exact .ok same (leaves _ _ _ _ before keeps otherKeeps reached)
  | error reached => exact .error (leaves _ _ _ _ before keeps otherKeeps reached)

theorem Compares.retainAll (compares : Compares forgetting twin alike) {payload other : Payload}
    (same : forgetting.onPayload payload = twin.onPayload other) :
    Action.Lockstep alike id (Store.onChain (Chain.retainAll payload.references))
      (Store.onChain (Chain.retainAll other.references)) := by
  rw [← compares.lawful.references payload, same, compares.twinLawful.references other]
  exact compares.onChain
    (Action.lockstep_forM (Chain.lockstep_retain compares.lawful compares.twinLawful))

theorem Compares.releaseAll (compares : Compares forgetting twin alike) (positions : List Nat) :
    Action.Lockstep alike id (releaseAll positions) (releaseAll positions) :=
  Action.lockstep_get fun left right related => by
    rw [compares.sweeping related]
    exact compares.onChain
      (Chain.lockstep_releaseAll compares.lawful compares.twinLawful right.sweeping
        positions.reverse)

theorem Compares.retainValue (compares : Compares forgetting twin alike) {value other : Value}
    (same : forgetting.onValue value = twin.onValue other) :
    Action.Lockstep alike id (retainValue value) (retainValue other) := by
  unfold Store.retainValue
  rw [← compares.lawful.reference? value, same, compares.twinLawful.reference? other]
  cases other.reference? with
  | none => exact Action.lockstep_pure rfl
  | some position =>
    exact compares.onChain (Chain.lockstep_retain compares.lawful compares.twinLawful position)

theorem Compares.releaseValue (compares : Compares forgetting twin alike) {value other : Value}
    (same : forgetting.onValue value = twin.onValue other) :
    Action.Lockstep alike id (releaseValue value) (releaseValue other) := by
  unfold Store.releaseValue
  rw [← compares.lawful.reference? value, same, compares.twinLawful.reference? other]
  cases other.reference? with
  | none => exact Action.lockstep_pure rfl
  | some position => exact compares.releaseAll [position]

/-- How far a cell must be away to be copied does not matter. -/
theorem Compares.deref (compares : Compares forgetting twin alike) (position : Nat) :
    Action.Tandem alike forgetting.onPayload twin.onPayload (deref position) (deref position) :=
  Action.lockstep_get fun left right _ => by
    have reading := Chain.lockstep_of_follows
      (Chain.follows_read left.settings.promotionDistance position)
      (Chain.follows_read right.settings.promotionDistance position)
      (compares.lawful.look position) (compares.twinLawful.look position)
    refine compares.onChain (Action.lockstep_bind reading fun cell other same => ?_)
    refine Chain.lockstep_ofExcept ?_
    rw [← compares.lawful.payload cell, same, compares.twinLawful.payload other]

theorem Compares.assign (compares : Compares forgetting twin alike) (position : Nat)
    {payload other : Payload} (same : forgetting.onPayload payload = twin.onPayload other) :
    Action.Lockstep alike id (assign position payload) (assign position other) := by
  refine Action.lockstep_bind (compares.retainAll same) fun _ _ _ => ?_
  have overwriting := Chain.lockstep_of_follows (Chain.follows_overwrite position payload)
    (Chain.follows_overwrite position other) (compares.lawful.overwrite position payload)
    (same ▸ compares.twinLawful.overwrite position other)
  refine Action.lockstep_bind (compares.onChain overwriting) fun old otherOld equal => ?_
  rw [← compares.lawful.references old, equal, compares.twinLawful.references otherOld]
  exact compares.releaseAll _

theorem Compares.update {γ δ : Type} {onResult onOther : γ → δ}
    (compares : Compares forgetting twin alike) (position : Nat) {edit : Payload → γ × Payload}
    (discreet : ∀ payload other, forgetting.onPayload payload = twin.onPayload other →
      onResult (edit payload).1 = onOther (edit other).1 ∧
        forgetting.onPayload (edit payload).2 = twin.onPayload (edit other).2) :
    Action.Tandem alike onResult onOther (update position edit) (update position edit) := by
  refine Action.lockstep_bind (compares.deref position) fun payload other equal => ?_
  obtain ⟨answers, changes⟩ := discreet payload other equal
  exact Action.lockstep_bind (compares.assign position changes) fun _ _ _ =>
    Action.lockstep_pure answers

theorem Compares.push (compares : Compares forgetting twin alike) (name : String)
    {value other : Value} (same : forgetting.onValue value = twin.onValue other) :
    Action.Lockstep alike id (push name value) (push name other) := by
  refine Action.lockstep_bind (compares.retainValue same) fun _ _ _ => compares.onChain ?_
  exact Chain.lockstep_of_follows (Chain.follows_push name value) (Chain.follows_push name other)
    (compares.lawful.push name value) (same ▸ compares.twinLawful.push name other)

theorem Compares.remove (compares : Compares forgetting twin alike) (name : String) :
    Action.Lockstep alike id (remove name) (remove name) := by
  have removing := Chain.lockstep_of_follows (Chain.follows_remove name) (Chain.follows_remove name)
    (compares.lawful.remove name) (compares.twinLawful.remove name)
  exact Action.lockstep_bind (compares.onChain removing) fun _ _ => compares.releaseValue

theorem Compares.rename (compares : Compares forgetting twin alike) (name renamed : String) :
    Action.Lockstep alike id (rename name renamed) (rename name renamed) := by
  have removing := Chain.lockstep_of_follows (Chain.follows_remove name) (Chain.follows_remove name)
    (compares.lawful.remove name) (compares.twinLawful.remove name)
  refine compares.onChain (Action.lockstep_bind removing fun value other same => ?_)
  exact Chain.lockstep_of_follows (Chain.follows_push renamed value)
    (Chain.follows_push renamed other) (compares.lawful.push renamed value)
    (same ▸ compares.twinLawful.push renamed other)

/-! ### Stores that resemble each other -/

/-- The same is seen from the tails of two stores, once something has been left out on either side,
and they sweep by the same measure. -/
structure Mirrors (forgetting twin : Forgetting) (left right : Store) : Prop where
  chain : left.chain.Corresponds forgetting twin right.chain
  growth : left.settings.thresholdGrowth = right.settings.thresholdGrowth
  freeSpace : left.settings.minimumFreeSpace = right.settings.minimumFreeSpace
  sweeping : left.sweeping = right.sweeping
  sweepRequested : left.sweepRequested = right.sweepRequested

/-- The same is seen from the tails of two stores, up to something, and they sweep by the same
measure. -/
abbrev Resembles (forgetting : Forgetting) (left right : Store) : Prop :=
  left.Mirrors forgetting forgetting right

theorem compares_mirrors (lawful : forgetting.Lawful) (twinLawful : twin.Lawful) :
    Compares forgetting twin (Mirrors forgetting twin) where
  lawful := lawful
  twinLawful := twinLawful
  chain related := related.chain
  sweeping related := related.sweeping
  withChain related _ _ reached := { related with chain := reached }

section

variable (shallow : forgetting.Shallow) (twinShallow : twin.Shallow)
include shallow twinShallow

theorem Mirrors.isTight {left right : Store} (related : Mirrors forgetting twin left right) :
    left.isTight = right.isTight := by
  unfold Store.isTight
  rw [related.chain.counters shallow twinShallow, related.freeSpace]

theorem Mirrors.isRoomy {left right : Store} (related : Mirrors forgetting twin left right) :
    left.isRoomy = right.isRoomy := by
  unfold Store.isRoomy
  rw [related.chain.counters shallow twinShallow, related.freeSpace]

theorem Mirrors.grownThreshold {left right : Store} (related : Mirrors forgetting twin left right) :
    left.grownThreshold = right.grownThreshold := by
  unfold Store.grownThreshold
  rw [related.chain.counters shallow twinShallow, related.growth]

theorem Mirrors.lookup {left right : Store} (related : Mirrors forgetting twin left right)
    (name : String) :
    (left.lookup name).map forgetting.onValue = (right.lookup name).map twin.onValue := by
  have same := related.chain.get? shallow twinShallow name
  unfold Store.lookup
  cases found : left.chain.get? name with
  | none =>
    rw [found] at same
    rw [Option.map_eq_none_iff.mp same.symm]
    rfl
  | some value =>
    rw [found] at same
    obtain ⟨other, otherFound, equal⟩ := Option.map_eq_some_iff.mp same.symm
    rw [otherFound]
    exact congrArg Except.ok equal.symm

theorem Mirrors.contains {left right : Store} (related : Mirrors forgetting twin left right)
    (name : String) : left.contains name = right.contains name := by
  have same := congrArg Option.isSome (related.chain.get? shallow twinShallow name)
  rwa [Option.isSome_map, Option.isSome_map] at same

theorem mirrors_alloc {payload other : Payload}
    (same : forgetting.onPayload payload = twin.onPayload other) :
    Action.Lockstep (Mirrors forgetting twin) id (alloc payload) (alloc other) := by
  have compares := compares_mirrors shallow.toLawful twinShallow.toLawful
  refine Action.lockstep_bind (compares.retainAll same) fun _ _ _ => ?_
  have allocating : Action.Lockstep (Chain.Corresponds forgetting twin) id (Chain.alloc payload)
      (Chain.alloc other) :=
    Chain.lockstep_of_follows (Chain.follows_alloc payload) (Chain.follows_alloc other)
      (shallow.alloc payload) (same ▸ twinShallow.alloc other)
  refine Action.lockstep_bind (compares.onChain allocating) fun allocated _ equal => ?_
  cases equal
  obtain ⟨position, grown⟩ := allocated
  cases grown with
  | true => exact fun left right related => .ok rfl { related with sweepRequested := rfl }
  | false => exact Action.lockstep_pure rfl

theorem mirrors_replace (name : String) {value other : Value}
    (same : forgetting.onValue value = twin.onValue other) :
    Action.Lockstep (Mirrors forgetting twin) id (replace name value) (replace name other) := by
  have compares := compares_mirrors shallow.toLawful twinShallow.toLawful
  refine Action.lockstep_bind (compares.retainValue same) fun _ _ _ => ?_
  have replacing : Action.Tandem (Chain.Corresponds forgetting twin) forgetting.onValue twin.onValue
      (Chain.replace name value) (Chain.replace name other) :=
    Chain.lockstep_of_follows (Chain.follows_replace name value) (Chain.follows_replace name other)
      (shallow.replace name value) (same ▸ twinShallow.replace name other)
  exact Action.lockstep_bind (compares.onChain replacing) fun _ _ => compares.releaseValue

theorem mirrors_freeUnreachable :
    Action.Lockstep (Mirrors forgetting twin) id freeUnreachable freeUnreachable := by
  intro left right related
  have sweeping := Chain.lockstep_sweepUnmarked shallow.toLawful twinShallow.toLawful
    right.chain.marks
  have agree := (compares_mirrors shallow.toLawful twinShallow.toLawful).onChain sweeping
    { left with sweeping := true } { right with sweeping := true } { related with sweeping := rfl }
  unfold freeUnreachable
  rw [related.chain.marks shallow twinShallow]
  generalize onChain (Chain.sweepUnmarked right.chain.marks) { left with sweeping := true } =
    outcome at agree
  generalize onChain (Chain.sweepUnmarked right.chain.marks) { right with sweeping := true } =
    outcome' at agree
  cases agree with
  | ok same reached => exact .ok same { reached with sweeping := rfl }
  | error reached => exact .error { reached with sweeping := rfl }

theorem mirrors_adjustThreshold :
    Action.Lockstep (Mirrors forgetting twin) id adjustThreshold adjustThreshold := by
  refine Action.lockstep_get fun left right related => ?_
  rw [related.isTight shallow twinShallow, related.grownThreshold shallow twinShallow]
  split
  · cases right.grownThreshold with
    | error defect => exact fun _ _ related => .error related
    | ok threshold =>
      refine fun _ _ _ => .ok rfl { related with chain := ?_ }
      refine ⟨?_, related.chain.wipedLeft, related.chain.wipedRight⟩
      rw [Chain.snapshot_mapCounters rfl rfl, Chain.snapshot_mapCounters rfl rfl,
        shallow.mapCounters, twinShallow.mapCounters, related.chain.seen]
  · exact Action.lockstep_pure rfl

theorem mirrors_sweep (forced : Bool) :
    Action.Lockstep (Mirrors forgetting twin) id (sweep forced) (sweep forced) := by
  refine Action.lockstep_get fun before otherBefore relatedBefore => ?_
  rw [relatedBefore.isRoomy shallow twinShallow,
    relatedBefore.chain.counters shallow twinShallow]
  split
  · exact Action.lockstep_pure rfl
  · refine Action.lockstep_bind (mirrors_freeUnreachable shallow twinShallow) fun _ _ _ => ?_
    refine Action.lockstep_get fun swept otherSwept relatedSwept => ?_
    rw [relatedSwept.chain.counters shallow twinShallow]
    refine Action.lockstep_bind (mirrors_adjustThreshold shallow twinShallow) fun _ _ _ => ?_
    refine Action.lockstep_get fun after otherAfter relatedAfter left right related => ?_
    rw [relatedAfter.chain.counters shallow twinShallow]
    exact .ok rfl { relatedAfter with }

end

end Store

/-- Two stores that accesses cannot tell apart, up to what checkpoints say about the chain. -/
structure Store.Alike (left right : Store) : Prop where
  chain : left.chain.Alike .erasure right.chain
  nextId : left.nextId = right.nextId
  settings : left.settings = right.settings
  sweeping : left.sweeping = right.sweeping
  sweepRequested : left.sweepRequested = right.sweepRequested

/-! ### Accesses in lockstep -/

/-- An answer without what checkpoints say about the chain. -/
def Answer.erased : Answer → Answer
  | .payload found => .payload found.erased
  | .value found => .value found.erased
  | .bindings found => .bindings found.erased
  | .checkpoint taken => .checkpoint taken.erased
  | answer => answer

/-- Changes all checkpoints that an access puts into the store. -/
def Access.mapCheckpoint (change : Checkpoint → Checkpoint) : Access → Access
  | .alloc payload => .alloc (payload.mapCheckpoint change)
  | .assign position payload => .assign position (payload.mapCheckpoint change)
  | .push name value => .push name (value.mapCheckpoint change)
  | .replace name value => .replace name (value.mapCheckpoint change)
  | access => access

/-- An access does not go by what checkpoints say about the chain. Only a change of a payload
could. -/
def Access.Discreet : Access → Prop
  | .update _ edit => ∀ payload other : Payload, payload.erased = other.erased →
      (edit payload).1.erased = (edit other).1.erased ∧
        (edit payload).2.erased = (edit other).2.erased
  | _ => True

theorem Value.erased_mapCheckpoint {change : Checkpoint → Checkpoint}
    (same : ∀ checkpoint : Checkpoint, (change checkpoint).erased = checkpoint.erased)
    (value : Value) : (value.mapCheckpoint change).erased = value.erased := by
  cases value with
  | checkpoint point => exact congrArg Value.checkpoint (same point)
  | _ => rfl

theorem Payload.erased_mapCheckpoint {change : Checkpoint → Checkpoint}
    (same : ∀ checkpoint : Checkpoint, (change checkpoint).erased = checkpoint.erased)
    (payload : Payload) : (payload.mapCheckpoint change).erased = payload.erased := by
  cases payload with
  | object fields =>
    simp only [erased, mapCheckpoint, List.map_map]
    refine congrArg (fun entry => Payload.object (fields.map entry)) (funext fun field => ?_)
    exact congrArg (Prod.mk field.1) (field.2.erased_mapCheckpoint same)
  | list items =>
    simp only [erased, mapCheckpoint, List.map_map]
    exact congrArg (fun entry => Payload.list (items.map entry))
      (funext fun item => item.erased_mapCheckpoint same)
  | capture record => rfl

/-- What is left out of an answer covers what is left out of the payloads and values in it. -/
structure Forgetting.Covers {β : Type} (forgetting : Forgetting)
    (onAnswer : Answer → β) : Prop where
  payload : ∀ payload other, forgetting.onPayload payload = forgetting.onPayload other →
    onAnswer (.payload payload) = onAnswer (.payload other)
  value : ∀ value other, forgetting.onValue value = forgetting.onValue other →
    onAnswer (.value value) = onAnswer (.value other)
  bindings : ∀ bindings other : Bindings,
    bindings.map (fun binding => (binding.1, forgetting.onValue binding.2)) =
        other.map (fun binding => (binding.1, forgetting.onValue binding.2)) →
      onAnswer (.bindings bindings) = onAnswer (.bindings other)

/-- Every access answers the same on stores that resemble each other, up to what is left out, and
the stores go on resembling each other. -/
theorem Access.resembles_perform {β : Type} {forgetting : Forgetting} {onAnswer : Answer → β}
    (access : Access) (shallow : forgetting.Shallow) (covers : forgetting.Covers onAnswer)
    {change : Checkpoint → Checkpoint}
    (samePayload : ∀ payload : Payload,
      forgetting.onPayload payload = forgetting.onPayload (payload.mapCheckpoint change))
    (sameValue : ∀ value : Value,
      forgetting.onValue value = forgetting.onValue (value.mapCheckpoint change))
    (discreet : ∀ position edit, access = .update position edit → ∀ payload other,
      forgetting.onPayload payload = forgetting.onPayload other →
        forgetting.onValue (edit payload).1 = forgetting.onValue (edit other).1 ∧
          forgetting.onPayload (edit payload).2 = forgetting.onPayload (edit other).2) :
    Action.Lockstep (Store.Resembles forgetting) onAnswer access.perform
      (access.mapCheckpoint change).perform := by
  have compares := Store.compares_mirrors shallow.toLawful shallow.toLawful
  have answered {γ δ : Type} {onValue : γ → δ} {action other : StoreM γ} {answer : γ → Answer}
      (lockstep : Action.Lockstep (Store.Resembles forgetting) onValue action other)
      (covered : ∀ value value', onValue value = onValue value' →
        onAnswer (answer value) = onAnswer (answer value')) :
      Action.Lockstep (Store.Resembles forgetting) onAnswer (do return answer (← action))
        (do return answer (← other)) :=
    Action.lockstep_bind lockstep fun value value' equal =>
      Action.lockstep_pure (covered value value' equal)
  -- A reading that nothing is left out of is the same in both stores.
  have found {γ : Type} {reading : Store → Except StoreError γ} {answer : γ → Answer}
      (same : ∀ left right : Store, left.Resembles forgetting right →
        reading left = reading right) :
      Action.Lockstep (Store.Resembles forgetting) onAnswer
        (do return answer (← Store.read reading)) (do return answer (← Store.read reading)) := by
    have same : Action.Lockstep (Store.Resembles forgetting) id (Store.read reading)
        (Store.read reading) :=
      Store.lockstep_read fun left right related => by rw [same left right related]
    exact answered same fun _ _ equal => congrArg (fun value => onAnswer (answer value)) equal
  cases access with
  | alloc payload =>
    exact answered (Store.mirrors_alloc shallow shallow (samePayload payload))
      fun _ _ equal => congrArg (fun position => onAnswer (.position position)) equal
  | deref position => exact answered (compares.deref position) covers.payload
  | peek position =>
    exact answered (Store.lockstep_read fun left right related =>
      related.chain.payload shallow shallow position) covers.payload
  | count position =>
    exact found fun left right related => related.chain.reading shallow shallow shallow.count
      shallow.count position
  | isFreed position =>
    exact found fun left right related => related.chain.reading shallow shallow shallow.isFree
      shallow.isFree position
  | assign position payload =>
    exact answered (compares.assign position (samePayload payload)) fun _ _ _ => rfl
  | update position edit =>
    exact answered (compares.update position (discreet position edit rfl)) covers.value
  | free position =>
    have freeing : Action.Lockstep (Store.Resembles forgetting) id (Store.free position)
        (Store.free position) :=
      Action.lockstep_get fun left right related => by
        rw [related.sweeping]
        exact compares.onChain
          (Chain.lockstep_freeAndRelease shallow.toLawful shallow.toLawful right.sweeping position)
    exact answered freeing fun _ _ _ => rfl
  | retain position =>
    exact answered
      (compares.onChain (Chain.lockstep_retain shallow.toLawful shallow.toLawful position))
        fun _ _ _ => rfl
  | release position => exact answered (compares.releaseAll [position]) fun _ _ _ => rfl
  | push name value => exact answered (compares.push name (sameValue value)) fun _ _ _ => rfl
  | lookup name =>
    exact answered
      (Store.lockstep_read fun left right related => related.lookup shallow shallow name)
      covers.value
  | contains name =>
    exact found fun left right related => congrArg Except.ok (related.contains shallow shallow name)
  | remove name => exact answered (compares.remove name) fun _ _ _ => rfl
  | replace name value =>
    exact answered (Store.mirrors_replace shallow shallow name (sameValue value)) fun _ _ _ => rfl
  | rename name renamed => exact answered (compares.rename name renamed) fun _ _ _ => rfl
  | bindings =>
    exact answered (Store.lockstep_read fun left right related =>
      congrArg Except.ok (related.chain.bindings shallow shallow)) covers.bindings
  | counters =>
    exact found fun left right related =>
      congrArg Except.ok (related.chain.counters shallow shallow)
  | sweep forced =>
    exact answered (Store.mirrors_sweep shallow shallow forced)
      fun _ _ equal => congrArg (fun report => onAnswer (.swept report)) equal
  | takeRequest =>
    have taking : Action.Lockstep (Store.Resembles forgetting) id Store.takeRequest
        Store.takeRequest :=
      fun left right related => .ok related.sweepRequested { related with sweepRequested := rfl }
    exact answered taking fun _ _ equal => congrArg (fun flag => onAnswer (.flag flag)) equal

theorem Answer.covers_erased : Forgetting.erasure.Covers Answer.erased where
  payload _ _ equal := congrArg Answer.payload equal
  value _ _ equal := congrArg Answer.value equal
  bindings _ _ equal := congrArg Answer.bindings equal

/-- Every access answers alike on alike stores, and leaves them alike. -/
theorem Access.lockstep_perform {access : Access} (discreet : access.Discreet)
    {change : Checkpoint → Checkpoint}
    (same : ∀ checkpoint : Checkpoint, (change checkpoint).erased = checkpoint.erased) :
    Action.Lockstep Store.Alike Answer.erased access.perform
      (access.mapCheckpoint change).perform := by
  have lockstep := access.resembles_perform Forgetting.shallow_erasure Answer.covers_erased
    (fun payload => (payload.erased_mapCheckpoint same).symm)
    (fun value => (value.erased_mapCheckpoint same).symm)
    fun position edit equal => by
      subst equal
      exact discreet
  refine Store.lockstep_of_local (fun _ => access.keeps_perform)
    (fun _ => (access.mapCheckpoint change).keeps_perform) lockstep ?_ ?_
  · intro left right alike
    exact ⟨⟨alike.chain, by rw [alike.settings], by rw [alike.settings], alike.sweeping,
      alike.sweepRequested⟩, alike.chain.wipedLeft, alike.chain.wipedRight⟩
  · intro left right left' right' alike keepsLeft keepsRight reached
    refine ⟨reached.chain, ?_, ?_, reached.sweeping, reached.sweepRequested⟩
    · rw [keepsLeft.nextId, keepsRight.nextId, alike.nextId]
    · rw [keepsLeft.settings, keepsRight.settings, alike.settings]

end Rewind
