/-
This file says what an operation leaves behind that is refused. It may have done several things
before: counted references, taken copies into the tail, looked for a name. What can be seen of that
is only the counting, and only of references in the value that was to be stored, from the first one
on up to the one that is refused.

Everything that an operation takes away it takes away last, and that goes through as long as every
cell counts its occurrences and nothing refers to a free cell. A reference that is taken away by
hand may be one that is still stored somewhere; then the occurrence that is left has to be a
binding, or there has to be another reference.
-/

import Mathlib
import Rewind.Proofs.Store.Conservation
import Rewind.Store.Statistics

namespace Rewind

/-! ### Counting on top -/

/-- Counts more references at a cell in use. -/
def Cell.raise (more : Nat) (cell : Cell) : Cell :=
  match cell.slot with
  | .used payload count => { cell with slot := .used payload (count + more) }
  | .free _ => cell

theorem Cell.raise_zero (cell : Cell) : cell.raise 0 = cell := by
  obtain ⟨position, ⟨payload, count⟩ | next⟩ := cell <;> rfl

theorem Cell.raise_raise (first second : Nat) (cell : Cell) :
    (cell.raise first).raise second = cell.raise (first + second) := by
  obtain ⟨position, ⟨payload, count⟩ | next⟩ := cell
  · simp only [Cell.raise, Nat.add_assoc]
  · rfl

namespace Snapshot

/-- A view with some references counted on top. -/
def raised (references : List Nat) (snapshot : Snapshot) : Snapshot :=
  { snapshot with
    cell? := fun position =>
      (snapshot.cell? position).map (Cell.raise (references.count position)) }

theorem raised_nil (snapshot : Snapshot) : snapshot.raised [] = snapshot := by
  refine Snapshot.ext (funext fun position => ?_) rfl rfl
  change (snapshot.cell? position).map (Cell.raise 0) = _
  cases snapshot.cell? position with
  | none => rfl
  | some cell => exact congrArg some cell.raise_zero

theorem raised_raised (first second : List Nat) (snapshot : Snapshot) :
    (snapshot.raised first).raised second = snapshot.raised (first ++ second) := by
  refine Snapshot.ext (funext fun position => ?_) rfl rfl
  change ((snapshot.cell? position).map (Cell.raise (first.count position))).map
    (Cell.raise (second.count position)) = (snapshot.cell? position).map
    (Cell.raise ((first ++ second).count position))
  rw [Option.map_map, List.count_append]
  exact congrArg (Option.map · _) (funext fun cell => cell.raise_raise _ _)

/-- Counting one reference. -/
theorem raised_singleton {snapshot : Snapshot} {position own count : Nat} {payload : Payload}
    (seen : snapshot.cell? position = some ⟨own, .used payload count⟩) :
    snapshot.raised [position] =
      snapshot.putCell position ⟨own, .used payload (count + 1)⟩ := by
  refine Snapshot.ext (funext fun other => ?_) rfl rfl
  change (snapshot.cell? other).map (Cell.raise ([position].count other)) =
    Function.update snapshot.cell? position (some ⟨own, .used payload (count + 1)⟩) other
  by_cases same : other = position
  · subst same
    rw [Function.update_self, seen, List.count_singleton_self]
    rfl
  · rw [Function.update_of_ne same, List.count_singleton, if_neg (by simpa using Ne.symm same)]
    cases snapshot.cell? other with
    | none => rfl
    | some cell => exact congrArg some cell.raise_zero

/-- An operation on snapshots that changes nothing where it fails. -/
def Atomic {α : Type} (flat : SnapshotM α) : Prop :=
  ∀ snapshot fault shown, flat snapshot = .error fault shown → shown = snapshot

theorem atomic_overwrite (position : Nat) (payload : Payload) :
    Atomic (overwrite position payload) := by
  intro snapshot fault shown failed
  unfold overwrite at failed
  split at failed <;> cases failed <;> rfl

theorem atomic_free (sweeping : Bool) (position : Nat) : Atomic (free sweeping position) := by
  intro snapshot fault shown failed
  unfold free at failed
  split at failed
  · cases failed
    rfl
  · split at failed <;> cases failed
    rfl
  · split at failed
    · cases failed
      rfl
    · split at failed <;> cases failed
      rfl

theorem atomic_binding (name : String) : Atomic (binding name) := by
  intro snapshot fault shown failed
  unfold binding at failed
  split at failed
  · cases failed
    rfl
  · split at failed
    · cases failed
      rfl
    · split at failed <;> cases failed
      rfl

/-- What follows a binding that has been found does not fail. -/
theorem Atomic.modify {α β : Type} {flat : SnapshotM α} (atomic : Atomic flat)
    (change : α → Snapshot → Snapshot) (answer : α → β) :
    Atomic (do
      let found ← flat
      modify (change found)
      return answer found) := by
  intro snapshot fault shown failed
  cases ran : flat snapshot with
  | error =>
    rw [Action.bind_of_error ran] at failed
    cases failed
    exact atomic _ _ _ ran
  | ok found reached =>
    rw [Action.bind_of_ok ran] at failed
    cases failed

theorem atomic_remove (name : String) : Atomic (remove name) :=
  (atomic_binding name).modify (fun found => unbind name found.1 found.2.1) fun found => found.2.2

theorem atomic_replace (name : String) (value : Value) : Atomic (replace name value) :=
  (atomic_binding name).modify (fun found => putLevel found.1 (found.2.1.set name value))
    fun found => found.2.2

end Snapshot

/-! ### What a refused operation leaves -/

/-- A store is as it was, but for copies that were taken into the tail and for some references that
were counted. -/
structure Store.Withstands (counted : List Nat) (before after : Store) : Prop where
  elsewhere : after = { before with chain := after.chain }
  keeps : before.chain.Keeps after.chain
  view : after.chain.snapshot = before.chain.snapshot.raised counted

/-- An operation that is refused has counted no more than the first of some references, and done
nothing else that can be seen. -/
def Store.Spares {α : Type} (stored : List Nat) (store : Store)
    (result : EStateM.Result StoreFault Store α) : Prop :=
  ∀ error after, result = .error (.refused error) after →
    ∃ counted, counted <+: stored ∧ store.Withstands counted after

namespace Store

variable {α β : Type} {store middle after : Store} {stored first second : List Nat}

theorem Withstands.refl (store : Store) : store.Withstands [] store :=
  ⟨rfl, .refl store.chain, store.chain.snapshot.raised_nil.symm⟩

theorem Withstands.trans (left : store.Withstands first middle)
    (right : middle.Withstands second after) :
    store.Withstands (first ++ second) after where
  elsewhere := by
    rw [right.elsewhere, left.elsewhere]
  keeps := left.keeps.trans right.keeps
  view := by rw [right.view, left.view, Snapshot.raised_raised]

/-- What is asked of a store that has withstood something is asked of the store before. -/
theorem Withstands.spares (withstands : store.Withstands first middle)
    {result : EStateM.Result StoreFault Store α} (spares : middle.Spares second result) :
    store.Spares (first ++ second) result := by
  intro error after failed
  obtain ⟨counted, some, left⟩ := spares error after failed
  exact ⟨first ++ counted, (List.prefix_append_right_inj first).mpr some, withstands.trans left⟩

theorem Withstands.bindings (withstands : store.Withstands stored after) :
    after.bindings = store.bindings := by
  change after.chain.snapshot.bindings = store.chain.snapshot.bindings
  rw [withstands.view]
  rfl

theorem Withstands.statistics (withstands : store.Withstands stored after) :
    after.statistics = store.statistics := by
  have counters : after.chain.counters = store.chain.counters :=
    congrArg Snapshot.counters withstands.view
  unfold Store.statistics Chain.length
  rw [counters, withstands.keeps.older, withstands.keeps.id]

theorem spares_ok {value : α} : store.Spares stored (.ok value after) :=
  fun _ _ same => nomatch same

theorem spares_of_ok {result : EStateM.Result StoreFault Store α} {value : α}
    (succeeded : result = .ok value after) : store.Spares stored result := succeeded ▸ spares_ok

theorem spares_defect {defect : Defect} :
    store.Spares (α := α) stored (.error (.defect defect) after) :=
  fun _ _ same => nomatch same

/-- An operation in two parts, the second of which is run on what the first has left. -/
theorem Spares.bind {action : StoreM α} {next : α → StoreM β}
    (spares : store.Spares stored (action store))
    (rest : ∀ value middle, action store = .ok value middle →
      store.Spares stored (next value middle)) :
    store.Spares stored ((action >>= next) store) := by
  cases ran : action store with
  | ok value middle =>
    rw [Action.bind_of_ok ran]
    exact rest value middle ran
  | error fault reached =>
    rw [Action.bind_of_error ran]
    rw [ran] at spares
    intro error after failed
    cases failed
    exact spares error reached rfl

theorem Spares.answered {action : StoreM α} (spares : store.Spares stored (action store))
    (answer : α → Answer) :
    store.Spares stored ((do return answer (← action) : StoreM Answer) store) :=
  spares.bind fun _ _ _ => spares_ok

theorem spares_read (reading : Store → Except StoreError α) :
    store.Spares [] (Store.read reading store) := by
  intro error after failed
  unfold Store.read at failed
  split at failed
  · cases failed
  · cases failed
    exact ⟨[], List.nil_prefix, .refl store⟩

theorem withstands_onChain {reached : Chain} {counted : List Nat}
    (keeps : store.chain.Keeps reached)
    (view : reached.snapshot = store.chain.snapshot.raised counted) :
    store.Withstands counted { store with chain := reached } := ⟨rfl, keeps, view⟩

/-- An operation on the chain that does the same to what is seen as one that changes nothing where
it fails. -/
theorem spares_onChain (wiped : store.chain.pools.Wiped) {action : ChainM α} {flat : SnapshotM α}
    (follows : Chain.Follows action flat) (atomic : Snapshot.Atomic flat) :
    store.Spares [] (onChain action store) := by
  intro error after failed
  have shows := follows store.chain wiped
  cases ran : action store.chain with
  | ok value reached =>
    rw [onChain_of_ok ran] at failed
    cases failed
  | error fault reached =>
    rw [onChain_of_error ran] at failed
    cases failed
    rw [ran] at shows
    generalize flatRan : flat store.chain.snapshot = result at shows
    cases shows with
    | error keeps =>
      refine ⟨[], List.nil_prefix, withstands_onChain keeps ?_⟩
      rw [atomic _ _ _ flatRan, Snapshot.raised_nil]

end Store

/-! ### Counting references -/

namespace Chain

/-- References are counted one after the other, up to the first that is refused. -/
theorem retainAll_raises (positions : List Nat) {chain : Chain} (wiped : chain.pools.Wiped) :
    (∃ after, retainAll positions chain = .ok () after ∧ chain.Keeps after ∧
        after.snapshot = chain.snapshot.raised positions) ∨
      ∃ fault after counted, retainAll positions chain = .error fault after ∧ chain.Keeps after ∧
        counted <+: positions ∧ after.snapshot = chain.snapshot.raised counted := by
  induction positions generalizing chain with
  | nil => exact .inl ⟨chain, rfl, .refl chain, chain.snapshot.raised_nil.symm⟩
  | cons position positions inductionHypothesis =>
    change (∃ after, (retain position >>= fun _ => retainAll positions) chain = .ok () after ∧ _) ∨
      ∃ fault after counted, (retain position >>= fun _ => retainAll positions) chain =
        .error fault after ∧ _
    obtain ⟨own, payload, count, once, seen, ran, shown, keeps⟩ |
      ⟨error, once, -, ran, shown, keeps⟩ :=
      retain_cases wiped position
    · rw [← Snapshot.raised_singleton seen] at shown
      rw [Action.bind_of_ok ran]
      obtain ⟨after, ranRest, keepsRest, shownRest⟩ |
        ⟨fault, after, counted, ranRest, keepsRest, some, shownRest⟩ :=
        inductionHypothesis (keeps.wiped wiped)
      · refine .inl ⟨after, ranRest, keeps.trans keepsRest, ?_⟩
        rw [shownRest, shown, Snapshot.raised_raised, List.singleton_append]
      · refine .inr ⟨fault, after, position :: counted, ranRest, keeps.trans keepsRest,
          List.cons_prefix_cons.mpr ⟨rfl, some⟩, ?_⟩
        rw [shownRest, shown, Snapshot.raised_raised, List.singleton_append]
    · rw [Action.bind_of_error ran]
      exact .inr ⟨.refused error, once, [], rfl, keeps, List.nil_prefix,
        shown.trans chain.snapshot.raised_nil.symm⟩

end Chain

namespace Store

variable {surplus : Nat → Nat} {entries : Multiset Entry} {bindings : Bindings} {store : Store}

theorem retainAll_withstood (wiped : store.chain.pools.Wiped)
    {references : List Nat} {middle : Store}
    (ran : onChain (Chain.retainAll references) store = .ok () middle) :
    store.Withstands references middle := by
  obtain ⟨reached, retaining, keeps, view⟩ | ⟨fault, reached, counted, failed, -⟩ :=
    Chain.retainAll_raises references wiped
  · rw [onChain_of_ok retaining] at ran
    cases ran
    exact withstands_onChain keeps view
  · rw [onChain_of_error failed] at ran
    cases ran

theorem spares_retainAll (wiped : store.chain.pools.Wiped) (references : List Nat) :
    store.Spares references (onChain (Chain.retainAll references) store) := by
  intro error after failed
  obtain ⟨reached, retaining, -⟩ | ⟨fault, reached, counted, ran, keeps, some, view⟩ :=
    Chain.retainAll_raises references wiped
  · rw [onChain_of_ok retaining] at failed
    cases failed
  · rw [onChain_of_error ran] at failed
    cases failed
    exact ⟨counted, some, withstands_onChain keeps view⟩

/-- A single reference is counted, or nothing is. -/
theorem spares_retain (wiped : store.chain.pools.Wiped) (position : Nat) :
    store.Spares [] (Store.retain position store) := by
  intro error after failed
  obtain ⟨own, payload, count, once, -, ran, -⟩ | ⟨error, once, -, ran, shown, keeps⟩ :=
    Chain.retain_cases wiped position
  · rw [Store.retain, onChain_of_ok ran] at failed
    cases failed
  · rw [Store.retain, onChain_of_error ran] at failed
    cases failed
    exact ⟨[], List.nil_prefix,
      withstands_onChain keeps (shown.trans store.chain.snapshot.raised_nil.symm)⟩

theorem spares_retainValue (wiped : store.chain.pools.Wiped) (value : Value) :
    store.Spares [] (Store.retainValue value store) := by
  unfold Store.retainValue
  cases value.reference? with
  | none => exact spares_ok
  | some position => exact spares_retain wiped position

theorem retainValue_withstood (wiped : store.chain.pools.Wiped) {value : Value} {middle : Store}
    (ran : Store.retainValue value store = .ok () middle) :
    store.Withstands value.reference?.toList middle := by
  unfold Store.retainValue at ran
  cases reference : value.reference? with
  | none =>
    rw [reference] at ran
    cases ran
    exact .refl store
  | some position =>
    rw [reference] at ran
    dsimp only at ran
    rw [retain_eq] at ran
    exact retainAll_withstood wiped ran

/-! ### Operations that take nothing away -/

theorem onChain_bind {α β : Type} (action : ChainM α) (next : α → ChainM β) (store : Store) :
    onChain (action >>= next) store =
      (onChain action >>= fun value => onChain (next value)) store := by
  cases ran : action store.chain with
  | error fault reached =>
    rw [Action.bind_of_error (onChain_of_error ran)]
    exact onChain_of_error (Action.bind_of_error ran)
  | ok value reached =>
    rw [Action.bind_of_ok (onChain_of_ok ran)]
    unfold onChain Action.onPart
    rw [Action.bind_of_ok ran]

/-- Reading a payload changes nothing, whether it succeeds or not. -/
theorem withstands_deref (wiped : store.chain.pools.Wiped) (position : Nat) :
    store.Withstands [] (Action.reached (Store.deref position store)) := by
  have read : store.Withstands []
      (Action.reached (onChain (Chain.read store.settings.promotionDistance position) store)) := by
    have shows := Chain.follows_read store.settings.promotionDistance position store.chain wiped
    have stays : Action.reached (Snapshot.look position store.chain.snapshot) =
        store.chain.snapshot := by
      unfold Snapshot.look
      split <;> rfl
    generalize flat : Snapshot.look position store.chain.snapshot = result at shows stays
    cases ran : Chain.read store.settings.promotionDistance position store.chain with
    | ok cell reached =>
      rw [onChain_of_ok ran]
      rw [ran] at shows
      cases shows with
      | ok keeps => exact withstands_onChain keeps (stays.trans (Snapshot.raised_nil _).symm)
    | error fault reached =>
      rw [onChain_of_error ran]
      rw [ran] at shows
      cases shows with
      | error keeps => exact withstands_onChain keeps (stays.trans (Snapshot.raised_nil _).symm)
  unfold Store.deref
  rw [Action.bind_of_ok (rfl : (get : StoreM Store) store = .ok store store), onChain_bind]
  cases ran : onChain (Chain.read store.settings.promotionDistance position) store with
  | error fault reached =>
    rw [Action.bind_of_error ran]
    rwa [ran] at read
  | ok cell reached =>
    rw [Action.bind_of_ok ran]
    rw [ran] at read
    cases cell.payload <;> exact read

theorem spares_deref (wiped : store.chain.pools.Wiped) (position : Nat) :
    store.Spares [] (Store.deref position store) := by
  intro error after failed
  have withstands := withstands_deref wiped position
  rw [failed] at withstands
  exact ⟨[], List.nil_prefix, withstands⟩

theorem Stands.spares_alloc (stands : store.Stands entries bindings) (payload : Payload) :
    store.Spares payload.references (Store.alloc payload store) := by
  refine (spares_retainAll stands.chain.wiped payload.references).bind fun _ middle ran => ?_
  by_cases present : ∀ position ∈ payload.references, position ∈ entries.map Entry.position
  · obtain ⟨position, after, allocating, -⟩ := stands.alloc payload present
    unfold Store.alloc at allocating
    rw [Action.bind_of_ok ran] at allocating
    exact spares_of_ok allocating
  · obtain ⟨fault, reached, counted, failed, -⟩ := stands.chain.retainAll_refused present
    rw [onChain_of_error failed] at ran
    cases ran

theorem Stands.retainValue (stands : store.Stands entries bindings) {value : Value} {middle : Store}
    (ran : Store.retainValue value store = .ok () middle) :
    ∃ counted, middle.Stands counted bindings := by
  unfold Store.retainValue at ran
  cases reference : value.reference? with
  | none =>
    rw [reference] at ran
    cases ran
    exact ⟨entries, stands⟩
  | some position =>
    rw [reference] at ran
    dsimp only at ran
    obtain ⟨-, reached, retaining, holds, -⟩ | ⟨-, fault, reached, failed, -⟩ :=
      stands.chain.retain_cases position
    · rw [Store.retain, onChain_of_ok retaining] at ran
      cases ran
      exact ⟨_, holds, stands.idle⟩
    · rw [Store.retain, onChain_of_error failed] at ran
      cases ran

theorem Stands.spares_push (stands : store.Stands entries bindings)
    (name : String) (value : Value) :
    store.Spares [] (Store.push name value store) := by
  refine (spares_retainValue stands.chain.wiped value).bind fun _ middle ran => ?_
  obtain ⟨counted, stood⟩ := stands.retainValue ran
  obtain ⟨after, pushing, -⟩ := stood.pushOnly name value
  exact spares_of_ok pushing

theorem Stands.spares_rename (stands : store.Stands entries bindings) (name renamed : String) :
    store.Spares [] (Store.rename name renamed store) := by
  unfold Store.rename
  rw [onChain_bind]
  refine (spares_onChain stands.chain.wiped (Chain.follows_remove name)
    (Snapshot.atomic_remove name)).bind fun value middle ran => ?_
  obtain ⟨front, removed, back, reached, -, -, removing, holds, -⟩ | ⟨-, reached, failed, -⟩ :=
    stands.chain.remove_cases name
  · rw [onChain_of_ok removing] at ran
    cases ran
    obtain ⟨after, pushing, -⟩ := holds.push renamed value
    exact spares_of_ok (onChain_of_ok pushing)
  · rw [onChain_of_error failed] at ran
    cases ran

/-! ### Operations that take something away -/

theorem Spares.of_nil {α : Type} {result : EStateM.Result StoreFault Store α} {stored : List Nat}
    (spares : store.Spares [] result) : store.Spares stored result := by
  intro error after failed
  obtain ⟨counted, some, withstands⟩ := spares error after failed
  exact ⟨counted, (List.prefix_nil.mp some) ▸ List.nil_prefix, withstands⟩

theorem Accounts.spares_assign (accounts : store.Accounts surplus 0 entries bindings)
    (position : Nat) (payload : Payload) :
    store.Spares payload.references (Store.assign position payload store) := by
  have wiped := accounts.stands.chain.wiped
  obtain ⟨-, left, after, ran, -⟩ | ⟨refused, -⟩ := accounts.assign_cases position payload
  · exact spares_of_ok ran
  refine (spares_retainAll wiped payload.references).bind fun _ middle retaining => ?_
  obtain ⟨present, retained, again, owing⟩ | ⟨-, fault, after, failed, -⟩ :=
    accounts.retainAll_cases payload.references
  · rw [retaining] at again
    cases again
    rw [← List.append_nil payload.references]
    refine (retainAll_withstood wiped retaining).spares ((spares_onChain owing.stands.chain.wiped
      (Chain.follows_overwrite position payload) (Snapshot.atomic_overwrite position payload)).bind
      fun old written writing => ?_)
    -- What is overwritten was in use, so all that is asked for is met.
    obtain ⟨entry, rest, here, split, -⟩ | ⟨-, fault, reached, failed, -⟩ :=
      owing.stands.chain.overwrite_cases position payload
    · refine absurd ⟨?_, present⟩ refused
      rw [← Chain.map_position_bump entries payload.references, split, Multiset.map_cons, here]
      exact Multiset.mem_cons_self position _
    · rw [onChain_of_error failed] at writing
      cases writing
  · rw [retaining] at failed
    cases failed

theorem Accounts.spares_update {α : Type} (accounts : store.Accounts surplus 0 entries bindings)
    (position : Nat) (edit : Payload → α × Payload) :
    store.Spares ((store.chain.snapshot.entry? position).elim []
      fun entry => (edit entry.payload).2.references) (Store.update position edit store) := by
  refine (spares_deref accounts.stands.chain.wiped position).of_nil.bind
    fun payload middle ran => ?_
  have withstands := withstands_deref accounts.stands.chain.wiped position
  rw [ran] at withstands
  obtain ⟨entry, member, here, after, reading, still⟩ | ⟨-, fault, after, failed, -⟩ :=
    accounts.read_cases position
  · rw [ran] at reading
    cases reading
    rw [accounts.stands.chain.heap.entry?_eq_some_iff.mpr ⟨member, here⟩]
    exact withstands.spares ((still.spares_assign position (edit entry.payload).2).bind
      fun _ _ _ => spares_ok)
  · rw [ran] at failed
    cases failed

theorem Accounts.spares_free (accounts : store.Accounts surplus 0 entries bindings)
    (position : Nat) :
    store.Spares [] (Store.free position store) := by
  obtain ⟨-, left, after, ran, -⟩ | ⟨refused, -⟩ := accounts.free_cases position
  · exact spares_of_ok ran
  unfold Store.free Chain.freeAndRelease
  rw [Action.bind_of_ok (rfl : (get : StoreM Store) store = .ok store store), accounts.stands.idle,
    onChain_bind]
  refine (spares_onChain accounts.stands.chain.wiped (Chain.follows_free false position)
    (Snapshot.atomic_free false position)).bind fun freed middle ran => ?_
  have ends := accounts.stands.chain.free false position
  cases freeing : Chain.free false position store.chain with
  | error fault reached =>
    rw [onChain_of_error freeing] at ran
    cases ran
  | ok payload reached =>
    rw [freeing] at ends
    cases ends with
    | @freed entry rest _ here split allowed =>
      subst split
      exact absurd ⟨entry, Multiset.mem_cons_self _ _, here,
        allowed.resolve_right Bool.false_ne_true⟩ refused
    | skipped isSweeping => exact absurd isSweeping Bool.false_ne_true

theorem Accounts.spares_remove (accounts : store.Accounts surplus 0 entries bindings)
    (name : String) :
    store.Spares [] (Store.remove name store) := by
  obtain ⟨_, _, _, _, after, -, -, ran, -⟩ | ⟨unbound, -⟩ := accounts.remove_cases name
  · exact spares_of_ok ran
  refine (spares_onChain accounts.stands.chain.wiped (Chain.follows_remove name)
    (Snapshot.atomic_remove name)).bind fun value middle ran => ?_
  obtain ⟨front, removed, back, after, split, -⟩ | ⟨-, after, failed, -⟩ :=
    accounts.removeOnly_cases name
  · exact absurd (by simp [split]) unbound
  · rw [ran] at failed
    cases failed

theorem Accounts.spares_replace (accounts : store.Accounts surplus 0 entries bindings)
    (name : String) (value : Value) :
    store.Spares value.reference?.toList (Store.replace name value store) := by
  have wiped := accounts.stands.chain.wiped
  obtain ⟨-, left, bound, after, ran, -⟩ | ⟨refused, -⟩ := accounts.replace_cases name value
  · exact spares_of_ok ran
  refine (spares_retainValue wiped value).of_nil.bind fun _ middle retaining => ?_
  obtain ⟨present, counted, retained, again, owing, -⟩ | ⟨-, fault, after, failed, -⟩ :=
    accounts.retainValue_cases value
  · rw [retaining] at again
    cases again
    rw [← List.append_nil value.reference?.toList]
    refine (retainValue_withstood wiped retaining).spares ((spares_onChain owing.stands.chain.wiped
      (Chain.follows_replace name value) (Snapshot.atomic_replace name value)).bind
      fun old written writing => ?_)
    obtain ⟨isBound, -⟩ | ⟨-, fault, after, failed, -⟩ := owing.replaceOnly_cases name
    · exact absurd ⟨isBound, present⟩ refused
    · rw [writing] at failed
      cases failed
  · rw [retaining] at failed
    cases failed

end Store

/-! ### Taking a reference away by hand -/

namespace Entry

variable {within : Set Nat} {entries rest : Multiset Entry} {entry : Entry} {pending : List Nat}

/-- The payload of a cell in use holds a reference. -/
def Refers (entries : Multiset Entry) (holder position : Nat) : Prop :=
  ∃ entry ∈ entries, entry.position = holder ∧ position ∈ entry.payload.references

/-- What is pending lies in a set that payloads do not lead out of. In this set every reference is
to a cell in use, which counts it; what lies elsewhere may refer to free cells there, too. -/
structure Clears (within : Set Nat) (pending : List Nat) (entries : Multiset Entry) : Prop where
  counted : ∀ entry ∈ entries, (pending + held entries).count entry.position ≤ entry.count
  targets : ∀ position ∈ within, position ∈ pending + held entries →
    position ∈ entries.map Entry.position
  pends : ∀ position ∈ pending, position ∈ within
  closed : ∀ entry ∈ entries, entry.position ∈ within →
    ∀ position ∈ entry.payload.references, position ∈ within

theorem Clears.lower {count : Nat} (lowered : entry.count = count + 1)
    (distinct : ((entry ::ₘ rest).map Entry.position).Nodup)
    (clears : Clears within (entry.position :: pending) (entry ::ₘ rest)) :
    Clears within pending ({ entry with count := count } ::ₘ rest) := by
  have sameHeld : held ({ entry with count := count } ::ₘ rest) = held (entry ::ₘ rest) := by
    rw [held_cons, held_cons]
  refine ⟨fun other member => ?_, fun position inside member => ?_,
    fun position member => clears.pends position (List.mem_cons_of_mem _ member),
    fun other member => ?_⟩
  · rw [sameHeld]
    obtain same | below := Multiset.mem_cons.mp member
    · subst same
      have counted := clears.counted entry (Multiset.mem_cons_self _ _)
      rw [← Multiset.cons_coe, Multiset.cons_add, Multiset.count_cons_self, lowered] at counted
      exact Nat.succ_le_succ_iff.mp counted
    · have counted := clears.counted other (Multiset.mem_cons_of_mem below)
      rwa [← Multiset.cons_coe, Multiset.cons_add,
        Multiset.count_cons_of_ne (apart_of_nodup distinct below)] at counted
  · have listed := clears.targets position inside (by
      rw [sameHeld] at member
      rw [← Multiset.cons_coe, Multiset.cons_add]
      exact Multiset.mem_cons_of_mem member)
    rwa [Multiset.map_cons] at listed ⊢
  · obtain same | below := Multiset.mem_cons.mp member
    · subst same
      exact clears.closed entry (Multiset.mem_cons_self _ _)
    · exact clears.closed other (Multiset.mem_cons_of_mem below)

/-- A cell that counts one reference is referred to by no other. -/
theorem Clears.free (last : entry.count = 1)
    (clears : Clears within (entry.position :: pending) (entry ::ₘ rest)) :
    Clears within (entry.payload.references.reverse ++ pending) rest := by
  have moved :
      ((entry.payload.references.reverse ++ pending : List Nat) : Multiset Nat) + held rest =
      pending + held (entry ::ₘ rest) := by
    rw [held_cons, ← Multiset.coe_add, Multiset.coe_reverse]
    ac_rfl
  have more (position : Nat) : (pending + held (entry ::ₘ rest)).count position ≤
      ((entry.position :: pending : List Nat) + held (entry ::ₘ rest)).count position := by
    rw [← Multiset.cons_coe, Multiset.cons_add]
    exact Multiset.count_le_count_cons ..
  have unreferenced : entry.position ∉ pending + held (entry ::ₘ rest) := by
    have counted := clears.counted entry (Multiset.mem_cons_self _ _)
    rw [← Multiset.cons_coe, Multiset.cons_add, Multiset.count_cons_self, last] at counted
    rw [← Multiset.count_eq_zero]
    omega
  refine ⟨fun other member => ?_, fun position inside member => ?_, fun position member => ?_,
    fun other member => clears.closed other (Multiset.mem_cons_of_mem member)⟩
  · rw [moved]
    exact (more _).trans (clears.counted other (Multiset.mem_cons_of_mem member))
  · rw [moved] at member
    have listed := clears.targets position inside (by
      rw [← Multiset.cons_coe, Multiset.cons_add]
      exact Multiset.mem_cons_of_mem member)
    rw [Multiset.map_cons, Multiset.mem_cons] at listed
    exact listed.resolve_left fun same => unreferenced (same ▸ member)
  · rw [List.mem_append, List.mem_reverse] at member
    exact member.elim
      (clears.closed entry (Multiset.mem_cons_self _ _)
        (clears.pends entry.position List.mem_cons_self) position)
      fun pends => clears.pends position (List.mem_cons_of_mem _ pends)

end Entry

namespace Chain

variable {entries : Multiset Entry} {bindings : Bindings} {chain after : Chain} {position : Nat}

theorem Holds.clear {within : Set Nat} {pending : List Nat} (holds : chain.Holds entries bindings)
    (clears : Entry.Clears within pending entries) :
    ∃ after, Chain.releaseAll false pending chain = .ok () after := by
  fun_induction Chain.releaseAll false pending chain generalizing entries with
  | case1 chain => exact ⟨chain, rfl⟩
  | case2 chain position pending fault after failed =>
    have ends := holds.releaseOne false position
    rw [failed] at ends
    cases ends with
    | failed refused _ _ =>
      obtain ⟨isEntry, none⟩ | ⟨absent, -⟩ := refused
      · obtain ⟨entry, member, rfl⟩ := Multiset.mem_map.mp isEntry
        have counted := clears.counted entry member
        rw [none entry member rfl, ← Multiset.cons_coe, Multiset.cons_add,
          Multiset.count_cons_self] at counted
        exact absurd counted (Nat.not_succ_le_zero _)
      · exact absurd (clears.targets position (clears.pends position List.mem_cons_self) (by simp))
          absent
  | case3 chain position pending freed once released inductionHypothesis =>
    have ends := holds.releaseOne false position
    rw [released] at ends
    cases ends with
    | lowered here split counted held _ =>
      subst here split
      exact inductionHypothesis held (clears.lower counted holds.heap.distinct)
    | freed here split counted held _ =>
      subst here split
      exact inductionHypothesis held (clears.free counted)
    | skipped isSweeping => exact absurd isSweeping Bool.false_ne_true

/-- A reference that cannot be taken away is looked at and nothing else. -/
theorem Holds.releaseOne_unchanged {fault : StoreFault} (holds : chain.Holds entries bindings)
    (failed : Chain.releaseOne false position chain = .error fault after) :
    chain.Keeps after ∧ after.snapshot = chain.snapshot := by
  have refused : ∃ error, Snapshot.change position Cell.decrease chain.snapshot =
      .error error chain.snapshot := by
    have ends := holds.releaseOne false position
    rw [failed] at ends
    cases ends with
    | failed refused _ _ =>
      unfold Snapshot.change
      obtain ⟨entry, rest, rfl, rfl, seen⟩ | ⟨-, ⟨-, next, seen⟩ | ⟨-, seen⟩⟩ :=
        holds.heap.cell_cases position
      · obtain ⟨-, none⟩ | ⟨absent, -⟩ := refused
        · rw [seen]
          simp only [Cell.decrease, Entry.cell, none entry (Multiset.mem_cons_self _ _) rfl]
          exact ⟨_, rfl⟩
        · exact absurd (by simp) absent
      · rw [seen]
        exact ⟨_, rfl⟩
      · rw [seen]
        exact ⟨_, rfl⟩
  obtain ⟨error, flat⟩ := refused
  obtain ⟨reached, ran, same, keeps⟩ :=
    (follows_change position Cell.decrease).error holds.wiped flat
  have dropping : Chain.releaseOne false position chain = .error error reached := by
    unfold Chain.releaseOne Chain.drop
    rw [if_neg Bool.false_ne_true, Action.bind_of_error ran]
  rw [failed] at dropping
  cases dropping
  exact ⟨keeps, same⟩

/-- Taking the only reference to a cell away frees it, and then all that it alone led to; unless it
led back to itself. -/
theorem Holds.release_last (holds : chain.Holds entries bindings)
    (counted : ∀ entry ∈ entries, (Entry.held entries).count entry.position ≤ entry.count)
    (targets : ∀ other ∈ Entry.held entries, other ∈ entries.map Entry.position)
    (apart : ¬ Relation.TransGen (Entry.Refers entries) position position) {payload : Payload}
    (released : Chain.releaseOne false position chain = .ok (some payload) after) :
    ∃ last, Chain.releaseAll false [position] chain = .ok () last := by
  rw [Chain.releaseAll_of_ok released]
  have ends := holds.releaseOne false position
  rw [released] at ends
  cases ends with
  | @freed entry rest _ here split only held =>
    subst here split
    have moved : ((entry.payload.references.reverse : List Nat) : Multiset Nat) + Entry.held rest =
        Entry.held (entry ::ₘ rest) := by
      rw [Entry.held_cons, Multiset.coe_reverse]
    have clears : Entry.Clears
        {other | Relation.TransGen (Entry.Refers (entry ::ₘ rest)) entry.position other}
        entry.payload.references.reverse rest := by
      refine ⟨fun other member => ?_, fun other inside member => ?_, fun other member => ?_,
        fun other member inside target refers => ?_⟩
      · rw [moved]
        exact counted other (Multiset.mem_cons_of_mem member)
      · rw [moved] at member
        have listed := targets other member
        rw [Multiset.map_cons, Multiset.mem_cons] at listed
        exact listed.resolve_left fun same => apart (same ▸ inside)
      · exact .single ⟨entry, Multiset.mem_cons_self _ _, rfl, List.mem_reverse.mp member⟩
      · exact .tail inside ⟨other, Multiset.mem_cons_of_mem member, rfl, refers⟩
    rw [Option.elim_some, List.append_nil]
    exact held.clear clears

end Chain

namespace Store

variable {surplus : Nat → Nat} {entries : Multiset Entry} {bindings : Bindings} {store : Store}

theorem release_eq (idle : store.sweeping = false) (position : Nat) :
    Store.release position store = onChain (Chain.releaseAll false [position]) store := by
  unfold Store.release Store.releaseAll
  rw [Action.bind_of_ok (rfl : (get : StoreM Store) store = .ok store store), idle]
  rfl

theorem Stands.spares_release (stands : store.Stands entries bindings)
    (counted : ∀ entry ∈ entries, (Entry.held entries).count entry.position ≤ entry.count)
    (targets : ∀ position ∈ Entry.held entries, position ∈ entries.map Entry.position)
    {position : Nat}
    (apart : ∀ entry ∈ entries, entry.position = position → entry.count = 1 →
      ¬ Relation.TransGen (Entry.Refers entries) position position) :
    store.Spares [] (Store.release position store) := by
  rw [release_eq stands.idle]
  have ends := stands.chain.releaseOne false position
  cases ran : Chain.releaseOne false position store.chain with
  | error fault reached =>
    obtain ⟨keeps, same⟩ := stands.chain.releaseOne_unchanged ran
    rw [onChain_of_error (Chain.releaseAll_of_error ran)]
    intro error after failed
    cases failed
    exact ⟨[], List.nil_prefix,
      withstands_onChain keeps (same.trans (Snapshot.raised_nil _).symm)⟩
  | ok freed reached =>
    cases freed with
    | none =>
      have done : Chain.releaseAll false [position] store.chain = .ok () reached := by
        rw [Chain.releaseAll_of_ok ran]
        exact Chain.releaseAll.eq_1 ..
      exact spares_of_ok (onChain_of_ok done)
    | some payload =>
      rw [ran] at ends
      cases ends with
      | @freed entry rest _ here split only =>
        obtain ⟨last, done⟩ := stands.chain.release_last counted targets
          (apart entry (split ▸ Multiset.mem_cons_self entry rest) here only) ran
        exact spares_of_ok (onChain_of_ok done)

end Store

/-! ### Refusals after any run -/

namespace Operation

/-- The references in what an operation is to store. -/
def stored (view : Snapshot) : Operation → List Nat
  | .access (.alloc payload) => payload.references
  | .access (.assign _ payload) => payload.references
  | .access (.update position edit) =>
    (view.entry? position).elim [] fun entry => (edit entry.payload).2.references
  | .access (.replace _ value) => value.reference?.toList
  | _ => []

/-- Whether an operation takes references away other than by sweeping. -/
def releases : Operation → Bool
  | .access (.assign ..) | .access (.update ..) | .access (.free ..) | .access (.release ..)
  | .access (.remove ..) | .access (.replace ..) => true
  | _ => false

variable {store : Store} {entries : Multiset Entry} {bindings : Bindings} {surplus : Nat → Nat}

theorem spares_perform (operation : Operation) (stands : store.Stands entries bindings)
    (inside : ∀ position ∈ bindings.held + Entry.held entries,
      position < store.chain.counters.heapSize)
    (balanced : Entry.Balanced surplus bindings.held entries)
    (live : operation.releases = true → Entry.Sealed bindings.held entries)
    (apart : ∀ position, operation = .access (.release position) → ∀ entry ∈ entries,
      entry.position = position → entry.count = 1 →
        ¬ Relation.TransGen (Entry.Refers entries) position position) :
    store.Spares (operation.stored store.chain.snapshot) (operation.perform store) := by
  have wiped := stands.chain.wiped
  have accounts (releases : operation.releases = true) :
      store.Accounts surplus 0 entries bindings :=
    ⟨stands, (zero_add bindings.held).symm ▸ balanced,
      (zero_add bindings.held).symm ▸ live releases⟩
  cases operation with
  | access made =>
    cases made with
    | alloc payload => exact (stands.spares_alloc payload).answered _
    | deref position => exact (Store.spares_deref wiped position).answered _
    | peek position => exact (Store.spares_read _).answered _
    | count position => exact (Store.spares_read _).answered _
    | isFreed position => exact (Store.spares_read _).answered _
    | assign position payload =>
      exact ((accounts rfl).spares_assign position payload).answered fun _ => .done
    | update position edit => exact ((accounts rfl).spares_update position edit).answered _
    | free position => exact ((accounts rfl).spares_free position).answered fun _ => .done
    | retain position => exact (Store.spares_retain wiped position).answered fun _ => .done
    | release position =>
      refine (stands.spares_release (fun entry member => ?_) (fun other held => ?_)
        (apart position rfl)).answered fun _ => .done
      · rw [balanced entry member, Multiset.count_add]
        omega
      · exact live rfl other (Multiset.mem_add.mpr (.inr held))
    | push name value => exact (stands.spares_push name value).answered fun _ => .done
    | lookup name => exact (Store.spares_read _).answered _
    | contains name => exact (Store.spares_read _).answered _
    | remove name => exact ((accounts rfl).spares_remove name).answered fun _ => .done
    | replace name value => exact ((accounts rfl).spares_replace name value).answered fun _ => .done
    | rename name renamed => exact (stands.spares_rename name renamed).answered fun _ => .done
    | bindings => exact (Store.spares_read _).answered _
    | counters => exact (Store.spares_read _).answered _
    | sweep forced =>
      refine Store.Spares.answered ?_ _
      obtain ⟨-, ran⟩ | ⟨left, -, ⟨report, after, ran, -⟩ | ⟨after, ran, -⟩⟩ :=
        stands.sweep_cases balanced inside forced
      · exact Store.spares_of_ok ran
      · exact Store.spares_of_ok ran
      · exact ran ▸ Store.spares_defect
    | takeRequest => exact Store.spares_ok
  | freeze resume => exact Store.spares_ok
  | rollback => exact Store.spares_ok
  | restore checkpoint =>
    refine Store.Spares.answered (fun error after failed => ?_) _
    obtain ⟨fault, refused, -⟩ | ⟨_, resume, restored, ran, -⟩ := store.restore_cases checkpoint
    · rw [refused] at failed
      cases failed
      exact ⟨[], List.nil_prefix, .refl store⟩
    · rw [ran] at failed
      cases failed
  | collapse checkpoint =>
    refine Store.Spares.answered (fun error after failed => ?_) fun _ => .done
    obtain ⟨refused, -⟩ | ⟨-, merged, ran, -⟩ := store.collapse_cases checkpoint
    · rw [refused] at failed
      cases failed
      exact ⟨[], List.nil_prefix, .refl store⟩
    · rw [ran] at failed
      cases failed
  | clear => exact Store.spares_ok

end Operation

/-- An operation that is refused, whichever it is and whatever went before, leaves a store as it was
but for references that it has counted, all of them in the value that it was to store. This is asked
where every cell counts its occurrences. What takes references away must find them at cells in use,
and a reference that is taken away by hand must not be the only one to a cell that leads back to
itself. -/
theorem refusal_leaves_store (settings : StoreSettings) (operations : List Operation)
    (operation : Operation) :
    let store := (Store.empty settings).after operations
    let view := store.chain.snapshot
    (∀ entry ∈ view.entries, view.references.count entry.position ≤ entry.count) →
      (operation.releases = true →
        ∀ position ∈ view.references, position ∈ view.entries.map Entry.position) →
      (∀ position, operation = .access (.release position) → ∀ entry ∈ view.entries,
        entry.position = position → entry.count = 1 →
          ¬ Relation.TransGen (Entry.Refers view.entries) position position) →
      ∀ error after, operation.perform store = .error (.refused error) after →
        ∃ counted, counted <+: operation.stored view ∧ store.Withstands counted after ∧
          after.statistics = store.statistics ∧ after.bindings = store.bindings := by
  intro store view counted live apart error after failed
  obtain ⟨inOrder, each⟩ := Store.sound_after settings operations
  obtain ⟨entries, bindings, heap, stack, inside⟩ := each.tail
  have stands : store.Stands entries bindings := ⟨⟨heap, stack, inOrder.wiped⟩, inOrder.idle⟩
  obtain ⟨surplus, balanced⟩ := heap.exists_balanced stack counted
  change operation.releases = true → ∀ position ∈ store.chain.snapshot.references,
    position ∈ store.chain.snapshot.entries.map Entry.position at live
  rw [heap.references_eq stack, heap.entries_eq] at live
  rw [heap.entries_eq] at apart
  obtain ⟨references, some, withstands⟩ :=
    operation.spares_perform stands inside balanced live apart error after failed
  exact ⟨references, some, withstands, withstands.statistics, withstands.bindings⟩

/-- A list that was to hold itself and a cell that does not exist, in a generation above its own: it
counts the first of the two references. -/
theorem refusal_leaves_store_outside :
    let operation : Operation := .access (.assign 0 (.list [.ref 0, .ref 7]))
    let store := (Store.empty {}).after [.access (.alloc (.list [])), .freeze ⟨0, Signal.enter, 0⟩]
    let view := store.chain.snapshot
    (∀ entry ∈ view.entries, view.references.count entry.position ≤ entry.count) ∧
      (operation.releases = true →
        ∀ position ∈ view.references, position ∈ view.entries.map Entry.position) ∧
      (∀ position, operation = .access (.release position) → ∀ entry ∈ view.entries,
        entry.position = position → entry.count = 1 →
          ¬ Relation.TransGen (Entry.Refers view.entries) position position) ∧
      ∃ after, operation.perform store = .error (.refused (.outsideHeap 7)) after ∧
        ∃ counted, counted <+: operation.stored view ∧ store.Withstands counted after ∧
          after.statistics = store.statistics ∧ after.bindings = store.bindings := by
  intro operation store view
  have counted : ∀ entry ∈ view.entries, view.references.count entry.position ≤ entry.count := by
    decide +kernel
  have live : operation.releases = true →
      ∀ position ∈ view.references, position ∈ view.entries.map Entry.position := by
    decide +kernel
  have apart : ∀ position, operation = .access (.release position) → ∀ entry ∈ view.entries,
      entry.position = position → entry.count = 1 →
        ¬ Relation.TransGen (Entry.Refers view.entries) position position := by
    intro position same
    simp only [operation, Operation.access.injEq, reduceCtorEq] at same
  have failed : operation.perform store = .error (.refused (.outsideHeap 7))
      (Action.reached (operation.perform store)) :=
    Action.eq_error_of_answer (by
      simp only [operation, store, Operation.perform, Access.perform, Store.assign_eq]
      decide +kernel)
  exact ⟨counted, live, apart, _, failed,
    refusal_leaves_store {} _ operation counted live apart _ _ failed⟩

/-- A name that is bound to a free cell is unbound before it turns out that there is nothing to take
away. A list that holds itself is freed before it turns out that it was the one to hold the
reference. -/
theorem refusal_may_come_late :
    let bound := (Store.empty {}).after [
      .access (.alloc (.list [])), .access (.push "x" (.ref 0)), .access (.release 0)]
    let looped := (Store.empty {}).after [
      .access (.alloc (.list [])), .access (.assign 0 (.list [.ref 0]))]
    ((∀ entry ∈ bound.chain.snapshot.entries,
        bound.chain.snapshot.references.count entry.position ≤ entry.count) ∧
      bound.bindings = [("x", .ref 0)] ∧
      ∃ after, (Operation.access (.remove "x")).perform bound =
        .error (.refused (.freedCell 0)) after ∧ after.bindings = []) ∧
    (∀ entry ∈ looped.chain.snapshot.entries,
        looped.chain.snapshot.references.count entry.position ≤ entry.count) ∧
      looped.isFreed 0 = .ok false ∧
      ∃ after, (Operation.access (.release 0)).perform looped =
        .error (.refused (.freedCell 0)) after ∧ after.isFreed 0 = .ok true := by
  intro bound looped
  constructor
  · let built := (Store.empty {}).after [
      .access (.alloc (.list [])), .access (.push "x" (.ref 0))]
    let freed : Store := { built with
      chain := Action.reached (Chain.releaseOne false 0 built.chain) }
    have leaf : Chain.releaseOne false 0 built.chain = .ok (some (.list [])) freed.chain :=
      Action.eq_ok_of_answer (by decide +kernel)
    have releasing : Chain.releaseAll false [0] built.chain = .ok () freed.chain := by
      rw [Chain.releaseAll_of_ok leaf]
      exact Chain.releaseAll.eq_1 ..
    have released : Store.release 0 built = .ok () freed :=
      (Store.release_eq rfl 0).trans (Store.onChain_of_ok releasing)
    have reached : bound = freed := by
      change Action.reached ((Store.release 0 >>= fun _ => pure Answer.done) built) = _
      rw [Action.bind_of_ok released]
      rfl
    rw [reached]
    obtain ⟨removed, isRemoved⟩ : ∃ removed,
        Action.reached (Store.onChain (Chain.remove "x") freed) = removed := ⟨_, rfl⟩
    have removing : Store.onChain (Chain.remove "x") freed = .ok (.ref 0) removed :=
      isRemoved ▸ Action.eq_ok_of_answer (by decide +kernel)
    have missing : Chain.releaseOne false 0 removed.chain = .error (.refused (.freedCell 0))
        (Action.reached (Chain.releaseOne false 0 removed.chain)) :=
      Action.eq_error_of_answer (by rw [← isRemoved]; decide +kernel)
    have failing : Store.release 0 removed = .error (.refused (.freedCell 0))
        { removed with chain := Action.reached (Chain.releaseOne false 0 removed.chain) } :=
      (Store.release_eq (by rw [← isRemoved]; decide +kernel) 0).trans
        (Store.onChain_of_error (Chain.releaseAll_of_error missing))
    have stops : Store.remove "x" freed = .error (.refused (.freedCell 0))
        { removed with chain := Action.reached (Chain.releaseOne false 0 removed.chain) } :=
      (Action.bind_of_ok removing).trans failing
    refine ⟨by decide +kernel, by decide +kernel, _, Action.bind_of_error stops, ?_⟩
    rw [← isRemoved]
    decide +kernel
  · have built : looped = (Store.empty {}).after [
        .access (.alloc (.list [])), .access (.assign 0 (.list [.ref 0]))] := rfl
    simp only [Store.after_cons, Store.after_nil, Operation.perform, Access.perform,
      Store.assign_eq] at built
    generalize looped = store at built
    obtain ⟨once, isOnce⟩ : ∃ once, Action.reached (Chain.releaseOne false 0 store.chain) = once :=
      ⟨_, rfl⟩
    have first : Chain.releaseOne false 0 store.chain = .ok (some (.list [.ref 0])) once :=
      isOnce ▸ Action.eq_ok_of_answer (by rw [built]; decide +kernel)
    have second : Chain.releaseOne false 0 once = .error (.refused (.freedCell 0))
        (Action.reached (Chain.releaseOne false 0 once)) :=
      Action.eq_error_of_answer (by rw [← isOnce, built]; decide +kernel)
    have stops : Chain.releaseAll false [0] store.chain = .error (.refused (.freedCell 0))
        (Action.reached (Chain.releaseOne false 0 once)) := by
      rw [Chain.releaseAll_of_ok first]
      exact Chain.releaseAll_of_error second
    have failing : Store.release 0 store = .error (.refused (.freedCell 0))
        { store with chain := Action.reached (Chain.releaseOne false 0 once) } :=
      (Store.release_eq (by rw [built]; decide +kernel) 0).trans (Store.onChain_of_error stops)
    refine ⟨by rw [built]; decide +kernel, by rw [built]; decide +kernel, _,
      Action.bind_of_error failing, ?_⟩
    rw [← isOnce, built]
    decide +kernel

end Rewind
