/-
This file says what the operations of a store do to its entries and bindings, as far as runs use
them: storing, reading and changing payloads, and binding and unbinding names in the order of a
stack. Where the description of a store allows an operation it succeeds.
-/

import Mathlib
import Rewind.Proofs.Store.Outcomes

namespace Rewind

/-- A store holds some entries, has some bindings and is not sweeping. -/
structure Store.Stands (entries : Multiset Entry) (bindings : Bindings) (store : Store) : Prop where
  chain : store.chain.Holds entries bindings
  idle : store.sweeping = false

/-- A sweep is asked for only once the heap has grown up to the threshold. -/
def Store.Calm (store : Store) : Prop :=
  store.sweepRequested = true →
    store.chain.counters.sweepThreshold ≤ store.chain.counters.heapSize

/-- What the operations of a run leave as it is, and by how much the heap may grow. Only when it may
grow a sweep may be asked for. -/
structure Store.Moves (growth : Nat) (before after : Store) : Prop where
  chain : before.chain.Moves growth after.chain
  calm : before.Calm → after.Calm
  quiet : growth = 0 → before.sweepRequested = false → after.sweepRequested = false

namespace Store

variable {entries rest : Multiset Entry} {bindings : Bindings} {store : Store} {entry : Entry}

theorem Moves.refl (store : Store) : store.Moves 0 store :=
  ⟨.refl store.chain, fun calm => calm, fun _ quiet => quiet⟩

theorem Moves.trans {first second third : Store} {growth more : Nat}
    (left : first.Moves growth second) (right : second.Moves more third) :
    first.Moves (growth + more) third where
  chain := left.chain.trans right.chain
  calm := right.calm ∘ left.calm
  quiet none := right.quiet (by omega) ∘ left.quiet (by omega)

/-- An operation on the chain is an operation on the store. -/
theorem onChain_spec {α : Type} {action : ChainM α} {value : α} {reached : Chain}
    (stands : store.Stands entries bindings) {entries' : Multiset Entry} {bindings' : Bindings}
    (ran : action store.chain = .ok value reached) (holds : reached.Holds entries' bindings')
    (moves : store.chain.Moves 0 reached) :
    onChain action store = .ok value { store with chain := reached } ∧
      Stands entries' bindings' { store with chain := reached } ∧
      store.Moves 0 { store with chain := reached } := by
  refine ⟨?_, ⟨holds, stands.idle⟩, moves, fun calm requested => ?_, fun _ quiet => quiet⟩
  · unfold onChain Action.onPart
    rw [ran]
  · have before := calm requested
    have threshold := moves.threshold
    have larger := moves.larger
    change reached.counters.sweepThreshold ≤ reached.counters.heapSize
    omega

/-! ### Looking -/

theorem Stands.lookup (stands : store.Stands entries bindings) {name : String} {value : Value}
    (bound : bindings.reverse.lookup name = some value) : store.lookup name = .ok value := by
  unfold Store.lookup
  rw [Chain.get?_eq_snapshot, ← Chain.snapshot_counters, stands.chain.stack.get?, bound]

theorem Stands.peek (stands : store.Stands entries bindings) (member : entry ∈ entries) :
    store.peek entry.position = .ok entry.payload := by
  unfold Store.peek
  rw [Chain.cell_eq_snapshot, stands.chain.heap.used entry member]
  rfl

theorem Stands.deref (stands : store.Stands entries bindings) (member : entry ∈ entries) :
    ∃ after, Store.deref entry.position store = .ok entry.payload after ∧
      after.Stands entries bindings ∧ store.Moves 0 after := by
  obtain ⟨other, present, same, reached, ran, holds, moves⟩ | ⟨absent, -⟩ :=
    stands.chain.read_cases store.settings.promotionDistance entry.position
  · rw [stands.chain.heap.unique present member same] at ran
    obtain ⟨ranStore, still, movesStore⟩ := onChain_spec stands ran holds moves
    refine ⟨_, ?_, still, movesStore⟩
    unfold Store.deref
    rw [Action.bind_of_ok (rfl : (get : StoreM Store) store = .ok store store)]
    exact ranStore
  · exact absurd (Multiset.mem_map_of_mem _ member) absent

/-! ### Storing -/

theorem Stands.retainAll (stands : store.Stands entries bindings) {positions : List Nat}
    (present : ∀ position ∈ positions, position ∈ entries.map Entry.position) :
    ∃ after, onChain (Chain.retainAll positions) store = .ok () after ∧
      after.Stands (entries.map (Entry.bump positions)) bindings ∧ store.Moves 0 after := by
  obtain ⟨reached, ran, holds, moves⟩ := stands.chain.retainAll present
  exact ⟨_, onChain_spec stands ran holds moves⟩

theorem Stands.releaseAll {positions : List Nat}
    (stands : store.Stands (entries.map (Entry.bump positions)) bindings)
    (present : ∀ position ∈ positions, position ∈ entries.map Entry.position)
    (positive : ∀ entry ∈ entries, entry.position ∈ positions → 0 < entry.count) :
    ∃ after, Store.releaseAll positions store = .ok () after ∧
      after.Stands entries bindings ∧ store.Moves 0 after := by
  have reversed : Entry.bump positions = Entry.bump positions.reverse :=
    funext fun entry => by simp only [Entry.bump, List.count_reverse]
  rw [reversed] at stands
  obtain ⟨reached, ran, holds, moves⟩ := stands.chain.releaseAll
    (fun position member => present position (List.mem_reverse.mp member))
    (fun entry member inside => positive entry member (List.mem_reverse.mp inside))
  have releasing : Chain.release store.sweeping positions store.chain = .ok () reached := by
    rw [stands.idle]
    exact ran
  exact ⟨_, onChain_spec stands releasing holds moves⟩

theorem Stands.alloc (stands : store.Stands entries bindings) (payload : Payload)
    (present : ∀ position ∈ payload.references, position ∈ entries.map Entry.position) :
    ∃ position after, Store.alloc payload store = .ok position after ∧
      after.Stands (⟨position, payload, 0⟩ ::ₘ entries.map (Entry.bump payload.references))
        bindings ∧ store.Moves 1 after := by
  obtain ⟨retained, retaining, stood, moves⟩ := stands.retainAll present
  obtain ⟨position, grown, reached, ran, holds, moved, request⟩ := stood.chain.alloc payload
  have whole : store.chain.Moves 1 reached := by
    have both := moves.chain.trans moved
    rwa [Nat.zero_add] at both
  have allocating : onChain (Chain.alloc payload) retained =
      .ok (position, grown) { retained with chain := reached } := by
    unfold onChain Action.onPart
    rw [ran]
  unfold Store.alloc
  rw [Action.bind_of_ok retaining, Action.bind_of_ok allocating]
  have calm : store.Calm → retained.sweepRequested = true →
      reached.counters.sweepThreshold ≤ reached.counters.heapSize := by
    intro before requested
    have threshold := moved.threshold
    have larger := moved.larger
    have now := moves.calm before requested
    omega
  cases grown with
  | true =>
    refine ⟨position, _, rfl, ⟨holds, stood.idle⟩, whole, fun before _ => ?_,
      fun impossible => absurd impossible Nat.one_ne_zero⟩
    exact request rfl
  | false =>
    exact ⟨position, _, rfl, ⟨holds, stood.idle⟩, whole,
      fun before requested => calm before requested,
      fun impossible => absurd impossible Nat.one_ne_zero⟩

/-! ### Changing payloads -/

theorem releaseAll_nil : Store.releaseAll [] = pure () := by
  funext store
  unfold Store.releaseAll Chain.release
  rw [Action.bind_of_ok (rfl : (get : StoreM Store) store = .ok store store)]
  unfold onChain Action.onPart
  rw [List.reverse_nil, Chain.releaseAll]
  rfl

/-- Where the old payload held no reference, no worklist has to be gone through; so concrete runs
can be evaluated. -/
theorem assign_eq (position : Nat) (payload : Payload) :
    Store.assign position payload = (do
      onChain (Chain.retainAll payload.references)
      let old ← onChain (do
        let _ ← Chain.own position
        Chain.overwrite position payload)
      if old.references = [] then return () else Store.releaseAll old.references) := by
  unfold Store.assign
  refine congrArg _ (funext fun _ => congrArg _ (funext fun old => ?_))
  split
  · rename_i plain
    rw [plain, releaseAll_nil]
  · rfl

/-- Overwriting a payload without counting anything. -/
theorem Stands.overwrite (stands : store.Stands (entry ::ₘ rest) bindings) (payload : Payload) :
    ∃ after, onChain (do
        let _ ← Chain.own entry.position
        Chain.overwrite entry.position payload) store = .ok entry.payload after ∧
      after.Stands ({ entry with payload := payload } ::ₘ rest) bindings ∧ store.Moves 0 after := by
  obtain ⟨other, others, same, split, reached, ran, holds, moves⟩ | ⟨absent, -⟩ :=
    stands.chain.overwrite_cases entry.position payload
  · have isEntry : other = entry := stands.chain.heap.unique
      (split ▸ Multiset.mem_cons_self other others) (Multiset.mem_cons_self entry rest) same
    subst isEntry
    rw [(Multiset.cons_inj_right other).mp split]
    exact ⟨_, onChain_spec stands ran holds moves⟩
  · exact absurd (by simp) absent

/-- Putting another payload into a cell. It refers to whatever the old one referred to, and to some
positions more. -/
theorem Stands.assign (stands : store.Stands (entry ::ₘ rest) bindings) {payload : Payload}
    {extra : List Nat}
    (counts : ∀ position, payload.references.count position =
      entry.payload.references.count position + extra.count position)
    (present : ∀ position ∈ payload.references,
      position ∈ (entry ::ₘ rest).map Entry.position)
    (positive : ∀ other ∈ entry ::ₘ rest, other.position ∈ entry.payload.references →
      0 < other.count) :
    ∃ after, Store.assign entry.position payload store = .ok () after ∧
      after.Stands (({ entry with payload := payload } ::ₘ rest).map (Entry.bump extra)) bindings ∧
      store.Moves 0 after := by
  obtain ⟨retained, retaining, stood, moves⟩ := stands.retainAll present
  rw [Multiset.map_cons] at stood
  obtain ⟨written, writing, stoodWritten, movesWritten⟩ := stood.overwrite payload
  have bumped : { Entry.bump payload.references entry with payload := payload } ::ₘ
      rest.map (Entry.bump payload.references) =
      (({ entry with payload := payload } ::ₘ rest).map (Entry.bump extra)).map
        (Entry.bump entry.payload.references) := by
    rw [Multiset.map_map, Multiset.map_cons]
    refine congrArg₂ Multiset.cons ?_ (Multiset.map_congr rfl fun other _ => ?_)
    · simp only [Entry.bump, Function.comp_apply, counts, Entry.mk.injEq, true_and]
      omega
    · simp only [Entry.bump, Function.comp_apply, counts, Entry.mk.injEq, true_and]
      omega
  rw [bumped] at stoodWritten
  obtain ⟨after, releasing, stoodAfter, movesAfter⟩ := stoodWritten.releaseAll
    (fun position member => by
      have inside := present position (by
        rw [← List.count_pos_iff] at member ⊢
        have := counts position
        omega)
      rw [Chain.map_position_bump]
      rwa [Multiset.map_cons] at inside ⊢)
    (fun other member inside => by
      obtain ⟨before, listed, rfl⟩ := Multiset.mem_map.mp member
      have counted : 0 < before.count := by
        obtain same | below := Multiset.mem_cons.mp listed
        · subst same
          exact positive entry (Multiset.mem_cons_self _ _) inside
        · exact positive before (Multiset.mem_cons_of_mem below) inside
      exact Nat.add_pos_left counted _)
  refine ⟨after, ?_, stoodAfter, (moves.trans movesWritten).trans movesAfter⟩
  have wrote : onChain (do
      let _ ← Chain.own entry.position
      Chain.overwrite entry.position payload) retained = .ok entry.payload written := writing
  unfold Store.assign
  rw [Action.bind_of_ok retaining, Action.bind_of_ok wrote]
  exact releasing

/-- Changing a payload according to what it was. -/
theorem Stands.update {α : Type} (stands : store.Stands (entry ::ₘ rest) bindings)
    (edit : Payload → α × Payload) (extra : List Nat)
    (counts : ∀ position, (edit entry.payload).2.references.count position =
      entry.payload.references.count position + extra.count position)
    (present : ∀ position ∈ (edit entry.payload).2.references,
      position ∈ (entry ::ₘ rest).map Entry.position)
    (positive : ∀ other ∈ entry ::ₘ rest, other.position ∈ entry.payload.references →
      0 < other.count) :
    ∃ after, Store.update entry.position edit store = .ok (edit entry.payload).1 after ∧
      after.Stands (({ entry with payload := (edit entry.payload).2 } ::ₘ rest).map
        (Entry.bump extra)) bindings ∧ store.Moves 0 after := by
  obtain ⟨read, reading, stood, moves⟩ := stands.deref (Multiset.mem_cons_self entry rest)
  obtain ⟨after, assigning, stoodAfter, movesAfter⟩ := stood.assign counts present positive
  refine ⟨after, ?_, stoodAfter, moves.trans movesAfter⟩
  unfold Store.update
  rw [Action.bind_of_ok reading]
  change (Store.assign entry.position (edit entry.payload).2 >>= fun _ =>
    pure (edit entry.payload).1) read = _
  rw [Action.bind_of_ok assigning]
  rfl

/-! ### Binding -/

theorem Stands.pushOnly (stands : store.Stands entries bindings) (name : String) (value : Value) :
    ∃ after, onChain (Chain.push name value) store = .ok () after ∧
      after.Stands entries (bindings ++ [(name, value)]) ∧ store.Moves 0 after := by
  obtain ⟨reached, ran, holds, moves⟩ := stands.chain.push name value
  exact ⟨_, onChain_spec stands ran holds moves⟩

/-- Binding a value that refers to nothing. -/
theorem Stands.push (stands : store.Stands entries bindings) (name : String) (value : Value)
    (plain : value.reference? = none) :
    ∃ after, Store.push name value store = .ok () after ∧
      after.Stands entries (bindings ++ [(name, value)]) ∧ store.Moves 0 after := by
  obtain ⟨after, ran, stood, moves⟩ := stands.pushOnly name value
  refine ⟨after, ?_, stood, moves⟩
  unfold Store.push Store.retainValue
  rw [plain]
  exact ran

/-- Binding a reference. -/
theorem Stands.pushRef (stands : store.Stands (entry ::ₘ rest) bindings) (name : String) :
    ∃ after, Store.push name (.ref entry.position) store = .ok () after ∧
      after.Stands ({ entry with count := entry.count + 1 } ::ₘ rest)
        (bindings ++ [(name, .ref entry.position)]) ∧ store.Moves 0 after := by
  obtain ⟨reached, ran, holds, chainMoves⟩ := stands.chain.retain
  obtain ⟨retaining, stood, moves⟩ := onChain_spec stands ran holds chainMoves
  obtain ⟨after, pushing, stoodAfter, movesAfter⟩ := stood.pushOnly name (.ref entry.position)
  refine ⟨after, ?_, stoodAfter, moves.trans movesAfter⟩
  change (onChain (Chain.retain entry.position) >>= fun _ =>
    onChain (Chain.push name (.ref entry.position))) store = _
  rw [Action.bind_of_ok retaining]
  exact pushing

theorem Stands.removeOnly {name : String} {value : Value}
    (stands : store.Stands entries (bindings ++ [(name, value)])) :
    ∃ after, onChain (Chain.remove name) store = .ok value after ∧
      after.Stands entries bindings ∧ store.Moves 0 after := by
  obtain ⟨shown, flat, stack, heap⟩ := stands.chain.stack.remove
  obtain ⟨reached, ran, same, keeps⟩ := (Chain.follows_remove name).ok stands.chain.wiped flat
  obtain ⟨holds, moves⟩ := stands.chain.of_sameHeap keeps same heap stack
  exact ⟨_, onChain_spec stands ran holds moves⟩

/-- Unbinding a value that refers to nothing. -/
theorem Stands.remove {name : String} {value : Value}
    (stands : store.Stands entries (bindings ++ [(name, value)]))
    (plain : value.reference? = none) :
    ∃ after, Store.remove name store = .ok () after ∧ after.Stands entries bindings ∧
      store.Moves 0 after := by
  obtain ⟨after, ran, stood, moves⟩ := stands.removeOnly
  refine ⟨after, ?_, stood, moves⟩
  unfold Store.remove
  rw [Action.bind_of_ok ran, Store.releaseValue, plain]
  rfl

/-- Unbinding a reference to a cell that something else refers to. -/
theorem Stands.removeRef {name : String} {count : Nat} (counted : entry.count = count + 2)
    (stands : store.Stands (entry ::ₘ rest) (bindings ++ [(name, .ref entry.position)])) :
    ∃ after, Store.remove name store = .ok () after ∧
      after.Stands ({ entry with count := count + 1 } ::ₘ rest) bindings ∧
      store.Moves 0 after := by
  obtain ⟨removed, removing, stood, moves⟩ := stands.removeOnly
  obtain ⟨reached, ran, holds, chainMoves⟩ := stood.chain.drop false counted
  have releasing : Chain.release removed.sweeping [entry.position] removed.chain =
      .ok () reached := by
    rw [stood.idle]
    change Chain.releaseAll false [entry.position] removed.chain = _
    rw [Chain.releaseAll_of_ok ran]
    exact Chain.releaseAll.eq_1 ..
  obtain ⟨released, stoodAfter, movesAfter⟩ := onChain_spec stood releasing holds chainMoves
  refine ⟨_, ?_, stoodAfter, moves.trans movesAfter⟩
  unfold Store.remove
  rw [Action.bind_of_ok removing]
  exact released

/-- Unbinding the only reference to a cell that refers to nothing frees it. -/
theorem Stands.removeLast {name : String} (counted : entry.count = 1)
    (leaf : entry.payload.references = [])
    (stands : store.Stands (entry ::ₘ rest) (bindings ++ [(name, .ref entry.position)])) :
    ∃ after, Store.remove name store = .ok () after ∧ after.Stands rest bindings ∧
      store.Moves 0 after := by
  obtain ⟨removed, removing, stood, moves⟩ := stands.removeOnly
  obtain ⟨reached, ran, holds, chainMoves⟩ := stood.chain.dropLast false counted
  have releasing : Chain.release removed.sweeping [entry.position] removed.chain =
      .ok () reached := by
    rw [stood.idle]
    change Chain.releaseAll false [entry.position] removed.chain = _
    rw [Chain.releaseAll_of_ok ran, Option.elim_some, leaf]
    exact Chain.releaseAll.eq_1 ..
  obtain ⟨released, stoodAfter, movesAfter⟩ := onChain_spec stood releasing holds chainMoves
  refine ⟨_, ?_, stoodAfter, moves.trans movesAfter⟩
  unfold Store.remove
  rw [Action.bind_of_ok removing]
  exact released

end Store

end Rewind
