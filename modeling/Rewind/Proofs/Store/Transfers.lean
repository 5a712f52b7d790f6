/-
This file follows references through the operations of a store. Counting a reference makes it owed;
storing it in a payload or binding it settles that, and taking it out of there makes it owed again,
until it is taken away. Along the way the account of the store stays even: every cell counts its
occurrences, what is owed, and a surplus that none of this touches.

Each operation either succeeds, or is refused for a reason that can be seen before it begins to take
references away. What it owes when it is refused is written off as surplus.
-/

import Mathlib
import Rewind.Proofs.Store.Collection

namespace Rewind

/-! ### Moving references -/

namespace Entry

variable {surplus : Nat → Nat} {outer : Multiset Nat}
    {entries rest : Multiset Entry} {entry : Entry}
  {positions : List Nat}

theorem Balanced.bump (balanced : Balanced surplus outer entries) (positions : List Nat) :
    Balanced surplus (positions + outer) (entries.map (Entry.bump positions)) := by
  intro entry member
  obtain ⟨former, present, rfl⟩ := Multiset.mem_map.mp member
  have counted := balanced former present
  rw [held_bump]
  simp only [Entry.bump, Multiset.count_add, Multiset.coe_count] at counted ⊢
  omega

theorem Sealed.bump (isSealed : Sealed outer entries)
    (present : ∀ position ∈ positions, position ∈ entries.map Entry.position) :
    Sealed (positions + outer) (entries.map (Entry.bump positions)) := by
  intro position member
  rw [held_bump, add_assoc, Multiset.mem_add] at member
  rw [Chain.map_position_bump]
  exact member.elim (present position) (isSealed position)

/-- What is owed may be written off as surplus. -/
theorem Balanced.writeOff {owed : Multiset Nat}
    (balanced : Balanced surplus (owed + outer) entries) :
    Balanced (fun position => surplus position + owed.count position) outer entries := by
  intro entry member
  have counted := balanced entry member
  simp only [Multiset.count_add] at counted ⊢
  omega

theorem Sealed.mono {owed : Multiset Nat} (isSealed : Sealed (owed + outer) entries) :
    Sealed outer entries := by
  intro position member
  refine isSealed position ?_
  rw [add_assoc]
  exact Multiset.mem_add.mpr (.inr member)

/-- A payload that is stored holds what was owed. Nothing refers to the cell it is stored in yet. -/
theorem Balanced.alloc {payload : Payload} {position : Nat}
    (balanced : Balanced surplus (payload.references + outer) entries)
    (isSealed : Sealed (payload.references + outer) entries)
    (fresh : position ∉ entries.map Entry.position) :
    Balanced (Function.update surplus position 0) outer (⟨position, payload, 0⟩ ::ₘ entries) := by
  have moved : outer + held (⟨position, payload, 0⟩ ::ₘ entries) =
      payload.references + outer + held entries := by
    rw [held_cons]
    ac_rfl
  intro entry member
  rw [moved]
  obtain same | before := Multiset.mem_cons.mp member
  · subst same
    have unreferenced := Multiset.count_eq_zero.mpr fun refers => fresh (isSealed position refers)
    rw [Function.update_self, unreferenced]
  · have different : entry.position ≠ position := fun same =>
      fresh (same ▸ Multiset.mem_map_of_mem _ before)
    rw [Function.update_of_ne different]
    exact balanced entry before

theorem Sealed.alloc {payload : Payload} (position : Nat)
    (isSealed : Sealed (payload.references + outer) entries) :
    Sealed outer (⟨position, payload, 0⟩ ::ₘ entries) := by
  intro other member
  rw [Multiset.map_cons]
  refine Multiset.mem_cons_of_mem (isSealed other ?_)
  rw [held_cons] at member
  simp only [Multiset.mem_add] at member ⊢
  tauto

/-- A payload that is overwritten gives up what it held. -/
theorem Balanced.overwrite {payload : Payload}
    (balanced : Balanced surplus (payload.references + outer) (entry ::ₘ rest)) :
    Balanced surplus (entry.payload.references + outer)
      ({ entry with payload := payload } ::ₘ rest) := by
  have moved : entry.payload.references + outer +
      held ({ entry with payload := payload } ::ₘ rest) =
      payload.references + outer + held (entry ::ₘ rest) := by
    rw [held_cons, held_cons]
    dsimp only
    ac_rfl
  intro other member
  rw [moved]
  obtain same | before := Multiset.mem_cons.mp member
  · subst same
    exact balanced entry (Multiset.mem_cons_self _ _)
  · exact balanced other (Multiset.mem_cons_of_mem before)

theorem Sealed.overwrite {payload : Payload}
    (isSealed : Sealed (payload.references + outer) (entry ::ₘ rest)) :
    Sealed (entry.payload.references + outer) ({ entry with payload := payload } ::ₘ rest) := by
  intro other member
  have listed := isSealed other (by
    rw [held_cons] at member ⊢
    simp only [Multiset.mem_add] at member ⊢
    tauto)
  rwa [Multiset.map_cons] at listed ⊢

end Entry

/-- What is left by a sweep refers to nothing else. -/
theorem Entry.Collected.sealed {surplus : Nat → Nat} {bindings : Bindings}
    {entries left : Multiset Entry} (collected : Collected surplus bindings entries left)
    (isSealed : Sealed bindings.held entries) : Sealed bindings.held left := by
  intro position member
  refine (collected.survives position).mpr ⟨?_, ?_⟩
  · exact isSealed position (Multiset.mem_of_le (add_le_add_right collected.thins.held_le _) member)
  · obtain bound | held := Multiset.mem_add.mp member
    · obtain ⟨name, binds⟩ := Bindings.mem_held.mp bound
      exact .bound binds
    · obtain ⟨holder, survives, refers⟩ := mem_held.mp held
      obtain ⟨former, present, same, -⟩ := collected.thins.origin holder survives
      have reached := (collected.survives holder.position).mp (Multiset.mem_map_of_mem _ survives)
      have samePlace : former.position = holder.position := congrArg Prod.fst same
      have samePayload : former.payload = holder.payload := congrArg Prod.snd same
      rw [← samePayload] at refers
      exact .referred present (samePlace ▸ reached.2) refers

/-! ### Accounts -/

/-- The account of a store: what it holds and binds, what is owed, and what is counted on top. -/
structure Store.Accounts (surplus : Nat → Nat) (owed : Multiset Nat) (entries : Multiset Entry)
    (bindings : Bindings) (store : Store) : Prop where
  stands : store.Stands entries bindings
  balanced : Entry.Balanced surplus (owed + bindings.held) entries
  isSealed : Entry.Sealed (owed + bindings.held) entries

/-- Some account of a store is even, and nothing is owed. -/
def Store.Accounted (store : Store) : Prop :=
  ∃ surplus entries bindings, store.Accounts surplus 0 entries bindings

namespace Store

variable {surplus : Nat → Nat} {owed : Multiset Nat} {entries rest : Multiset Entry}
  {bindings : Bindings} {store : Store} {positions : List Nat}

theorem Accounts.writeOff {more : Multiset Nat}
    (accounts : store.Accounts surplus (more + owed) entries bindings) :
    store.Accounts (fun position => surplus position + more.count position) owed entries
      bindings := by
  have balanced := accounts.balanced
  have isSealed := accounts.isSealed
  rw [add_assoc] at balanced isSealed
  exact ⟨accounts.stands, balanced.writeOff, isSealed.mono⟩

theorem Accounts.accounted (accounts : store.Accounts surplus owed entries bindings) :
    store.Accounted := by
  rw [← add_zero owed] at accounts
  exact ⟨_, _, _, accounts.writeOff⟩

theorem Accounts.withChain (accounts : store.Accounts surplus owed entries bindings)
    {reached : Chain} (holds : reached.Holds entries bindings) :
    Accounts surplus owed entries bindings { store with chain := reached } :=
  ⟨⟨holds, accounts.stands.idle⟩, accounts.balanced, accounts.isSealed⟩

end Store

/-! ### Counting and taking away -/

namespace Chain

variable {entries : Multiset Entry} {bindings : Bindings} {chain : Chain}

theorem map_bump_bump (entries : Multiset Entry) (first second : List Nat) :
    (entries.map (Entry.bump first)).map (Entry.bump second) =
      entries.map (Entry.bump (first ++ second)) := by
  rw [Multiset.map_map]
  refine Multiset.map_congr rfl fun entry _ => ?_
  simp only [Function.comp_apply, Entry.bump, List.count_append, Entry.mk.injEq, true_and]
  omega

/-- References are counted up to the first that is to no cell in use. -/
theorem Holds.retainAll_refused {positions : List Nat} (holds : chain.Holds entries bindings)
    (refused : ¬ ∀ position ∈ positions, position ∈ entries.map Entry.position) :
    ∃ fault after counted, Chain.retainAll positions chain = .error fault after ∧
      after.Holds (entries.map (Entry.bump counted)) bindings ∧
      ∀ position ∈ counted, position ∈ entries.map Entry.position := by
  induction positions generalizing chain entries with
  | nil => exact absurd (fun position member => nomatch member) refused
  | cons position positions inductionHypothesis =>
    change ∃ fault after counted, (Chain.retain position >>= fun _ =>
      Chain.retainAll positions) chain = .error fault after ∧ _
    obtain ⟨present, once, ran, held, -⟩ | ⟨-, fault, after, ran, held, -⟩ :=
      holds.retain_cases position
    · rw [Action.bind_of_ok ran]
      obtain ⟨fault, after, counted, ranRest, heldRest, live⟩ := inductionHypothesis held (by
        rw [map_position_bump]
        exact fun rest => refused (List.forall_mem_cons.mpr ⟨present, rest⟩))
      rw [map_bump_bump] at heldRest
      rw [map_position_bump] at live
      exact ⟨fault, after, [position] ++ counted, ranRest, heldRest,
        List.forall_mem_cons.mpr ⟨present, live⟩⟩
    · rw [Action.bind_of_error ran]
      refine ⟨fault, after, [], rfl, ?_, fun other member => nomatch member⟩
      rwa [map_bump_nil]

end Chain

namespace Store

variable {surplus : Nat → Nat} {owed : Multiset Nat} {entries rest : Multiset Entry}
  {bindings : Bindings} {store : Store} {positions : List Nat}

theorem retain_eq (position : Nat) : retain position = onChain (Chain.retainAll [position]) := by
  change onChain (Chain.retain position) = onChain (Chain.retain position >>= fun _ => pure ())
  rw [bind_pure_unit]

/-- Counted references are owed. -/
theorem Accounts.retainAll_cases (accounts : store.Accounts surplus owed entries bindings)
    (positions : List Nat) :
    (∀ position ∈ positions, position ∈ entries.map Entry.position) ∧
        (∃ after, onChain (Chain.retainAll positions) store = .ok () after ∧
          after.Accounts surplus (positions + owed) (entries.map (Entry.bump positions)) bindings) ∨
      (¬ ∀ position ∈ positions, position ∈ entries.map Entry.position) ∧
        ∃ fault after, onChain (Chain.retainAll positions) store = .error fault after ∧
          after.Accounted := by
  by_cases present : ∀ position ∈ positions, position ∈ entries.map Entry.position
  · obtain ⟨after, ran, stood, -⟩ := accounts.stands.retainAll present
    refine .inl ⟨present, after, ran, stood, ?_, ?_⟩
    · rw [add_assoc]
      exact accounts.balanced.bump positions
    · rw [add_assoc]
      exact accounts.isSealed.bump present
  · obtain ⟨fault, reached, counted, ran, holds, live⟩ :=
      accounts.stands.chain.retainAll_refused present
    have accountsLeft :
        Accounts surplus (counted + owed) (entries.map (Entry.bump counted)) bindings
        { store with chain := reached } := by
      refine ⟨⟨holds, accounts.stands.idle⟩, ?_, ?_⟩
      · rw [add_assoc]
        exact accounts.balanced.bump counted
      · rw [add_assoc]
        exact accounts.isSealed.bump live
    exact .inr ⟨present, fault, _, onChain_of_error ran, accountsLeft.accounted⟩

/-- What is owed can be taken away. -/
theorem Accounts.releaseAll
    (accounts : store.Accounts surplus (positions + owed) entries bindings) :
    ∃ left after, Store.releaseAll positions store = .ok () after ∧
      after.Accounts surplus owed left bindings ∧ Entry.Thins entries left ∧
      store.Moves 0 after := by
  have owes : Entry.Owes false store.chain.counters.heapSize surplus (fun _ => False)
      (owed + bindings.held) positions.reverse entries := by
    have same : owed + bindings.held + ((positions.reverse : List Nat) : Multiset Nat) =
        positions + owed + bindings.held := by
      rw [Multiset.coe_reverse]
      ac_rfl
    refine ⟨?_, fun position member => .inl (accounts.isSealed position ?_),
      fun _ impossible => impossible.elim, fun _ impossible => impossible.elim⟩
    · rw [same]
      exact accounts.balanced
    · rwa [same] at member
  obtain ⟨left, reached, ran, holds, settled, thins, chainMoves⟩ :=
    accounts.stands.chain.settle rfl owes
  have releasing : Chain.release store.sweeping positions store.chain = .ok () reached := by
    rw [accounts.stands.idle]
    exact ran
  obtain ⟨released, stood, moves⟩ := onChain_spec accounts.stands releasing holds chainMoves
  refine ⟨left, _, released, ⟨stood, ?_, fun position member => ?_⟩, thins, moves⟩
  · have balanced := settled.balanced
    rwa [Multiset.coe_nil, add_zero] at balanced
  · have target := settled.targets position (by rwa [Multiset.coe_nil, add_zero])
    exact target.resolve_right fun sweeping => nomatch sweeping.1

/-! ### Payloads -/

theorem Accounts.read_cases (accounts : store.Accounts surplus owed entries bindings)
    (position : Nat) :
    (∃ entry ∈ entries, entry.position = position ∧ ∃ after,
        Store.deref position store = .ok entry.payload after ∧
        after.Accounts surplus owed entries bindings) ∨
      position ∉ entries.map Entry.position ∧ ∃ fault after,
        Store.deref position store = .error fault after ∧
        after.Accounts surplus owed entries bindings := by
  unfold Store.deref
  rw [Action.bind_of_ok (rfl : (get : StoreM Store) store = .ok store store)]
  obtain ⟨entry, member, here, reached, ran, holds, -⟩ | ⟨absent, fault, reached, ran, holds, -⟩ :=
    accounts.stands.chain.read_cases store.settings.promotionDistance position
  · exact .inl ⟨entry, member, here, _, onChain_of_ok ran, accounts.withChain holds⟩
  · exact .inr ⟨absent, fault, _, onChain_of_error ran, accounts.withChain holds⟩

/-- A payload can be stored if what it refers to is in use. -/
theorem Accounts.alloc_cases (accounts : store.Accounts surplus 0 entries bindings)
    (payload : Payload) :
    (∀ position ∈ payload.references, position ∈ entries.map Entry.position) ∧
        (∃ position after, Store.alloc payload store = .ok position after ∧
          position ∉ entries.map Entry.position ∧
          after.Accounts (Function.update surplus position 0) 0
            (⟨position, payload, 0⟩ ::ₘ entries.map (Entry.bump payload.references)) bindings) ∨
      (¬ ∀ position ∈ payload.references, position ∈ entries.map Entry.position) ∧
        ∃ fault after, Store.alloc payload store = .error fault after ∧ after.Accounted := by
  unfold Store.alloc
  obtain ⟨present, retained, retaining, counted⟩ | ⟨refused, fault, after, failed, accounted⟩ :=
    accounts.retainAll_cases payload.references
  · obtain ⟨position, grown, reached, ran, holds, -, -⟩ := counted.stands.chain.alloc payload
    have distinct := holds.heap.distinct
    rw [Multiset.map_cons, Multiset.nodup_cons, Chain.map_position_bump] at distinct
    rw [Action.bind_of_ok retaining, Action.bind_of_ok (onChain_of_ok ran)]
    have balanced := counted.balanced
    have isSealed := counted.isSealed
    rw [add_assoc] at balanced isSealed
    have fresh : position ∉ (entries.map (Entry.bump payload.references)).map Entry.position := by
      rw [Chain.map_position_bump]
      exact distinct.1
    refine .inl ⟨present, position, { retained with
      chain := reached, sweepRequested := if grown then true else retained.sweepRequested }, ?_,
      distinct.1, ⟨holds, counted.stands.idle⟩, balanced.alloc isSealed fresh,
      isSealed.alloc position⟩
    cases grown <;> rfl
  · rw [Action.bind_of_error failed]
    exact .inr ⟨refused, fault, after, rfl, accounted⟩

/-- A payload can be put into a cell in use if what it refers to is in use. -/
theorem Accounts.assign_cases (accounts : store.Accounts surplus 0 entries bindings)
    (position : Nat) (payload : Payload) :
    (position ∈ entries.map Entry.position ∧
        ∀ other ∈ payload.references, other ∈ entries.map Entry.position) ∧
        (∃ left after, Store.assign position payload store = .ok () after ∧
          after.Accounts surplus 0 left bindings ∧
          left.map Entry.position ⊆ entries.map Entry.position) ∨
      ¬ (position ∈ entries.map Entry.position ∧
          ∀ other ∈ payload.references, other ∈ entries.map Entry.position) ∧
        ∃ fault after, Store.assign position payload store = .error fault after ∧
          after.Accounted := by
  unfold Store.assign
  obtain ⟨present, retained, retaining, counted⟩ | ⟨refused, fault, after, failed, accounted⟩ :=
    accounts.retainAll_cases payload.references
  · rw [Action.bind_of_ok retaining]
    obtain ⟨entry, rest, here, split, reached, ran, holds, -⟩ |
      ⟨absent, fault, reached, ran, holds, -⟩ :=
      counted.stands.chain.overwrite_cases position payload
    · rw [Action.bind_of_ok (onChain_of_ok ran)]
      have balanced := counted.balanced
      have isSealed := counted.isSealed
      rw [split, add_assoc] at balanced isSealed
      have given : Accounts surplus (entry.payload.references + 0)
          ({ entry with payload := payload } ::ₘ rest) bindings
            { retained with chain := reached } := by
        refine ⟨⟨holds, counted.stands.idle⟩, ?_, ?_⟩
        · rw [add_assoc]
          exact balanced.overwrite
        · rw [add_assoc]
          exact isSealed.overwrite
      have samePositions : ({ entry with payload := payload } ::ₘ rest).map Entry.position =
          entries.map Entry.position := by
        rw [← Chain.map_position_bump entries payload.references, split, Multiset.map_cons,
          Multiset.map_cons]
      obtain ⟨left, after, releasing, settled, thins, -⟩ := given.releaseAll
      refine .inl ⟨⟨?_, present⟩, left, after, releasing, settled, samePositions ▸ thins.subset⟩
      rw [← samePositions, Multiset.map_cons, here]
      exact Multiset.mem_cons_self position _
    · rw [Action.bind_of_error (onChain_of_error ran)]
      rw [Chain.map_position_bump] at absent
      exact .inr ⟨fun both => absent both.1, fault, _, rfl, (counted.withChain holds).accounted⟩
  · rw [Action.bind_of_error failed]
    exact .inr ⟨fun both => refused both.2, fault, after, rfl, accounted⟩

/-- A cell can be freed if it counts nothing. -/
theorem Accounts.free_cases (accounts : store.Accounts surplus 0 entries bindings)
    (position : Nat) :
    (∃ entry ∈ entries, entry.position = position ∧ entry.count = 0) ∧
        (∃ left after, Store.free position store = .ok () after ∧
          after.Accounts surplus 0 left bindings ∧ Entry.Thins entries left) ∨
      (¬ ∃ entry ∈ entries, entry.position = position ∧ entry.count = 0) ∧
        ∃ fault after, Store.free position store = .error fault after ∧
          after.Accounts surplus 0 entries bindings := by
  have idle := accounts.stands.idle
  unfold Store.free
  rw [Action.bind_of_ok (rfl : (get : StoreM Store) store = .ok store store), idle]
  have ends := accounts.stands.chain.free false position
  generalize freeing : Chain.free false position store.chain = result at ends
  cases ends with
  | @freed entry rest once here split allowed holds moves =>
    subst here split
    have unreferenced := allowed.resolve_right Bool.false_ne_true
    have balanced := accounts.balanced
    have isSealed := accounts.isSealed
    rw [zero_add] at balanced isSealed
    have counted := balanced entry (Multiset.mem_cons_self _ _)
    have owes : Entry.Owes false store.chain.counters.heapSize surplus (fun _ => False)
        bindings.held [] (entry ::ₘ rest) := by
      refine ⟨?_, fun position member => .inl (isSealed position ?_),
        fun _ impossible => impossible.elim, fun _ impossible => impossible.elim⟩
      · rwa [Multiset.coe_nil, add_zero]
      · rwa [Multiset.coe_nil, add_zero] at member
    have gone : entry.position ∉ bindings.held + (([] : List Nat) : Multiset Nat) +
        Entry.held (entry ::ₘ rest) := by
      rw [Multiset.coe_nil, add_zero, ← Multiset.count_eq_zero]
      omega
    have freed := owes.free not_false (.inr gone) (accounts.stands.chain.inside (by simp))
    rw [List.append_nil] at freed
    obtain ⟨left, reached, ran, heldLeft, settled, thins, -⟩ := holds.settle moves.heapSize_eq freed
    have releasing : Chain.freeAndRelease false entry.position store.chain = .ok () reached := by
      unfold Chain.freeAndRelease
      rw [Action.bind_of_ok freeing]
      exact ran
    refine .inl ⟨⟨entry, Multiset.mem_cons_self _ _, rfl, unreferenced⟩, left, _,
      onChain_of_ok releasing, ⟨⟨heldLeft, idle⟩, ?_, fun position member => ?_⟩,
      (Entry.Thins.remove entry rest).trans thins⟩
    · have settledBalance := settled.balanced
      rwa [Multiset.coe_nil, add_zero, ← zero_add bindings.held] at settledBalance
    · have target := settled.targets position (by
        rwa [Multiset.coe_nil, add_zero, ← zero_add bindings.held])
      exact target.resolve_right fun sweeping => nomatch sweeping.1
  | skipped isSweeping absent => exact nomatch isSweeping
  | @failed fault after refused holds moves =>
    have releasing : Chain.freeAndRelease false position store.chain = .error fault after := by
      unfold Chain.freeAndRelease
      rw [Action.bind_of_error freeing]
    refine .inr ⟨?_, fault, _, onChain_of_error releasing, accounts.withChain holds⟩
    rintro ⟨entry, member, here, unreferenced⟩
    have referenced := refused entry member here
    omega

/-! ### Bindings -/

theorem Accounts.retainValue_cases (accounts : store.Accounts surplus owed entries bindings)
    (value : Value) :
    (∀ position ∈ value.reference?, position ∈ entries.map Entry.position) ∧
        (∃ counted after, Store.retainValue value store = .ok () after ∧
          after.Accounts surplus (value.reference?.toList + owed) counted bindings ∧
          counted.map Entry.position = entries.map Entry.position) ∨
      (¬ ∀ position ∈ value.reference?, position ∈ entries.map Entry.position) ∧
        ∃ fault after, Store.retainValue value store = .error fault after ∧ after.Accounted := by
  unfold Store.retainValue
  cases reference : value.reference? with
  | none =>
    refine .inl ⟨fun position member => ?_, entries, store, rfl, ?_, rfl⟩
    · cases member
    · rwa [Option.toList_none, Multiset.coe_nil, zero_add]
  | some position =>
    have single : (∀ other ∈ some position, other ∈ entries.map Entry.position) ↔
        ∀ other ∈ [position], other ∈ entries.map Entry.position := by
      simp
    rw [single]
    dsimp only
    rw [retain_eq]
    refine (accounts.retainAll_cases [position]).imp ?_ id
    rintro ⟨present, after, ran, counted⟩
    exact ⟨present, _, after, ran, counted, Chain.map_position_bump _ _⟩

theorem Accounts.releaseValue {value : Value}
    (accounts : store.Accounts surplus (value.reference?.toList + owed) entries bindings) :
    ∃ left after, Store.releaseValue value store = .ok () after ∧
      after.Accounts surplus owed left bindings ∧ Entry.Thins entries left ∧
      store.Moves 0 after := by
  unfold Store.releaseValue
  cases reference : value.reference? with
  | none =>
    rw [reference, Option.toList_none, Multiset.coe_nil, zero_add] at accounts
    exact ⟨entries, store, rfl, accounts, .refl entries, .refl store⟩
  | some position =>
    rw [reference] at accounts
    exact accounts.releaseAll

/-- A value that is bound is not owed any more. -/
theorem Accounts.pushOnly {value : Value}
    (accounts : store.Accounts surplus (value.reference?.toList + owed) entries bindings)
    (name : String) :
    ∃ after, onChain (Chain.push name value) store = .ok () after ∧
      after.Accounts surplus owed entries (bindings ++ [(name, value)]) := by
  obtain ⟨after, ran, stood, -⟩ := accounts.stands.pushOnly name value
  have same : owed + Bindings.held (bindings ++ [(name, value)]) =
      value.reference?.toList + owed + bindings.held := by
    rw [Bindings.held_append, Bindings.held_singleton]
    ac_rfl
  exact ⟨after, ran, stood, same ▸ accounts.balanced, same ▸ accounts.isSealed⟩

/-- A value that is removed is owed. -/
theorem Accounts.removeOnly_cases (accounts : store.Accounts surplus owed entries bindings)
    (name : String) :
    (∃ front value back after, bindings = front ++ (name, value) :: back ∧
        name ∉ back.map Prod.fst ∧ onChain (Chain.remove name) store = .ok value after ∧
        after.Accounts surplus (value.reference?.toList + owed) entries (front ++ back) ∧
        store.Moves 0 after) ∨
      name ∉ bindings.map Prod.fst ∧ ∃ after,
        onChain (Chain.remove name) store = .error (.refused (.unboundName name)) after ∧
        after.Accounts surplus owed entries bindings := by
  obtain ⟨front, value, back, reached, rfl, last, ran, holds, chainMoves⟩ |
    ⟨unbound, reached, ran, holds, -⟩ := accounts.stands.chain.remove_cases name
  · obtain ⟨removing, stood, moves⟩ := onChain_spec accounts.stands ran holds chainMoves
    have same : value.reference?.toList + owed + Bindings.held (front ++ back) =
        owed + Bindings.held (front ++ (name, value) :: back) := by
      rw [Bindings.held_append, Bindings.held_append, Bindings.held_cons]
      dsimp only
      ac_rfl
    exact .inl ⟨front, value, back, _, rfl, last, removing, ⟨stood, same ▸ accounts.balanced,
      same ▸ accounts.isSealed⟩, moves⟩
  · exact .inr ⟨unbound, _, onChain_of_error ran, accounts.withChain holds⟩

/-- A value that is overwritten is owed in place of the new one. -/
theorem Accounts.replaceOnly_cases {value : Value}
    (accounts : store.Accounts surplus (value.reference?.toList + owed) entries bindings)
    (name : String) :
    (name ∈ bindings.map Prod.fst ∧ ∃ old bound after,
        onChain (Chain.replace name value) store = .ok old after ∧
        after.Accounts surplus (old.reference?.toList + owed) entries bound) ∨
      name ∉ bindings.map Prod.fst ∧ ∃ fault after,
        onChain (Chain.replace name value) store = .error fault after ∧ after.Accounted := by
  obtain ⟨front, old, back, reached, rfl, last, ran, holds, -⟩ |
    ⟨unbound, reached, ran, holds, -⟩ :=
    accounts.stands.chain.replace_cases name value
  · have same : old.reference?.toList + owed + Bindings.held (front ++ (name, value) :: back) =
        value.reference?.toList + owed + Bindings.held (front ++ (name, old) :: back) := by
      rw [Bindings.held_append, Bindings.held_append, Bindings.held_cons, Bindings.held_cons]
      dsimp only
      ac_rfl
    exact .inl ⟨by simp, old, _, _, onChain_of_ok ran, ⟨holds, accounts.stands.idle⟩,
      same ▸ accounts.balanced, same ▸ accounts.isSealed⟩
  · exact .inr ⟨unbound, _, _, onChain_of_error ran, (accounts.withChain holds).accounted⟩

/-- Only a name that is not bound cannot be removed. -/
theorem Accounts.remove_cases (accounts : store.Accounts surplus 0 entries bindings)
    (name : String) :
    (∃ front value back left after, bindings = front ++ (name, value) :: back ∧
        name ∉ back.map Prod.fst ∧ Store.remove name store = .ok () after ∧
        after.Accounts surplus 0 left (front ++ back) ∧ Entry.Thins entries left ∧
        store.Moves 0 after) ∨
      name ∉ bindings.map Prod.fst ∧ ∃ after,
        Store.remove name store = .error (.refused (.unboundName name)) after ∧
        after.Accounts surplus 0 entries bindings := by
  unfold Store.remove
  obtain ⟨front, value, back, removed, split, last, ran, given, moves⟩ |
    ⟨unbound, after, ran, still⟩ := accounts.removeOnly_cases name
  · rw [Action.bind_of_ok ran]
    obtain ⟨left, after, releasing, settled, thins, movesAfter⟩ := given.releaseValue
    exact .inl ⟨front, value, back, left, after, split, last, releasing, settled, thins,
      moves.trans movesAfter⟩
  · rw [Action.bind_of_error ran]
    exact .inr ⟨unbound, after, rfl, still⟩

/-- A value can be bound if it is no reference, or one to a cell in use. -/
theorem Accounts.push_cases (accounts : store.Accounts surplus 0 entries bindings) (name : String)
    (value : Value) :
    (∃ counted after, Store.push name value store = .ok () after ∧
        after.Accounts surplus 0 counted (bindings ++ [(name, value)]) ∧
        counted.map Entry.position = entries.map Entry.position) ∨
      ∃ fault after, Store.push name value store = .error fault after ∧ after.Accounted := by
  unfold Store.push
  obtain ⟨-, counted, retained, retaining, owing, same⟩ | ⟨-, fault, after, failed, accounted⟩ :=
    accounts.retainValue_cases value
  · rw [Action.bind_of_ok retaining]
    obtain ⟨after, pushing, settled⟩ := owing.pushOnly name
    exact .inl ⟨counted, after, pushing, settled, same⟩
  · rw [Action.bind_of_error failed]
    exact .inr ⟨fault, after, rfl, accounted⟩

/-- A name can be bound anew if it is bound, and to nothing but a cell in use. -/
theorem Accounts.replace_cases (accounts : store.Accounts surplus 0 entries bindings)
    (name : String) (value : Value) :
    (name ∈ bindings.map Prod.fst ∧
        ∀ position ∈ value.reference?, position ∈ entries.map Entry.position) ∧
        (∃ left bound after, Store.replace name value store = .ok () after ∧
          after.Accounts surplus 0 left bound ∧
          left.map Entry.position ⊆ entries.map Entry.position) ∨
      ¬ (name ∈ bindings.map Prod.fst ∧
          ∀ position ∈ value.reference?, position ∈ entries.map Entry.position) ∧
        ∃ fault after, Store.replace name value store = .error fault after ∧ after.Accounted := by
  unfold Store.replace
  obtain ⟨present, counted, retained, retaining, owing, same⟩ |
    ⟨refused, fault, after, failed, accounted⟩ := accounts.retainValue_cases value
  · rw [Action.bind_of_ok retaining]
    obtain ⟨isBound, old, bound, replaced, replacing, given⟩ |
      ⟨unbound, fault, after, failed, accounted⟩ := owing.replaceOnly_cases name
    · rw [Action.bind_of_ok replacing]
      obtain ⟨left, after, releasing, settled, thins, -⟩ := given.releaseValue
      exact .inl ⟨⟨isBound, present⟩, left, bound, after, releasing, settled, same ▸ thins.subset⟩
    · rw [Action.bind_of_error failed]
      exact .inr ⟨fun both => unbound both.1, fault, after, rfl, accounted⟩
  · rw [Action.bind_of_error failed]
    exact .inr ⟨fun both => refused both.2, fault, after, rfl, accounted⟩

/-- A reference moves along with the name it is bound to. -/
theorem Accounts.rename_cases (accounts : store.Accounts surplus 0 entries bindings)
    (name renamed : String) :
    (∃ bound after, Store.rename name renamed store = .ok () after ∧
        after.Accounts surplus 0 entries bound) ∨
      ∃ fault after, Store.rename name renamed store = .error fault after ∧ after.Accounted := by
  have split : Store.rename name renamed store =
      (onChain (Chain.remove name) >>= fun value => onChain (Chain.push renamed value)) store := by
    unfold Store.rename
    cases ran : Chain.remove name store.chain with
    | error fault reached =>
      rw [Action.bind_of_error (onChain_of_error ran)]
      exact onChain_of_error (Action.bind_of_error ran)
    | ok value reached =>
      rw [Action.bind_of_ok (onChain_of_ok ran)]
      unfold onChain Action.onPart
      rw [Action.bind_of_ok ran]
  rw [split]
  obtain ⟨front, value, back, removed, -, -, removing, given, -⟩ |
    ⟨-, after, failed, still⟩ := accounts.removeOnly_cases name
  · rw [Action.bind_of_ok removing]
    obtain ⟨after, pushing, settled⟩ := given.pushOnly renamed
    exact .inl ⟨_, after, pushing, settled⟩
  · rw [Action.bind_of_error failed]
    exact .inr ⟨_, after, rfl, still.accounted⟩

/-- A payload can be changed if what the new one refers to is in use. -/
theorem Accounts.update_cases {α : Type} (accounts : store.Accounts surplus 0 entries bindings)
    (position : Nat) (edit : Payload → α × Payload) :
    (∃ entry ∈ entries, entry.position = position ∧
        ∀ other ∈ (edit entry.payload).2.references, other ∈ entries.map Entry.position) ∧
        (∃ answer left after, Store.update position edit store = .ok answer after ∧
          after.Accounts surplus 0 left bindings ∧
          left.map Entry.position ⊆ entries.map Entry.position) ∨
      (¬ ∃ entry ∈ entries, entry.position = position ∧
          ∀ other ∈ (edit entry.payload).2.references, other ∈ entries.map Entry.position) ∧
        ∃ fault after, Store.update position edit store = .error fault after ∧ after.Accounted := by
  unfold Store.update
  obtain ⟨entry, member, here, looked, reading, still⟩ | ⟨absent, fault, after, failed, still⟩ :=
    accounts.read_cases position
  · rw [Action.bind_of_ok reading]
    obtain ⟨⟨-, present⟩, left, after, assigning, settled, fewer⟩ |
      ⟨refused, fault, after, failed, accounted⟩ :=
        still.assign_cases position (edit entry.payload).2
    · dsimp only
      rw [Action.bind_of_ok assigning]
      exact .inl ⟨⟨entry, member, here, present⟩, _, left, after, rfl, settled, fewer⟩
    · dsimp only
      rw [Action.bind_of_error failed]
      refine .inr ⟨?_, fault, after, rfl, accounted⟩
      rintro ⟨other, listed, isHere, present⟩
      have same :=
        Multiset.inj_on_of_nodup_map accounts.stands.chain.heap.distinct other listed entry
        member (isHere.trans here.symm)
      exact refused ⟨here ▸ Multiset.mem_map_of_mem _ member, same ▸ present⟩
  · rw [Action.bind_of_error failed]
    refine .inr ⟨?_, fault, after, rfl, still.accounted⟩
    rintro ⟨entry, member, here, -⟩
    exact absent (here ▸ Multiset.mem_map_of_mem _ member)

/-! ### Counting by hand -/

/-- What is counted by hand is surplus. -/
theorem Accounts.retain_cases (accounts : store.Accounts surplus 0 entries bindings)
    (position : Nat) :
    (∃ after, Store.retain position store = .ok () after ∧
        after.Accounts (fun other => surplus other + ({position} : Multiset Nat).count other) 0
          (entries.map (Entry.bump [position])) bindings) ∨
      ∃ fault after, Store.retain position store = .error fault after ∧ after.Accounted := by
  rw [retain_eq]
  obtain ⟨-, after, ran, counted⟩ | ⟨-, fault, after, failed, accounted⟩ :=
    accounts.retainAll_cases [position]
  · exact .inl ⟨after, ran, counted.writeOff⟩
  · exact .inr ⟨fault, after, failed, accounted⟩

/-- Surplus may be taken away by hand. -/
theorem Accounts.release (accounts : store.Accounts surplus 0 entries bindings) {position : Nat}
    (present : position ∈ entries.map Entry.position) (spare : 0 < surplus position) :
    ∃ left after, Store.release position store = .ok () after ∧
      after.Accounts (Function.update surplus position (surplus position - 1)) 0 left bindings ∧
      left.map Entry.position ⊆ entries.map Entry.position := by
  have borrowed : store.Accounts (Function.update surplus position (surplus position - 1))
      (([position] : List Nat) + 0) entries bindings := by
    refine ⟨accounts.stands, fun entry member => ?_, fun other member => ?_⟩
    · have counted := accounts.balanced entry member
      rw [Multiset.coe_singleton, add_assoc, add_assoc, Multiset.count_add,
        Multiset.count_singleton, ← add_assoc 0]
      by_cases same : entry.position = position
      · rw [same, Function.update_self, if_pos rfl]
        rw [same] at counted
        omega
      · rw [Function.update_of_ne same, if_neg same, zero_add]
        exact counted
    · rw [add_assoc, add_assoc, Multiset.mem_add, Multiset.coe_singleton, Multiset.mem_singleton,
        ← add_assoc 0] at member
      exact member.elim (fun same => same ▸ present) (accounts.isSealed other)
  obtain ⟨left, after, releasing, settled, thins, -⟩ := borrowed.releaseAll
  exact ⟨left, after, releasing, settled, thins.subset⟩

/-! ### Sweeping -/

/-- What a sweep leaves refers to nothing that it frees. Only a threshold that is too large can stop
it. -/
theorem Accounts.sweep_cases (accounts : store.Accounts surplus 0 entries bindings)
    (forced : Bool) :
    ∃ left, Entry.Thins entries left ∧
      ((∃ report after, Store.sweep forced store = .ok report after ∧
          after.Accounts surplus 0 left bindings ∧ store.chain.Keeps after.chain ∧
          after.chain.counters.heapSize = store.chain.counters.heapSize ∧
          store.chain.counters.sweepThreshold ≤ after.chain.counters.sweepThreshold ∧
          after.sweepRequested = store.sweepRequested) ∨
        ∃ after, Store.sweep forced store = .error (.defect .thresholdOverflow) after ∧
          after.Accounts surplus 0 left bindings ∧
          0x10000000000000000 ≤ store.chain.counters.sweepThreshold + 1) := by
  have balanced := accounts.balanced
  have isSealed := accounts.isSealed
  rw [zero_add] at balanced isSealed
  obtain ⟨left, reached, freeing, stood, collected, moves⟩ := accounts.stands.collect balanced
    fun position member => accounts.stands.chain.inside (isSealed position member)
  have settles {after : Store} (stoodAfter : after.Stands left bindings) :
      after.Accounts surplus 0 left bindings := by
    refine ⟨stoodAfter, (zero_add bindings.held).symm ▸ collected.balanced,
      fun position member => ?_⟩
    rw [zero_add] at member
    exact collected.sealed isSealed position member
  obtain ⟨-, skipped⟩ | ⟨threshold, report, event, raised, swept, -⟩ | ⟨failed, tooLarge⟩ :=
    sweep_of_freed freeing forced
  · exact ⟨entries, .refl entries, .inl ⟨none, store, skipped, accounts, .refl store.chain, rfl,
      le_refl _, rfl⟩⟩
  · refine ⟨left, collected.thins, .inl ⟨_, _, swept,
      settles ((stood.withThreshold threshold).note event),
      moves.keeps.trans (keeps_withThreshold { store with chain := reached } threshold),
      moves.heapSize_eq, ?_, rfl⟩⟩
    exact moves.threshold.ge.trans raised
  · refine ⟨left, collected.thins, .inr ⟨_, failed, settles stood, ?_⟩⟩
    rwa [moves.threshold] at tooLarge

end Store

end Rewind
