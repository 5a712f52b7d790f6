/-
This file proves that the stack behaves as the plain list of its bindings, from whatever generation
it is seen and whichever generations own its levels. A name is bound at the end of the list; its
last binding is the one that is read, removed, overwritten or moved, and all others keep their
places.

Underneath there are levels that are opened when a name is shadowed, emptied in the middle, dropped
off the top and opened again. What makes them a list is kept by every operation: no level binds a
name twice, the topmost is not empty, and together they bind as many names as are counted.
Operations on cells do not touch any of that.
-/

import Mathlib
import Rewind.Proofs.Store.Guards
import Rewind.Proofs.Store.Outcomes

namespace Rewind

/-- A state that the invariants of the stack rule out. -/
def Defect.ofStack : Defect → Bool
  | .missingLevel _ | .vanishedBinding _ _ | .duplicateBinding _ => true
  | _ => false

/-- The last binding of a name among some bindings, between those before and those behind it. -/
structure Bindings.Last (bindings : Bindings) (name : String) (front : Bindings) (value : Value)
    (back : Bindings) : Prop where
  split : bindings = front ++ (name, value) :: back
  last : name ∉ back.map Prod.fst

theorem Bindings.Last.lookup {bindings front back : Bindings} {name : String} {value : Value}
    (last : bindings.Last name front value back) : bindings.reverse.lookup name = some value := by
  have missing : back.reverse.lookup name = none := by
    rw [List.lookup_eq_none_iff]
    exact fun binding member => bne_iff_ne.mpr fun same =>
      last.last (List.mem_map.mpr ⟨binding, List.mem_reverse.mp member, same.symm⟩)
  rw [last.split, List.reverse_append, List.reverse_cons, List.append_assoc, List.lookup_append,
    missing, List.singleton_append, List.lookup_cons_self]
  rfl

theorem Bindings.lookup_of_unbound {bindings : Bindings} {name : String}
    (unbound : name ∉ bindings.map Prod.fst) : bindings.reverse.lookup name = none := by
  rw [List.lookup_eq_none_iff]
  exact fun binding member => bne_iff_ne.mpr fun same =>
    unbound (List.mem_map.mpr ⟨binding, List.mem_reverse.mp member, same.symm⟩)

/-- A name is not bound, or it has a last binding. -/
theorem Bindings.last_cases (bindings : Bindings) (name : String) :
    (∃ front value back, bindings.Last name front value back) ∨ name ∉ bindings.map Prod.fst := by
  induction bindings using List.reverseRecOn with
  | nil => exact .inr List.not_mem_nil
  | append_singleton front binding inductionHypothesis =>
    obtain ⟨bound, value⟩ := binding
    by_cases same : bound = name
    · subst same
      exact .inl ⟨front, value, [], rfl, List.not_mem_nil⟩
    · refine inductionHypothesis.imp ?_ fun unbound => ?_
      · rintro ⟨front, older, back, rfl, last⟩
        refine ⟨front, older, back ++ [(bound, value)], by simp, ?_⟩
        simpa [Ne.symm same] using last
      · simpa [Ne.symm same] using unbound

/-- A stack that has some bindings and is in order. -/
def Snapshot.Piled (bindings : Bindings) (snapshot : Snapshot) : Prop :=
  ∃ levels, snapshot.Leveled levels ∧ levels.flatten = bindings ∧
    snapshot.counters.stackSize = bindings.length ∧ levels.getLast? ≠ some []

namespace Snapshot

variable {bindings : Bindings} {snapshot after : Snapshot}

theorem Piled.binds (piled : snapshot.Piled bindings) : snapshot.Binds bindings := by
  obtain ⟨levels, leveled, flat, -⟩ := piled
  exact ⟨levels, leveled, flat⟩

/-! ### Operations on bindings -/

theorem Piled.push (piled : snapshot.Piled bindings) (name : String) (value : Value) :
    ∃ after, Snapshot.push name value snapshot = .ok () after ∧
      after.Piled (bindings ++ [(name, value)]) := by
  obtain ⟨levels, leveled, rfl, size, -⟩ := piled
  obtain ⟨lower, top, after, ran, pushed, flat, -, counted⟩ := leveled.push name value
  refine ⟨after, ran, _, pushed, ?_, ?_, ?_⟩
  · rw [← flat]
    simp only [List.flatten_append, List.flatten_singleton, List.append_assoc]
  · rw [counted, size, List.length_append]
    rfl
  · rw [List.getLast?_concat]
    simp

/-- Only a name that is not bound cannot be removed. -/
theorem Piled.remove_cases (piled : snapshot.Piled bindings) (name : String) :
    (∃ front value back after, bindings.Last name front value back ∧
        Snapshot.remove name snapshot = .ok value after ∧ after.Piled (front ++ back)) ∨
      name ∉ bindings.map Prod.fst ∧
        Snapshot.remove name snapshot = .error (.refused (.unboundName name)) snapshot := by
  obtain ⟨levels, leveled, rfl, size, -⟩ := piled
  refine (leveled.remove_cases name).symm.imp ?_ id
  rintro ⟨index, front, back, value, kept, after, innermost, ran, removed, flatKept, filled, -,
    counted⟩
  obtain ⟨below, above, flat, last, flatAfter⟩ := innermost.split (front ++ back)
  refine ⟨below ++ front, value, back ++ above, after, ⟨flat, last⟩, ran, kept, removed, ?_, ?_,
    filled⟩
  · rw [flatKept, flatAfter]
    simp only [List.append_assoc]
  · rw [counted, size, flat]
    simp only [List.length_append, List.length_cons]
    omega

/-- Only a name that is not bound cannot be given another value. -/
theorem Piled.replace_cases (piled : snapshot.Piled bindings) (name : String) (value : Value) :
    (∃ front old back after, bindings.Last name front old back ∧
        Snapshot.replace name value snapshot = .ok old after ∧
        after.Piled (front ++ (name, value) :: back)) ∨
      name ∉ bindings.map Prod.fst ∧
        Snapshot.replace name value snapshot = .error (.refused (.unboundName name)) snapshot := by
  obtain ⟨levels, leveled, rfl, size, filled⟩ := piled
  refine (leveled.replace_cases name value).symm.imp ?_ id
  rintro ⟨index, front, back, old, after, innermost, ran, replaced, -, counted⟩
  obtain ⟨below, above, flat, last, flatAfter⟩ := innermost.split (front ++ (name, value) :: back)
  refine ⟨below ++ front, old, back ++ above, after, ⟨flat, last⟩, ran, _, replaced, ?_, ?_, ?_⟩
  · rw [flatAfter]
    simp only [List.append_assoc, List.cons_append]
  · rw [counted, size, flat]
    simp only [List.length_append, List.length_cons]
  · rw [List.getLast?_eq_getElem?, List.length_set, List.getElem?_set]
    split
    · split <;> simp
    · rwa [← List.getLast?_eq_getElem?]

/-! ### Operations on cells -/

/-- The stack is the same in two snapshots, and its bindings are counted the same. -/
structure KeepsStack (before after : Snapshot) : Prop extends before.SameStack after where
  stackSize : after.counters.stackSize = before.counters.stackSize

/-- A property of the stack alone. -/
def OfStack (property : Snapshot → Prop) : Prop :=
  ∀ before after : Snapshot, before.KeepsStack after → property before → property after

theorem ofStack_piled (bindings : Bindings) : OfStack (Piled bindings) := by
  rintro before after same ⟨levels, leveled, flat, size, filled⟩
  exact ⟨levels,
    ⟨same.levelCount.trans leveled.count, fun index => same.level? ▸ leveled.level index,
    leveled.distinct⟩, flat, same.stackSize.trans size, filled⟩

/-- The stack is in order. -/
def Stacked (snapshot : Snapshot) : Prop := ∃ bindings, snapshot.Piled bindings

theorem ofStack_stacked : OfStack Stacked := by
  rintro before after same ⟨bindings, piled⟩
  exact ⟨bindings, ofStack_piled bindings before after same piled⟩

variable {property : Snapshot → Prop} (ofStack : OfStack property)
include ofStack

theorem guards_change (position : Nat) (edit : Cell → Except StoreError Cell) :
    Action.Guards property (StoreFault.Spares Defect.ofStack) (change position edit) := by
  intro snapshot kept
  unfold change
  cases snapshot.cell? position with
  | none => exact .error (StoreFault.spares_refused _ _) kept
  | some cell =>
    simp only
    cases edit cell with
    | error error => exact .error (StoreFault.spares_refused _ _) kept
    | ok changed => exact .ok (ofStack snapshot _ ⟨⟨rfl, rfl⟩, rfl⟩ kept)

theorem guards_overwrite (position : Nat) (payload : Payload) :
    Action.Guards property (StoreFault.Spares Defect.ofStack) (overwrite position payload) := by
  intro snapshot kept
  unfold overwrite
  rcases snapshot.cell? position with - | ⟨own, old | next⟩
  · exact .error (StoreFault.spares_refused _ _) kept
  · exact .ok (ofStack snapshot _ ⟨⟨rfl, rfl⟩, rfl⟩ kept)
  · exact .error (StoreFault.spares_refused _ _) kept

theorem guards_alloc (payload : Payload) :
    Action.Guards property (StoreFault.Spares Defect.ofStack) (alloc payload) := by
  intro snapshot kept
  unfold alloc
  cases snapshot.counters.freeHead with
  | none => exact .ok (ofStack snapshot _ ⟨⟨rfl, rfl⟩, rfl⟩ kept)
  | some position =>
    simp only
    rcases snapshot.cell? position with - | ⟨own, old | next⟩
    · exact .error (StoreFault.spares_refused _ _) kept
    · exact .error (StoreFault.spares_defect rfl) kept
    · exact .ok (ofStack snapshot _ ⟨⟨rfl, rfl⟩, rfl⟩ kept)

theorem guards_free (sweeping : Bool) (position : Nat) :
    Action.Guards property (StoreFault.Spares Defect.ofStack) (free sweeping position) := by
  intro snapshot kept
  unfold free
  rcases snapshot.cell? position with - | ⟨own, ⟨payload, count⟩ | next⟩
  · exact .error (StoreFault.spares_refused _ _) kept
  · simp only
    split
    · exact .error (StoreFault.spares_refused _ _) kept
    · cases snapshot.counters.usedCells with
      | zero => exact .error (StoreFault.spares_defect rfl) kept
      | succ used => exact .ok (ofStack snapshot _ ⟨⟨rfl, rfl⟩, rfl⟩ kept)
  · simp only
    split
    · exact .ok kept
    · exact .error (StoreFault.spares_refused _ _) kept

end Snapshot

namespace Chain

variable {bindings : Bindings} {chain : Chain}

/-- No operation on cells changes anything about the stack. -/
theorem guardsCells_of_stack {property : Snapshot → Prop} (ofStack : Snapshot.OfStack property) :
    GuardsCells (Shown property) (StoreFault.Spares Defect.ofStack) where
  refused := StoreFault.spares_refused _
  read distance position :=
    (follows_read distance position).guards
      (Snapshot.guards_look (StoreFault.spares_refused _) position)
  recount position edit _ :=
    (follows_change position edit).guards (Snapshot.guards_change ofStack position edit)
  overwrite position payload :=
    (follows_overwrite position payload).guards (Snapshot.guards_overwrite ofStack position payload)
  alloc payload := (follows_alloc payload).guards (Snapshot.guards_alloc ofStack payload)
  free sweeping position :=
    (follows_free sweeping position).guards (Snapshot.guards_free ofStack sweeping position)

/-- No operation brings the stack out of order, or finds it so. -/
theorem guards_stacked :
    GuardsAll (Shown Snapshot.Stacked) (StoreFault.Spares Defect.ofStack) where
  toGuardsCells := guardsCells_of_stack Snapshot.ofStack_stacked
  push name value := by
    refine (follows_push name value).guards ?_
    rintro snapshot ⟨bindings, piled⟩
    obtain ⟨after, ran, still⟩ := piled.push name value
    rw [ran]
    exact .ok ⟨_, still⟩
  remove name := by
    refine (follows_remove name).guards ?_
    rintro snapshot ⟨bindings, piled⟩
    obtain ⟨front, value, back, after, -, ran, still⟩ | ⟨-, failed⟩ := piled.remove_cases name
    · rw [ran]
      exact .ok ⟨_, still⟩
    · rw [failed]
      exact .error (StoreFault.spares_refused _ _) ⟨_, piled⟩
  replace name value := by
    refine (follows_replace name value).guards ?_
    rintro snapshot ⟨bindings, piled⟩
    obtain ⟨front, old, back, after, -, ran, still⟩ | ⟨-, failed⟩ := piled.replace_cases name value
    · rw [ran]
      exact .ok ⟨_, still⟩
    · rw [failed]
      exact .error (StoreFault.spares_refused _ _) ⟨_, piled⟩
  retune chain threshold kept := by
    refine ⟨kept.1, ?_⟩
    rw [snapshot_mapCounters rfl rfl]
    exact Snapshot.ofStack_stacked chain.snapshot _ ⟨⟨rfl, rfl⟩, rfl⟩ kept.2
  overflow := StoreFault.spares_defect rfl

section

variable {bindings : Bindings} {chain : Chain}

/-- A name is bound at the end. -/
theorem push_piled (piled : Shown (Snapshot.Piled bindings) chain) (name : String) (value : Value) :
    ∃ after, push name value chain = .ok () after ∧
      Shown (Snapshot.Piled (bindings ++ [(name, value)])) after := by
  obtain ⟨shown, flat, still⟩ := piled.2.push name value
  obtain ⟨after, ran, same, keeps⟩ := (follows_push name value).ok piled.1 flat
  exact ⟨after, ran, keeps.wiped piled.1, same ▸ still⟩

/-- The last binding of a name is removed, if there is one. -/
theorem remove_piled_cases (piled : Shown (Snapshot.Piled bindings) chain) (name : String) :
    (∃ front value back after, bindings.Last name front value back ∧
        remove name chain = .ok value after ∧ Shown (Snapshot.Piled (front ++ back)) after) ∨
      name ∉ bindings.map Prod.fst ∧
        ∃ after, remove name chain = .error (.refused (.unboundName name)) after ∧
          Shown (Snapshot.Piled bindings) after := by
  obtain ⟨front, value, back, shown, last, flat, still⟩ | ⟨unbound, flat⟩ :=
    piled.2.remove_cases name
  · obtain ⟨after, ran, same, keeps⟩ := (follows_remove name).ok piled.1 flat
    exact .inl ⟨front, value, back, after, last, ran, keeps.wiped piled.1, same ▸ still⟩
  · obtain ⟨after, ran, same, keeps⟩ := (follows_remove name).error piled.1 flat
    exact .inr ⟨unbound, after, ran, keeps.wiped piled.1, same ▸ piled.2⟩

/-- The last binding of a name is overwritten, if there is one. -/
theorem replace_piled_cases (piled : Shown (Snapshot.Piled bindings) chain) (name : String)
    (value : Value) :
    (∃ front old back after, bindings.Last name front old back ∧
        replace name value chain = .ok old after ∧
        Shown (Snapshot.Piled (front ++ (name, value) :: back)) after) ∨
      name ∉ bindings.map Prod.fst ∧
        ∃ after, replace name value chain = .error (.refused (.unboundName name)) after ∧
          Shown (Snapshot.Piled bindings) after := by
  obtain ⟨front, old, back, shown, last, flat, still⟩ | ⟨unbound, flat⟩ :=
    piled.2.replace_cases name value
  · obtain ⟨after, ran, same, keeps⟩ := (follows_replace name value).ok piled.1 flat
    exact .inl ⟨front, old, back, after, last, ran, keeps.wiped piled.1, same ▸ still⟩
  · obtain ⟨after, ran, same, keeps⟩ := (follows_replace name value).error piled.1 flat
    exact .inr ⟨unbound, after, ran, keeps.wiped piled.1, same ▸ piled.2⟩

end

end Chain

theorem Generation.stacked_oldest (id threshold : Nat) :
    ((Generation.oldest id threshold).over []).Stacked :=
  ⟨[], [], ⟨rfl, fun _ => rfl, fun _ member => (nomatch member)⟩, rfl, rfl,
    fun empty => (nomatch empty)⟩

/-! ### Stores -/

/-- The stack of a store behaves as the list of its bindings. -/
structure Store.ListLike (store : Store) : Prop where
  /-- As many bindings are counted as there are. -/
  size : store.chain.counters.stackSize = store.bindings.length
  /-- Every level is there, and binds no name twice. -/
  levels : ∀ index < store.chain.counters.levelCount, ∃ level,
    store.chain.level? index = some level ∧ (level.bindings.map Prod.fst).Nodup
  /-- The topmost level is not empty. -/
  top : ∀ index level, store.chain.counters.levelCount = index + 1 →
    store.chain.level? index = some level → level.bindings ≠ []
  /-- The last binding of a name is the one that is read. -/
  read : ∀ name,
    (∃ front value back, store.bindings.Last name front value back ∧
        store.lookup name = .ok value ∧ store.contains name = true) ∨
      name ∉ store.bindings.map Prod.fst ∧
        store.lookup name = .error (.unboundName name) ∧ store.contains name = false
  /-- A name is bound at the end, unless to a reference that cannot be counted. -/
  push : ∀ name value,
    (∃ after, Store.push name value store = .ok () after ∧
        after.bindings = store.bindings ++ [(name, value)]) ∨
      ∃ position error after, value = .ref position ∧ store.peek position = .error error ∧
        Store.push name value store = .error (.refused error) after ∧
        after.bindings = store.bindings
  /-- The last binding of a name is the one that is removed, even if it was a reference that cannot
  be taken away. -/
  remove : ∀ name,
    (∃ front value back, store.bindings.Last name front value back ∧
        (Action.reached (Store.remove name store)).bindings = front ++ back ∧
        (value.reference? = none → ∃ after, Store.remove name store = .ok () after)) ∨
      name ∉ store.bindings.map Prod.fst ∧
        ∃ after, Store.remove name store = .error (.refused (.unboundName name)) after ∧
          after.bindings = store.bindings
  /-- The last binding of a name is the one that is overwritten, unless with a reference that cannot
  be counted. -/
  replace : ∀ name value,
    (∃ front old back, store.bindings.Last name front old back ∧
        (Action.reached (Store.replace name value store)).bindings =
          front ++ (name, value) :: back ∧
        (old.reference? = none → ∃ after, Store.replace name value store = .ok () after)) ∨
      (∃ position error after, value = .ref position ∧ store.peek position = .error error ∧
        Store.replace name value store = .error (.refused error) after ∧
        after.bindings = store.bindings) ∨
      name ∉ store.bindings.map Prod.fst ∧
        ∃ after, Store.replace name value store = .error (.refused (.unboundName name)) after ∧
          after.bindings = store.bindings
  /-- The last binding of a name is the one that is moved to the end. -/
  rename : ∀ name renamed,
    (∃ front value back after, store.bindings.Last name front value back ∧
        Store.rename name renamed store = .ok () after ∧
        after.bindings = front ++ back ++ [(renamed, value)]) ∨
      name ∉ store.bindings.map Prod.fst ∧
        ∃ after, Store.rename name renamed store = .error (.refused (.unboundName name)) after ∧
          after.bindings = store.bindings
  /-- Nothing that can be done finds the stack out of order. -/
  sound : ∀ (operation : Operation) (defect : Defect) (after : Store),
    operation.perform store = .error (.defect defect) after → defect.ofStack = false

namespace Store

variable {bindings : Bindings} {store : Store}

/-- The stack of a store has some bindings and is in order. -/
abbrev Piles (bindings : Bindings) : Store → Prop :=
  OfChain (Chain.Shown (Snapshot.Piled bindings))

theorem Piles.bindings_eq (piles : store.Piles bindings) : store.bindings = bindings :=
  piles.2.binds.bindings_eq

theorem Piles.cells (bindings : Bindings) :
    Chain.GuardsCells (Chain.Shown (Snapshot.Piled bindings)) (StoreFault.Spares Defect.ofStack) :=
  Chain.guardsCells_of_stack (Snapshot.ofStack_piled bindings)

/-- A value can be stored unless it is a reference to a cell that cannot be read either. -/
theorem Piles.retainValue_cases (piles : store.Piles bindings) (value : Value) :
    (∃ after, retainValue value store = .ok () after ∧ after.Piles bindings) ∨
      ∃ position error after, value = .ref position ∧ store.peek position = .error error ∧
        retainValue value store = .error (.refused error) after ∧ after.Piles bindings := by
  have ends := guards_retainValue (Piles.cells bindings).toGuardsCounts value store piles
  cases value with
  | ref position =>
    obtain ⟨_, _, _, after, -, ran, -⟩ | ⟨error, after, unread, failed, -⟩ :=
      Chain.retain_cases piles.1 position
    · have retained : retainValue (.ref position) store = .ok () { store with chain := after } :=
        onChain_of_ok ran
      rw [retained] at ends
      exact .inl ⟨_, retained, ends.kept⟩
    · have refused : retainValue (.ref position) store =
          .error (.refused error) { store with chain := after } := onChain_of_error failed
      rw [refused] at ends
      exact .inr ⟨position, error, _, rfl, unread, refused, ends.kept⟩
  | _ => exact .inl ⟨store, rfl, piles⟩

/-- Taking a reference away leaves the stack as it is. -/
theorem Piles.releaseValue (piles : store.Piles bindings) (value : Value) :
    (Action.reached (Store.releaseValue value store)).Piles bindings ∧
      (value.reference? = none → Store.releaseValue value store = .ok () store) := by
  refine ⟨(guards_releaseValue (Piles.cells bindings).toGuardsCounts value store piles).kept,
    fun plain => ?_⟩
  unfold Store.releaseValue
  rw [plain]
  rfl

/-- A stack in order behaves as the list of its bindings. -/
theorem Piles.listLike (piles : store.Piles bindings) : store.ListLike where
  size := by
    obtain ⟨-, -, -, size, -⟩ := piles.2
    rw [piles.bindings_eq]
    exact size
  levels index inside := by
    obtain ⟨levels, leveled, -⟩ := piles.2
    rw [← Chain.snapshot_counters, leveled.count] at inside
    rw [← Chain.snapshot_level?, leveled.level, List.getElem?_eq_getElem inside]
    exact ⟨_, rfl, leveled.distinct _ (List.getElem_mem inside)⟩
  top index level isTop found empty := by
    obtain ⟨levels, leveled, -, -, filled⟩ := piles.2
    rw [← Chain.snapshot_counters, leveled.count] at isTop
    rw [← Chain.snapshot_level?, leveled.level] at found
    obtain ⟨bound, last, rfl⟩ := Option.map_eq_some_iff.mp found
    rw [List.getLast?_eq_getElem?, isTop, Nat.add_sub_cancel, last] at filled
    exact filled (congrArg some empty)
  read name := by
    have found : store.chain.get? name = bindings.reverse.lookup name := by
      rw [Chain.get?_eq_snapshot]
      exact piles.2.binds.get? name
    unfold lookup contains
    rw [piles.bindings_eq, found]
    refine (bindings.last_cases name).imp ?_ fun unbound => ⟨unbound, ?_⟩
    · rintro ⟨front, value, back, last⟩
      refine ⟨front, value, back, last, ?_⟩
      rw [last.lookup]
      exact ⟨rfl, rfl⟩
    · rw [Bindings.lookup_of_unbound unbound]
      exact ⟨rfl, rfl⟩
  push name value := by
    rw [piles.bindings_eq]
    unfold Store.push
    obtain ⟨retained, ran, ready⟩ | ⟨position, error, after, isRef, unread, failed, still⟩ :=
      piles.retainValue_cases value
    · obtain ⟨after, pushed, piled⟩ := Chain.push_piled ready name value
      rw [Action.bind_of_ok ran]
      exact .inl ⟨_, onChain_of_ok pushed, piled.2.binds.bindings_eq⟩
    · exact .inr ⟨position, error, after, isRef, unread, Action.bind_of_error failed,
        still.bindings_eq⟩
  remove name := by
    rw [piles.bindings_eq]
    unfold Store.remove
    obtain ⟨front, value, back, after, last, removed, piled⟩ | ⟨unbound, after, failed, still⟩ :=
      Chain.remove_piled_cases piles name
    · have without : Piles (front ++ back) { store with chain := after } := piled
      obtain ⟨released, plain⟩ := without.releaseValue value
      rw [Action.bind_of_ok (onChain_of_ok removed)]
      exact .inl ⟨front, value, back, last, released.bindings_eq, fun isPlain => ⟨_, plain isPlain⟩⟩
    · exact .inr ⟨unbound, _, Action.bind_of_error (onChain_of_error failed),
        still.2.binds.bindings_eq⟩
  replace name value := by
    rw [piles.bindings_eq]
    unfold Store.replace
    obtain ⟨retained, ran, ready⟩ | ⟨position, error, after, isRef, unread, failed, still⟩ :=
      piles.retainValue_cases value
    · rw [Action.bind_of_ok ran]
      obtain ⟨front, old, back, after, last, replaced, piled⟩ | ⟨unbound, after, failed, still⟩ :=
        Chain.replace_piled_cases ready name value
      · have changed :
            Piles (front ++ (name, value) :: back) { retained with chain := after } := piled
        obtain ⟨released, plain⟩ := changed.releaseValue old
        rw [Action.bind_of_ok (onChain_of_ok replaced)]
        exact .inl ⟨front, old, back, last, released.bindings_eq, fun isPlain => ⟨_, plain isPlain⟩⟩
      · exact .inr (.inr ⟨unbound, _, Action.bind_of_error (onChain_of_error failed),
          still.2.binds.bindings_eq⟩)
    · exact .inr (.inl ⟨position, error, after, isRef, unread, Action.bind_of_error failed,
        still.bindings_eq⟩)
  rename name renamed := by
    rw [piles.bindings_eq]
    obtain ⟨front, value, back, without, last, removed, piled⟩ | ⟨unbound, after, failed, still⟩ :=
      Chain.remove_piled_cases piles name
    · obtain ⟨after, pushed, moved⟩ := Chain.push_piled piled renamed value
      refine .inl ⟨front, value, back, _, last, onChain_of_ok ?_, moved.2.binds.bindings_eq⟩
      rw [Action.bind_of_ok removed, pushed]
    · exact .inr ⟨unbound, _, onChain_of_error (Action.bind_of_error failed),
        still.2.binds.bindings_eq⟩
  sound operation defect after failed :=
    Operation.fault_allowed Chain.guards_stacked (StoreFault.spares_defect rfl)
      ⟨piles.1, bindings, piles.2⟩ failed defect rfl

end Store

/-- Whatever has been done to a store, its stack behaves as the list of its bindings, from whichever
of its generations it is seen. -/
theorem stack_is_list (settings : StoreSettings) (operations : List Operation) :
    let store := (Store.empty settings).after operations
    ∀ generation older, generation :: older <:+ store.chain.generations →
      (store.seenFrom generation older).bindings = (generation.over older).bindings ∧
        (store.seenFrom generation older).ListLike := by
  intro store generation older suffix
  obtain ⟨inOrder, each⟩ := Store.eachView_after Chain.guards_stacked Generation.stacked_oldest
    settings operations
  obtain ⟨bindings, piled⟩ := each generation older suffix
  exact ⟨rfl, Store.Piles.listLike ⟨inOrder.wiped, piled⟩⟩

end Rewind
