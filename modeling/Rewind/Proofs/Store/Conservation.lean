/-
This file proves that references are conserved. As long as nobody takes a reference away by hand
that was not counted by hand, every cell counts at least its occurrences in every generation, so
nothing points to a free cell. What it counts on top is a matter of the caller alone: no operation
that stores, moves or drops references changes it.

An operation that takes references away is refused only for reasons that can be seen before it
begins, since by then every reference it comes to is known to be counted.
-/

import Mathlib
import Rewind.Proofs.Store.Transfers

namespace Rewind

/-! ### What is conserved -/

/-- What an access counts or takes away by hand. -/
def Access.lends : Access → Nat → Int
  | .retain position => Pi.single position 1
  | .release position => Pi.single position (-1)
  | _ => 0

/-- What an operation counts or takes away by hand. -/
def Operation.lends : Operation → Nat → Int
  | .access made => made.lends
  | _ => 0

/-- Whether an operation goes on from what is seen from the tail. The others return to an older
view, or to none. -/
def Operation.Continues : Operation → Prop
  | .access _ | .freeze _ | .collapse _ => True
  | .rollback | .restore _ | .clear => False

/-- Every cell counts at least its occurrences, and every reference is to a cell in use. -/
structure Snapshot.Conserved (snapshot : Snapshot) : Prop where
  counted : ∀ entry ∈ snapshot.entries, snapshot.references.count entry.position ≤ entry.count
  live : ∀ position ∈ snapshot.references, position ∈ snapshot.entries.map Entry.position

/-- Every cell counts just its occurrences. -/
def Snapshot.Exact (snapshot : Snapshot) : Prop :=
  ∀ entry ∈ snapshot.entries, entry.count = snapshot.references.count entry.position

/-- What a cell that stays in use counts on top of its occurrences changes by what is lent. -/
def Snapshot.Carried (lends : Nat → Int) (before after : Snapshot) : Prop :=
  ∀ former ∈ before.entries, ∀ entry ∈ after.entries, former.position = entry.position →
    (entry.count : Int) - after.references.count entry.position =
      former.count - before.references.count former.position + lends entry.position

/-- A reference is taken away by hand only where more are counted than occur. -/
def Store.Fair (store : Store) (operation : Operation) : Prop :=
  ∀ position, operation = .access (.release position) →
    ∃ count, store.count position = .ok count ∧
      store.chain.snapshot.references.count position < count

/-- No reference is counted by hand, and the operation succeeds. -/
def Store.Plain (store : Store) (operation : Operation) : Prop :=
  (∀ position, operation ≠ .access (.retain position)) ∧
    ∃ answer after, operation.perform store = .ok answer after

/-- Whether a position is that of a cell in use. -/
def Store.Live (store : Store) (position : Nat) : Prop := store.isFreed position = .ok false

/-- What takes references away is refused only for what can be seen before it begins to, and a sweep
is stopped only by its threshold. -/
structure Store.Unfailing (store : Store) : Prop where
  remove : ∀ name, (∃ after, Store.remove name store = .ok () after) ↔ store.contains name = true
  replace : ∀ name value, (∃ after, Store.replace name value store = .ok () after) ↔
    store.contains name = true ∧ ∀ position ∈ value.reference?, store.Live position
  assign : ∀ position payload, (∃ after, Store.assign position payload store = .ok () after) ↔
    store.Live position ∧ ∀ other ∈ payload.references, store.Live other
  update : ∀ position (edit : Payload → Value × Payload),
    (∃ answer after, Store.update position edit store = .ok answer after) ↔
      ∃ payload, store.peek position = .ok payload ∧
        ∀ other ∈ (edit payload).2.references, store.Live other
  free : ∀ position, (∃ after, Store.free position store = .ok () after) ↔
    store.Live position ∧ store.count position = .ok 0
  sweep : ∀ forced fault after, Store.sweep forced store = .error fault after →
    fault = .defect .thresholdOverflow

/-! ### Accounts as they are seen -/

namespace Store

variable {surplus : Nat → Nat} {entries : Multiset Entry} {bindings : Bindings} {store : Store}

theorem Stands.cell_cases (stands : store.Stands entries bindings) (position : Nat) :
    (∃ entry ∈ entries, entry.position = position ∧ store.chain.cell position = .ok entry.cell) ∨
      position ∉ entries.map Entry.position ∧
        ((∃ next, store.chain.cell position = .ok ⟨position, .free next⟩) ∨
          store.chain.cell position = .error (.outsideHeap position)) := by
  rw [Chain.cell_eq_snapshot]
  obtain ⟨entry, rest, here, rfl, seen⟩ | ⟨absent, ⟨-, next, seen⟩ | ⟨-, seen⟩⟩ :=
    stands.chain.heap.cell_cases position
  · exact .inl ⟨entry, Multiset.mem_cons_self _ _, here, by rw [seen]⟩
  · exact .inr ⟨absent, .inl ⟨next, by rw [seen]⟩⟩
  · exact .inr ⟨absent, .inr (by rw [seen])⟩

theorem Stands.live_iff (stands : store.Stands entries bindings) {position : Nat} :
    store.Live position ↔ position ∈ entries.map Entry.position := by
  unfold Live isFreed
  obtain ⟨entry, member, rfl, seen⟩ | ⟨absent, ⟨next, seen⟩ | seen⟩ := stands.cell_cases position
  · rw [seen]
    exact iff_of_true rfl (Multiset.mem_map_of_mem _ member)
  · rw [seen]
    exact iff_of_false (fun same => nomatch same) absent
  · rw [seen]
    exact iff_of_false (fun same => nomatch same) absent

theorem Stands.peek_iff (stands : store.Stands entries bindings) {position : Nat}
    {payload : Payload} :
    store.peek position = .ok payload ↔
      ∃ entry ∈ entries, entry.position = position ∧ entry.payload = payload := by
  constructor
  · intro seen
    obtain ⟨entry, member, rfl, -⟩ | ⟨-, ⟨next, found⟩ | found⟩ := stands.cell_cases position
    · rw [stands.peek member] at seen
      cases seen
      exact ⟨entry, member, rfl, rfl⟩
    · rw [Store.peek, found] at seen
      cases seen
    · rw [Store.peek, found] at seen
      cases seen
  · rintro ⟨entry, member, rfl, rfl⟩
    exact stands.peek member

theorem Stands.count (stands : store.Stands entries bindings) {entry : Entry}
    (member : entry ∈ entries) : store.count entry.position = .ok entry.count := by
  unfold Store.count
  rw [Chain.cell_eq_snapshot, stands.chain.heap.used entry member]
  rfl

theorem Stands.contains_iff (stands : store.Stands entries bindings) {name : String} :
    store.contains name = true ↔ name ∈ bindings.map Prod.fst := by
  unfold Store.contains
  rw [Chain.get?_eq_snapshot, ← Chain.snapshot_counters, stands.chain.stack.get?,
    List.lookup_isSome_iff, List.mem_map]
  constructor
  · rintro ⟨binding, member, same⟩
    exact ⟨binding, List.mem_reverse.mp member, (beq_iff_eq.mp same).symm⟩
  · rintro ⟨binding, member, rfl⟩
    exact ⟨binding, List.mem_reverse.mpr member, beq_self_eq_true _⟩

/-- A reference that may be taken away by hand is surplus. -/
theorem Accounts.spare (accounts : store.Accounts surplus 0 entries bindings) {position : Nat}
    (fair : store.Fair (.access (.release position))) :
    position ∈ entries.map Entry.position ∧ 0 < surplus position := by
  obtain ⟨count, counted, fewer⟩ := fair position rfl
  obtain ⟨entry, member, rfl, -⟩ | ⟨-, ⟨next, seen⟩ | seen⟩ :=
    accounts.stands.cell_cases position
  · refine ⟨Multiset.mem_map_of_mem _ member, ?_⟩
    have balanced := accounts.balanced entry member
    rw [accounts.stands.count member] at counted
    cases counted
    rw [accounts.stands.chain.heap.references_eq accounts.stands.chain.stack] at fewer
    rw [zero_add] at balanced
    omega
  · rw [Store.count, seen] at counted
    cases counted
    exact absurd fewer (Nat.not_lt_zero _)
  · rw [Store.count, seen] at counted
    cases counted

/-- With even accounts, whatever is owed can be taken away. -/
theorem Accounts.unfailing (accounts : store.Accounts surplus 0 entries bindings) :
    store.Unfailing := by
  have stands := accounts.stands
  refine ⟨fun name => ?_, fun name value => ?_, fun position payload => ?_, fun position edit => ?_,
    fun position => ?_, fun forced fault after failed => ?_⟩
  · rw [stands.contains_iff]
    obtain ⟨front, value, back, left, after, rfl, -, ran, -⟩ | ⟨unbound, after, ran, -⟩ :=
      accounts.remove_cases name
    · exact iff_of_true ⟨after, ran⟩ (by simp)
    · refine iff_of_false ?_ unbound
      rw [ran]
      exact fun ⟨_, same⟩ => nomatch same
  · simp only [stands.contains_iff, stands.live_iff]
    obtain ⟨allowed, left, bound, after, ran, -⟩ | ⟨refused, fault, after, ran, -⟩ :=
      accounts.replace_cases name value
    · exact iff_of_true ⟨after, ran⟩ allowed
    · refine iff_of_false ?_ refused
      rw [ran]
      exact fun ⟨_, same⟩ => nomatch same
  · simp only [stands.live_iff]
    obtain ⟨allowed, left, after, ran, -⟩ | ⟨refused, fault, after, ran, -⟩ :=
      accounts.assign_cases position payload
    · exact iff_of_true ⟨after, ran⟩ allowed
    · refine iff_of_false ?_ refused
      rw [ran]
      exact fun ⟨_, same⟩ => nomatch same
  · simp only [stands.live_iff, stands.peek_iff]
    obtain ⟨⟨entry, member, here, present⟩, answer, left, after, ran, -⟩ |
      ⟨refused, fault, after, ran, -⟩ := accounts.update_cases position edit
    · exact iff_of_true ⟨answer, after, ran⟩
        ⟨entry.payload, ⟨entry, member, here, rfl⟩, present⟩
    · refine iff_of_false ?_ ?_
      · rw [ran]
        exact fun ⟨_, _, same⟩ => nomatch same
      · rintro ⟨_, ⟨entry, member, here, rfl⟩, present⟩
        exact refused ⟨entry, member, here, present⟩
  · rw [stands.live_iff]
    obtain ⟨⟨entry, member, rfl, unreferenced⟩, left, after, ran, -⟩ |
      ⟨refused, fault, after, ran, -⟩ := accounts.free_cases position
    · refine iff_of_true ⟨after, ran⟩ ⟨Multiset.mem_map_of_mem _ member, ?_⟩
      rw [stands.count member, unreferenced]
    · refine iff_of_false ?_ ?_
      · rw [ran]
        exact fun ⟨_, same⟩ => nomatch same
      · rintro ⟨present, counted⟩
        obtain ⟨entry, member, rfl⟩ := Multiset.mem_map.mp present
        rw [stands.count member] at counted
        exact refused ⟨entry, member, rfl, by injection counted⟩
  · obtain ⟨left, -, ⟨report, reached, ran, -⟩ | ⟨reached, ran, -⟩⟩ := accounts.sweep_cases forced
    · rw [ran] at failed
      cases failed
    · rw [ran] at failed
      cases failed
      rfl

end Store

/-! ### One access -/

/-- How an access ends that was begun with even accounts. If it is refused, they are even again. If
it succeeds, the surplus of what stays in use changes by what is lent, and what is new has none. -/
inductive Access.Ends (surplus : Nat → Nat) (entries : Multiset Entry) (lends : Nat → Int) :
    EStateM.Result StoreFault Store Answer → Prop
  | done {answer : Answer} {after : Store} {spare : Nat → Nat} {left : Multiset Entry}
    {bound : Bindings} (accounts : after.Accounts spare 0 left bound)
    (carried : ∀ position ∈ left.map Entry.position, (spare position : Int) =
      (if position ∈ entries.map Entry.position then surplus position else 0) + lends position) :
    Ends surplus entries lends (.ok answer after)
  | refused {fault : StoreFault} {after : Store} (accounted : after.Accounted) :
    Ends surplus entries lends (.error fault after)

namespace Access

variable {surplus : Nat → Nat} {entries left : Multiset Entry} {bindings bound : Bindings}
  {store after : Store} {α : Type} {action : StoreM α} {answer : α → Answer} {value : α}
  {fault : StoreFault} {lends : Nat → Int}

theorem Ends.of_error (ran : action store = .error fault after) (accounted : after.Accounted) :
    Ends surplus entries lends ((do return answer (← action) : StoreM Answer) store) := by
  rw [Action.bind_of_error ran]
  exact .refused accounted

theorem Ends.answered {spare : Nat → Nat} (ran : action store = .ok value after)
    (accounts : after.Accounts spare 0 left bound)
    (carried : ∀ position ∈ left.map Entry.position, (spare position : Int) =
      (if position ∈ entries.map Entry.position then surplus position else 0) + lends position) :
    Ends surplus entries lends ((do return answer (← action) : StoreM Answer) store) := by
  rw [Action.bind_of_ok ran]
  exact .done accounts carried

/-- Most accesses leave the surplus alone. -/
theorem Ends.of_ok (ran : action store = .ok value after)
    (accounts : after.Accounts surplus 0 left bound)
    (fewer : left.map Entry.position ⊆ entries.map Entry.position) :
    Ends surplus entries 0 ((do return answer (← action) : StoreM Answer) store) := by
  refine .answered ran accounts fun position member => ?_
  rw [if_pos (fewer member), Pi.zero_apply, add_zero]

theorem Ends.of_read (accounts : store.Accounts surplus 0 entries bindings)
    (reading : Store → Except StoreError α) :
    Ends surplus entries 0 ((do return answer (← Store.read reading) : StoreM Answer) store) := by
  cases seen : reading store with
  | ok value =>
    have ran : Store.read reading store = .ok value store := by rw [Store.read, seen]
    exact .of_ok ran accounts fun _ member => member
  | error error =>
    have ran : Store.read reading store = .error (.refused error) store := by rw [Store.read, seen]
    exact .of_error ran accounts.accounted

/-- Every access ends with even accounts again. -/
theorem ends_perform (access : Access) (accounts : store.Accounts surplus 0 entries bindings)
    (fair : store.Fair (.access access)) :
    Ends surplus entries access.lends (access.perform store) := by
  cases access with
  | alloc payload =>
    obtain ⟨-, position, after, ran, fresh, settled⟩ | ⟨-, fault, after, ran, accounted⟩ :=
      accounts.alloc_cases payload
    · refine .answered ran settled fun other member => ?_
      rw [Multiset.map_cons, Multiset.mem_cons, Chain.map_position_bump] at member
      change _ = _ + (0 : Int)
      rw [add_zero]
      obtain rfl | before := member
      · rw [Function.update_self, if_neg fresh]
      · have different : other ≠ position := fun same => fresh (same ▸ before)
        rw [Function.update_of_ne different, if_pos before]
    · exact .of_error ran accounted
  | deref position =>
    obtain ⟨entry, -, -, after, ran, still⟩ | ⟨-, fault, after, ran, still⟩ :=
      accounts.read_cases position
    · exact .of_ok ran still fun _ member => member
    · exact .of_error ran still.accounted
  | peek position => exact .of_read accounts _
  | count position => exact .of_read accounts _
  | isFreed position => exact .of_read accounts _
  | assign position payload =>
    obtain ⟨-, left, after, ran, settled, fewer⟩ | ⟨-, fault, after, ran, accounted⟩ :=
      accounts.assign_cases position payload
    · exact .of_ok ran settled fewer
    · exact .of_error ran accounted
  | update position edit =>
    obtain ⟨-, answer, left, after, ran, settled, fewer⟩ | ⟨-, fault, after, ran, accounted⟩ :=
      accounts.update_cases position edit
    · exact .of_ok ran settled fewer
    · exact .of_error ran accounted
  | free position =>
    obtain ⟨-, left, after, ran, settled, thins⟩ | ⟨-, fault, after, ran, still⟩ :=
      accounts.free_cases position
    · exact .of_ok ran settled thins.subset
    · exact .of_error ran still.accounted
  | retain position =>
    obtain ⟨after, ran, settled⟩ | ⟨fault, after, ran, accounted⟩ := accounts.retain_cases position
    · refine .answered ran settled fun other member => ?_
      rw [Chain.map_position_bump] at member
      rw [if_pos member, Multiset.count_singleton, Access.lends, Pi.single_apply]
      split <;> rfl
    · exact .of_error ran accounted
  | release position =>
    obtain ⟨present, positive⟩ := accounts.spare fair
    obtain ⟨left, after, ran, settled, fewer⟩ := accounts.release present positive
    refine .answered ran settled fun other member => ?_
    rw [if_pos (fewer member), Access.lends, Pi.single_apply, Function.update_apply]
    split
    · subst other
      omega
    · rw [add_zero]
  | push name value =>
    obtain ⟨counted, after, ran, settled, same⟩ | ⟨fault, after, ran, accounted⟩ :=
      accounts.push_cases name value
    · exact .of_ok ran settled (same ▸ fun _ member => member)
    · exact .of_error ran accounted
  | lookup name => exact .of_read accounts _
  | contains name => exact .of_read accounts _
  | remove name =>
    obtain ⟨front, value, back, left, after, -, -, ran, settled, thins, -⟩ |
      ⟨-, after, ran, still⟩ := accounts.remove_cases name
    · exact .of_ok ran settled thins.subset
    · exact .of_error ran still.accounted
  | replace name value =>
    obtain ⟨-, left, bound, after, ran, settled, fewer⟩ | ⟨-, fault, after, ran, accounted⟩ :=
      accounts.replace_cases name value
    · exact .of_ok ran settled fewer
    · exact .of_error ran accounted
  | rename name renamed =>
    obtain ⟨bound, after, ran, settled⟩ | ⟨fault, after, ran, accounted⟩ :=
      accounts.rename_cases name renamed
    · exact .of_ok ran settled fun _ member => member
    · exact .of_error ran accounted
  | bindings => exact .of_read accounts _
  | counters => exact .of_read accounts _
  | sweep forced =>
    obtain ⟨left, thins, ⟨report, after, ran, settled, -⟩ | ⟨after, ran, settled, -⟩⟩ :=
      accounts.sweep_cases forced
    · exact .of_ok ran settled thins.subset
    · exact .of_error ran settled.accounted
  | takeRequest =>
    have ran : Store.takeRequest store = .ok store.sweepRequested
      { store with sweepRequested := false } := rfl
    exact .of_ok ran ⟨⟨accounts.stands.chain, accounts.stands.idle⟩, accounts.balanced,
      accounts.isSealed⟩ fun _ member => member

end Access

/-! ### Runs -/

/-- The accounts of a view are even. -/
structure Snapshot.Accounts (surplus : Nat → Nat) (entries : Multiset Entry) (bindings : Bindings)
    (snapshot : Snapshot) : Prop where
  heap : snapshot.Holds entries
  stack : snapshot.Binds bindings
  balanced : Entry.Balanced surplus bindings.held entries
  isSealed : Entry.Sealed bindings.held entries

namespace Snapshot

variable {surplus spare : Nat → Nat} {entries left : Multiset Entry} {bindings bound : Bindings}
  {snapshot after : Snapshot}

theorem Accounts.conserved (accounts : snapshot.Accounts surplus entries bindings) :
    snapshot.Conserved := by
  refine ⟨fun entry member => ?_, fun position member => ?_⟩
  · rw [accounts.heap.entries_eq] at member
    rw [accounts.heap.references_eq accounts.stack, accounts.balanced entry member]
    exact Nat.le_add_left _ _
  · rw [accounts.heap.references_eq accounts.stack] at member
    rw [accounts.heap.entries_eq]
    exact accounts.isSealed position member

theorem Accounts.exact (accounts : snapshot.Accounts surplus entries bindings)
    (none : ∀ position ∈ entries.map Entry.position, surplus position = 0) : snapshot.Exact := by
  intro entry member
  rw [accounts.heap.entries_eq] at member
  rw [accounts.heap.references_eq accounts.stack, accounts.balanced entry member,
    none _ (Multiset.mem_map_of_mem _ member), zero_add]

theorem Accounts.carried (accounts : snapshot.Accounts surplus entries bindings)
    (settled : after.Accounts spare left bound) {lends : Nat → Int}
    (carried : ∀ position ∈ left.map Entry.position, (spare position : Int) =
      (if position ∈ entries.map Entry.position then surplus position else 0) + lends position) :
    snapshot.Carried lends after := by
  intro former present entry member same
  rw [accounts.heap.entries_eq] at present
  rw [settled.heap.entries_eq] at member
  rw [accounts.heap.references_eq accounts.stack, settled.heap.references_eq settled.stack]
  have countedBefore := accounts.balanced former present
  have countedAfter := settled.balanced entry member
  have changed := carried _ (Multiset.mem_map_of_mem _ member)
  rw [if_pos (same ▸ Multiset.mem_map_of_mem _ present)] at changed
  rw [← same] at changed countedAfter ⊢
  omega

end Snapshot

namespace Store

variable {surplus : Nat → Nat} {entries : Multiset Entry} {bindings : Bindings} {store : Store}

theorem Accounts.snapshot (accounts : store.Accounts surplus 0 entries bindings) :
    store.chain.snapshot.Accounts surplus entries bindings := by
  have balanced := accounts.balanced
  have isSealed := accounts.isSealed
  rw [zero_add] at balanced isSealed
  exact ⟨accounts.stands.chain.heap, accounts.stands.chain.stack, balanced, isSealed⟩

theorem InOrder.accounts (inOrder : store.InOrder)
    (accounts : store.chain.snapshot.Accounts surplus entries bindings) :
    store.Accounts surplus 0 entries bindings := by
  refine ⟨⟨⟨accounts.heap, accounts.stack, inOrder.wiped⟩, inOrder.idle⟩, ?_, ?_⟩
  · rw [zero_add]
    exact accounts.balanced
  · rw [zero_add]
    exact accounts.isSealed

end Store

/-- The accounts of a view are even, and if this is asked for, no cell counts more than its
occurrences. -/
def Snapshot.Even (exact : Prop) (snapshot : Snapshot) : Prop :=
  ∃ surplus entries bindings, snapshot.Accounts surplus entries bindings ∧
    (exact → ∀ position ∈ entries.map Entry.position, surplus position = 0)

theorem Generation.even_oldest (exact : Prop) (id threshold : Nat) :
    ((Generation.oldest id threshold).over []).Even exact :=
  ⟨0, 0, [], ⟨(holds_oldest id threshold).1, (holds_oldest id threshold).2,
    fun _ member => absurd member (Multiset.notMem_zero _),
    fun _ member => absurd member (Multiset.notMem_zero _)⟩, fun _ _ _ => rfl⟩

namespace Store

variable {exact : Prop}

/-- Without surplus, nothing can be lent by a fair access that counts nothing by hand. -/
theorem InOrder.even_perform {store : Store} (inOrder : store.InOrder) {access : Access}
    (even : store.chain.snapshot.Even exact) (fair : store.Fair (.access access))
    (plain : exact → store.Plain (.access access)) :
    (Action.reached (access.perform store)).chain.snapshot.Even exact := by
  obtain ⟨surplus, entries, bindings, seen, none⟩ := even
  have accounts := inOrder.accounts seen
  have ends := access.ends_perform accounts fair
  have lent : exact → access.lends = 0 := by
    intro asked
    cases access with
    | retain position => exact absurd rfl ((plain asked).1 position)
    | release position =>
      obtain ⟨present, positive⟩ := accounts.spare fair
      exact absurd (none asked position present) positive.ne'
    | _ => rfl
  have succeeds : exact → ∃ answer after, access.perform store = .ok answer after :=
    fun asked => (plain asked).2
  generalize access.perform store = result at ends succeeds ⊢
  cases ends with
  | @done _ _ spare left _ settled carried =>
    refine ⟨_, _, _, settled.snapshot, fun asked position member => ?_⟩
    have changed := carried position member
    rw [lent asked, Pi.zero_apply, add_zero] at changed
    split at changed
    · rename_i before
      rw [none asked position before] at changed
      exact_mod_cast changed
    · exact_mod_cast changed
  | refused accounted =>
    obtain ⟨_, _, _, settled⟩ := accounted
    refine ⟨_, _, _, settled.snapshot, fun asked => ?_⟩
    obtain ⟨_, _, ran⟩ := succeeds asked
    cases ran

/-- The accounts of every view are even after every fair run. -/
theorem even_after (settings : StoreSettings) {operations : List Operation}
    (fair : (empty settings).Along Fair operations)
    (plain : exact → (empty settings).Along Plain operations) :
    ((empty settings).after operations).InOrder ∧
      ((empty settings).after operations).chain.EachView (Snapshot.Even exact) := by
  have step : ∀ (store : Store) (operation : Operation),
      store.InOrder ∧ store.chain.EachView (Snapshot.Even exact) →
        store.Fair operation ∧ (exact → store.Plain operation) →
        (Action.reached (operation.perform store)).InOrder ∧
          (Action.reached (operation.perform store)).chain.EachView (Snapshot.Even exact) := by
    rintro store operation ⟨inOrder, each⟩ ⟨isFair, isPlain⟩
    refine ⟨operation.inOrder_perform inOrder, Operation.eachView_perform
      (Generation.even_oldest exact) inOrder.wiped inOrder.layered each fun access same => ?_⟩
    subst same
    exact inOrder.even_perform each.tail isFair isPlain
  exact (fair.and (.of_imp plain)).after step
    ⟨inOrder_empty settings, Chain.eachView_of_blank (Generation.even_oldest exact) _ _ _⟩

end Store

/-- What goes on from the tail carries the surplus along, and leaves all that lies below. -/
theorem Operation.carried_perform {operation : Operation} (continues : operation.Continues)
    {store after : Store} {answer : Answer} (inOrder : store.InOrder)
    (even : store.chain.snapshot.Even False) (fair : store.Fair operation)
    (ran : operation.perform store = .ok answer after) :
    store.chain.snapshot.Carried operation.lends after.chain.snapshot ∧
      after.chain.older <:+ store.chain.generations := by
  obtain ⟨surplus, entries, bindings, seen, -⟩ := even
  have stays (same : after.chain.snapshot = store.chain.snapshot) :
      store.chain.snapshot.Carried 0 after.chain.snapshot := by
    rw [same]
    refine seen.carried seen fun position member => ?_
    rw [if_pos member, Pi.zero_apply, add_zero]
  cases operation with
  | access made =>
    have kept := (made.keeps_perform inOrder.wiped).chain.older
    have ends := made.ends_perform (inOrder.accounts seen) fair
    change made.perform store = _ at ran
    rw [ran] at kept ends
    refine ⟨?_, kept ▸ List.suffix_cons _ _⟩
    cases ends with
    | done settled carried => exact seen.carried settled.snapshot carried
  | freeze resume =>
    cases ran
    exact ⟨stays (Store.snapshot_extend _ _ _), List.suffix_refl _⟩
  | collapse checkpoint =>
    change (Store.collapse checkpoint >>= fun _ => pure _) store = _ at ran
    obtain ⟨failed, -⟩ | ⟨-, merged, succeeded, chain, -⟩ := store.collapse_cases checkpoint
    · rw [Action.bind_of_error failed] at ran
      cases ran
    · rw [Action.bind_of_ok succeeded] at ran
      cases ran
      rw [chain] at stays ⊢
      exact ⟨stays (Chain.mergeTo_spec inOrder.layered _).1, Chain.older_mergeTo _ _⟩
  | rollback => exact continues.elim
  | restore checkpoint => exact continues.elim
  | clear => exact continues.elim

/-- References are conserved by every run in which they are taken away by hand only where they are
surplus. -/
theorem references_conserved (settings : StoreSettings) (operations : List Operation)
    (fair : (Store.empty settings).Along Store.Fair operations) :
    let store := (Store.empty settings).after operations
    store.chain.EachView Snapshot.Conserved ∧
      (∀ operation answer after, operation.Continues → store.Fair operation →
        operation.perform store = .ok answer after →
          store.chain.snapshot.Carried operation.lends after.chain.snapshot ∧
            after.chain.older <:+ store.chain.generations) ∧
      ((Store.empty settings).Along Store.Plain operations → store.chain.EachView Snapshot.Exact) ∧
      store.Unfailing := by
  intro store
  obtain ⟨inOrder, each⟩ := Store.even_after settings fair (False.elim)
  refine ⟨each.imp ?_, ?_, fun plain => ?_, ?_⟩
  · rintro view ⟨surplus, entries, bindings, accounts, -⟩
    exact accounts.conserved
  · intro operation answer after continues isFair ran
    exact operation.carried_perform continues inOrder each.tail isFair ran
  · have exactly := (Store.even_after settings fair fun _ : True => plain).2
    refine exactly.imp ?_
    rintro view ⟨surplus, entries, bindings, accounts, none⟩
    exact accounts.exact (none trivial)
  · obtain ⟨surplus, entries, bindings, accounts, -⟩ := each.tail
    exact (inOrder.accounts accounts).unfailing

/-- A cell that is referred to twice from another one and counted once more by hand, in a generation
above theirs. -/
theorem references_conserved_twice :
    let operations : List Operation := [
      .access (.alloc (.list [])), .access (.alloc (.list [.ref 0, .ref 0])),
      .access (.push "pair" (.ref 1)), .freeze ⟨0, Signal.enter, 0⟩, .access (.retain 0),
      .access (.release 0)]
    let store := (Store.empty {}).after operations
    (Store.empty {}).Along Store.Fair operations ∧
      store.chain.EachView Snapshot.Conserved ∧
      (∀ operation answer after, operation.Continues → store.Fair operation →
        operation.perform store = .ok answer after →
          store.chain.snapshot.Carried operation.lends after.chain.snapshot ∧
            after.chain.older <:+ store.chain.generations) ∧
      ((Store.empty {}).Along Store.Plain operations → store.chain.EachView Snapshot.Exact) ∧
      store.Unfailing := by
  intro operations
  have fair : (Store.empty {}).Along Store.Fair operations := by
    have unasked {store : Store} {operation : Operation}
        (different : ∀ position, operation ≠ .access (.release position)) : store.Fair operation :=
      fun position same => absurd same (different position)
    refine ⟨unasked (by simp), unasked (by simp), unasked (by simp), unasked (by simp),
      unasked (by simp), fun position same => ?_, trivial⟩
    cases same
    exact ⟨3, by decide +kernel, by decide +kernel⟩
  exact ⟨fair, references_conserved {} operations fair⟩

end Rewind
