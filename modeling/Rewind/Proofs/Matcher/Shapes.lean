/-
This file says what shape the hidden state of nodes has, whatever a program links them to. Each name
that a node binds is bound to something of the shape that this kind of node puts there, and no node
changes the shape of anything. So whichever node comes upon a binding finds what it expects, be it
the binding of another node; all that it may miss is a binding.

The children of a capture are captures that were stored later. So no capture is below itself,
although nothing keeps the nodes of a program from closing captures in any order.
-/

import Mathlib
import Rewind.Matcher.MatchTree
import Rewind.Proofs.Matcher.Housekeeping
import Rewind.Proofs.Store.Thresholds

namespace Rewind

/-! ### Payloads -/

namespace Payload

/-- A capture. -/
def IsCapture (payload : Payload) : Prop := ∃ record, payload = .capture record

/-- The frame of a repetition that has done a limited number of iterations. -/
def IsRepetition (limit : Nat) (payload : Payload) : Prop :=
  ∃ count start, count ≤ limit ∧ payload = .list [.int (count : Nat), .cursor start]

/-- The frame of a lookahead. -/
def IsLookahead (payload : Payload) : Prop :=
  ∃ checkpoint start, payload = .list [.checkpoint checkpoint, .cursor start]

/-- A payload is changed to one of the same shape. -/
inductive Becomes (limit : Nat) : Payload → Payload → Prop
  | same (payload : Payload) : Becomes limit payload payload
  | capture (record other : Capture) : Becomes limit (.capture record) (.capture other)
  | repetition {count start done stop : Nat} (few : done ≤ limit) :
    Becomes limit (.list [.int count, .cursor start]) (.list [.int done, .cursor stop])

variable {limit larger : Nat} {payload other : Payload}

theorem IsRepetition.mono (repetition : payload.IsRepetition limit) (more : limit ≤ larger) :
    payload.IsRepetition larger := by
  obtain ⟨count, start, few, same⟩ := repetition
  exact ⟨count, start, few.trans more, same⟩

theorem Becomes.isCapture (becomes : payload.Becomes limit other) (capture : payload.IsCapture) :
    other.IsCapture := by
  cases becomes with
  | same => exact capture
  | capture record other => exact ⟨other, rfl⟩
  | repetition few => obtain ⟨record, impossible⟩ := capture; cases impossible

theorem Becomes.isRepetition (becomes : payload.Becomes limit other)
    (repetition : payload.IsRepetition limit) : other.IsRepetition limit := by
  cases becomes with
  | same => exact repetition
  | capture record other => obtain ⟨_, _, _, impossible⟩ := repetition; cases impossible
  | repetition few => exact ⟨_, _, few, rfl⟩

theorem Becomes.isLookahead (becomes : payload.Becomes limit other)
    (lookahead : payload.IsLookahead) : other.IsLookahead := by
  cases becomes with
  | same => exact lookahead
  | capture record other => obtain ⟨_, _, impossible⟩ := lookahead; cases impossible
  | repetition few => obtain ⟨_, _, impossible⟩ := lookahead; cases impossible

theorem Becomes.object {fields : Fields} (becomes : payload.Becomes limit other)
    (same : payload = .object fields) : other = .object fields := by
  cases becomes with
  | same => exact same
  | capture record other => cases same
  | repetition few => cases same

end Payload

/-! ### Entries -/

namespace Entry

/-- What is stored at a position has a property. -/
def At (entries : Multiset Entry) (property : Payload → Prop) (position : Nat) : Prop :=
  ∃ entry ∈ entries, entry.position = position ∧ property entry.payload

/-- The global object is stored at a position. -/
def IsContext (entries : Multiset Entry) (position : Nat) : Prop :=
  ∃ root, At entries (· = .object [(Matcher.rootName, .ref root)]) position ∧
    At entries Payload.IsCapture root

/-- What nodes bind a name to. -/
inductive Suits (limit : Nat) (entries : Multiset Entry) : String → Value → Prop
  | context {position : Nat} (shape : IsContext entries position) :
    Suits limit entries Matcher.globalName (.ref position)
  | openCapture {position : Nat} (shape : At entries Payload.IsCapture position) :
    Suits limit entries Matcher.openName (.ref position)
  | repetition {position : Nat} (shape : At entries (Payload.IsRepetition limit) position) :
    Suits limit entries Matcher.repetitionName (.ref position)
  | atomic (checkpoint : Checkpoint) : Suits limit entries Matcher.atomicName
    (.checkpoint checkpoint)
  | lookahead {position : Nat} (shape : At entries Payload.IsLookahead position) :
    Suits limit entries Matcher.lookaheadName (.ref position)

/-- Everything bound suits its name, the global object is bound, and the children of every capture
are captures of a higher rank. -/
structure Shaped (limit : Nat) (rank : Nat → Nat) (entries : Multiset Entry) (bindings : Bindings) :
    Prop where
  suits : ∀ name value, (name, value) ∈ bindings → Suits limit entries name value
  anchored : ∃ context, (Matcher.globalName, .ref context) ∈ bindings
  nested : ∀ entry ∈ entries, ∀ record, entry.payload = .capture record →
    ∀ child ∈ record.children, At entries Payload.IsCapture child ∧ rank entry.position < rank child

variable {limit larger : Nat} {rank : Nat → Nat} {entries before after rest : Multiset Entry}
  {bindings bound : Bindings} {entry : Entry} {position : Nat} {property : Payload → Prop}

theorem At.imp {other : Payload → Prop} (stored : At entries property position)
    (implies : ∀ payload, property payload → other payload) : At entries other position := by
  obtain ⟨entry, member, here, holds⟩ := stored
  exact ⟨entry, member, here, implies _ holds⟩

theorem at_cons {payload : Payload} {count : Nat} (holds : property payload) :
    At (⟨position, payload, count⟩ ::ₘ entries) property position :=
  ⟨_, Multiset.mem_cons_self _ _, rfl, holds⟩

theorem At.mem (stored : At entries property position) :
    position ∈ entries.map Entry.position := by
  obtain ⟨entry, member, here, -⟩ := stored
  exact here ▸ Multiset.mem_map_of_mem _ member

theorem Suits.mono {name : String} {value : Value} (suits : Suits limit entries name value)
    (more : limit ≤ larger) : Suits larger entries name value := by
  cases suits with
  | context shape => exact .context shape
  | openCapture shape => exact .openCapture shape
  | repetition shape => exact .repetition (shape.imp fun _ repetition => repetition.mono more)
  | atomic checkpoint => exact .atomic checkpoint
  | lookahead shape => exact .lookahead shape

theorem Shaped.mono (shaped : Shaped limit rank entries bindings) (more : limit ≤ larger) :
    Shaped larger rank entries bindings :=
  { shaped with suits := fun name value member => (shaped.suits name value member).mono more }

/-! ### Changes that keep the shapes -/

/-- Whatever stays in use keeps its shape. -/
def Carries (limit : Nat) (before after : Multiset Entry) : Prop :=
  ∀ entry ∈ before, entry.position ∈ after.map Entry.position →
    ∃ other ∈ after, other.position = entry.position ∧ entry.payload.Becomes limit other.payload

theorem Carries.stays {other : Payload → Prop} (carries : Carries limit before after)
    (keeps : ∀ payload changed, payload.Becomes limit changed → property payload → other changed)
    (stored : At before property position) (present : position ∈ after.map Entry.position) :
    At after other position := by
  obtain ⟨entry, member, rfl, holds⟩ := stored
  obtain ⟨other, listed, same, becomes⟩ := carries entry member present
  exact ⟨other, listed, same, keeps _ _ becomes holds⟩

theorem Carries.capture (carries : Carries limit before after)
    (stored : At before Payload.IsCapture position)
    (present : position ∈ after.map Entry.position) : At after Payload.IsCapture position :=
  carries.stays (fun _ _ => Payload.Becomes.isCapture) stored present

/-- Where whatever is bound or referred to stays in use, shapes are kept. A capture may get new
children of a higher rank. -/
theorem Shaped.carry (shaped : Shaped limit rank before bindings)
    (carries : Carries limit before after)
    (isSealed : Sealed bound.held after) (fewer : bound ⊆ bindings)
    (anchored : ∃ context, (Matcher.globalName, .ref context) ∈ bound)
    (nested : ∀ entry ∈ after, ∀ record, entry.payload = .capture record →
      ∀ child ∈ record.children,
        (∃ former ∈ before, former.position = entry.position ∧
          ∃ old, former.payload = .capture old ∧ child ∈ old.children) ∨
        At after Payload.IsCapture child ∧ rank entry.position < rank child) :
    Shaped limit rank after bound := by
  have present {name : String} {position : Nat} (member : (name, .ref position) ∈ bound) :
      position ∈ after.map Entry.position :=
    isSealed position (Multiset.mem_add.mpr (.inl (Bindings.mem_held.mpr ⟨name, member⟩)))
  refine ⟨fun name value member => ?_, anchored, fun entry member record same child inside => ?_⟩
  · cases shaped.suits name value (fewer member) with
    | context shape =>
      obtain ⟨root, object, capture⟩ := shape
      have still := carries.stays (fun _ _ => Payload.Becomes.object) object (present member)
      obtain ⟨holder, listed, -, isObject⟩ := id still
      refine .context ⟨root, still, carries.capture capture (isSealed root ?_)⟩
      refine Multiset.mem_add.mpr (.inr (mem_held.mpr ⟨holder, listed, ?_⟩))
      rw [isObject]
      exact List.mem_cons_self
    | openCapture shape => exact .openCapture (carries.capture shape (present member))
    | repetition shape =>
      exact .repetition
        (carries.stays (fun _ _ => Payload.Becomes.isRepetition) shape (present member))
    | atomic checkpoint => exact .atomic checkpoint
    | lookahead shape =>
      exact .lookahead
        (carries.stays (fun _ _ => Payload.Becomes.isLookahead) shape (present member))
  · obtain ⟨former, present, here, old, was, listed⟩ | new :=
      nested entry member record same child inside
    · obtain ⟨capture, higher⟩ := shaped.nested former present old was child listed
      rw [here] at higher
      refine ⟨carries.capture capture (isSealed child ?_), higher⟩
      refine Multiset.mem_add.mpr (.inr (mem_held.mpr ⟨entry, member, ?_⟩))
      rw [same]
      exact List.mem_append_right _ inside
    · exact new

/-- Freeing cells that nothing refers to any more. -/
theorem Shaped.thin (shaped : Shaped limit rank before bindings) (thins : Thins before after)
    (distinct : (before.map Entry.position).Nodup) (isSealed : Sealed bound.held after)
    (fewer : bound ⊆ bindings) (anchored : ∃ context, (Matcher.globalName, .ref context) ∈ bound) :
    Shaped limit rank after bound := by
  refine shaped.carry (fun entry member present => ?_) isSealed fewer anchored
    fun entry member record same child inside => .inl ?_
  · obtain ⟨other, listed, here⟩ := Multiset.mem_map.mp present
    obtain ⟨former, isFormer, content, -⟩ := thins.origin other listed
    have isEntry := Multiset.inj_on_of_nodup_map distinct former isFormer entry member
      ((congrArg Prod.fst content).trans here)
    subst isEntry
    refine ⟨other, listed, here, ?_⟩
    rw [show former.payload = other.payload from congrArg Prod.snd content]
    exact .same _
  · obtain ⟨former, present, content, -⟩ := thins.origin entry member
    exact ⟨former, present, congrArg Prod.fst content, record,
      (congrArg Prod.snd content).trans same, inside⟩

/-- Binding something that suits its name. -/
theorem Shaped.push (shaped : Shaped limit rank entries bindings) {name : String} {value : Value}
    (suits : Suits limit entries name value) :
    Shaped limit rank entries (bindings ++ [(name, value)]) := by
  obtain ⟨context, member⟩ := shaped.anchored
  refine ⟨fun other bound listed => ?_, ⟨context, List.mem_append_left _ member⟩, shaped.nested⟩
  obtain old | new := List.mem_append.mp listed
  · exact shaped.suits other bound old
  · cases List.mem_singleton.mp new
    exact suits

/-- Storing something that has no children. It comes to be of a higher rank than everything else. -/
theorem Shaped.alloc (shaped : Shaped limit rank before bindings) {payload : Payload}
    (childless : ∀ record, payload = .capture record → record.children = [])
    (fresh : position ∉ before.map Entry.position) {positions : List Nat}
    (isSealed : Sealed bindings.held (⟨position, payload, 0⟩ ::ₘ before.map (bump positions))) :
    ∃ higher : Nat → Nat,
      Shaped limit higher (⟨position, payload, 0⟩ ::ₘ before.map (bump positions)) bindings ∧
        ∀ other ∈ before.map Entry.position, higher other < higher position := by
  let top := (before.map fun entry => rank entry.position).sup + 1
  have differ : ∀ other ∈ before.map Entry.position,
      Function.update rank position top other = rank other :=
    fun other member => Function.update_of_ne (ne_of_mem_of_not_mem member fresh) _ _
  have below : ∀ other ∈ before.map Entry.position, rank other < top := by
    intro other member
    obtain ⟨entry, present, rfl⟩ := Multiset.mem_map.mp member
    exact Nat.lt_succ_of_le (Multiset.le_sup (Multiset.mem_map_of_mem _ present))
  have reranked : Shaped limit (Function.update rank position top) before bindings := by
    refine { shaped with nested := fun entry member record same child inside => ?_ }
    obtain ⟨capture, lower⟩ := shaped.nested entry member record same child inside
    rw [differ _ (Multiset.mem_map_of_mem _ member), differ _ capture.mem]
    exact ⟨capture, lower⟩
  refine ⟨_, reranked.carry (fun entry member _ => ?_) isSealed (List.Subset.refl _)
    shaped.anchored fun entry member record same child inside => .inl ?_, fun other member => ?_⟩
  · exact ⟨entry.bump positions, Multiset.mem_cons_of_mem (Multiset.mem_map_of_mem _ member), rfl,
      .same _⟩
  · obtain rfl | old := Multiset.mem_cons.mp member
    · rw [childless record same] at inside
      cases inside
    · obtain ⟨former, present, rfl⟩ := Multiset.mem_map.mp old
      exact ⟨former, present, rfl, record, same, inside⟩
  · rw [differ other member, Function.update_self]
    exact below other member

theorem map_position_change (payload : Payload) (positions : List Nat) :
    (({ entry with payload := payload } ::ₘ rest).map (bump positions)).map Entry.position =
      (entry ::ₘ rest).map Entry.position := by
  rw [Chain.map_position_bump, Multiset.map_cons, Multiset.map_cons]

theorem carries_change {payload : Payload} (becomes : entry.payload.Becomes limit payload)
    (positions : List Nat) :
    Carries limit (entry ::ₘ rest)
      (({ entry with payload := payload } ::ₘ rest).map (bump positions)) := by
  intro other member _
  rw [Multiset.map_cons]
  obtain rfl | old := Multiset.mem_cons.mp member
  · exact ⟨_, Multiset.mem_cons_self _ _, rfl, becomes⟩
  · exact ⟨other.bump positions, Multiset.mem_cons_of_mem (Multiset.mem_map_of_mem _ old), rfl,
      .same _⟩

/-- Changing a payload to one of the same shape. New children are captures of a higher rank. -/
theorem Shaped.change (shaped : Shaped limit rank (entry ::ₘ rest) bindings) {payload : Payload}
    (becomes : entry.payload.Becomes limit payload) {positions : List Nat}
    (isSealed : Sealed bindings.held
      (({ entry with payload := payload } ::ₘ rest).map (bump positions)))
    (nested : ∀ record, payload = .capture record → ∀ child ∈ record.children,
      (∃ old, entry.payload = .capture old ∧ child ∈ old.children) ∨
        At (entry ::ₘ rest) Payload.IsCapture child ∧ rank entry.position < rank child) :
    Shaped limit rank (({ entry with payload := payload } ::ₘ rest).map (bump positions))
      bindings := by
  have carries : Carries limit (entry ::ₘ rest) _ := carries_change becomes positions
  refine shaped.carry carries isSealed (List.Subset.refl _) shaped.anchored
    fun other member record same child inside => ?_
  rw [Multiset.map_cons] at member
  obtain rfl | old := Multiset.mem_cons.mp member
  · obtain ⟨before, was, listed⟩ | ⟨capture, higher⟩ := nested record same child inside
    · exact .inl ⟨entry, Multiset.mem_cons_self _ _, rfl, before, was, listed⟩
    · exact .inr ⟨carries.capture capture ((map_position_change _ _).symm ▸ capture.mem), higher⟩
  · obtain ⟨former, present, rfl⟩ := Multiset.mem_map.mp old
    exact .inl ⟨former, Multiset.mem_cons_of_mem present, rfl, record, same, inside⟩

/-- Counting changes no shapes. -/
theorem At.bump (stored : At entries property position) (positions : List Nat) :
    At (entries.map (bump positions)) property position := by
  obtain ⟨entry, member, here, holds⟩ := stored
  exact ⟨entry.bump positions, Multiset.mem_map_of_mem _ member, here, holds⟩

theorem Suits.bump {name : String} {value : Value} (suits : Suits limit entries name value)
    (positions : List Nat) : Suits limit (entries.map (bump positions)) name value := by
  cases suits with
  | context shape =>
    obtain ⟨root, object, capture⟩ := shape
    exact .context ⟨root, object.bump positions, capture.bump positions⟩
  | openCapture shape => exact .openCapture (shape.bump positions)
  | repetition shape => exact .repetition (shape.bump positions)
  | atomic checkpoint => exact .atomic checkpoint
  | lookahead shape => exact .lookahead (shape.bump positions)

theorem Shaped.bump (shaped : Shaped limit rank entries bindings) (positions : List Nat) :
    Shaped limit rank (entries.map (bump positions)) bindings := by
  refine ⟨fun name value member => (shaped.suits name value member).bump positions, shaped.anchored,
    fun entry member record same child inside => ?_⟩
  obtain ⟨former, present, rfl⟩ := Multiset.mem_map.mp member
  obtain ⟨capture, higher⟩ := shaped.nested former present record same child inside
  exact ⟨capture.bump positions, higher⟩

/-! ### What is bound to which name -/

section Inversion

variable {value : Value}

theorem Suits.isContext (suits : Suits limit entries Matcher.globalName value) :
    ∃ position, value = .ref position ∧ IsContext entries position := by
  generalize same : Matcher.globalName = name at suits
  cases suits with
  | context shape => exact ⟨_, rfl, shape⟩
  | _ => exact absurd same (by decide)

theorem Suits.isCapture (suits : Suits limit entries Matcher.openName value) :
    ∃ position, value = .ref position ∧ At entries Payload.IsCapture position := by
  generalize same : Matcher.openName = name at suits
  cases suits with
  | openCapture shape => exact ⟨_, rfl, shape⟩
  | _ => exact absurd same (by decide)

theorem Suits.isRepetition (suits : Suits limit entries Matcher.repetitionName value) :
    ∃ position, value = .ref position ∧ At entries (Payload.IsRepetition limit) position := by
  generalize same : Matcher.repetitionName = name at suits
  cases suits with
  | repetition shape => exact ⟨_, rfl, shape⟩
  | _ => exact absurd same (by decide)

theorem Suits.isCheckpoint (suits : Suits limit entries Matcher.atomicName value) :
    ∃ checkpoint, value = .checkpoint checkpoint := by
  generalize same : Matcher.atomicName = name at suits
  cases suits with
  | atomic checkpoint => exact ⟨checkpoint, rfl⟩
  | _ => exact absurd same (by decide)

theorem Suits.isLookahead (suits : Suits limit entries Matcher.lookaheadName value) :
    ∃ position, value = .ref position ∧ At entries Payload.IsLookahead position := by
  generalize same : Matcher.lookaheadName = name at suits
  cases suits with
  | lookahead shape => exact ⟨_, rfl, shape⟩
  | _ => exact absurd same (by decide)

end Inversion

end Entry

/-! ### Stores -/

/-- What is seen is counted exactly and shaped. -/
def Snapshot.Shaped (limit : Nat) (snapshot : Snapshot) : Prop :=
  ∃ rank entries bindings, snapshot.Accounts 0 entries bindings ∧
    Entry.Shaped limit rank entries bindings

/-- Every generation of a store is shaped, and small. -/
structure Store.Shaped (limit size : Nat) (store : Store) : Prop where
  inOrder : store.InOrder
  each : store.chain.EachView (Snapshot.Shaped limit)
  modest : store.Modest size

/-- A store is shaped, and this is what it holds and binds. -/
structure Store.ShapedAs (limit size : Nat) (rank : Nat → Nat) (entries : Multiset Entry)
    (bindings : Bindings) (store : Store) : Prop where
  whole : store.Shaped limit size
  accounts : store.Accounts 0 0 entries bindings
  shaped : Entry.Shaped limit rank entries bindings

/-- A store can be cleared and used again. -/
structure Store.Clearable (store : Store) : Prop where
  wiped : store.chain.pools.Wiped
  idle : store.sweeping = false

namespace Store

variable {limit larger size bigger growth : Nat} {rank : Nat → Nat}
    {entries changed : Multiset Entry}
  {bindings bound : Bindings} {store after : Store}

theorem Accounts.clearable {surplus : Nat → Nat} {owed : Multiset Nat}
    (accounts : store.Accounts surplus owed entries bindings) : store.Clearable :=
  ⟨accounts.stands.chain.wiped, accounts.stands.idle⟩

theorem Shaped.clearable (shaped : store.Shaped limit size) : store.Clearable :=
  ⟨shaped.inOrder.wiped, shaped.inOrder.idle⟩

theorem Shaped.mono (shaped : store.Shaped limit size) (more : limit ≤ larger)
    (room : size ≤ bigger) : store.Shaped larger bigger where
  inOrder := shaped.inOrder
  each := shaped.each.imp fun _ ⟨rank, entries, bindings, accounts, view⟩ =>
    ⟨rank, entries, bindings, accounts, view.mono more⟩
  modest := shaped.modest.mono room

theorem Shaped.shows (shaped : store.Shaped limit size) :
    ∃ rank entries bindings, store.ShapedAs limit size rank entries bindings := by
  obtain ⟨rank, entries, bindings, accounts, view⟩ := shaped.each.tail
  exact ⟨rank, entries, bindings, shaped, shaped.inOrder.accounts accounts, view⟩

theorem ShapedAs.mono (shown : store.ShapedAs limit size rank entries bindings)
    (more : limit ≤ larger) : store.ShapedAs larger size rank entries bindings :=
  ⟨shown.whole.mono more (le_refl _), shown.accounts, shown.shaped.mono more⟩

theorem ShapedAs.isSealed (shown : store.ShapedAs limit size rank entries bindings) :
    Entry.Sealed bindings.held entries := by
  have isSealed := shown.accounts.isSealed
  rwa [zero_add] at isSealed

theorem ShapedAs.distinct (shown : store.ShapedAs limit size rank entries bindings) :
    (entries.map Entry.position).Nodup := shown.accounts.stands.chain.heap.distinct

/-- Only the chain and what is asked of the collector matter. -/
theorem Shaped.alike (shaped : store.Shaped limit size) (chain : after.chain = store.chain)
    (sweeping : after.sweeping = store.sweeping)
    (requested : after.sweepRequested = store.sweepRequested) : after.Shaped limit size := by
  obtain ⟨⟨wiped, layered, idle⟩, each, ⟨heaps, rising, small⟩⟩ := shaped
  rw [← chain] at wiped layered each heaps rising small
  rw [← requested] at small
  exact ⟨⟨wiped, layered, sweeping.trans idle⟩, each, heaps, rising, small⟩

/-- The newest generation has been changed, and is shaped again. -/
theorem Shaped.withTail (shaped : store.Shaped limit size) (keeps : store.chain.Keeps after.chain)
    (modest : after.Modest bigger) (accounts : after.Accounts 0 0 changed bound)
    (view : Entry.Shaped limit rank changed bound) :
    after.ShapedAs limit bigger rank changed bound := by
  refine ⟨⟨⟨keeps.wiped shaped.inOrder.wiped, ⟨keeps.rooted shaped.inOrder.layered.1, ?_⟩,
    accounts.stands.idle⟩, ?_, modest⟩, accounts, view⟩
  · exact keeps.older ▸ shaped.inOrder.layered.2
  · exact shaped.each.keeps keeps ⟨rank, changed, bound, accounts.snapshot, view⟩

theorem Shaped.moves (shaped : store.Shaped limit size) (moves : store.Moves growth after)
    (accounts : after.Accounts 0 0 changed bound) (view : Entry.Shaped limit rank changed bound) :
    after.ShapedAs limit (size + growth) rank changed bound :=
  shaped.withTail moves.chain.keeps (shaped.modest.moves moves) accounts view

/-! ### Operations -/

theorem ShapedAs.lookup_cases (shown : store.ShapedAs limit size rank entries bindings)
    (name : String) :
    (∃ value, store.lookup name = .ok value ∧ (name, value) ∈ bindings ∧
        Entry.Suits limit entries name value) ∨
      store.lookup name = .error (.unboundName name) ∧ name ∉ bindings.map Prod.fst := by
  cases found : bindings.reverse.lookup name with
  | some value =>
    have member : (name, value) ∈ bindings := by
      obtain ⟨front, back, split, -⟩ := List.lookup_eq_some_iff.mp found
      exact List.mem_reverse.mp (split ▸ List.mem_append_right _ List.mem_cons_self)
    exact .inl ⟨value, shown.accounts.stands.lookup found, member,
      shown.shaped.suits name value member⟩
  | none =>
    refine .inr ⟨?_, fun bound => ?_⟩
    · unfold Store.lookup
      rw [Chain.get?_eq_snapshot, ← Chain.snapshot_counters, shown.accounts.stands.chain.stack.get?,
        found]
    · obtain ⟨binding, member, rfl⟩ := List.mem_map.mp bound
      have different := List.lookup_eq_none_iff.mp found binding (List.mem_reverse.mpr member)
      exact absurd rfl (bne_iff_ne.mp different)

theorem ShapedAs.deref (shown : store.ShapedAs limit size rank entries bindings) {entry : Entry}
    (member : entry ∈ entries) :
    ∃ after, Store.deref entry.position store = .ok entry.payload after ∧
      after.ShapedAs limit size rank entries bindings := by
  obtain ⟨after, ran, stood, moves⟩ := shown.accounts.stands.deref member
  exact ⟨after, ran, shown.whole.moves moves
    ⟨stood, shown.accounts.balanced, shown.accounts.isSealed⟩ shown.shaped⟩

/-- Something without children is stored. -/
theorem ShapedAs.alloc (shown : store.ShapedAs limit size rank entries bindings) (payload : Payload)
    (childless : ∀ record, payload = .capture record → record.children = [])
    (present : ∀ position ∈ payload.references, position ∈ entries.map Entry.position) :
    ∃ position after higher, Store.alloc payload store = .ok position after ∧
      after.ShapedAs limit (size + 1) higher
        (⟨position, payload, 0⟩ ::ₘ entries.map (Entry.bump payload.references)) bindings ∧
      ∀ other ∈ entries.map Entry.position, higher other < higher position := by
  obtain ⟨position, after, ran, -, moves⟩ := shown.accounts.stands.alloc payload present
  obtain ⟨-, fresh, accounts⟩ := shown.accounts.alloc ran
  have isSealed := accounts.isSealed
  rw [zero_add] at isSealed
  obtain ⟨higher, shaped, above⟩ := shown.shaped.alloc childless fresh isSealed
  exact ⟨position, after, higher, ran, shown.whole.moves moves accounts shaped, above⟩

/-- A value that refers to nothing is bound. -/
theorem ShapedAs.push (shown : store.ShapedAs limit size rank entries bindings) {name : String}
    {value : Value} (plain : value.reference? = none)
    (suits : Entry.Suits limit entries name value) :
    ∃ after, Store.push name value store = .ok () after ∧
      after.ShapedAs limit size rank entries (bindings ++ [(name, value)]) := by
  obtain ⟨after, ran, stood, moves⟩ := shown.accounts.stands.push name value plain
  obtain ⟨_, _, again, settled, -⟩ | ⟨_, _, again, -⟩ := shown.accounts.push_cases name value
  · rw [ran] at again
    cases again
    exact ⟨after, ran, shown.whole.moves moves (stood.accounts settled) (shown.shaped.push suits)⟩
  · rw [ran] at again
    cases again

/-- A reference is bound. -/
theorem ShapedAs.pushRef (shown : store.ShapedAs limit size rank entries bindings) {name : String}
    {position : Nat} (present : position ∈ entries.map Entry.position)
    (suits : Entry.Suits limit entries name (.ref position)) :
    ∃ after, Store.push name (.ref position) store = .ok () after ∧
      after.ShapedAs limit size rank (entries.map (Entry.bump [position]))
        (bindings ++ [(name, .ref position)]) := by
  obtain ⟨entry, rest, rfl, rfl⟩ := Chain.exists_entry present
  obtain ⟨after, ran, -, moves⟩ := shown.accounts.stands.pushRef name
  have accounts := shown.accounts.pushRef ran
  rw [Chain.map_bump_one rfl shown.distinct]
  refine ⟨after, ran, shown.whole.moves moves accounts ?_⟩
  rw [← Chain.map_bump_one rfl shown.distinct]
  exact (shown.shaped.push suits).bump [entry.position]

/-- A payload is changed to one of the same shape. -/
theorem ShapedAs.update {α : Type} (shown : store.ShapedAs limit size rank entries bindings)
    {entry : Entry} (member : entry ∈ entries) (edit : Payload → α × Payload) (extra : List Nat)
    (counts : ∀ position, (edit entry.payload).2.references.count position =
      entry.payload.references.count position + extra.count position)
    (present : ∀ position ∈ extra, position ∈ entries.map Entry.position)
    (becomes : entry.payload.Becomes limit (edit entry.payload).2)
    (nested : ∀ record, (edit entry.payload).2 = .capture record → ∀ child ∈ record.children,
      (∃ old, entry.payload = .capture old ∧ child ∈ old.children) ∨
        Entry.At entries Payload.IsCapture child ∧ rank entry.position < rank child) :
    ∃ after changed, Store.update entry.position edit store = .ok (edit entry.payload).1 after ∧
      after.ShapedAs limit size rank changed bindings ∧ Entry.Carries limit entries changed ∧
      changed.map Entry.position = entries.map Entry.position := by
  obtain ⟨rest, rfl⟩ := Multiset.exists_cons_of_mem member
  have inUse : ∀ position ∈ (edit entry.payload).2.references,
      position ∈ (entry ::ₘ rest).map Entry.position := by
    intro position refers
    rw [← List.count_pos_iff, counts, Nat.add_pos_iff_pos_or_pos, List.count_pos_iff,
      List.count_pos_iff] at refers
    refine refers.elim (fun old => shown.isSealed position ?_) (present position)
    exact Multiset.mem_add.mpr (.inr (Entry.mem_held.mpr ⟨entry, member, old⟩))
  obtain ⟨after, ran, stood, moves⟩ := shown.accounts.stands.update edit extra counts inUse
    (shown.accounts.positive member)
  obtain ⟨other, others, split, here, -, settled⟩ := shown.accounts.update ran
  have isEntry : other = entry := shown.accounts.stands.chain.heap.unique
    (split ▸ Multiset.mem_cons_self other others) member here
  subst isEntry
  cases (Multiset.cons_inj_right other).mp split
  have accounts := settled extra counts
  have isSealed := accounts.isSealed
  rw [zero_add] at isSealed
  exact ⟨after, _, ran,
    shown.whole.moves moves accounts (shown.shaped.change becomes isSealed nested),
    Entry.carries_change becomes extra, Entry.map_position_change _ _⟩

/-- The innermost binding of a name is removed. -/
theorem ShapedAs.remove_cases (shown : store.ShapedAs limit size rank entries bindings)
    {name : String} (different : name ≠ Matcher.globalName) :
    (∃ after, Store.remove name store = .ok () after ∧ after.Shaped limit size) ∨
      name ∉ bindings.map Prod.fst ∧ ∃ after,
        Store.remove name store = .error (.refused (.unboundName name)) after ∧
          after.Clearable := by
  obtain ⟨front, value, back, left, after, rfl, -, ran, settled, thins, moves⟩ |
    ⟨unbound, after, ran, still⟩ := shown.accounts.remove_cases name
  · have isSealed := settled.isSealed
    rw [zero_add] at isSealed
    obtain ⟨context, member⟩ := shown.shaped.anchored
    have anchored : (Matcher.globalName, .ref context) ∈ front ++ back := by
      rw [List.mem_append, List.mem_cons] at member
      rw [List.mem_append]
      refine member.imp id fun rest => rest.resolve_left fun same => ?_
      exact different (congrArg Prod.fst same).symm
    refine .inl ⟨after, ran, (shown.whole.moves moves settled
      (shown.shaped.thin thins shown.distinct isSealed ?_ ⟨context, anchored⟩)).whole⟩
    exact List.append_subset.mpr ⟨List.subset_append_left _ _,
      List.Subset.trans (List.subset_cons_self _ _) (List.subset_append_right _ _)⟩
  · exact .inr ⟨unbound, after, ran, still.clearable⟩

theorem ShapedAs.freeze (shown : store.ShapedAs limit size rank entries bindings)
    (resume : ResumePoint) :
    (store.freeze resume).2.ShapedAs limit size rank entries bindings := by
  have whole : (store.freeze resume).2.Shaped limit size :=
    ⟨Operation.inOrder_perform (.freeze resume) shown.whole.inOrder, shown.whole.each.extend _ _,
      shown.whole.modest.freeze resume⟩
  refine ⟨whole, whole.inOrder.accounts ?_, shown.shaped⟩
  have seen := shown.accounts.snapshot
  rwa [← Store.snapshot_extend _ store.nextId resume] at seen

theorem Shaped.rollback (shaped : store.Shaped limit size) :
    store.rollback.2.Shaped limit size := by
  refine ⟨Operation.inOrder_perform .rollback shaped.inOrder, ?_, shaped.modest.rollback⟩
  rw [store.rollback_chain]
  exact shaped.each.discardTail

theorem Shaped.collapse_cases (shaped : store.Shaped limit size) (checkpoint : Checkpoint) :
    (∃ after, Store.collapse checkpoint store = .ok () after ∧ after.Shaped limit size) ∨
      Store.collapse checkpoint store = .error (.refused .staleCheckpoint) store := by
  obtain ⟨failed, -⟩ | ⟨-, merged, collapsed, chain, -⟩ := Store.collapse_cases store checkpoint
  · exact .inr failed
  · refine .inl ⟨merged, collapsed, shaped.inOrder.collapse collapsed, ?_,
      shaped.modest.collapse shaped.inOrder collapsed⟩
    rw [chain]
    exact shaped.each.mergeTo shaped.inOrder.layered _

/-- Only a heap that is too large stops the collector. -/
theorem Shaped.poll_cases (shaped : store.Shaped limit size) (collector : Collector) :
    (∃ result after, collector.poll store = .ok result after ∧ after.Shaped limit size) ∨
      ∃ after, collector.poll store = .error (.defect .thresholdOverflow) after ∧
        after.Clearable ∧ 0x10000000000000000 ≤ size + 1 := by
  obtain ⟨rank, entries, bindings, shown⟩ := shaped.shows
  obtain ⟨result, left, after, ran, settled, thins, tended⟩ |
    ⟨after, ran, ⟨_, _, _, accounts⟩, requested, tooLarge⟩ := shown.accounts.poll_cases collector
  · have isSealed := settled.isSealed
    rw [zero_add] at isSealed
    exact .inl
      ⟨result, after, ran, (shaped.withTail tended.keeps (shaped.modest.tended tended) settled
      (shown.shaped.thin thins shown.distinct isSealed (List.Subset.refl _)
        shown.shaped.anchored)).whole⟩
  · exact .inr ⟨after, ran, accounts.clearable,
      tooLarge.trans (Nat.add_le_add_right (shaped.modest.requested requested) 1)⟩

end Store

/-! ### Match trees -/

theorem mapM_of_each {ε α β : Type} {action : α → Except ε β} {list : List α}
    (each : ∀ item ∈ list, ∃ value, action item = .ok value) :
    ∃ values, list.mapM action = .ok values := by
  induction list with
  | nil => exact ⟨[], rfl⟩
  | cons first others inductionHypothesis =>
    obtain ⟨value, ran⟩ := each first List.mem_cons_self
    obtain ⟨values, rest⟩ := inductionHypothesis fun item inside =>
      each item (List.mem_cons_of_mem _ inside)
    refine ⟨value :: values, ?_⟩
    rw [List.mapM_cons, ran]
    simp only [bind, Except.bind, rest]
    rfl

/-- Below a capture there are only captures of a higher rank, so extracting a tree comes to an end
before the depth is used up. -/
theorem Entry.Shaped.extract {limit : Nat} {rank : Nat → Nat} {entries : Multiset Entry}
    {bindings : Bindings} {store : Store} (shaped : Shaped limit rank entries bindings)
    (stands : store.Stands entries bindings) (subject : Subject) (blamed : NodeId) {depth : Nat}
    {position : Nat} (capture : At entries Payload.IsCapture position)
    (deep : (entries.filter fun entry => rank position < rank entry.position).card < depth) :
    ∃ tree, MatchTree.extract store subject blamed depth position = .ok tree := by
  induction depth generalizing position with
  | zero => exact absurd deep (Nat.not_lt_zero _)
  | succ depth inductionHypothesis =>
    obtain ⟨entry, member, rfl, record, isCapture⟩ := capture
    have each : ∀ child ∈ record.children,
        ∃ tree, MatchTree.extract store subject blamed depth child = .ok tree := by
      intro child inside
      obtain ⟨isChild, higher⟩ := shaped.nested entry member record isCapture child inside
      refine inductionHypothesis isChild (Nat.lt_of_lt_of_le (Multiset.card_lt_card ?_)
        (Nat.lt_succ_iff.mp deep))
      obtain ⟨holder, present, rfl, -⟩ := isChild
      -- The child itself is above its parent, but not above itself.
      refine lt_of_le_of_ne (Multiset.monotone_filter_right _ fun _ => higher.trans) fun same => ?_
      have listed : holder ∈ entries.filter fun other =>
          rank entry.position < rank other.position :=
        Multiset.mem_filter.mpr ⟨present, higher⟩
      rw [← same] at listed
      exact Nat.lt_irrefl _ (Multiset.mem_filter.mp listed).2
    obtain ⟨children, copied⟩ := mapM_of_each each
    rw [MatchTree.extract, stands.peek member, isCapture]
    cases stopped : record.stop with
    | none =>
      simp only [Except.mapError, bind, Except.bind, Payload.capture?, stopped]
      exact ⟨_, rfl⟩
    | some stop =>
      simp only [Except.mapError, bind, Except.bind, Payload.capture?, stopped, copied]
      exact ⟨_, rfl⟩

end Rewind
