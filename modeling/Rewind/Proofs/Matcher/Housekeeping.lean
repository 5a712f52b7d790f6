/-
This file says what the nodes of any program keep to in the store, whatever they are linked to. The
frames of nodes in progress are lists that refer to nothing; they are in use only as long as they
are bound. Everything else is the global object and captures, and can be reached from the global
object, whose binding is never removed: a capture is listed in its parent before it is bound.

Counts are exact all the time. So everything in use can be reached, and a sweep frees nothing.
-/

import Mathlib
import Rewind.Matcher.Step
import Rewind.Proofs.Store.Conservation

namespace Rewind

/-! ### Tidy entries -/

/-- Whether an entry is the frame of a node in progress. -/
def Entry.isFrame (entry : Entry) : Bool := entry.payload.items?.isSome

/-- The binding that everything but frames is reached from. -/
def Bindings.ofContext (context : Nat) : Bindings := [(Matcher.globalName, .ref context)]

/-- Frames refer to nothing and are counted, and everything else can be reached from the global
object. -/
structure Entry.Tidy (context : Nat) (entries : Multiset Entry) (bindings : Bindings) : Prop where
  anchored : (Matcher.globalName, .ref context) ∈ bindings
  plain : ∀ entry ∈ entries, entry.isFrame = true → entry.payload.references = []
  counted : ∀ entry ∈ entries, entry.isFrame = true → 0 < entry.count
  rooted : ∀ entry ∈ entries, entry.isFrame = false →
    Reached entries (.ofContext context) entry.position

/-- Entries change: they keep their positions and what they refer to, counts grow, and a frame stays
one that refers to as much as before. There may be more of them. -/
def Entry.Develops (before after : Multiset Entry) : Prop :=
  ∀ entry ∈ before, ∃ other ∈ after, other.position = entry.position ∧
    other.isFrame = entry.isFrame ∧ entry.payload.references ⊆ other.payload.references ∧
    (entry.isFrame = true → entry.payload.references = [] → other.payload.references = []) ∧
    entry.count ≤ other.count

namespace Entry

variable {context : Nat} {entries before after : Multiset Entry} {bindings bound : Bindings}
  {entry : Entry} {rest : Multiset Entry}

/-! ### Reaching more -/

theorem Reached.mono {position : Nat} (reached : Reached before bindings position)
    (grows : ∀ entry ∈ before, ∃ other ∈ after, other.position = entry.position ∧
      entry.payload.references ⊆ other.payload.references)
    (binds : bindings ⊆ bound) : Reached after bound position := by
  induction reached with
  | bound member => exact .bound (binds member)
  | referred member _ refers inductionHypothesis =>
    obtain ⟨other, present, same, kept⟩ := grows _ member
    exact .referred present (same ▸ inductionHypothesis) (kept refers)

/-- Where every count is exact, everything that is tidy can be reached. -/
theorem Tidy.reached (tidy : Tidy context entries bindings)
    (balanced : Balanced 0 bindings.held entries) :
    ∀ entry ∈ entries, Reached entries bindings entry.position := by
  have other {entry : Entry} (member : entry ∈ entries) (isOther : entry.isFrame = false) :
      Reached entries bindings entry.position := by
    refine (tidy.rooted entry member isOther).mono
      (fun entry member => ⟨entry, member, rfl, fun _ refers => refers⟩) ?_
    exact List.cons_subset.mpr ⟨tidy.anchored, List.nil_subset _⟩
  intro entry member
  cases isFrame : entry.isFrame with
  | false => exact other member isFrame
  | true =>
    -- A frame is counted, so something refers to it; and that is no frame.
    have occurs : 0 < (bindings.held + held entries).count entry.position := by
      have counted := tidy.counted entry member isFrame
      rwa [balanced entry member, Pi.zero_apply, zero_add] at counted
    obtain isBound | isHeld := Multiset.mem_add.mp (Multiset.count_pos.mp occurs)
    · obtain ⟨name, binds⟩ := Bindings.mem_held.mp isBound
      exact .bound binds
    · obtain ⟨holder, present, refers⟩ := mem_held.mp isHeld
      refine .referred present (other present ?_) refers
      cases isHolder : holder.isFrame with
      | false => rfl
      | true =>
        rw [tidy.plain holder present isHolder] at refers
        exact nomatch refers

/-! ### Developing -/

theorem Develops.refl (entries : Multiset Entry) : Develops entries entries :=
  fun entry member =>
    ⟨entry, member, rfl, rfl, fun _ refers => refers, fun _ none => none, le_refl _⟩

theorem Develops.trans {first second third : Multiset Entry} (left : Develops first second)
    (right : Develops second third) : Develops first third := by
  intro entry member
  obtain ⟨middle, present, same, kind, kept, plain, counted⟩ := left entry member
  obtain ⟨last, listed, sameLast, kindLast, keptLast, plainLast, countedLast⟩ :=
    right middle present
  exact ⟨last, listed, sameLast.trans same, kindLast.trans kind,
    fun _ refers => keptLast (kept refers),
    fun isFrame none => plainLast (kind ▸ isFrame) (plain isFrame none), counted.trans countedLast⟩

theorem Develops.reached (develops : Develops before after) {position : Nat}
    (reached : Reached before (.ofContext context) position) :
    Reached after (.ofContext context) position := by
  refine reached.mono (fun entry member => ?_) fun _ binds => binds
  obtain ⟨other, present, same, -, kept, -⟩ := develops entry member
  exact ⟨other, present, same, kept⟩

theorem develops_bump (positions : List Nat) (entries : Multiset Entry) :
    Develops entries (entries.map (bump positions)) := fun entry member =>
  ⟨entry.bump positions, Multiset.mem_map_of_mem _ member, rfl, rfl, fun _ refers => refers,
    fun _ none => none, Nat.le_add_right _ _⟩

theorem develops_cons (entry : Entry) (entries : Multiset Entry) :
    Develops entries (entry ::ₘ entries) := fun other member =>
  ⟨other, Multiset.mem_cons_of_mem member, rfl, rfl, fun _ refers => refers, fun _ none => none,
    le_refl _⟩

/-- One entry changes. -/
theorem develops_change {changed : Entry} (same : changed.position = entry.position)
    (kind : changed.isFrame = entry.isFrame)
    (kept : entry.payload.references ⊆ changed.payload.references)
    (plain : entry.isFrame = true → entry.payload.references = [] → changed.payload.references = [])
    (counted : entry.count ≤ changed.count) :
    Develops (entry ::ₘ rest) (changed ::ₘ rest) := by
  intro other member
  obtain rfl | below := Multiset.mem_cons.mp member
  · exact ⟨changed, Multiset.mem_cons_self _ _, same, kind, kept, plain, counted⟩
  · exact develops_cons changed rest other below

/-- What develops from tidy entries is tidy if what is new is. -/
theorem Tidy.develop (tidy : Tidy context before bindings) (develops : Develops before after)
    (distinct : (after.map Entry.position).Nodup)
    (anchored : (Matcher.globalName, .ref context) ∈ bound)
    (fresh : ∀ entry ∈ after, entry.position ∉ before.map Entry.position →
      entry.isFrame = true ∧ entry.payload.references = [] ∧ 0 < entry.count ∨
        entry.isFrame = false ∧ Reached after (.ofContext context) entry.position) :
    Tidy context after bound := by
  have origin (entry : Entry) (member : entry ∈ after)
      (old : entry.position ∈ before.map Entry.position) :
      ∃ former ∈ before, entry.position = former.position ∧ entry.isFrame = former.isFrame ∧
        (former.isFrame = true → former.payload.references = [] → entry.payload.references = []) ∧
        former.count ≤ entry.count := by
    obtain ⟨former, present, here⟩ := Multiset.mem_map.mp old
    obtain ⟨other, listed, same, kind, -, plain, counted⟩ := develops former present
    have isOther :=
      Multiset.inj_on_of_nodup_map distinct other listed entry member (same.trans here)
    subst isOther
    exact ⟨former, present, same, kind, plain, counted⟩
  refine ⟨anchored, fun entry member isFrame => ?_, fun entry member isFrame => ?_,
    fun entry member isOther => ?_⟩
  · by_cases old : entry.position ∈ before.map Entry.position
    · obtain ⟨former, present, -, kind, plain, -⟩ := origin entry member old
      rw [isFrame] at kind
      exact plain kind.symm (tidy.plain former present kind.symm)
    · obtain ⟨-, none, -⟩ | ⟨isOther, -⟩ := fresh entry member old
      · exact none
      · rw [isFrame] at isOther
        cases isOther
  · by_cases old : entry.position ∈ before.map Entry.position
    · obtain ⟨former, present, -, kind, -, counted⟩ := origin entry member old
      rw [isFrame] at kind
      exact Nat.lt_of_lt_of_le (tidy.counted former present kind.symm) counted
    · obtain ⟨-, -, positive⟩ | ⟨isOther, -⟩ := fresh entry member old
      · exact positive
      · rw [isFrame] at isOther
        cases isOther
  · by_cases old : entry.position ∈ before.map Entry.position
    · obtain ⟨former, present, same, kind, -⟩ := origin entry member old
      rw [isOther] at kind
      exact same ▸ develops.reached (tidy.rooted former present kind.symm)
    · obtain ⟨isFrame, -⟩ | ⟨-, reached⟩ := fresh entry member old
      · rw [isOther] at isFrame
        cases isFrame
      · exact reached

theorem Tidy.bump (tidy : Tidy context entries bindings)
    (distinct : (entries.map Entry.position).Nodup)
    (positions : List Nat) : Tidy context (entries.map (Entry.bump positions)) bindings := by
  refine tidy.develop (develops_bump positions entries) ?_ tidy.anchored
    fun entry member isNew => ?_
  · rwa [Chain.map_position_bump]
  · rw [← Chain.map_position_bump entries positions] at isNew
    exact absurd (Multiset.mem_map_of_mem _ member) isNew

/-- Something that is no frame is added, and something else that is none comes to refer to it. -/
theorem Tidy.nest {around added : Entry} {others : Multiset Entry}
    (tidy : Tidy context (around ::ₘ others) bindings) (isOther : around.isFrame = false)
    {payload : Payload} (isStill : payload.items? = none)
    (references : payload.references = around.payload.references ++ [added.position])
    (isAdded : added.isFrame = false)
    (distinct : ((added ::ₘ ({ around with payload := payload } ::ₘ others).map
      (Entry.bump [added.position])).map Entry.position).Nodup)
    (anchored : (Matcher.globalName, .ref context) ∈ bound) :
    Tidy context (added ::ₘ ({ around with payload := payload } ::ₘ others).map
      (Entry.bump [added.position])) bound := by
  have changes : Develops (around ::ₘ others) ({ around with payload := payload } ::ₘ others) := by
    refine develops_change rfl ?_ ?_ ?_ (le_refl _)
    · rw [isOther, isFrame, isStill]
      rfl
    · rw [references]
      exact List.subset_append_left _ _
    · rw [isOther]
      exact fun impossible => nomatch impossible
  have grows : Develops (around ::ₘ others) (added ::ₘ
      ({ around with payload := payload } ::ₘ others).map (Entry.bump [added.position])) :=
    changes.trans ((develops_bump [added.position] _).trans (develops_cons added _))
  refine tidy.develop grows distinct anchored fun entry member isNew => ?_
  obtain rfl | old := Multiset.mem_cons.mp member
  · have reached := grows.reached (tidy.rooted around (Multiset.mem_cons_self _ _) isOther)
    refine .inr ⟨isAdded, .referred (Multiset.mem_cons_of_mem (Multiset.mem_map_of_mem _
      (Multiset.mem_cons_self _ _))) reached ?_⟩
    change entry.position ∈ payload.references
    rw [references]
    exact List.mem_append_right _ List.mem_cons_self
  · have listed := Multiset.mem_map_of_mem Entry.position old
    rw [Chain.map_position_bump, Multiset.map_cons] at listed
    rw [Multiset.map_cons] at isNew
    exact absurd listed isNew

/-! ### Thinning -/

/-- What is left refers to nothing that is gone, so what was reached from the global object
stays. -/
theorem Tidy.thin (tidy : Tidy context before bindings) (thins : Thins before after)
    (distinct : (before.map Entry.position).Nodup)
    (anchored : (Matcher.globalName, .ref context) ∈ bound) (isSealed : Sealed bound.held after) :
    Tidy context after bound := by
  have former (entry : Entry) (member : entry ∈ after) :
      ∃ former ∈ before, former.position = entry.position ∧ former.payload = entry.payload ∧
        former.isFrame = entry.isFrame ∧ (0 < former.count → 0 < entry.count) := by
    obtain ⟨former, present, same, positive⟩ := thins.origin entry member
    have samePayload : former.payload = entry.payload := congrArg Prod.snd same
    refine ⟨former, present, congrArg Prod.fst same, samePayload, ?_, positive⟩
    rw [isFrame, samePayload, ← isFrame]
  have stays {position : Nat} (reached : Reached before (.ofContext context) position) :
      Reached after (.ofContext context) position ∧ position ∈ after.map Entry.position := by
    induction reached with
    | bound binds =>
      cases List.mem_singleton.mp binds
      refine ⟨.bound List.mem_cons_self, isSealed _ (Multiset.mem_add.mpr (.inl ?_))⟩
      exact Bindings.mem_held.mpr ⟨_, anchored⟩
    | @referred entry position member _ refers inductionHypothesis =>
      obtain ⟨reachedHolder, present⟩ := inductionHypothesis
      obtain ⟨holder, listed, here⟩ := Multiset.mem_map.mp present
      obtain ⟨origin, isFormer, samePlace, samePayload, -⟩ := former holder listed
      have isEntry := Multiset.inj_on_of_nodup_map distinct origin isFormer entry member
        (samePlace.trans here)
      rw [← isEntry, samePayload] at refers
      refine ⟨.referred listed (here.symm ▸ reachedHolder) refers, isSealed _ ?_⟩
      exact Multiset.mem_add.mpr (.inr (mem_held.mpr ⟨holder, listed, refers⟩))
  refine ⟨anchored, fun entry member isFrame => ?_, fun entry member isFrame => ?_,
    fun entry member isOther => ?_⟩
  · obtain ⟨origin, present, -, same, kind, -⟩ := former entry member
    rw [← same]
    exact tidy.plain origin present (kind.trans isFrame)
  · obtain ⟨origin, present, -, -, kind, positive⟩ := former entry member
    exact positive (tidy.counted origin present (kind.trans isFrame))
  · obtain ⟨origin, present, same, -, kind, -⟩ := former entry member
    exact same ▸ (stays (tidy.rooted origin present (kind.trans isOther))).1

end Entry

/-! ### Tidy stores -/

/-- A store counts exactly, and is tidy. -/
structure Store.Tidy (context : Nat) (entries : Multiset Entry) (bindings : Bindings)
    (store : Store) : Prop where
  accounts : store.Accounts 0 0 entries bindings
  entries : Entry.Tidy context entries bindings

namespace Store

variable {context : Nat} {entries : Multiset Entry} {bindings : Bindings} {store after : Store}

theorem Stands.unique {others : Multiset Entry} {bound : Bindings}
    (stands : store.Stands entries bindings) (stood : store.Stands others bound) :
    entries = others ∧ bindings = bound :=
  ⟨stands.chain.heap.entries_eq.symm.trans stood.chain.heap.entries_eq,
    stands.chain.stack.bindings_eq.symm.trans stood.chain.stack.bindings_eq⟩

/-- What a store holds and binds is accounted for if anything is. -/
theorem Stands.accounts {surplus : Nat → Nat} {owed : Multiset Nat} {others : Multiset Entry}
    {bound : Bindings} (stands : store.Stands entries bindings)
    (accounts : store.Accounts surplus owed others bound) :
    store.Accounts surplus owed entries bindings := by
  obtain ⟨rfl, rfl⟩ := accounts.stands.unique stands
  exact accounts

theorem Tidy.balanced (tidy : store.Tidy context entries bindings) :
    Entry.Balanced 0 bindings.held entries := by
  have balanced := tidy.accounts.balanced
  rwa [zero_add] at balanced

theorem Tidy.isSealed (tidy : store.Tidy context entries bindings) :
    Entry.Sealed bindings.held entries := by
  have isSealed := tidy.accounts.isSealed
  rwa [zero_add] at isSealed

theorem Tidy.distinct (tidy : store.Tidy context entries bindings) :
    (entries.map Entry.position).Nodup := tidy.accounts.stands.chain.heap.distinct

theorem Tidy.reached (tidy : store.Tidy context entries bindings) :
    ∀ entry ∈ entries, Entry.Reached entries bindings entry.position :=
  tidy.entries.reached tidy.balanced

/-- What a payload in use refers to is counted. -/
theorem Accounts.positive (accounts : store.Accounts 0 0 entries bindings) {holder : Entry}
    (member : holder ∈ entries) :
    ∀ other ∈ entries, other.position ∈ holder.payload.references → 0 < other.count := by
  intro other present refers
  rw [accounts.balanced other present, Pi.zero_apply, zero_add, Multiset.count_pos]
  exact Multiset.mem_add.mpr (.inr (Entry.mem_held.mpr ⟨holder, member, refers⟩))

/-! ### Frames -/

theorem Accounts.alloc (accounts : store.Accounts 0 0 entries bindings) {payload : Payload}
    {position : Nat} (allocating : Store.alloc payload store = .ok position after) :
    (∀ other ∈ payload.references, other ∈ entries.map Entry.position) ∧
      position ∉ entries.map Entry.position ∧
      after.Accounts 0 0 (⟨position, payload, 0⟩ ::ₘ entries.map (Entry.bump payload.references))
        bindings := by
  obtain ⟨present, place, reached, ran, fresh, settled⟩ | ⟨-, fault, reached, ran, -⟩ :=
    accounts.alloc_cases payload
  · rw [allocating] at ran
    cases ran
    have same : Function.update (0 : Nat → Nat) position 0 = 0 := Function.update_eq_self position 0
    rw [same] at settled
    exact ⟨present, fresh, settled⟩
  · rw [allocating] at ran
    cases ran

/-- A reference that is bound is counted. -/
theorem Accounts.pushRef {entry : Entry} {rest : Multiset Entry}
    (accounts : store.Accounts 0 0 (entry ::ₘ rest) bindings) {name : String}
    (pushing : Store.push name (.ref entry.position) store = .ok () after) :
    after.Accounts 0 0 ({ entry with count := entry.count + 1 } ::ₘ rest)
      (bindings ++ [(name, .ref entry.position)]) := by
  obtain ⟨reached, ran, stood, -⟩ := accounts.stands.pushRef name
  rw [pushing] at ran
  cases ran
  obtain ⟨counted, reached, ran, settled, -⟩ | ⟨fault, reached, ran, -⟩ :=
    accounts.push_cases name (.ref entry.position)
  · rw [pushing] at ran
    cases ran
    exact stood.accounts settled
  · rw [pushing] at ran
    cases ran

/-- A frame is put on the stack. -/
theorem Tidy.openFrame (tidy : store.Tidy context entries bindings) {items : List Value}
    (plain : (Payload.list items).references = []) {position : Nat} {name : String} {first : Store}
    (allocating : Store.alloc (.list items) store = .ok position first)
    (pushing : Store.push name (.ref position) first = .ok () after) :
    after.Tidy context (⟨position, .list items, 1⟩ ::ₘ entries)
      (bindings ++ [(name, .ref position)]) := by
  obtain ⟨-, fresh, allocated⟩ := tidy.accounts.alloc allocating
  rw [plain, Chain.map_bump_nil] at allocated
  have bound := allocated.pushRef pushing
  refine ⟨bound, tidy.entries.develop (Entry.develops_cons _ _)
    bound.stands.chain.heap.distinct (List.mem_append_left _ tidy.entries.anchored) ?_⟩
  intro entry member isNew
  obtain rfl | old := Multiset.mem_cons.mp member
  · exact .inl ⟨rfl, plain, Nat.one_pos⟩
  · exact absurd (Multiset.mem_map_of_mem _ old) isNew

/-- A value that refers to nothing is put on the stack. -/
theorem Tidy.pushPlain (tidy : store.Tidy context entries bindings) {name : String} {value : Value}
    (plain : value.reference? = none) (pushing : Store.push name value store = .ok () after) :
    after.Tidy context entries (bindings ++ [(name, value)]) := by
  obtain ⟨reached, ran, stood, -⟩ := tidy.accounts.stands.push name value plain
  rw [pushing] at ran
  cases ran
  obtain ⟨counted, reached, ran, settled, -⟩ | ⟨fault, reached, ran, -⟩ :=
    tidy.accounts.push_cases name value
  · rw [pushing] at ran
    cases ran
    refine ⟨stood.accounts settled, tidy.entries.develop (.refl _) tidy.distinct
      (List.mem_append_left _ tidy.entries.anchored) fun entry member isNew => ?_⟩
    exact absurd (Multiset.mem_map_of_mem _ member) isNew
  · rw [pushing] at ran
    cases ran

/-- Whatever a name but the one of the global object is bound to can be taken from the stack. -/
theorem Tidy.remove (tidy : store.Tidy context entries bindings) {name : String}
    (different : name ≠ Matcher.globalName) (removing : Store.remove name store = .ok () after) :
    ∃ left bound, after.Tidy context left bound := by
  obtain ⟨front, value, back, left, reached, rfl, -, ran, settled, thins, -⟩ |
    ⟨-, reached, ran, -⟩ := tidy.accounts.remove_cases name
  · rw [removing] at ran
    cases ran
    have anchored : (Matcher.globalName, .ref context) ∈ front ++ back := by
      have before := tidy.entries.anchored
      rw [List.mem_append, List.mem_cons] at before
      rw [List.mem_append]
      refine before.imp id fun rest => rest.resolve_left fun same => ?_
      exact different (congrArg Prod.fst same).symm
    have isSealed := settled.isSealed
    rw [zero_add] at isSealed
    exact ⟨left, front ++ back, settled, tidy.entries.thin thins tidy.distinct anchored isSealed⟩
  · rw [removing] at ran
    cases ran

/-! ### Changes -/

theorem Tidy.deref (tidy : store.Tidy context entries bindings) {position : Nat} {payload : Payload}
    (reading : Store.deref position store = .ok payload after) :
    after.Tidy context entries bindings := by
  obtain ⟨entry, -, -, reached, ran, still⟩ | ⟨-, fault, reached, ran, -⟩ :=
    tidy.accounts.read_cases position
  · rw [reading] at ran
    cases ran
    exact ⟨still, tidy.entries⟩
  · rw [reading] at ran
    cases ran

/-- The accounts after a change that only adds references. -/
theorem Accounts.update {α : Type} (accounts : store.Accounts 0 0 entries bindings) {position : Nat}
    {edit : Payload → α × Payload} {answer : α}
    (updating : Store.update position edit store = .ok answer after) :
    ∃ entry rest, entries = entry ::ₘ rest ∧ entry.position = position ∧
      answer = (edit entry.payload).1 ∧
      ∀ extra : List Nat, (∀ other, (edit entry.payload).2.references.count other =
          entry.payload.references.count other + extra.count other) →
        after.Accounts 0 0 (({ entry with payload := (edit entry.payload).2 } ::ₘ rest).map
          (Entry.bump extra)) bindings := by
  obtain ⟨⟨entry, member, rfl, present⟩, answered, left, reached, ran, settled, -⟩ |
    ⟨-, fault, reached, ran, -⟩ := accounts.update_cases position edit
  · rw [updating] at ran
    cases ran
    obtain ⟨rest, rfl⟩ := Multiset.exists_cons_of_mem member
    have answers : answer = (edit entry.payload).1 := by
      unfold Store.update at updating
      obtain ⟨read, reading, -, -⟩ := accounts.stands.deref member
      rw [Action.bind_of_ok reading] at updating
      simp only [Action.bind_eq_ok_iff, Action.pure_eq_ok_iff] at updating
      obtain ⟨-, -, -, same, -⟩ := updating
      exact same.symm
    refine ⟨entry, rest, rfl, rfl, answers, fun extra counts => ?_⟩
    obtain ⟨reached, ran, stood, -⟩ := accounts.stands.update edit extra counts present
      (accounts.positive member)
    rw [updating] at ran
    cases ran
    exact stood.accounts settled
  · rw [updating] at ran
    cases ran

/-- A payload that is changed goes on to refer to the same, and frames stay frames. -/
theorem Tidy.update {α : Type} (tidy : store.Tidy context entries bindings) {position : Nat}
    {edit : Payload → α × Payload}
    (discreet : ∀ payload, (payload.items?.isSome = true → payload.references = []) →
      (edit payload).2.references = payload.references ∧
        (edit payload).2.items?.isSome = payload.items?.isSome) {answer : α}
    (updating : Store.update position edit store = .ok answer after) :
    ∃ changed, after.Tidy context changed bindings := by
  obtain ⟨entry, rest, rfl, -, -, accounts⟩ := tidy.accounts.update updating
  obtain ⟨references, kind⟩ := discreet entry.payload
    (tidy.entries.plain entry (Multiset.mem_cons_self _ _))
  have settled := accounts [] fun other => by rw [references, List.count_nil, Nat.add_zero]
  rw [Chain.map_bump_nil] at settled
  refine ⟨_, settled, tidy.entries.develop
    (Entry.develops_change rfl kind (fun _ refers => references ▸ refers)
      (fun _ none => references.trans none) (le_refl _))
    settled.stands.chain.heap.distinct tidy.entries.anchored fun other member isNew => ?_⟩
  refine absurd ?_ isNew
  have listed := Multiset.mem_map_of_mem Entry.position member
  rwa [Multiset.map_cons] at listed ⊢

/-! ### Captures -/

/-- A capture is stored, listed in the one around it, and bound. -/
theorem Tidy.openCapture (tidy : store.Tidy context entries bindings) {record : Capture}
    {parent opened : Nat} (inside : (Payload.capture record).references = [parent]) {name : String}
    {first second : Store} (allocating : Store.alloc (.capture record) store = .ok opened first)
    (listing : Store.update parent (Matcher.editCapture fun around =>
      { around with children := around.children ++ [opened] }) first = .ok true second)
    (pushing : Store.push name (.ref opened) second = .ok () after) :
    ∃ grown bound, after.Tidy context grown bound := by
  obtain ⟨present, fresh, allocated⟩ := tidy.accounts.alloc allocating
  rw [inside] at present allocated
  obtain ⟨around, rest, split, here, answers, accounts⟩ := allocated.update listing
  obtain ⟨outer, isCapture⟩ : ∃ outer, around.payload = .capture outer := by
    generalize around.payload = payload at answers
    cases payload with
    | capture outer => exact ⟨outer, rfl⟩
    | object fields => cases answers
    | list items => cases answers
  -- The capture around was there before, for the new one does not refer to itself.
  have before : around ∈ entries.map (Entry.bump [parent]) := by
    have member : around ∈ _ ::ₘ entries.map (Entry.bump [parent]) :=
      split.symm ▸ Multiset.mem_cons_self around rest
    refine (Multiset.mem_cons.mp member).resolve_left fun same => fresh ?_
    rw [show opened = parent from (congrArg Entry.position same).symm.trans here]
    exact present parent List.mem_cons_self
  obtain ⟨others, apart⟩ := Multiset.exists_cons_of_mem before
  rw [apart, Multiset.cons_swap] at split
  cases (Multiset.cons_inj_right around).mp split
  generalize edit : (Matcher.editCapture _ around.payload).2 = payload at accounts
  rw [isCapture] at edit
  have references : payload.references = around.payload.references ++ [opened] := by
    rw [← edit, isCapture]
    exact (List.append_assoc _ _ _).symm
  have listed := accounts [opened] fun other => by rw [references, List.count_append]
  rw [Multiset.cons_swap, Multiset.map_cons] at listed
  have bound := listed.pushRef pushing
  have bumped := tidy.entries.bump tidy.distinct [parent]
  rw [apart] at bumped
  refine ⟨_, _, bound, bumped.nest ?_ ?_ references rfl bound.stands.chain.heap.distinct
    (List.mem_append_left _ tidy.entries.anchored)⟩
  · rw [Entry.isFrame, isCapture]
    rfl
  · rw [← edit]
    rfl

/-! ### Sweeping -/

/-- Nothing is freed by a sweep. -/
theorem Tidy.sweep (tidy : store.Tidy context entries bindings) {report : Option SweepReport}
    (sweeping : Store.sweep false store = .ok report after) :
    after.Tidy context entries bindings ∧ ∀ swept ∈ report, swept.freed = 0 := by
  have stands := tidy.accounts.stands
  have stood : after.Stands entries bindings := by
    obtain ⟨_, reached, ran, stood, -⟩ | ⟨reached, ran, -⟩ := stands.sweep tidy.reached
    · rw [sweeping] at ran
      cases ran
      exact stood
    · rw [sweeping] at ran
      cases ran
  refine ⟨⟨⟨stood, tidy.accounts.balanced, tidy.accounts.isSealed⟩, tidy.entries⟩, ?_⟩
  obtain ⟨-, ran⟩ | ⟨left, -, ⟨swept, reached, ran, stoodLeft, -, freed⟩ | ⟨reached, ran, -⟩⟩ :=
    stands.sweep_cases tidy.balanced
      (fun position member => stands.chain.inside (tidy.isSealed position member)) false
  · rw [sweeping] at ran
    cases ran
    exact fun swept impossible => nomatch impossible
  · rw [sweeping] at ran
    cases ran
    rintro _ ⟨⟩
    rw [freed, (stoodLeft.unique stood).1, Nat.sub_self]
  · rw [sweeping] at ran
    cases ran

theorem Tidy.poll (tidy : store.Tidy context entries bindings) {collector after' : Collector}
    {report : Option SweepReport}
    (polling : collector.poll store = .ok (report, after') after) :
    after.Tidy context entries bindings ∧ after'.freed = collector.freed := by
  obtain ⟨-, polled⟩ | ⟨-, ⟨_, _, sweeping, polled⟩ | ⟨_, _, -, polled⟩⟩ :=
    collector.poll_cases store
  · rw [polling] at polled
    cases polled
    exact ⟨tidy, rfl⟩
  · rw [polling] at polled
    cases polled
    have waiting : Tidy context entries bindings { store with sweepRequested := false } :=
      ⟨⟨⟨tidy.accounts.stands.chain, tidy.accounts.stands.idle⟩, tidy.accounts.balanced,
        tidy.accounts.isSealed⟩, tidy.entries⟩
    obtain ⟨still, none⟩ := waiting.sweep sweeping
    refine ⟨still, ?_⟩
    cases report with
    | none => rfl
    | some swept =>
      change collector.freed + swept.freed = collector.freed
      rw [none swept rfl, Nat.add_zero]
  · rw [polling] at polled
    cases polled

end Store

end Rewind
