/-
This file proves that the operations on a chain do to what is seen from its tail what they are said
to do to a snapshot, and nothing else: copies that the tail takes of cells and levels, and the pools
they come from, make no difference. The generations below the tail stay as they are.
-/

import Mathlib
import Rewind.Proofs.Store.Snapshot

namespace Rewind

/-! ### What every operation on a chain leaves as it is -/

/-- Levels that wait for reuse bind nothing. -/
def Pools.Wiped (pools : Pools) : Prop := ∀ level ∈ pools.levels.items, level.bindings = []

/-- Every level that can be seen from a generation is its own or could be seen from the one
below. -/
def Generation.Rooted (generation : Generation) (older : List Generation) : Prop :=
  ∀ index < generation.counters.levelCount, generation.levels[index]?.isSome ∨
    ∃ below ∈ older.head?, index < below.counters.levelCount

/-- What an operation on the tail leaves as it is. -/
structure Chain.Keeps (before after : Chain) : Prop where
  older : after.older = before.older
  id : after.tail.id = before.tail.id
  resume : after.tail.resume = before.tail.resume
  wiped : before.pools.Wiped → after.pools.Wiped
  rooted : before.tail.Rooted before.older → after.tail.Rooted after.older

theorem Chain.Keeps.refl (chain : Chain) : chain.Keeps chain :=
  ⟨rfl, rfl, rfl, fun wiped => wiped, fun rooted => rooted⟩

theorem Chain.Keeps.trans {first second third : Chain} (left : first.Keeps second)
    (right : second.Keeps third) : first.Keeps third where
  older := right.older.trans left.older
  id := right.id.trans left.id
  resume := right.resume.trans left.resume
  wiped := right.wiped ∘ left.wiped
  rooted := right.rooted ∘ left.rooted

/-- What an operation did to a chain is what another one did to its snapshot. -/
inductive Chain.Shows {α : Type} (before : Chain) :
    EStateM.Result StoreFault Chain α → EStateM.Result StoreFault Snapshot α → Prop
  | ok {value : α} {after : Chain} (keeps : before.Keeps after) :
    before.Shows (.ok value after) (.ok value after.snapshot)
  | error {fault : StoreFault} {after : Chain} (keeps : before.Keeps after) :
    before.Shows (.error fault after) (.error fault after.snapshot)

/-- An operation on chains does to what is seen what another one does to a snapshot. -/
def Chain.Follows {α : Type} (action : ChainM α) (flat : SnapshotM α) : Prop :=
  ∀ chain : Chain, chain.pools.Wiped → chain.Shows (action chain) (flat chain.snapshot)

namespace Chain

theorem Shows.ok_of {α : Type} {before after : Chain} {value : α} {shown : Snapshot}
    (keeps : before.Keeps after) (same : after.snapshot = shown) :
    before.Shows (.ok value after) (.ok value shown) := same ▸ .ok keeps

theorem Shows.error_of {α : Type} {before after : Chain} {fault : StoreFault} {shown : Snapshot}
    (keeps : before.Keeps after) (same : after.snapshot = shown) :
    before.Shows (α := α) (.error fault after) (.error fault shown) := same ▸ .error keeps

/-- Where the snapshot's operation succeeds, so does the chain's. -/
theorem Follows.ok {α : Type} {action : ChainM α} {flat : SnapshotM α} {chain : Chain}
    {value : α} {shown : Snapshot} (follows : Follows action flat) (wiped : chain.pools.Wiped)
    (succeeded : flat chain.snapshot = .ok value shown) :
    ∃ after, action chain = .ok value after ∧ after.snapshot = shown ∧ chain.Keeps after := by
  have shows := follows chain wiped
  rw [succeeded] at shows
  generalize action chain = result at shows
  cases shows with
  | ok keeps => exact ⟨_, rfl, rfl, keeps⟩

theorem follows_pure {α : Type} (value : α) : Follows (pure value) (pure value) :=
  fun chain _ => .ok (.refl chain)

theorem follows_throw {α : Type} (fault : StoreFault) :
    Follows (throw fault : ChainM α) (throw fault : SnapshotM α) :=
  fun chain _ => .error (.refl chain)

theorem follows_ofExcept {α : Type} (answer : Except StoreError α) :
    Follows (ChainM.ofExcept answer) (SnapshotM.ofExcept answer) := by
  cases answer with
  | ok value => exact follows_pure value
  | error error => exact follows_throw _

/-! ### Cells -/

theorem findCell?_putCell (generation : Generation) (older : List Generation)
    (position other : Nat) (cell : Cell) :
    Generation.findCell? other (generation.putCell position cell :: older) =
      if position = other then some (cell, 1)
      else Generation.findCell? other (generation :: older) := by
  simp only [Generation.findCell?, Generation.putCell, Overlay.getElem?_insert]
  by_cases same : position = other <;> simp only [same, if_true, if_false]

theorem keeps_putCell (chain : Chain) (position : Nat) (cell : Cell) :
    chain.Keeps (chain.putCell position cell) :=
  ⟨rfl, rfl, rfl, fun wiped => wiped, fun rooted => rooted⟩

theorem snapshot_putCell {chain : Chain} {position : Nat}
    (inside : position < chain.counters.heapSize) (cell : Cell) :
    (chain.putCell position cell).snapshot = chain.snapshot.putCell position cell := by
  refine Snapshot.ext (funext fun other => ?_) rfl rfl
  simp only [snapshot, Generation.over, Snapshot.putCell, Function.update_apply, Chain.putCell,
    findCell?_putCell]
  by_cases same : other = position
  · subst same
    simp [Generation.putCell, show other < chain.tail.counters.heapSize from inside]
  · simp [Generation.putCell, same, Ne.symm same]

theorem cell_eq_snapshot (chain : Chain) (position : Nat) :
    chain.cell position =
      match chain.snapshot.cell? position with
      | none => .error (.outsideHeap position)
      | some cell => .ok cell := by
  simp only [Chain.cell, snapshot, Generation.over, generations, counters]
  by_cases inside : position < chain.tail.counters.heapSize
  · simp only [inside, if_true]
    cases Generation.findCell? position (chain.tail :: chain.older) <;> rfl
  · simp only [inside, if_false]

theorem inside_of_snapshot {chain : Chain} {position : Nat} {cell : Cell}
    (seen : chain.snapshot.cell? position = some cell) :
    position < chain.counters.heapSize := by
  by_contra outside
  have none : chain.snapshot.cell? position = none := if_neg outside
  rw [seen] at none
  cases none

theorem copyCell_fst (pool : Pool Cell) (cell : Cell) : (pool.copyCell cell).1 = cell := by
  unfold Pool.copyCell Pool.cell
  split <;> rfl

/-- A copy of a cell of older generations that the tail has none of changes nothing that is seen. -/
theorem adopt_spec {chain : Chain} {position hops : Nat} {cell : Cell}
    (absent : chain.tail.cells[position]? = none)
    (found : Generation.findCell? position chain.older = some (cell, hops)) :
    (chain.adopt position cell).1 = cell ∧
      (chain.adopt position cell).2.snapshot = chain.snapshot ∧
      chain.Keeps (chain.adopt position cell).2 ∧
      (chain.adopt position cell).2.tail.cells[position]? = some cell := by
  have copied := copyCell_fst chain.pools.cells cell
  simp only [adopt, copied]
  refine ⟨trivial, ?_, ⟨rfl, rfl, rfl, fun wiped => wiped, fun rooted => rooted⟩, ?_⟩
  · refine Snapshot.ext (funext fun other => ?_) rfl rfl
    simp only [snapshot, Generation.over, findCell?_putCell]
    by_cases same : position = other
    · subst same
      simp [Generation.findCell?, absent, found, Generation.putCell]
    · simp [Generation.putCell, same]
  · simp [Generation.putCell]

/-- How a cell is found: it is not there, the tail has it, or an older generation has it. -/
theorem seen_cases (chain : Chain) (position : Nat) :
    chain.snapshot.cell? position = none ∧
        (position < chain.counters.heapSize → chain.tail.cells[position]? = none ∧
          Generation.findCell? position chain.older = none) ∨
      position < chain.counters.heapSize ∧ ∃ cell, chain.snapshot.cell? position = some cell ∧
        (chain.tail.cells[position]? = some cell ∨ chain.tail.cells[position]? = none ∧
          ∃ hops, Generation.findCell? position chain.older = some (cell, hops)) := by
  by_cases inside : position < chain.counters.heapSize
  · have shown : chain.snapshot.cell? position =
        (Generation.findCell? position (chain.tail :: chain.older)).map Prod.fst := if_pos inside
    rw [shown, Generation.findCell?]
    cases present : chain.tail.cells[position]? with
    | some cell => exact .inr ⟨inside, cell, rfl, .inl rfl⟩
    | none =>
      cases found : Generation.findCell? position chain.older with
      | none => exact .inl ⟨rfl, fun _ => ⟨rfl, rfl⟩⟩
      | some below => exact .inr ⟨inside, below.1, rfl, .inr ⟨rfl, below.2, rfl⟩⟩
  · exact .inl ⟨if_neg inside, fun absurd => (inside absurd).elim⟩

theorem own_of_unseen {chain : Chain} {position : Nat}
    (unseen : chain.snapshot.cell? position = none) :
    own position chain = .error (.refused (.outsideHeap position)) chain := by
  unfold own
  obtain ⟨-, missing⟩ | ⟨-, cell, seen, -⟩ := seen_cases chain position
  · by_cases inside : position < chain.counters.heapSize
    · rw [if_pos inside, (missing inside).1, (missing inside).2]
    · rw [if_neg inside]
  · rw [unseen] at seen
    cases seen

/-- Owning a cell changes nothing that is seen. -/
theorem own_of_seen {chain : Chain} {position : Nat} {cell : Cell}
    (seen : chain.snapshot.cell? position = some cell) :
    ∃ after, own position chain = .ok cell after ∧ after.snapshot = chain.snapshot ∧
      chain.Keeps after ∧ after.tail.cells[position]? = some cell := by
  unfold own
  obtain ⟨unseen, -⟩ | ⟨inside, found, foundSeen, place⟩ := seen_cases chain position
  · rw [unseen] at seen
    cases seen
  · cases foundSeen.symm.trans seen
    rw [if_pos inside]
    obtain present | ⟨absent, hops, below⟩ := place
    · exact ⟨chain, by rw [present], rfl, .refl chain, present⟩
    · obtain ⟨copied, same, keeps, present⟩ := adopt_spec absent below
      exact ⟨(chain.adopt position cell).2, by rw [absent, below]; simp only [copied], same, keeps,
        present⟩

/-- Reading a cell changes nothing that is seen, however far away it is. -/
theorem follows_read (distance position : Nat) :
    Follows (read distance position) (Snapshot.look position) := by
  intro chain _
  unfold read Snapshot.look
  obtain ⟨unseen, missing⟩ | ⟨inside, cell, seen, place⟩ := seen_cases chain position
  · rw [unseen]
    by_cases inside : position < chain.counters.heapSize
    · rw [if_pos inside, (missing inside).1, (missing inside).2]
      exact .error (.refl chain)
    · rw [if_neg inside]
      exact .error (.refl chain)
  · rw [seen, if_pos inside]
    obtain present | ⟨absent, hops, below⟩ := place
    · rw [present]
      exact .ok (.refl chain)
    · rw [absent, below]
      by_cases near : hops ≤ distance
      · simp only [if_pos near]
        exact .ok (.refl chain)
      · obtain ⟨copied, same, keeps, -⟩ := adopt_spec absent below
        simp only [if_neg near, copied]
        exact .ok_of keeps same

theorem follows_peek (position : Nat) : Follows (peek position) (Snapshot.look position) := by
  intro chain wiped
  change chain.Shows (ChainM.ofExcept (chain.cell position) chain) _
  rw [cell_eq_snapshot, Snapshot.look]
  cases chain.snapshot.cell? position with
  | none => exact .error (.refl chain)
  | some cell => exact .ok (.refl chain)

theorem follows_change (position : Nat) (edit : Cell → Except StoreError Cell) :
    Follows (change position edit) (Snapshot.change position edit) := by
  intro chain _
  unfold Snapshot.change change
  cases seen : chain.snapshot.cell? position with
  | none =>
    rw [Action.bind_of_error (own_of_unseen seen)]
    exact .error (.refl chain)
  | some cell =>
    obtain ⟨owned, owning, same, keeps, -⟩ := own_of_seen seen
    rw [Action.bind_of_ok owning]
    simp only
    cases edit cell with
    | error error => exact .error_of keeps same
    | ok changed =>
      have inside : position < owned.counters.heapSize := inside_of_snapshot (same ▸ seen)
      exact .ok_of (keeps.trans (keeps_putCell owned position changed))
        (by rw [snapshot_putCell inside, same])

/-- Overwriting a cell that has been owned just before is overwriting what is seen. -/
theorem follows_overwrite (position : Nat) (payload : Payload) :
    Follows (do
        let _ ← own position
        overwrite position payload)
      (Snapshot.overwrite position payload) := by
  intro chain _
  unfold Snapshot.overwrite
  cases seen : chain.snapshot.cell? position with
  | none =>
    rw [Action.bind_of_error (own_of_unseen seen)]
    exact .error (.refl chain)
  | some cell =>
    obtain ⟨owned, owning, same, keeps, present⟩ := own_of_seen seen
    have inside : position < owned.counters.heapSize := inside_of_snapshot (same ▸ seen)
    have continued : overwrite position payload owned =
        (do
          let old ← ChainM.ofExcept cell.payload
          let changed ← ChainM.ofExcept (cell.withPayload payload)
          set (owned.putCell position changed)
          return old : ChainM Payload) owned := by
      unfold overwrite
      rw [Action.bind_of_ok (rfl : (get : ChainM Chain) owned = .ok owned owned), if_pos inside,
        present]
    rw [Action.bind_of_ok owning, continued]
    obtain ⟨own, slot⟩ := cell
    cases slot with
    | free next => exact .error_of keeps same
    | used old count =>
      exact .ok_of (keeps.trans (keeps_putCell owned position ⟨own, .used payload count⟩))
        (by rw [snapshot_putCell inside, same])

theorem newCell_fst (pool : Pool Cell) (position : Nat) (payload : Payload) :
    (pool.newCell position payload).1 = ⟨position, .used payload 0⟩ := by
  unfold Pool.newCell Pool.cell
  split <;> rfl

theorem keeps_grow (chain : Chain) (payload : Payload) : chain.Keeps (chain.grow payload) :=
  ⟨rfl, rfl, rfl, fun wiped => wiped, fun rooted => rooted⟩

theorem snapshot_grow (chain : Chain) (payload : Payload) :
    (chain.grow payload).snapshot = chain.snapshot.grow payload := by
  refine Snapshot.ext (funext fun other => ?_) rfl rfl
  have cell := newCell_fst chain.pools.cells chain.counters.heapSize payload
  simp only [grow, cell, snapshot, Generation.over, Chain.mapCounters, Snapshot.grow,
    Snapshot.mapCounters, Snapshot.putCell, Function.update_apply]
  change (if other < chain.counters.heapSize + 1 then
      (Generation.findCell? other
        (chain.tail.putCell chain.counters.heapSize ⟨chain.counters.heapSize, .used payload 0⟩ ::
          chain.older)).map Prod.fst else none) =
    if other = chain.counters.heapSize then some ⟨chain.counters.heapSize, .used payload 0⟩
    else if other < chain.counters.heapSize then
      (Generation.findCell? other (chain.tail :: chain.older)).map Prod.fst else none
  rw [findCell?_putCell]
  by_cases same : other = chain.counters.heapSize
  · simp [same]
  · have iff : other < chain.counters.heapSize + 1 ↔ other < chain.counters.heapSize := by omega
    simp only [iff, same, Ne.symm same, if_false]

@[simp] theorem snapshot_counters (chain : Chain) : chain.snapshot.counters = chain.counters := rfl

/-- Changing counters other than the numbers of cells and levels can be seen in the counters
only. -/
theorem snapshot_mapCounters {chain : Chain} {change : Counters → Counters}
    (heapSize : (change chain.counters).heapSize = chain.counters.heapSize)
    (levelCount : (change chain.counters).levelCount = chain.counters.levelCount) :
    (chain.mapCounters change).snapshot = chain.snapshot.mapCounters change := by
  refine Snapshot.ext (funext fun position => ?_) (funext fun index => ?_) rfl
  · change (if position < (change chain.counters).heapSize then
      (Generation.findCell? position (chain.tail :: chain.older)).map Prod.fst else none) = _
    rw [heapSize]
    rfl
  · change (if index < (change chain.counters).levelCount then
      Generation.findLevel? index (chain.tail :: chain.older) else none) = _
    rw [levelCount]
    rfl

theorem keeps_mapCounters {chain : Chain} {change : Counters → Counters}
    (levelCount : (change chain.counters).levelCount = chain.counters.levelCount) :
    chain.Keeps (chain.mapCounters change) where
  older := rfl
  id := rfl
  resume := rfl
  wiped wiped := wiped
  rooted rooted index inside := rooted index (levelCount ▸ inside)

theorem follows_alloc (payload : Payload) : Follows (alloc payload) (Snapshot.alloc payload) := by
  intro chain _
  unfold alloc Snapshot.alloc
  rw [Action.bind_of_ok (rfl : (get : ChainM Chain) chain = .ok chain chain), snapshot_counters]
  cases chain.counters.freeHead with
  | none => exact .ok_of (keeps_grow chain payload) (snapshot_grow chain payload)
  | some position =>
    simp only
    cases seen : chain.snapshot.cell? position with
    | none =>
      rw [Action.bind_of_error (own_of_unseen seen)]
      exact .error (.refl chain)
    | some cell =>
      obtain ⟨owned, owning, same, keeps, -⟩ := own_of_seen seen
      have inside : position < owned.counters.heapSize := inside_of_snapshot (same ▸ seen)
      rw [Action.bind_of_ok owning]
      obtain ⟨own, slot⟩ := cell
      cases slot with
      | used _ _ => exact .error_of keeps same
      | free next =>
        refine .ok_of ((keeps.trans (keeps_putCell owned position ⟨own, .used payload 0⟩)).trans
          (keeps_mapCounters rfl)) ?_
        rw [snapshot_mapCounters rfl rfl, Cell.occupy, snapshot_putCell inside, same]

theorem follows_free (sweeping : Bool) (position : Nat) :
    Follows (free sweeping position) (Snapshot.free sweeping position) := by
  intro chain _
  unfold free Snapshot.free
  cases seen : chain.snapshot.cell? position with
  | none =>
    have looking : peek position chain = .error (.refused (.outsideHeap position)) chain := by
      change ChainM.ofExcept (chain.cell position) chain = _
      rw [cell_eq_snapshot, seen]
      rfl
    rw [Action.bind_of_error looking]
    exact .error (.refl chain)
  | some cell =>
    have looking : peek position chain = .ok cell chain := by
      change ChainM.ofExcept (chain.cell position) chain = _
      rw [cell_eq_snapshot, seen]
      rfl
    rw [Action.bind_of_ok looking]
    obtain ⟨own, slot⟩ := cell
    cases slot with
    | free next =>
      cases sweeping with
      | true => exact .ok (.refl chain)
      | false => exact .error (.refl chain)
    | used payload count =>
      rw [if_neg (show ¬ Cell.isFree ⟨own, .used payload count⟩ = true from Bool.false_ne_true)]
      dsimp only
      by_cases referenced : 0 < count ∧ sweeping = false
      · rw [if_pos (show 0 < Cell.count ⟨own, .used payload count⟩ ∧ _ from referenced),
          if_pos referenced]
        exact .error (.refl chain)
      · rw [if_neg (show ¬ (0 < Cell.count ⟨own, .used payload count⟩ ∧ _) from referenced),
          if_neg referenced]
        obtain ⟨owned, owning, same, keeps, -⟩ := own_of_seen seen
        have inside : position < owned.counters.heapSize := inside_of_snapshot (same ▸ seen)
        have counted : chain.counters = owned.counters := congrArg Snapshot.counters same.symm
        rw [Action.bind_of_ok owning, vacate, snapshot_counters, counted]
        cases owned.counters.usedCells with
        | zero => exact .error_of keeps same
        | succ used =>
          refine .ok_of ((keeps.trans (keeps_putCell owned position
            ⟨own, .free owned.counters.freeHead⟩)).trans (keeps_mapCounters rfl)) ?_
          rw [snapshot_mapCounters rfl rfl, snapshot_putCell inside, same]

/-! ### Levels -/

theorem wiped_giveBack {pool : Pool Level} (wiped : ∀ level ∈ pool.items, level.bindings = [])
    (given : Level) : ∀ level ∈ (pool.giveBack given).items, level.bindings = [] := by
  unfold Pool.giveBack
  split
  · rintro level (_ | ⟨_, member⟩)
    · rfl
    · exact wiped level member
  · exact wiped

/-- A level taken from a wiped pool binds nothing. -/
theorem newLevel_of_wiped {pool : Pool Level} (wiped : ∀ level ∈ pool.items, level.bindings = [])
    (index : Nat) :
    (pool.newLevel index).1 = ⟨index, []⟩ ∧
      ∀ level ∈ (pool.newLevel index).2.items, level.bindings = [] := by
  unfold Pool.newLevel Pool.take
  cases taken : pool.items with
  | nil => exact ⟨rfl, by simp [taken]⟩
  | cons item items =>
    have blank : item.bindings = [] := wiped item (by simp [taken])
    refine ⟨?_, fun level member => wiped level (by simp [taken, show level ∈ items from member])⟩
    simp only [blank]

theorem copyLevel_of_wiped {pool : Pool Level} (wiped : ∀ level ∈ pool.items, level.bindings = [])
    (copied : Level) :
    (pool.copyLevel copied).1 = copied ∧
      ∀ level ∈ (pool.copyLevel copied).2.items, level.bindings = [] := by
  obtain ⟨blank, rest⟩ := newLevel_of_wiped wiped copied.index
  unfold Pool.copyLevel
  exact ⟨by simp only [blank, List.nil_append], rest⟩

theorem findLevel?_putLevel (generation : Generation) (older : List Generation)
    (index other : Nat) (level : Level) :
    Generation.findLevel? other (generation.putLevel index level :: older) =
      if index = other then some level
      else Generation.findLevel? other (generation :: older) := by
  simp only [Generation.findLevel?, Generation.putLevel, Overlay.getElem?_insert]
  by_cases same : index = other <;> simp only [same, if_true, if_false]

theorem rooted_putLevel {generation : Generation} {older : List Generation}
    (rooted : generation.Rooted older) (index : Nat) (level : Level) :
    (generation.putLevel index level).Rooted older := by
  intro other inside
  simp only [Generation.putLevel, Overlay.getElem?_insert]
  by_cases same : index = other
  · exact .inl (by simp [same])
  · simpa [same] using rooted other inside

theorem keeps_putLevel (chain : Chain) (index : Nat) (level : Level) :
    chain.Keeps (chain.putLevel index level) :=
  ⟨rfl, rfl, rfl, fun wiped => wiped, fun rooted => rooted_putLevel rooted index level⟩

theorem snapshot_putLevel {chain : Chain} {index : Nat}
    (inside : index < chain.counters.levelCount) (level : Level) :
    (chain.putLevel index level).snapshot = chain.snapshot.putLevel index level := by
  refine Snapshot.ext rfl (funext fun other => ?_) rfl
  simp only [snapshot, Generation.over, Snapshot.putLevel, Function.update_apply, Chain.putLevel,
    findLevel?_putLevel]
  by_cases same : other = index
  · subst same
    simp [Generation.putLevel, show other < chain.tail.counters.levelCount from inside]
  · simp [Generation.putLevel, same, Ne.symm same]

theorem snapshot_level? (chain : Chain) (index : Nat) :
    chain.snapshot.level? index = chain.level? index := rfl

theorem level?_of_inside {chain : Chain} {index : Nat}
    (inside : index < chain.counters.levelCount) :
    chain.snapshot.level? index = Generation.findLevel? index (chain.tail :: chain.older) :=
  if_pos inside

theorem ownLevel_of_unseen {chain : Chain} {index : Nat}
    (inside : index < chain.counters.levelCount) (unseen : chain.snapshot.level? index = none) :
    ownLevel index chain = .error (.defect (.missingLevel index)) chain := by
  rw [level?_of_inside inside, Generation.findLevel?] at unseen
  unfold ownLevel
  cases present : chain.tail.levels[index]? with
  | some level =>
    rw [present] at unseen
    cases unseen
  | none =>
    rw [present] at unseen
    rw [show Generation.findLevel? index chain.older = none from unseen]

/-- Owning a level changes nothing that is seen. -/
theorem ownLevel_of_seen {chain : Chain} {index : Nat} {level : Level}
    (wiped : chain.pools.Wiped) (inside : index < chain.counters.levelCount)
    (seen : chain.snapshot.level? index = some level) :
    ∃ after, ownLevel index chain = .ok level after ∧ after.snapshot = chain.snapshot ∧
      chain.Keeps after := by
  rw [level?_of_inside inside, Generation.findLevel?] at seen
  unfold ownLevel
  cases present : chain.tail.levels[index]? with
  | some own =>
    rw [present] at seen
    cases seen
    exact ⟨chain, rfl, rfl, .refl chain⟩
  | none =>
    rw [present] at seen
    obtain ⟨copied, rest⟩ := copyLevel_of_wiped wiped level
    rw [show Generation.findLevel? index chain.older = some level from seen]
    simp only [copied]
    refine ⟨_, rfl, ?_, ⟨rfl, rfl, rfl, fun _ => rest, fun rooted =>
      rooted_putLevel rooted index level⟩⟩
    refine Snapshot.ext rfl (funext fun other => ?_) rfl
    simp only [snapshot, Generation.over, findLevel?_putLevel]
    by_cases same : index = other
    · subst same
      simp [Generation.findLevel?, present, show Generation.findLevel? index chain.older = _ from
        seen, Generation.putLevel]
    · simp [Generation.putLevel, same]

theorem keeps_openLevel {chain : Chain} : chain.Keeps chain.openLevel where
  older := rfl
  id := rfl
  resume := rfl
  wiped wiped := by
    have rest := (newLevel_of_wiped wiped chain.counters.levelCount).2
    simp only [openLevel, Chain.mapCounters, Pools.Wiped]
    split
    · exact wiped_giveBack rest _
    · exact rest
  rooted rooted other inside := by
    have split : other < chain.counters.levelCount ∨ other = chain.counters.levelCount :=
      Nat.lt_succ_iff_lt_or_eq.mp inside
    change ((chain.tail.putLevel chain.counters.levelCount _).levels[other]?).isSome = true ∨ _
    simp only [Generation.putLevel, Overlay.getElem?_insert]
    obtain smaller | same := split
    · have different : ¬ chain.counters.levelCount = other := by omega
      simp only [different, if_false]
      exact rooted other smaller
    · exact .inl (by simp [same])

theorem snapshot_openLevel {chain : Chain} (wiped : chain.pools.Wiped) :
    chain.openLevel.snapshot = chain.snapshot.openLevel := by
  refine Snapshot.ext rfl (funext fun other => ?_) rfl
  obtain ⟨blank, -⟩ := newLevel_of_wiped wiped chain.counters.levelCount
  change (if other < chain.counters.levelCount + 1 then
      Generation.findLevel? other
        (chain.tail.putLevel chain.counters.levelCount
          (chain.pools.levels.newLevel chain.counters.levelCount).1 :: chain.older) else none) =
    Function.update chain.snapshot.level? chain.counters.levelCount
      (some ⟨chain.counters.levelCount, []⟩) other
  rw [blank, findLevel?_putLevel, Function.update_apply]
  by_cases same : other = chain.counters.levelCount
  · simp [same]
  · have iff : other < chain.counters.levelCount + 1 ↔ other < chain.counters.levelCount := by omega
    simp only [iff, same, Ne.symm same, if_false]
    rfl

theorem needsLevel_eq_snapshot (chain : Chain) (name : String) :
    chain.needsLevel name = chain.snapshot.needsLevel name := rfl

/-- Once there is room for a name, there is a level on top. -/
theorem levelCount_makeRoom_pos (snapshot : Snapshot) (name : String) :
    0 < (snapshot.makeRoom name).counters.levelCount := by
  unfold Snapshot.makeRoom
  split
  · exact Nat.succ_pos _
  · rename_i enough
    unfold Snapshot.needsLevel at enough
    split at enough
    · simp at enough
    · rename_i counted
      rw [counted]
      exact Nat.succ_pos _

theorem follows_push (name : String) (value : Value) :
    Follows (push name value) (Snapshot.push name value) := by
  intro chain wiped
  unfold push Snapshot.push
  generalize roomEq : (if chain.needsLevel name then chain.openLevel else chain) = room
  have made : chain.Keeps room ∧ room.snapshot = chain.snapshot.makeRoom name := by
    rw [← roomEq, needsLevel_eq_snapshot, Snapshot.makeRoom]
    split
    · exact ⟨keeps_openLevel, snapshot_openLevel wiped⟩
    · exact ⟨.refl chain, rfl⟩
  obtain ⟨keeps, same⟩ := made
  have positive := levelCount_makeRoom_pos chain.snapshot name
  rw [← same, snapshot_counters] at positive
  have inside : room.counters.levelCount - 1 < room.counters.levelCount :=
    Nat.sub_lt positive Nat.one_pos
  rw [Action.bind_of_ok (show (modify fun chain => if chain.needsLevel name then chain.openLevel
      else chain : ChainM Unit) chain = .ok () room from congrArg (EStateM.Result.ok ()) roomEq),
    Action.bind_of_ok (rfl : (get : ChainM Chain) room = .ok room room)]
  simp only [← same, snapshot_counters]
  cases seen : room.snapshot.level? (room.counters.levelCount - 1) with
  | none =>
    rw [Action.bind_of_error (ownLevel_of_unseen inside seen)]
    exact .error keeps
  | some level =>
    obtain ⟨owned, owning, shown, kept⟩ := ownLevel_of_seen (keeps.wiped wiped) inside seen
    have counted : room.counters = owned.counters := congrArg Snapshot.counters shown.symm
    rw [Action.bind_of_ok owning]
    simp only
    cases level.insert name value with
    | error defect => exact .error_of (keeps.trans kept) shown
    | ok extended =>
      refine .ok_of (((keeps.trans kept).trans (keeps_putLevel owned _ extended)).trans
        (keeps_mapCounters rfl)) ?_
      rw [snapshot_mapCounters rfl rfl, snapshot_putLevel (counted ▸ inside), shown]

theorem levelOfBelow?_eq_snapshot (chain : Chain) (name : String) (count : Nat) :
    chain.levelOfBelow? name count = chain.snapshot.levelOfBelow? name count := by
  induction count with
  | zero => rfl
  | succ index inductionHypothesis =>
    rw [levelOfBelow?, inductionHypothesis, ← snapshot_level?]
    rfl

theorem levelOfBelow?_lt {snapshot : Snapshot} {name : String} {count index : Nat}
    (found : snapshot.levelOfBelow? name count = some index) : index < count := by
  induction count with
  | zero => cases found
  | succ below inductionHypothesis =>
    rw [Snapshot.levelOfBelow?] at found
    split at found
    · split at found
      · cases found
        exact Nat.lt_succ_self _
      · exact Nat.lt_succ_of_lt (inductionHypothesis found)
    · exact Nat.lt_succ_of_lt (inductionHypothesis found)

/-- What is found of a binding is a level among those that are seen. -/
theorem inside_of_binding {snapshot shown : Snapshot} {name : String} {index : Nat} {level : Level}
    {value : Value} (found : Snapshot.binding name snapshot = .ok (index, level, value) shown) :
    index < snapshot.counters.levelCount ∧ shown = snapshot := by
  unfold Snapshot.binding at found
  split at found
  · cases found
  · rename_i located
    split at found
    · cases found
    · split at found
      · cases found
      · cases found
        exact ⟨levelOfBelow?_lt located, rfl⟩

theorem follows_ownBinding (name : String) :
    Follows (ownBinding name) (Snapshot.binding name) := by
  intro chain wiped
  unfold ownBinding Snapshot.binding
  rw [Action.bind_of_ok (rfl : (get : ChainM Chain) chain = .ok chain chain), levelOf?,
    levelOfBelow?_eq_snapshot, snapshot_counters]
  cases located : chain.snapshot.levelOfBelow? name chain.counters.levelCount with
  | none => exact .error (.refl chain)
  | some index =>
    have inside : index < chain.counters.levelCount := levelOfBelow?_lt located
    simp only
    cases seen : chain.snapshot.level? index with
    | none =>
      rw [Action.bind_of_error (ownLevel_of_unseen inside seen)]
      exact .error (.refl chain)
    | some level =>
      obtain ⟨owned, owning, same, keeps⟩ := ownLevel_of_seen wiped inside seen
      rw [Action.bind_of_ok owning]
      simp only
      cases level.get? name with
      | none => exact .error_of keeps same
      | some value => exact .ok_of keeps same

/-- Dropping the top level hides it and nothing else. -/
theorem dropTop_spec {chain : Chain} {top : Nat} (counted : chain.counters.levelCount = top + 1)
    (levels : Pool Level)
    (wiped : chain.pools.Wiped → ∀ level ∈ levels.items, level.bindings = []) :
    let dropped := mapCounters (fun counters => { counters with levelCount := top })
      { chain with
        tail := { chain.tail with levels := chain.tail.levels.erase top }
        pools := { chain.pools with levels := levels } }
    chain.Keeps dropped ∧ dropped.snapshot = chain.snapshot.cut top := by
  refine ⟨⟨rfl, rfl, rfl, wiped, fun rooted other inside => ?_⟩, ?_⟩
  · have smaller : other < top := inside
    change ((chain.tail.levels.erase top)[other]?).isSome = true ∨ _
    rw [Overlay.getElem?_erase, if_neg (Nat.ne_of_gt smaller)]
    exact rooted other (show other < chain.counters.levelCount by omega)
  · refine Snapshot.ext rfl (funext fun other => ?_) rfl
    change (if other < top then Generation.findLevel? other
        ({ chain.tail with levels := chain.tail.levels.erase top } :: chain.older) else none) =
      if other < top then chain.snapshot.level? other else none
    by_cases smaller : other < top
    · rw [if_pos smaller, if_pos smaller,
        level?_of_inside (show other < chain.counters.levelCount by omega), Generation.findLevel?,
        Generation.findLevel?, Overlay.getElem?_erase, if_neg (Nat.ne_of_gt smaller)]
    · rw [if_neg smaller, if_neg smaller]

theorem wiped_dropTop {chain : Chain} (wiped : chain.pools.Wiped) (top : Nat) :
    ∀ level ∈ (match chain.tail.levels[top]? with
      | some level => chain.pools.levels.giveBack level
      | none => chain.pools.levels).items, level.bindings = [] := by
  cases chain.tail.levels[top]? with
  | none => exact wiped
  | some level => exact wiped_giveBack wiped level

theorem dropEmptyLevels_spec {chain : Chain} {count : Nat}
    (counted : chain.counters.levelCount = count)
    (wiped : chain.pools.Wiped) :
    chain.Keeps (dropEmptyLevels count chain) ∧
      (dropEmptyLevels count chain).snapshot = chain.snapshot.dropEmptyLevels count := by
  induction count generalizing chain with
  | zero => exact ⟨.refl chain, rfl⟩
  | succ top inductionHypothesis =>
    rw [dropEmptyLevels, Snapshot.dropEmptyLevels, snapshot_level?]
    split
    · obtain ⟨keeps, same⟩ := dropTop_spec counted _ fun wiped => wiped_dropTop wiped top
      obtain ⟨kept, shown⟩ := inductionHypothesis rfl (keeps.wiped wiped)
      exact ⟨keeps.trans kept, shown.trans (congrArg (Snapshot.dropEmptyLevels top) same)⟩
    · exact ⟨.refl chain, rfl⟩

theorem follows_remove (name : String) : Follows (remove name) (Snapshot.remove name) := by
  intro chain wiped
  have owning := follows_ownBinding name chain wiped
  unfold remove Snapshot.remove
  generalize ran : ownBinding name chain = result at owning
  generalize found : Snapshot.binding name chain.snapshot = shown at owning
  cases owning with
  | error keeps =>
    rw [Action.bind_of_error ran, Action.bind_of_error found]
    exact .error keeps
  | @ok binding owned keeps =>
    obtain ⟨index, level, value⟩ := binding
    obtain ⟨inside, -⟩ := inside_of_binding found
    have counted : chain.counters = owned.counters :=
      congrArg Snapshot.counters (inside_of_binding found).2.symm
    rw [snapshot_counters, counted] at inside
    rw [Action.bind_of_ok ran, Action.bind_of_ok found]
    generalize smallerEq : mapCounters (fun counters =>
      { counters with stackSize := counters.stackSize - 1 })
      (owned.putLevel index (level.erase name)) = smaller
    have kept : owned.Keeps smaller ∧ smaller.snapshot = Snapshot.mapCounters (fun counters =>
        { counters with stackSize := counters.stackSize - 1 })
        (owned.snapshot.putLevel index (level.erase name)) := by
      rw [← smallerEq, snapshot_mapCounters rfl rfl, snapshot_putLevel inside]
      exact ⟨(keeps_putLevel owned index _).trans (keeps_mapCounters rfl), rfl⟩
    obtain ⟨dropped, same⟩ := dropEmptyLevels_spec
      (rfl : smaller.counters.levelCount = smaller.counters.levelCount)
      (kept.1.wiped (keeps.wiped wiped))
    have removed : (do
          modify fun chain =>
            let chain := mapCounters (fun counters =>
              { counters with stackSize := counters.stackSize - 1 })
              (chain.putLevel index (level.erase name))
            dropEmptyLevels chain.counters.levelCount chain
          return value : ChainM Value) owned =
        .ok value (dropEmptyLevels smaller.counters.levelCount smaller) := by
      rw [← smallerEq]
      rfl
    simp only
    rw [removed]
    refine .ok_of ((keeps.trans kept.1).trans dropped) ?_
    rw [same, ← snapshot_counters, kept.2]
    rfl

theorem follows_replace (name : String) (value : Value) :
    Follows (replace name value) (Snapshot.replace name value) := by
  intro chain wiped
  have owning := follows_ownBinding name chain wiped
  unfold replace Snapshot.replace
  generalize ran : ownBinding name chain = result at owning
  generalize found : Snapshot.binding name chain.snapshot = shown at owning
  cases owning with
  | error keeps =>
    rw [Action.bind_of_error ran, Action.bind_of_error found]
    exact .error keeps
  | @ok binding owned keeps =>
    obtain ⟨index, level, old⟩ := binding
    have inside := (inside_of_binding found).1
    rw [← (inside_of_binding found).2, snapshot_counters] at inside
    rw [Action.bind_of_ok ran, Action.bind_of_ok found]
    exact .ok_of (keeps.trans (keeps_putLevel owned index (level.set name value)))
      (snapshot_putLevel inside _)

/-! ### Reading -/

theorem bindings_eq_snapshot (chain : Chain) : chain.bindings = chain.snapshot.bindings := rfl

theorem getBelow?_eq_snapshot (chain : Chain) (name : String) (count : Nat) :
    chain.getBelow? name count = chain.snapshot.getBelow? name count := by
  induction count with
  | zero => rfl
  | succ index inductionHypothesis =>
    rw [getBelow?, inductionHypothesis, ← snapshot_level?]
    rfl

theorem get?_eq_snapshot (chain : Chain) (name : String) :
    chain.get? name = chain.snapshot.getBelow? name chain.counters.levelCount :=
  getBelow?_eq_snapshot chain name _

end Chain

end Rewind
